import MasterOfFiles.Lib.LittleEndian

/-!
Packets as bytes: an op code, the size of the buffer, and in the buffer each payload after its
own size. What is built and sent on a socket is what the other side reads from it.
-/
namespace Paquetes
open LittleEndian

/-- A C int. -/
abbrev Entero := BitVec 32

def bytesDe (n : Entero) : List UInt8 := encode 4 n.toNat

def entero (bytes : List UInt8) : Entero := BitVec.ofNat 32 (decode bytes)

/-- A negative size is a huge one for malloc, which then fails. -/
def malloc (bytes : Int) : Option (List UInt8) :=
  if 0 ≤ bytes then some (List.replicate bytes.toNat 0) else none

def realloc (memoria : List UInt8) (bytes : Nat) : List UInt8 :=
  memoria.take bytes ++ List.replicate (bytes - memoria.length) 0

def memcpy (memoria : List UInt8) (desplazamiento : Nat) (origen : List UInt8) : List UInt8 :=
  memoria.take desplazamiento ++ origen ++ memoria.drop (desplazamiento + origen.length)

structure Buffer where
  size : Entero
  stream : List UInt8

structure Paquete where
  codigoOperacion : Entero
  buffer : Buffer

def crearBuffer : Buffer := ⟨0, []⟩

def agregarAPaquete (p : Paquete) (stream : List UInt8) : Paquete :=
  let size := BitVec.ofNat 32 stream.length
  let ampliado := realloc p.buffer.stream (p.buffer.size.toNat + stream.length + 4)
  let conSize := memcpy ampliado p.buffer.size.toNat (bytesDe size)
  { p with buffer :=
    { size := p.buffer.size + (size + 4)
      stream := memcpy conSize (p.buffer.size.toNat + 4) stream } }

def serializarPaquete (p : Paquete) (bytes : Entero) : Option (List UInt8) := do
  let magic ← malloc bytes.toInt
  let magic := memcpy magic 0 (bytesDe p.codigoOperacion)
  let magic := memcpy magic 4 (bytesDe p.buffer.size)
  return memcpy magic 8 p.buffer.stream

/-- enviar_paquete up to the send: bytes is an int there. -/
def enviarPaquete (p : Paquete) : Option (List UInt8) := serializarPaquete p (p.buffer.size + 8)

def armar (codigo : Entero) (valores : List (List UInt8)) : Paquete :=
  valores.foldl agregarAPaquete ⟨codigo, crearBuffer⟩

/-- recv with MSG_WAITALL: all the bytes that are asked for, or none. -/
def recv (n : Nat) (socket : List UInt8) : Option (List UInt8 × List UInt8) :=
  if n ≤ socket.length then some (socket.take n, socket.drop n) else none

/-- The size, which is negative after an error, the buffer, and what stays in the socket. -/
def recibirBuffer (socket : List UInt8) : Int × List UInt8 × List UInt8 :=
  match recv 4 socket with
  | none => (-1, [], socket)
  | some (bytes, socket) =>
    let size := (entero bytes).toInt
    if 0 < size then
      match recv size.toNat socket with
      | none => (-1, [], socket)
      | some (buffer, socket) => (size, buffer, socket)
    else (size, [], socket)

/-- The while loop of recibir_paquete. It does not look at what it reads: none is a read or a
    copy that leaves the buffer, as one of a negative size does. -/
def leerValores (buffer : List UInt8) (desplazamiento : Nat) (valores : List (List UInt8)) :
    Option (List (List UInt8)) :=
  if desplazamiento < buffer.length then
    if desplazamiento + 4 ≤ buffer.length then
      let tamanio := (entero ((buffer.drop desplazamiento).take 4)).toInt
      if 0 ≤ tamanio ∧ desplazamiento + 4 + tamanio.toNat ≤ buffer.length then
        leerValores buffer (desplazamiento + 4 + tamanio.toNat)
          (valores ++ [(buffer.drop (desplazamiento + 4)).take tamanio.toNat])
      else none
    else none
  else some valores
termination_by buffer.length - desplazamiento

inductive Recibido where
  | nulo
  | valores (codOp : Entero) (lista : List (List UInt8))
  | fueraDelBuffer
  deriving DecidableEq

def recibirPaquete (socket : List UInt8) : Recibido × List UInt8 :=
  match recv 4 socket with
  | none => (.nulo, socket)
  | some (bytes, socket) =>
    let (size, buffer, socket) := recibirBuffer socket
    if size < 0 then (.nulo, socket)
    else
      match leerValores buffer 0 [] with
      | none => (.fueraDelBuffer, socket)
      | some lista => (.valores (entero bytes) lista, socket)

def recibirPaquetes : Nat → List UInt8 → List Recibido × List UInt8
  | 0, socket => ([], socket)
  | n + 1, socket =>
    let (primero, socket) := recibirPaquete socket
    let (otros, socket) := recibirPaquetes n socket
    (primero :: otros, socket)

theorem length_bytesDe (n : Entero) : (bytesDe n).length = 4 := length_encode 4 _

theorem entero_bytesDe (n : Entero) : entero (bytesDe n) = n := by
  have bound : n.toNat < 256 ^ 4 := n.isLt
  simp [entero, bytesDe, decode_encode_of_lt bound]

theorem memcpy_append (antes resto origen : List UInt8) :
    memcpy (antes ++ resto) antes.length origen = antes ++ origen ++ resto.drop origen.length := by
  simp [memcpy, List.drop_append]

def cuerpo (valores : List (List UInt8)) : List UInt8 :=
  valores.flatMap fun valor => bytesDe (BitVec.ofNat 32 valor.length) ++ valor

def total (valores : List (List UInt8)) : Nat :=
  (valores.map fun valor => valor.length + 4).sum

theorem length_cuerpo (valores : List (List UInt8)) : (cuerpo valores).length = total valores := by
  induction valores with
  | nil => rfl
  | cons valor valores ih =>
    simp only [cuerpo, total, List.flatMap_cons, List.length_append, length_bytesDe,
      List.map_cons, List.sum_cons] at ih ⊢
    omega

theorem agregarAPaquete_spec (p : Paquete) (valor : List UInt8)
    (size : p.buffer.size.toNat = p.buffer.stream.length)
    (fits : p.buffer.stream.length + (valor.length + 4) < 2 ^ 31) :
    (agregarAPaquete p valor).buffer.stream = p.buffer.stream ++ cuerpo [valor] ∧
    (agregarAPaquete p valor).buffer.size.toNat =
      (agregarAPaquete p valor).buffer.stream.length := by
  have stream : (agregarAPaquete p valor).buffer.stream =
      p.buffer.stream ++ cuerpo [valor] := by
    have grown : realloc p.buffer.stream (p.buffer.size.toNat + valor.length + 4) =
        p.buffer.stream ++ List.replicate (valor.length + 4) 0 := by
      rw [realloc, size, List.take_of_length_le (by omega)]
      congr 2
      omega
    simp only [agregarAPaquete, grown]
    rw [size, memcpy_append, length_bytesDe]
    have start : p.buffer.stream.length + 4 =
        (p.buffer.stream ++ bytesDe (BitVec.ofNat 32 valor.length)).length := by
      rw [List.length_append, length_bytesDe]
    rw [start, memcpy_append, List.drop_replicate, List.drop_replicate]
    have used_up : valor.length + 4 - 4 - valor.length = 0 := by omega
    rw [used_up]
    simp [cuerpo]
  refine ⟨stream, ?_⟩
  rw [stream, List.length_append, length_cuerpo]
  have four : (4 : Entero).toNat = 4 := rfl
  simp only [agregarAPaquete, BitVec.toNat_add, BitVec.toNat_ofNat, four, size, total,
    List.map_cons, List.map_nil, List.sum_cons, List.sum_nil]
  omega

theorem agregar_todos (p : Paquete) (valores : List (List UInt8))
    (size : p.buffer.size.toNat = p.buffer.stream.length)
    (fits : p.buffer.stream.length + total valores < 2 ^ 31) :
    (valores.foldl agregarAPaquete p).codigoOperacion = p.codigoOperacion ∧
    (valores.foldl agregarAPaquete p).buffer.stream = p.buffer.stream ++ cuerpo valores ∧
    (valores.foldl agregarAPaquete p).buffer.size.toNat =
      p.buffer.stream.length + total valores := by
  induction valores generalizing p with
  | nil => exact ⟨rfl, (List.append_nil _).symm, size⟩
  | cons valor valores ih =>
    have all : total (valor :: valores) = valor.length + 4 + total valores := rfl
    rw [all] at fits ⊢
    obtain ⟨stream, size'⟩ := agregarAPaquete_spec p valor size (by omega)
    have grown : (agregarAPaquete p valor).buffer.stream.length =
        p.buffer.stream.length + (valor.length + 4) := by
      rw [stream, List.length_append, length_cuerpo]
      rfl
    obtain ⟨code, rest, count⟩ := ih (agregarAPaquete p valor) size' (by omega)
    refine ⟨code, ?_, by rw [List.foldl_cons, count, grown]; omega⟩
    rw [List.foldl_cons, rest, stream]
    simp [cuerpo]

def enLinea (codigo : Entero) (valores : List (List UInt8)) : List UInt8 :=
  bytesDe codigo ++ bytesDe (BitVec.ofNat 32 (total valores)) ++ cuerpo valores

theorem enviarPaquete_armar (codigo : Entero) (valores : List (List UInt8))
    (fits : total valores + 8 < 2 ^ 31) :
    enviarPaquete (armar codigo valores) = some (enLinea codigo valores) := by
  obtain ⟨code, stream, size⟩ := agregar_todos ⟨codigo, crearBuffer⟩ valores rfl (by
    simp only [crearBuffer, List.length_nil]
    omega)
  simp only [crearBuffer, List.length_nil, Nat.zero_add, List.nil_append] at code stream size
  have size' : (armar codigo valores).buffer.size = BitVec.ofNat 32 (total valores) := by
    apply BitVec.eq_of_toNat_eq
    rw [BitVec.toNat_ofNat, Nat.mod_eq_of_lt (by omega)]
    exact size
  have bytes : ((armar codigo valores).buffer.size + 8).toInt = (total valores + 8 : Nat) := by
    have eight : (8 : Entero).toNat = 8 := rfl
    have exact_ : ((armar codigo valores).buffer.size + 8).toNat = total valores + 8 := by
      simp only [size', BitVec.toNat_add, BitVec.toNat_ofNat, eight]
      omega
    rw [BitVec.toInt_eq_toNat_of_lt (by omega), exact_]
  have room : malloc ((armar codigo valores).buffer.size + 8).toInt =
      some (List.replicate (total valores + 8) 0) := by
    rw [bytes, malloc, if_pos (Int.natCast_nonneg _), Int.toNat_natCast]
  have first : ∀ memoria origen, memcpy memoria 0 origen = origen ++ memoria.drop origen.length := by
    intro memoria origen
    exact memcpy_append [] memoria origen
  have second : memcpy (bytesDe codigo ++ List.replicate (total valores + 8 - 4) 0) 4
      (bytesDe (BitVec.ofNat 32 (total valores))) = bytesDe codigo ++
        bytesDe (BitVec.ofNat 32 (total valores)) ++ List.replicate (total valores) 0 := by
    have := memcpy_append (bytesDe codigo) (List.replicate (total valores + 8 - 4) 0)
      (bytesDe (BitVec.ofNat 32 (total valores)))
    rw [length_bytesDe] at this
    rw [this, length_bytesDe, List.drop_replicate]
    congr 2
  have third : memcpy (bytesDe codigo ++ bytesDe (BitVec.ofNat 32 (total valores)) ++
      List.replicate (total valores) 0) 8 (cuerpo valores) = enLinea codigo valores := by
    have := memcpy_append (bytesDe codigo ++ bytesDe (BitVec.ofNat 32 (total valores)))
      (List.replicate (total valores) 0) (cuerpo valores)
    rw [List.length_append, length_bytesDe, length_bytesDe] at this
    rw [this, length_cuerpo, List.drop_replicate, Nat.sub_self, List.replicate_zero,
      List.append_nil, enLinea]
  have codigo' : (armar codigo valores).codigoOperacion = codigo := code
  have stream' : (armar codigo valores).buffer.stream = cuerpo valores := stream
  simp only [enviarPaquete, serializarPaquete, room, Option.bind_eq_bind, Option.bind_some,
    codigo', stream', first, length_bytesDe, List.drop_replicate]
  rw [size', second, third]
  rfl

theorem toInt_largo {n : Nat} (fits : n < 2 ^ 31) : (BitVec.ofNat 32 n).toInt = n := by
  have same : (BitVec.ofNat 32 n).toNat = n := by
    rw [BitVec.toNat_ofNat]
    omega
  rw [BitVec.toInt_eq_toNat_of_lt (by omega), same]

theorem leerValores_final (buffer : List UInt8) (leidos : List (List UInt8)) :
    leerValores buffer buffer.length leidos = some leidos := by
  rw [leerValores, if_neg (Nat.lt_irrefl _)]

theorem leerValores_valor (antes resto valor : List UInt8) (leidos : List (List UInt8))
    (fits : valor.length < 2 ^ 31) :
    leerValores (antes ++ cuerpo [valor] ++ resto) antes.length leidos =
      leerValores (antes ++ cuerpo [valor] ++ resto) (antes ++ cuerpo [valor]).length
        (leidos ++ [valor]) := by
  have shape : antes ++ cuerpo [valor] ++ resto =
      antes ++ (bytesDe (BitVec.ofNat 32 valor.length) ++ (valor ++ resto)) := by
    simp [cuerpo]
  have long : (antes ++ cuerpo [valor]).length = antes.length + 4 + valor.length := by
    rw [List.length_append, length_cuerpo]
    simp only [total, List.map_cons, List.map_nil, List.sum_cons, List.sum_nil]
    omega
  have all : (antes ++ cuerpo [valor] ++ resto).length =
      antes.length + 4 + valor.length + resto.length := by
    rw [List.length_append, long]
  have size : entero (((antes ++ cuerpo [valor] ++ resto).drop antes.length).take 4) =
      BitVec.ofNat 32 valor.length := by
    rw [shape, List.drop_left, List.take_left' (length_bytesDe _), entero_bytesDe]
  have content : ((antes ++ cuerpo [valor] ++ resto).drop (antes.length + 4)).take valor.length =
      valor := by
    rw [shape, ← List.append_assoc, List.drop_left' (by simp [length_bytesDe]), List.take_left]
  rw [leerValores, if_pos (by omega), if_pos (by omega), size, toInt_largo fits]
  dsimp only
  rw [Int.toNat_natCast, if_pos ⟨Int.natCast_nonneg _, by omega⟩, content, long]

theorem leerValores_cuerpo (antes : List UInt8) (valores leidos : List (List UInt8))
    (fits : total valores < 2 ^ 31) :
    leerValores (antes ++ cuerpo valores) antes.length leidos = some (leidos ++ valores) := by
  induction valores generalizing antes leidos with
  | nil => simp [cuerpo, leerValores_final]
  | cons valor valores ih =>
    have all : total (valor :: valores) = valor.length + 4 + total valores := rfl
    have parts : antes ++ cuerpo (valor :: valores) = antes ++ cuerpo [valor] ++ cuerpo valores := by
      simp [cuerpo]
    rw [parts, leerValores_valor antes _ valor leidos (by omega), ih _ _ (by omega)]
    simp

theorem recv_append (bytes resto : List UInt8) :
    recv bytes.length (bytes ++ resto) = some (bytes, resto) := by
  simp [recv]

theorem recibirBuffer_enLinea (valores : List (List UInt8)) (resto : List UInt8)
    (fits : total valores < 2 ^ 31) :
    recibirBuffer (bytesDe (BitVec.ofNat 32 (total valores)) ++ (cuerpo valores ++ resto)) =
      ((total valores : Int), cuerpo valores, resto) := by
  have header := recv_append (bytesDe (BitVec.ofNat 32 (total valores))) (cuerpo valores ++ resto)
  rw [length_bytesDe] at header
  have body := recv_append (cuerpo valores) resto
  rw [length_cuerpo] at body
  simp only [recibirBuffer, header, entero_bytesDe, toInt_largo fits, Int.toNat_natCast, body]
  by_cases some_ : 0 < total valores
  · rw [if_pos (by omega)]
  · have empty : cuerpo valores = [] := by
      apply List.eq_nil_of_length_eq_zero
      rw [length_cuerpo]
      omega
    rw [if_neg (by omega), empty, List.nil_append]

theorem recibirPaquete_enLinea (codigo : Entero) (valores : List (List UInt8))
    (resto : List UInt8) (fits : total valores < 2 ^ 31) :
    recibirPaquete (enLinea codigo valores ++ resto) = (.valores codigo valores, resto) := by
  have header := recv_append (bytesDe codigo)
    (bytesDe (BitVec.ofNat 32 (total valores)) ++ (cuerpo valores ++ resto))
  rw [length_bytesDe] at header
  have lista := leerValores_cuerpo [] valores [] fits
  simp only [List.nil_append, List.length_nil] at lista
  have buffer := recibirBuffer_enLinea valores resto fits
  have valid : ¬ ((total valores : Int) < 0) := by omega
  rw [enLinea, List.append_assoc, List.append_assoc, recibirPaquete]
  simp only [header, buffer, if_neg valid, lista, entero_bytesDe]

theorem recibirPaquetes_enLinea (paquetes : List (Entero × List (List UInt8)))
    (resto : List UInt8) (fit : ∀ p ∈ paquetes, total p.2 < 2 ^ 31) :
    recibirPaquetes paquetes.length ((paquetes.flatMap fun p => enLinea p.1 p.2) ++ resto) =
      (paquetes.map fun p => .valores p.1 p.2, resto) := by
  induction paquetes with
  | nil => rfl
  | cons p paquetes ih =>
    have first := recibirPaquete_enLinea p.1 p.2
      ((paquetes.flatMap fun p => enLinea p.1 p.2) ++ resto) (fit p (by simp))
    have others := ih fun q hq => fit q (List.mem_cons_of_mem p hq)
    simp only [List.flatMap_cons, List.append_assoc, List.length_cons, recibirPaquetes, first,
      others, List.map_cons]

def enviados (paquetes : List (Entero × List (List UInt8))) : Option (List UInt8) :=
  (paquetes.mapM fun p => enviarPaquete (armar p.1 p.2)).map List.flatten

theorem enviados_enLinea (paquetes : List (Entero × List (List UInt8)))
    (fit : ∀ p ∈ paquetes, total p.2 + 8 < 2 ^ 31) :
    enviados paquetes = some (paquetes.flatMap fun p => enLinea p.1 p.2) := by
  induction paquetes with
  | nil => rfl
  | cons p paquetes ih =>
    have others := ih fun q hq => fit q (List.mem_cons_of_mem p hq)
    obtain ⟨bytes, all, flat⟩ := Option.map_eq_some_iff.mp others
    simp only [enviados, List.mapM_cons, enviarPaquete_armar p.1 p.2 (fit p (by simp)), all,
      Option.bind_eq_bind, Option.bind_some, Option.pure_def, Option.map_some, List.flatten_cons,
      List.flatMap_cons, flat]

/-- Any packets, sent one after the other and read with as many calls, come back the same, and
    no byte is left. -/
theorem ida_y_vuelta (paquetes : List (Entero × List (List UInt8)))
    (fit : ∀ p ∈ paquetes, total p.2 + 8 < 2 ^ 31) :
    ∃ bytes, enviados paquetes = some bytes ∧
      recibirPaquetes paquetes.length bytes =
        (paquetes.map fun p => .valores p.1 p.2, []) := by
  refine ⟨_, enviados_enLinea paquetes fit, ?_⟩
  have read := recibirPaquetes_enLinea paquetes [] fun p hp => by
    have room := fit p hp
    omega
  rwa [List.append_nil] at read

theorem ida_y_vuelta_dos :
    ∃ bytes, enviados [(7, []), (9, [[], [1, 2]])] = some bytes ∧
      recibirPaquetes 2 bytes = ([.valores 7 [], .valores 9 [[], [1, 2]]], []) :=
  ida_y_vuelta [(7, []), (9, [[], [1, 2]])] (by decide)

/-- With a buffer of 2^31 - 8 bytes the int that enviar_paquete adds the header to is negative,
    and there is no memory to serialise into. -/
theorem ida_y_vuelta_sin_lugar :
    ¬ ∀ paquetes : List (Entero × List (List UInt8)), (∀ p ∈ paquetes, total p.2 < 2 ^ 31) →
      ∃ bytes, enviados paquetes = some bytes ∧
        recibirPaquetes paquetes.length bytes =
          (paquetes.map fun p => .valores p.1 p.2, []) := by
  intro all
  obtain ⟨valor, largo⟩ : ∃ valor : List UInt8, valor.length = 2 ^ 31 - 12 :=
    ⟨List.replicate (2 ^ 31 - 12) 0, List.length_replicate⟩
  have bytes_ : total [valor] = 2 ^ 31 - 8 := by
    simp only [total, List.map_cons, List.map_nil, largo, List.sum_cons, List.sum_nil]
    omega
  obtain ⟨bytes, sent, _⟩ := all [(0, [valor])] (by
    intro p hp
    rw [List.mem_singleton.mp hp, bytes_]
    omega)
  have count := (agregar_todos ⟨0, crearBuffer⟩ [valor] rfl (by
    simp only [crearBuffer, List.length_nil]
    omega)).2.2
  rw [bytes_] at count
  have size : (armar 0 [valor]).buffer.size = BitVec.ofNat 32 (2 ^ 31 - 8) := by
    apply BitVec.eq_of_toNat_eq
    rw [armar, count]
    rfl
  have no_memory : malloc ((armar 0 [valor]).buffer.size + 8).toInt = none := by
    rw [size]
    decide
  have unsent : enviarPaquete (armar 0 [valor]) = none := by
    rw [enviarPaquete, serializarPaquete, no_memory]
    rfl
  simp only [enviados, List.mapM_cons, unsent] at sent
  contradiction

end Paquetes
