import MasterOfFiles.Protocolo.Paquetes

/-!
recibir_paquete on any bytes, up to the end of a connection: recv may bring fewer bytes than
it was asked for, and the rest of the variable keeps what was in it.
-/
namespace Recepcion
open LittleEndian Paquetes

/-- recv with MSG_WAITALL into a variable: how many bytes came, the variable, and what stays in
    the socket. -/
def recvEn (variable_ socket : List UInt8) : Nat × List UInt8 × List UInt8 :=
  let n := variable_.length
  (min n socket.length, socket.take n ++ variable_.drop socket.length, socket.drop n)

/-- size is not initialised by who calls this. -/
def recibirBuffer (size₀ : Entero) (socket : List UInt8) : Int × List UInt8 × List UInt8 :=
  let (recibidos, bytes, socket) := recvEn (bytesDe size₀) socket
  if recibidos = 0 then (-1, [], socket)
  else
    let size := (entero bytes).toInt
    if 0 < size then
      let (recibidos, buffer, socket) := recvEn (List.replicate size.toNat 0) socket
      if (recibidos : Int) ≠ size then (-1, [], socket) else (size, buffer, socket)
    else (size, [], socket)

def recibirPaquete (codOp₀ size₀ : Entero) (socket : List UInt8) : Recibido × List UInt8 :=
  let (detec, bytes, socket) := recvEn (bytesDe codOp₀) socket
  if detec = 0 then (.nulo, socket)
  else
    let (size, buffer, socket) := recibirBuffer size₀ socket
    if size < 0 then (.nulo, socket)
    else
      match leerValores buffer 0 [] with
      | none => (.fueraDelBuffer, socket)
      | some lista => (.valores (entero bytes) lista, socket)

def Llega (socket carga : List UInt8) : Prop :=
  ∃ (codigo size : Entero) (resto : List UInt8), size.toInt = carga.length ∧
    socket = bytesDe codigo ++ (bytesDe size ++ (carga ++ resto))

/-- What is wrong with the lengths inside a packet, from the first payload on. -/
inductive Malformada : List UInt8 → Prop
  | corta (carga : List UInt8) (some_ : 0 < carga.length) (short : carga.length < 4) :
      Malformada carga
  | negativa (carga : List UInt8) (room : 4 ≤ carga.length)
      (below : (entero (carga.take 4)).toInt < 0) : Malformada carga
  | excede (carga : List UInt8) (room : 4 ≤ carga.length)
      (beyond : (carga.length : Int) - 4 < (entero (carga.take 4)).toInt) : Malformada carga
  | despues (carga : List UInt8) (tamanio : Nat) (room : 4 ≤ carga.length)
      (size : (entero (carga.take 4)).toInt = tamanio) (fits : 4 + tamanio ≤ carga.length)
      (later : Malformada (carga.drop (4 + tamanio))) : Malformada carga

/-- Whatever was in its variables, the loop of recibir_paquete stays inside the buffer, and what it
    returns for a malformed packet is no packet. -/
def Soporta (socket : List UInt8) : Prop :=
  ∀ codOp₀ size₀, (recibirPaquete codOp₀ size₀ socket).1 ≠ .fueraDelBuffer ∧
    ∀ carga, Llega socket carga → Malformada carga →
      (recibirPaquete codOp₀ size₀ socket).1 = .nulo

variable {socket carga buffer : List UInt8} {leidos lista : List (List UInt8)} {d : Nat}

theorem bytesDe_entero {bytes : List UInt8} (four : bytes.length = 4) :
    bytesDe (entero bytes) = bytes := by
  have bound := decode_lt bytes
  rw [four] at bound
  rw [bytesDe, entero, BitVec.toNat_ofNat, Nat.mod_eq_of_lt (by omega), ← four, encode_decode]

theorem leerValores_none : leerValores buffer d leidos = none ↔ Malformada (buffer.drop d) := by
  fun_induction leerValores buffer d leidos with
  | case1 d leidos inside room tamanio fits ih =>
    have size : tamanio = tamanio.toNat := (Int.toNat_of_nonneg fits.1).symm
    rw [ih, Nat.add_assoc, ← List.drop_drop]
    constructor
    · intro later
      refine .despues _ tamanio.toNat ?_ size ?_ later
      · rw [List.length_drop]
        omega
      · rw [List.length_drop]
        omega
    · intro wrong
      cases wrong with
      | corta _ some_ short =>
        rw [List.length_drop] at short
        omega
      | negativa _ _ below => exact absurd fits.1 (Int.not_le.mpr below)
      | excede _ _ beyond =>
        rw [List.length_drop] at beyond
        have last : tamanio ≤ buffer.length - d - 4 := by omega
        omega
      | despues _ tamanio' _ same _ later =>
        have same' : (tamanio' : Int) = tamanio := same.symm
        have equal : tamanio' = tamanio.toNat := by omega
        rwa [equal] at later
  | case2 d leidos inside room tamanio fits =>
    refine iff_of_true rfl ?_
    have room' : 4 ≤ (buffer.drop d).length := by
      rw [List.length_drop]
      omega
    by_cases below : tamanio < 0
    · exact .negativa _ room' below
    · refine .excede _ room' ?_
      show ((buffer.drop d).length : Int) - 4 < tamanio
      rw [List.length_drop]
      omega
  | case3 d leidos inside room =>
    refine iff_of_true rfl (.corta _ ?_ ?_)
    · rw [List.length_drop]
      omega
    · rw [List.length_drop]
      omega
  | case4 d leidos outside =>
    refine iff_of_false nofun fun wrong => ?_
    have empty : buffer.drop d = [] := List.drop_eq_nil_of_le (Nat.not_lt.mp outside)
    rw [empty] at wrong
    cases wrong with
    | corta _ some_ _ => exact absurd some_ (Nat.lt_irrefl 0)
    | negativa _ room _ | excede _ room _ | despues _ _ room _ _ _ =>
      exact absurd room (by decide)

theorem cuerpo_cons (valor : List UInt8) (valores : List (List UInt8)) :
    cuerpo (valor :: valores) =
      bytesDe (BitVec.ofNat 32 valor.length) ++ valor ++ cuerpo valores := rfl

theorem leerValores_some (read : leerValores buffer d leidos = some lista) :
    ∃ valores, lista = leidos ++ valores ∧ buffer.drop d = cuerpo valores := by
  fun_induction leerValores buffer d leidos with
  | case1 d leidos inside room tamanio fits ih =>
    obtain ⟨valores, rfl, rest⟩ := ih read
    refine ⟨(buffer.drop (d + 4)).take tamanio.toNat :: valores, by simp, ?_⟩
    have four : ((buffer.drop d).take 4).length = 4 := by
      rw [List.length_take, List.length_drop]
      omega
    have count : ((buffer.drop (d + 4)).take tamanio.toNat).length = tamanio.toNat := by
      rw [List.length_take, List.length_drop]
      omega
    have header : bytesDe (BitVec.ofNat 32 tamanio.toNat) = (buffer.drop d).take 4 := by
      have same : BitVec.ofNat 32 tamanio.toNat = entero ((buffer.drop d).take 4) := by
        apply BitVec.eq_of_toInt_eq
        have high : tamanio < 2 ^ 31 := by
          have := BitVec.toInt_lt (x := entero ((buffer.drop d).take 4))
          simpa using this
        rw [toInt_largo (by omega)]
        exact Int.toNat_of_nonneg fits.1
      rw [same, bytesDe_entero four]
    calc buffer.drop d
        = (buffer.drop d).take 4 ++ (buffer.drop (d + 4)) := by
          rw [← List.drop_drop, List.take_append_drop]
      _ = (buffer.drop d).take 4 ++ ((buffer.drop (d + 4)).take tamanio.toNat ++
            buffer.drop (d + 4 + tamanio.toNat)) := by
          rw [← List.drop_drop (i := tamanio.toNat), List.take_append_drop]
      _ = cuerpo ((buffer.drop (d + 4)).take tamanio.toNat :: valores) := by
          rw [rest, cuerpo_cons, count, header, List.append_assoc]
  | case2 d leidos inside room tamanio fits => contradiction
  | case3 d leidos inside room => contradiction
  | case4 d leidos outside =>
    cases read
    refine ⟨[], by simp, ?_⟩
    rw [List.drop_eq_nil_of_le (Nat.not_lt.mp outside)]
    rfl

theorem malformada_iff (ints : carga.length < 2 ^ 31) :
    ¬ Malformada carga ↔ ∃ valores, carga = cuerpo valores := by
  have wrong : leerValores carga 0 [] = none ↔ Malformada (carga.drop 0) := leerValores_none
  rw [List.drop_zero] at wrong
  rw [← wrong]
  constructor
  · intro read
    obtain ⟨lista, read⟩ := Option.ne_none_iff_exists'.mp read
    obtain ⟨valores, _, all⟩ := leerValores_some read
    exact ⟨valores, all⟩
  · intro formed
    obtain ⟨valores, rfl⟩ := formed
    rw [length_cuerpo] at ints
    have read := leerValores_cuerpo [] valores [] ints
    rw [List.nil_append, List.length_nil] at read
    rw [read]
    nofun

theorem recvEn_todo (variable_ bytes resto : List UInt8) (long : bytes.length = variable_.length) :
    recvEn variable_ (bytes ++ resto) = (variable_.length, bytes, resto) := by
  have done : variable_.drop (bytes ++ resto).length = [] := by
    apply List.drop_eq_nil_of_le
    rw [List.length_append]
    omega
  simp only [recvEn, done, List.append_nil]
  rw [← long, List.take_left, List.drop_left, List.length_append]
  simp

theorem recibirPaquete_llega (codOp₀ size₀ codigo size : Entero) (resto : List UInt8)
    (long : size.toInt = carga.length) :
    (recibirPaquete codOp₀ size₀ (bytesDe codigo ++ (bytesDe size ++ (carga ++ resto)))).1 =
      (leerValores carga 0 []).elim .fueraDelBuffer (.valores codigo) := by
  have code := recvEn_todo (bytesDe codOp₀) (bytesDe codigo) (bytesDe size ++ (carga ++ resto))
    (by rw [length_bytesDe, length_bytesDe])
  have header := recvEn_todo (bytesDe size₀) (bytesDe size) (carga ++ resto)
    (by rw [length_bytesDe, length_bytesDe])
  have payload := recvEn_todo (List.replicate carga.length 0) carga resto (by simp)
  rw [length_bytesDe] at code header
  rw [List.length_replicate] at payload
  have count : (recibirBuffer size₀ (bytesDe size ++ (carga ++ resto))) =
      ((carga.length : Int), carga, resto) := by
    simp only [recibirBuffer, header, entero_bytesDe, long, Int.toNat_natCast, payload]
    by_cases some_ : 0 < carga.length
    · simp [some_]
    · have empty : carga = [] := by simpa using some_
      simp [empty]
  have valid : ¬ ((carga.length : Int) < 0) := by omega
  simp only [recibirPaquete, code, count, entero_bytesDe, if_neg valid]
  cases leerValores carga 0 [] <;> rfl

theorem recibirPaquete_cabecera (codOp₀ size₀ codigo size : Entero) (resto : List UInt8) :
    (recibirPaquete codOp₀ size₀ (bytesDe codigo ++ (bytesDe size ++ resto))).1 =
      (Paquetes.recibirPaquete (bytesDe codigo ++ (bytesDe size ++ resto))).1 := by
  have code := recvEn_todo (bytesDe codOp₀) (bytesDe codigo) (bytesDe size ++ resto)
    (by rw [length_bytesDe, length_bytesDe])
  have header := recvEn_todo (bytesDe size₀) (bytesDe size) resto
    (by rw [length_bytesDe, length_bytesDe])
  have code' := recv_append (bytesDe codigo) (bytesDe size ++ resto)
  have header' := recv_append (bytesDe size) resto
  rw [length_bytesDe] at code header code' header'
  simp only [recibirPaquete, Paquetes.recibirPaquete, code, code', recibirBuffer,
    Paquetes.recibirBuffer, header, header', entero_bytesDe]
  by_cases positive : 0 < size.toInt
  · have asked : (size.toInt.toNat : Int) = size.toInt := Int.toNat_of_nonneg positive.le
    have valid : ¬ size.toInt < 0 := not_lt.mpr positive.le
    by_cases whole : size.toInt.toNat ≤ resto.length
    · have body : recvEn (List.replicate size.toInt.toNat 0) resto =
          (size.toInt.toNat, resto.take size.toInt.toNat, resto.drop size.toInt.toNat) := by
        simp [recvEn, whole]
      have body' : recv size.toInt.toNat resto =
          some (resto.take size.toInt.toNat, resto.drop size.toInt.toNat) := if_pos whole
      cases read : leerValores (resto.take size.toInt.toNat) 0 [] <;>
        simp only [positive, if_true, body, body', asked, ne_eq, not_true, if_false, valid,
          OfNat.ofNat_ne_zero, read]
    · have body : (recvEn (List.replicate size.toInt.toNat 0) resto).1 = resto.length := by
        simp only [recvEn, List.length_replicate]
        omega
      have short : ¬ (resto.length : Int) = size.toInt := by omega
      have body' : recv size.toInt.toNat resto = none := if_neg whole
      simp [positive, body, body', short]
  · cases read : leerValores [] 0 [] <;>
      simp only [positive, if_false, OfNat.ofNat_ne_zero, read]

theorem recibirBuffer_lleno {size₀ : Entero} {n : Int} {resto : List UInt8}
    (received : recibirBuffer size₀ socket = (n, buffer, resto)) (some_ : buffer ≠ []) :
    ∃ size : Entero, size.toInt = buffer.length ∧ socket = bytesDe size ++ (buffer ++ resto) := by
  unfold recibirBuffer recvEn at received
  simp only [length_bytesDe, List.length_replicate] at received
  split at received
  · cases received
    contradiction
  split at received
  swap
  · cases received
    contradiction
  rename_i positive
  split at received
  · cases received
    contradiction
  rename_i whole
  generalize read : entero (socket.take 4 ++ (bytesDe size₀).drop socket.length) = size
    at received positive whole
  obtain ⟨_, rest⟩ := Prod.mk.inj received
  obtain ⟨bytes, left⟩ := Prod.mk.inj rest
  rw [List.length_drop] at whole
  have room : size.toInt.toNat ≤ (socket.drop 4).length := by
    rw [List.length_drop]
    omega
  rw [List.length_drop] at room
  have header : (bytesDe size₀).drop socket.length = [] := by
    apply List.drop_eq_nil_of_le
    rw [length_bytesDe]
    omega
  have noRest : (List.replicate size.toInt.toNat (0 : UInt8)).drop (socket.drop 4).length = [] := by
    apply List.drop_eq_nil_of_le
    rw [List.length_replicate, List.length_drop]
    exact room
  rw [noRest, List.append_nil] at bytes
  rw [header, List.append_nil] at read
  have four : (socket.take 4).length = 4 := by
    rw [List.length_take]
    omega
  refine ⟨size, ?_, ?_⟩
  · rw [← bytes, List.length_take, List.length_drop]
    omega
  · rw [← bytes, ← left, List.take_append_drop, ← read, bytesDe_entero four,
      List.take_append_drop]

theorem fuera_llega {codOp₀ size₀ : Entero}
    (out : (recibirPaquete codOp₀ size₀ socket).1 = .fueraDelBuffer) :
    ∃ carga, Llega socket carga ∧ leerValores carga 0 [] = none := by
  unfold recibirPaquete at out
  dsimp only at out
  split at out
  · contradiction
  rename_i some_
  cases received : recibirBuffer size₀ (recvEn (bytesDe codOp₀) socket).2.2 with
  | mk n rest =>
    obtain ⟨buffer, resto⟩ := rest
    rw [received] at out
    dsimp only at out
    split at out
    · contradiction
    cases read : leerValores buffer 0 [] with
    | some lista =>
      rw [read] at out
      contradiction
    | none =>
      have full : buffer ≠ [] := by
        rintro rfl
        have done : leerValores [] 0 [] = some [] := leerValores_final [] []
        rw [done] at read
        contradiction
      obtain ⟨size, long, later⟩ := recibirBuffer_lleno received full
      have four : (socket.take 4).length = 4 := by
        have nonempty : 0 < (socket.drop 4).length := by
          have same : (recvEn (bytesDe codOp₀) socket).2.2 = socket.drop 4 := by
            simp only [recvEn, length_bytesDe]
          rw [← same, later, List.length_append, length_bytesDe]
          omega
        rw [List.length_drop] at nonempty
        rw [List.length_take]
        omega
      refine ⟨buffer, ⟨entero (socket.take 4), size, resto, long, ?_⟩, read⟩
      rw [← later, bytesDe_entero four]
      simp only [recvEn, length_bytesDe, List.take_append_drop]

theorem llega_ints (llega : Llega socket carga) : carga.length < 2 ^ 31 := by
  obtain ⟨_, size, _, long, _⟩ := llega
  have high := BitVec.toInt_lt (x := size)
  rw [long] at high
  exact_mod_cast high

/-- It survives the bytes when the packet in them is well formed, if a whole packet arrives. -/
theorem sobrevive_iff_bien_formada (socket : List UInt8) :
    Soporta socket ↔ ∀ carga, Llega socket carga → ∃ valores, carga = cuerpo valores := by
  constructor
  · intro survives carga llega
    rw [← malformada_iff (llega_ints llega)]
    intro wrong
    obtain ⟨inside, asNull⟩ := survives 0 0
    have null := asNull carga llega wrong
    obtain ⟨codigo, size, resto, long, rfl⟩ := llega
    rw [recibirPaquete_llega 0 0 codigo size resto long] at inside
    rw [leerValores_none.mpr (by rwa [List.drop_zero])] at inside
    exact inside rfl
  · intro formed codOp₀ size₀
    constructor
    · intro out
      obtain ⟨carga, llega, wrong⟩ := fuera_llega out
      rw [leerValores_none, List.drop_zero] at wrong
      exact (malformada_iff (llega_ints llega)).mpr (formed carga llega) wrong
    · intro carga llega wrong
      exact ((malformada_iff (llega_ints llega)).mpr (formed carga llega) wrong).elim

/-- Four bytes that say that nine more follow. -/
theorem largo_excedido_sin_sobrevivir :
    ¬ ∀ socket, Soporta socket := by
  intro survives
  have inside := (survives [7, 0, 0, 0, 4, 0, 0, 0, 9, 0, 0, 0] 0 0).1
  have arrives : Llega [7, 0, 0, 0, 4, 0, 0, 0, 9, 0, 0, 0] [9, 0, 0, 0] :=
    ⟨7, 4, [], by decide, by decide⟩
  obtain ⟨codigo, size, resto, long, split⟩ := arrives
  rw [split, recibirPaquete_llega 0 0 codigo size resto long] at inside
  have wrong : Malformada [9, 0, 0, 0] := .excede _ (by decide) (by decide)
  rw [leerValores_none.mpr (by rwa [List.drop_zero])] at inside
  exact inside rfl

end Recepcion
