import MasterOfFiles.Protocolo.Valores
import MasterOfFiles.Lib.Refinement
import MasterOfFiles.Sistema.Volcado
import MasterOfFiles.Worker.EnPaso

/-!
The operations of Storage called from a Worker, on the bytes of the connection: each request is
a packet that the thread of Storage takes apart by positions, and its reply is another one that
the Worker takes apart. What the Worker learns is what the operation returned. Sizes and page
numbers are not negative here, though the packets of a Worker may have any int.
-/
namespace SistemaRemoto
open StorageEstado StorageArchivos StorageEscritura StorageCommit StoragePedidos StorageVolcados
open Solicitudes Paquetes Valores SistemaVolcado WorkerEntradas WorkerRepresentacion
open WorkerEnPaso (esError)
open Refinement

variable {Hash : Type} {sb : Superbloque} {s : Storage Hash} {f : FileTag} {queryId : Int}

inductive Solicitud where
  | getBlockSize
  | create (f : FileTag)
  | truncate (f : FileTag) (tamanio : Nat)
  | tag (origen destino : FileTag)
  | commit (f : FileTag)
  | flush (f : FileTag) (paginas : List Pagina)
  | delete (f : FileTag)
  | readBlock (f : FileTag) (numPagina : Nat)

def camposDeArchivo (queryId : Int) (f : FileTag) : List Campo :=
  [.entero queryId, .texto f.file.texto, .texto f.tag.texto]

/-- The packets of main, of the execute functions, of flush_paginas_modificadas and of
    pedir_bloque_storage. -/
def Solicitud.paquete (queryId : Int) : Solicitud → Mensaje
  | .getBlockSize => ⟨.storageGetBlockSize, []⟩
  | .create f => ⟨.storageCreateFile, camposDeArchivo queryId f⟩
  | .truncate f tamanio => ⟨.storageTruncate, camposDeArchivo queryId f ++ [.entero tamanio]⟩
  | .tag origen destino => ⟨.storageTag, camposDeArchivo queryId origen ++
      [.texto destino.file.texto, .texto destino.tag.texto]⟩
  | .commit f => ⟨.storageCommit, camposDeArchivo queryId f⟩
  | .flush f paginas => ⟨.storageFlush, camposDeArchivo queryId f ++
      paginas.flatMap camposDePagina ++ [.entero paginas.length]⟩
  | .delete f => ⟨.storageDelete, camposDeArchivo queryId f⟩
  | .readBlock f numPagina => ⟨.storageReadBlock, camposDeArchivo queryId f ++
      [.entero numPagina]⟩

def fileTagEn (parametros : List Bytes) (i : Nat) : Option FileTag := do
  let file ← textoEn parametros i
  let tag ← textoEn parametros (i + 1)
  let file ← nombreDe file
  let tag ← nombreDe tag
  return ⟨file, tag⟩

/-- What the operations begin with; `none` when a value is not of the kind that it is read
    as. -/
def conFileTag (minimo : Nat) (s : Storage Hash) (parametros : List Bytes)
    (operacion : FileTag → Option (Bool × Storage Hash)) : Option (Bool × Storage Hash) :=
  if listSize parametros < minimo then some (false, s)
  else do
    let _queryId ← enteroEn parametros 1
    let f ← fileTagEn parametros 2
    operacion f

def crearFileDe (s : Storage Hash) (parametros : List Bytes) : Option (Bool × Storage Hash) :=
  conFileTag 4 s parametros fun f => some (crearFile s f)

/-- The model has no negative sizes. -/
def truncarFileDe (sb : Superbloque) (s : Storage Hash) (parametros : List Bytes) :
    Option (Bool × Storage Hash) :=
  conFileTag 5 s parametros fun f => do
    let nuevoTamanio ← enteroEn parametros 4
    if 0 ≤ nuevoTamanio then some (truncarFile sb s f nuevoTamanio.toNat) else none

def tagFileDe (s : Storage Hash) (parametros : List Bytes) : Option (Bool × Storage Hash) :=
  conFileTag 6 s parametros fun origen => do
    let destino ← fileTagEn parametros 4
    return tagFile s origen destino

def escribirBloqueDe (sb : Superbloque) (s : Storage Hash) (parametros : List Bytes) :
    Option (Bool × Storage Hash) :=
  conFileTag 6 s parametros fun f => do
    let bloqueLogico ← enteroEn parametros 4
    let contenido ← listGet parametros 5
    if 0 ∈ contenido then some (escribirBloque sb s f bloqueLogico contenido) else none

def eliminarFileTagDe (sb : Superbloque) (s : Storage Hash) (parametros : List Bytes) :
    Option (Bool × Storage Hash) :=
  conFileTag 4 s parametros fun f => some (eliminarFileTag sb s f)

/-- The pages from idx_datos on, as many as it counts or as there are. -/
def leerPaginasDe (paquete : List Bytes) : Nat → Nat → Option (List Pagina)
  | 0, _ => some []
  | restantes + 1, idxDatos =>
    if listSize paquete ≤ idxDatos + 1 then some []
    else do
      let numero ← enteroEn paquete idxDatos
      let contenido ← listGet paquete (idxDatos + 1)
      let otras ← leerPaginasDe paquete restantes (idxDatos + 2)
      return (numero, contenido) :: otras

/-- The number of pages is the last value of the packet. -/
def flushArchivoDe (sb : Superbloque) (s : Storage Hash) (paquete : List Bytes) :
    Option (Bool × Storage Hash) :=
  conFileTag 5 s paquete fun f => do
    let cantidadPaginas ← enteroEn paquete (listSize paquete - 1)
    let paginas ← leerPaginasDe paquete cantidadPaginas.toNat 4
    return flushArchivo sb s f paginas cantidadPaginas

/-- leer_bloque returns false, or true with the block. -/
def leerBloqueDe (sb : Superbloque) (s : Storage Hash) (parametros : List Bytes) :
    Option (Option Bytes) :=
  if listSize parametros < 5 then some none
  else do
    let _queryId ← enteroEn parametros 1
    let f ← fileTagEn parametros 2
    let bloqueLogico ← enteroEn parametros 4
    return leerBloque sb s f bloqueLogico

def sinContenido (r : Bool × Storage Hash) : Resultado × Storage Hash := (⟨r.1, []⟩, r.2)

variable [DecidableEq Hash]

def realizarCommitDe (sb : Superbloque) (md5 : Bytes → Hash) (s : Storage Hash)
    (parametros : List Bytes) : Option (Bool × Storage Hash) :=
  conFileTag 4 s parametros fun f => some (realizarCommit sb md5 s f)

def operar (sb : Superbloque) (md5 : Bytes → Hash) (s : Storage Hash) (codigo : CodigoOp)
    (parametros : List Bytes) : Option (Resultado × Storage Hash) :=
  match codigo with
  | .storageCreateFile => (crearFileDe s parametros).map sinContenido
  | .storageTruncate => (truncarFileDe sb s parametros).map sinContenido
  | .storageTag => (tagFileDe s parametros).map sinContenido
  | .storageCommit => (realizarCommitDe sb md5 s parametros).map sinContenido
  | .storageFlush => (flushArchivoDe sb s parametros).map sinContenido
  | .storageReadBlock => (leerBloqueDe sb s parametros).map fun contenido =>
      (⟨contenido.isSome, contenido.getD []⟩, s)
  | .storageWriteBlock => (escribirBloqueDe sb s parametros).map sinContenido
  | .storageDelete => (eliminarFileTagDe sb s parametros).map sinContenido
  | _ => some (⟨true, []⟩, s)

def turno (sb : Superbloque) (md5 : Bytes → Hash) (s : Storage Hash) (codOp : Entero)
    (parametros : List Bytes) : Option (Bytes × Storage Hash) :=
  match codigoDe codOp with
  | none => some ([], s)
  | some codigo => do
    let (r, s) ← operar sb md5 s codigo parametros
    match rutinaOperaciones sb.tamanioBloque r ⟨codigo, []⟩ with
    | none => some ([], s)
    | some respuesta => do
      let bytes ← enviar respuesta
      return (bytes, s)

/-- The while loop, on what comes through the socket until it is closed; `none` when the turns
    it is given are not enough, or a value is read outside its bytes. -/
def rutinaOperacionesDe (sb : Superbloque) (md5 : Bytes → Hash) :
    Nat → Storage Hash → Bytes → Option (Bytes × Storage Hash)
  | 0, _, _ => none
  | turnos + 1, s, socket =>
    match recibirPaquete socket with
    | (.nulo, _) => some ([], s)
    | (.fueraDelBuffer, _) => none
    | (.valores codOp parametros, resto) => do
      let (bytes, s) ← turno sb md5 s codOp parametros
      let (otros, s) ← rutinaOperacionesDe sb md5 turnos s resto
      return (bytes ++ otros, s)

inductive Respuesta where
  | tamanioBloque (n : Option Int)
  | error (errorStorage : Bool)
  | bloque (contenido : Option Bytes)
  deriving DecidableEq

/-- rtas_storage, and pedir_bloque_storage after a STORAGE_READ_BLOCK. -/
def leerRespuesta (tamanioPagina : Nat) (pedida : Solicitud) (codOp : Entero)
    (valores : List Bytes) : Respuesta :=
  match pedida with
  | .getBlockSize => .tamanioBloque (enteroEn valores 1)
  | .readBlock _ _ => .bloque (if codigoDe codOp = some .storageSendOkReadBlock then
      (listGet valores 1).map (·.take tamanioPagina) else none)
  | _ => .error ((codigoDe codOp).any esError)

def leerRespuestas (tamanioPagina : Nat) : List Solicitud → Bytes → Option (List Respuesta × Bytes)
  | [], socket => some ([], socket)
  | pedida :: pedidas, socket =>
    match recibirPaquete socket with
    | (.valores codOp valores, socket) => do
      let (otras, socket) ← leerRespuestas tamanioPagina pedidas socket
      return (leerRespuesta tamanioPagina pedida codOp valores :: otras, socket)
    | _ => none

def Solicitud.resultado (sb : Superbloque) (md5 : Bytes → Hash) (s : Storage Hash) :
    Solicitud → Resultado × Storage Hash
  | .getBlockSize => (⟨true, []⟩, s)
  | .create f => sinContenido (crearFile s f)
  | .truncate f tamanio => sinContenido (truncarFile sb s f tamanio)
  | .tag origen destino => sinContenido (tagFile s origen destino)
  | .commit f => sinContenido (realizarCommit sb md5 s f)
  | .flush f paginas => sinContenido (flushArchivo sb s f paginas paginas.length)
  | .delete f => sinContenido (eliminarFileTag sb s f)
  | .readBlock f numPagina =>
    (⟨(leerBloque sb s f numPagina).isSome, (leerBloque sb s f numPagina).getD []⟩, s)

def sinRed (r : Bool × Storage Hash) : Respuesta × Storage Hash := (.error !r.1, r.2)

def directo (sb : Superbloque) (md5 : Bytes → Hash) (s : Storage Hash) :
    Solicitud → Respuesta × Storage Hash
  | .getBlockSize => (.tamanioBloque (some sb.tamanioBloque), s)
  | .create f => sinRed (crearFile s f)
  | .truncate f tamanio => sinRed (truncarFile sb s f tamanio)
  | .tag origen destino => sinRed (tagFile s origen destino)
  | .commit f => sinRed (realizarCommit sb md5 s f)
  | .flush f paginas => sinRed (flushArchivo sb s f paginas paginas.length)
  | .delete f => sinRed (eliminarFileTag sb s f)
  | .readBlock f numPagina => (.bloque (leerBloque sb s f numPagina), s)

structure CabeSolicitud (queryId : Int) (p : Solicitud) : Prop where
  enteros : ∀ n, .entero n ∈ (p.paquete queryId).campos → Cabe (.entero n)
  largo : CabeMensaje (p.paquete queryId)

theorem caracterSimple_cabe {c : Char} (h : caracterSimple c = true) :
    0 < c.toNat ∧ c.toNat < 256 := by
  have range (a z : Char) (low : c.val ≥ a.val) (high : c.val ≤ z.val) :
      a.toNat ≤ c.toNat ∧ c.toNat ≤ z.toNat :=
    ⟨UInt32.le_iff_toNat_le.mp low, UInt32.le_iff_toNat_le.mp high⟩
  have ends : 'A'.toNat = 65 ∧ 'Z'.toNat = 90 ∧ 'a'.toNat = 97 ∧ 'z'.toNat = 122 ∧
      '0'.toNat = 48 ∧ '9'.toNat = 57 := by decide
  simp only [caracterSimple, Bool.or_eq_true, beq_iff_eq] at h
  rcases h with (((alphanum | rfl) | rfl) | rfl) | rfl
  · rcases Bool.or_eq_true_iff.mp alphanum with alpha | digit
    · rcases Bool.or_eq_true_iff.mp alpha with upper | lower
      · obtain ⟨low, high⟩ := of_decide_eq_true upper
        have upper := range 'A' 'Z' low high
        omega
      · obtain ⟨low, high⟩ := Bool.and_eq_true_iff.mp lower
        have lower := range 'a' 'z' (of_decide_eq_true low) (of_decide_eq_true high)
        omega
    · obtain ⟨low, high⟩ := Bool.and_eq_true_iff.mp digit
      have digit := range '0' '9' (of_decide_eq_true low) (of_decide_eq_true high)
      omega
  all_goals decide

theorem cabe_nombre (n : Nombre) : Cabe (.texto n.texto) := by
  intro c hc
  exact caracterSimple_cabe (List.all_eq_true.mp n.simple.2.2.2 c hc)

theorem nombreDe_texto (n : Nombre) : nombreDe n.texto = some n := by
  rw [nombreDe, dif_pos n.simple]

theorem campos_paquete (queryId : Int) (p : Solicitud) : ∀ c ∈ (p.paquete queryId).campos,
    (∃ n, c = .entero n) ∨ (∃ n : Nombre, c = .texto n.texto) ∨ ∃ b, c = .bloque b := by
  have names (f : FileTag) : ∀ c ∈ camposDeArchivo queryId f,
      (∃ n, c = .entero n) ∨ (∃ n : Nombre, c = .texto n.texto) ∨ ∃ b, c = .bloque b := by
    intro c hc
    simp only [camposDeArchivo, List.mem_cons, List.not_mem_nil, or_false] at hc
    rcases hc with rfl | rfl | rfl
    · exact .inl ⟨queryId, rfl⟩
    · exact .inr (.inl ⟨f.file, rfl⟩)
    · exact .inr (.inl ⟨f.tag, rfl⟩)
  intro c hc
  cases p with
  | getBlockSize => contradiction
  | create f | commit f | delete f => exact names f c hc
  | truncate f n | readBlock f n =>
    rcases List.mem_append.mp hc with hc | hc
    · exact names f c hc
    · exact .inl ⟨n, List.mem_singleton.mp hc⟩
  | tag origen destino =>
    rcases List.mem_append.mp hc with hc | hc
    · exact names origen c hc
    · simp only [List.mem_cons, List.not_mem_nil, or_false] at hc
      rcases hc with rfl | rfl
      · exact .inr (.inl ⟨destino.file, rfl⟩)
      · exact .inr (.inl ⟨destino.tag, rfl⟩)
  | flush f paginas =>
    rcases List.mem_append.mp hc with hc | hc
    · rcases List.mem_append.mp hc with hc | hc
      · exact names f c hc
      · obtain ⟨pagina, _, hc⟩ := List.mem_flatMap.mp hc
        simp only [camposDePagina, List.mem_cons, List.not_mem_nil, or_false] at hc
        rcases hc with rfl | rfl
        · exact .inl ⟨pagina.1, rfl⟩
        · exact .inr (.inr ⟨pagina.2, rfl⟩)
    · exact .inl ⟨paginas.length, List.mem_singleton.mp hc⟩

theorem cabe_campos {p : Solicitud} (fits : CabeSolicitud queryId p) :
    ∀ c ∈ (p.paquete queryId).campos, Cabe c := by
  intro c hc
  rcases campos_paquete queryId p c hc with ⟨n, rfl⟩ | ⟨n, rfl⟩ | ⟨b, rfl⟩
  · exact fits.enteros n hc
  · exact cabe_nombre n
  · trivial

omit [DecidableEq Hash] in
theorem listSize_valores (m : Mensaje) : listSize (m.campos.map valor) = m.listSize := by
  rw [listSize, List.length_map, Mensaje.listSize]

theorem fileTagEn_valores {m : Mensaje} {i : Nat} (fits : ∀ c ∈ m.campos, Cabe c)
    (file : m.texto i = some f.file.texto) (tag : m.texto (i + 1) = some f.tag.texto) :
    fileTagEn (m.campos.map valor) i = some f := by
  simp only [fileTagEn, textoEn_valores fits file, textoEn_valores fits tag,
    nombreDe_texto, Option.bind_eq_bind, Option.bind_some, Option.pure_def]

omit [DecidableEq Hash] in
theorem conFileTag_valores {resto : List Campo} {minimo : Nat}
    (fits : ∀ c ∈ camposDeArchivo queryId f ++ resto, Cabe c) (enough : minimo ≤ resto.length + 4)
    (s : Storage Hash) (operacion : FileTag → Option (Bool × Storage Hash)) :
    conFileTag minimo s ((camposDeArchivo queryId f ++ resto).map valor) operacion =
      operacion f := by
  let m : Mensaje := ⟨.storageCreateFile, camposDeArchivo queryId f ++ resto⟩
  have long : ¬ listSize (m.campos.map valor) < minimo := by
    rw [listSize_valores]
    simp only [m, Mensaje.listSize, List.length_append, camposDeArchivo, List.length_cons,
      List.length_nil]
    omega
  have query : enteroEn (m.campos.map valor) 1 = some queryId := enteroEn_valores fits rfl
  have names : fileTagEn (m.campos.map valor) 2 = some f := fileTagEn_valores fits rfl rfl
  show conFileTag minimo s (m.campos.map valor) operacion = operacion f
  rw [conFileTag, if_neg long]
  simp only [query, names, Option.bind_eq_bind, Option.bind_some]

omit [DecidableEq Hash] in
theorem conFileTag_solo (fits : ∀ c ∈ camposDeArchivo queryId f, Cabe c) (s : Storage Hash)
    (operacion : FileTag → Option (Bool × Storage Hash)) :
    conFileTag 4 s ((camposDeArchivo queryId f).map valor) operacion = operacion f := by
  have alone := List.append_nil (camposDeArchivo queryId f)
  rw [← alone] at fits ⊢
  exact conFileTag_valores fits (le_refl 4) s operacion

theorem leerPaginasDe_valores {m : Mensaje} (fits : ∀ c ∈ m.campos, Cabe c) (n : Nat) :
    ∀ {i : Nat} {paginas : List Pagina}, leerPaginas m n i = some paginas →
      leerPaginasDe (m.campos.map valor) n i = some paginas := by
  induction n with
  | zero => exact fun read => read
  | succ n ih =>
    intro i paginas read
    rw [leerPaginas] at read
    rw [leerPaginasDe, listSize_valores]
    split at read
    · rename_i short
      rw [if_pos short]
      exact read
    · rename_i room
      rw [if_neg room]
      simp only [Option.bind_eq_bind, Option.bind_eq_some_iff, Option.pure_def] at read
      obtain ⟨numero, hn, contenido, hc, otras, rest, done⟩ := read
      simp only [enteroEn_valores fits hn, bloqueEn_valores hc, ih rest, Option.bind_eq_bind,
        Option.bind_some, Option.pure_def]
      exact done

def Atendida (sb : Superbloque) (md5 : Bytes → Hash) (s : Storage Hash) (queryId : Int)
    (p : Solicitud) : Prop :=
  ∃ respuesta : Mensaje,
    rutinaOperaciones sb.tamanioBloque (p.resultado sb md5 s).1 (p.paquete queryId) =
      some respuesta ∧
    CabeMensaje respuesta ∧
    turno sb md5 s (BitVec.ofNat 32 (numero (p.paquete queryId).codigo))
      ((p.paquete queryId).campos.map valor) =
        some (enSocket respuesta, (p.resultado sb md5 s).2) ∧
    leerRespuesta sb.tamanioBloque p (BitVec.ofNat 32 (numero respuesta.codigo))
      (respuesta.campos.map valor) = (directo sb md5 s p).1

variable {md5 : Bytes → Hash} {codigo : CodigoOp} {parametros : List Bytes}

theorem directo_resultado (p : Solicitud) :
    (directo sb md5 s p).2 = (p.resultado sb md5 s).2 := by
  cases p <;> rfl

theorem turno_respuesta {r : Resultado} {respuesta : Mensaje} {s' : Storage Hash}
    (operation : operar sb md5 s codigo parametros = some (r, s'))
    (reply : rutinaOperaciones sb.tamanioBloque r ⟨codigo, []⟩ = some respuesta)
    (fits : CabeMensaje respuesta) :
    turno sb md5 s (BitVec.ofNat 32 (numero codigo)) parametros =
      some (enSocket respuesta, s') := by
  simp only [turno, codigoDe_numero, operation, reply, enviar_enSocket fits,
    Option.bind_eq_bind, Option.bind_some, Option.pure_def]

theorem atendida_responder {p : Solicitud} {ok error : CodigoOp} {r : Bool × Storage Hash}
    (result : p.resultado sb md5 s = sinContenido r) (direct : directo sb md5 s p = sinRed r)
    (operation : operar sb md5 s (p.paquete queryId).codigo ((p.paquete queryId).campos.map valor) =
      some (sinContenido r))
    (case_ : ∀ r' campos, rutinaOperaciones sb.tamanioBloque r'
      ⟨(p.paquete queryId).codigo, campos⟩ = responder ok error r')
    (read : ∀ codOp valores, leerRespuesta sb.tamanioBloque p codOp valores =
      .error ((codigoDe codOp).any esError))
    (noError : esError ok = false) (isError : esError error = true) :
    Atendida sb md5 s queryId p := by
  have fits : CabeMensaje ⟨if r.1 then ok else error, []⟩ := by simp [CabeMensaje, total]
  refine ⟨_, ?_, fits, ?_, ?_⟩
  · rw [result]
    exact case_ _ _
  · rw [result]
    exact turno_respuesta operation (case_ _ _) fits
  · rw [read, direct, codigoDe_numero]
    cases h : r.1 <;> simp [sinRed, h, noError, isError]

theorem operar_flush {paginas : List Pagina}
    (fits : CabeSolicitud queryId (.flush f paginas)) :
    operar sb md5 s .storageFlush (((Solicitud.flush f paginas).paquete queryId).campos.map valor) =
      some (sinContenido (flushArchivo sb s f paginas paginas.length)) := by
  let m := (Solicitud.flush f paginas).paquete queryId
  have whole : ∀ c ∈ m.campos, Cabe c := cabe_campos fits
  have count : enteroEn (m.campos.map valor) (listSize (m.campos.map valor) - 1) =
      some (paginas.length : Int) := by
    rw [listSize_valores]
    refine enteroEn_valores whole ?_
    simp [m, Solicitud.paquete, Mensaje.entero, Mensaje.listSize]
  have pages : leerPaginasDe (m.campos.map valor) paginas.length 4 = some paginas :=
    leerPaginasDe_valores whole _ (leerPaginas_campos paginas (.entero paginas.length)
      (camposDeArchivo queryId f))
  have shape : m.campos = camposDeArchivo queryId f ++
      (paginas.flatMap camposDePagina ++ [.entero paginas.length]) := List.append_assoc _ _ _
  have called : flushArchivoDe sb s (m.campos.map valor) =
      some (flushArchivo sb s f paginas paginas.length) := by
    have named := conFileTag_valores (shape ▸ whole) (show 5 ≤ _ by simp) s
    rw [← shape] at named
    rw [flushArchivoDe, named]
    simp only [count, Option.bind_eq_bind, Option.bind_some, Int.toNat_natCast, pages,
      Option.pure_def]
  show (flushArchivoDe sb s (m.campos.map valor)).map sinContenido = _
  rw [called]
  rfl

theorem operar_readBlock {k : Nat} (fits : CabeSolicitud queryId (.readBlock f k)) :
    operar sb md5 s .storageReadBlock
      (((Solicitud.readBlock f k).paquete queryId).campos.map valor) =
        some (⟨(leerBloque sb s f k).isSome, (leerBloque sb s f k).getD []⟩, s) := by
  let m := (Solicitud.readBlock f k).paquete queryId
  have whole : ∀ c ∈ m.campos, Cabe c := cabe_campos fits
  have query : enteroEn (m.campos.map valor) 1 = some queryId := enteroEn_valores whole rfl
  have names : fileTagEn (m.campos.map valor) 2 = some f := fileTagEn_valores whole rfl rfl
  have block : enteroEn (m.campos.map valor) 4 = some (k : Int) := enteroEn_valores whole rfl
  have called : leerBloqueDe sb s (m.campos.map valor) = some (leerBloque sb s f k) := by
    have long : ¬ listSize (m.campos.map valor) < 5 := by
      rw [listSize_valores]
      exact Nat.lt_irrefl 5
    rw [leerBloqueDe, if_neg long]
    simp only [query, names, block, Option.bind_eq_bind, Option.bind_some, Option.pure_def]
  show (leerBloqueDe sb s (m.campos.map valor)).map _ = _
  rw [called]
  rfl

variable (md5)

theorem atendida {p : Solicitud} (fits : CabeSolicitud queryId p)
    (unit : sb.tamanioBloque + 12 < 2 ^ 31) : Atendida sb md5 s queryId p := by
  have whole := cabe_campos fits
  cases p with
  | getBlockSize =>
    refine ⟨⟨.storageSendBlockSize, [.entero sb.tamanioBloque]⟩, rfl, ?_, ?_, ?_⟩
    · simp [CabeMensaje, total, valor, length_bytesDe]
    · exact turno_respuesta rfl rfl (by simp [CabeMensaje, total, valor, length_bytesDe])
    · have size : enteroEn [valor (.entero sb.tamanioBloque)] 1 = some (sb.tamanioBloque : Int) :=
        leerEntero_valor (cabe_nat (by omega))
      exact congrArg Respuesta.tamanioBloque size
  | create f =>
    exact atendida_responder rfl rfl
      (congrArg (Option.map sinContenido) (conFileTag_solo whole s _))
      (fun _ _ => rfl) (fun _ _ => rfl) rfl rfl
  | truncate f tamanio =>
    have size : enteroEn (((Solicitud.truncate f tamanio).paquete queryId).campos.map valor) 4 =
      some (tamanio : Int) := enteroEn_valores whole rfl
    have called : truncarFileDe sb s
        (((Solicitud.truncate f tamanio).paquete queryId).campos.map valor) =
          some (truncarFile sb s f tamanio) := by
      refine (conFileTag_valores whole (le_refl 5) s _).trans ?_
      refine (congrArg (Option.bind · _) size).trans ?_
      show (if (0 : Int) ≤ tamanio then some (truncarFile sb s f (tamanio : Int).toNat)
        else none) = _
      rw [if_pos (Int.natCast_nonneg tamanio), Int.toNat_natCast]
    exact atendida_responder rfl rfl (congrArg (Option.map sinContenido) called)
      (fun _ _ => rfl) (fun _ _ => rfl) rfl rfl
  | tag origen destino =>
    have other : fileTagEn (((Solicitud.tag origen destino).paquete queryId).campos.map valor) 4 =
      some destino := fileTagEn_valores whole rfl rfl
    have called : tagFileDe s
        (((Solicitud.tag origen destino).paquete queryId).campos.map valor) =
          some (tagFile s origen destino) := by
      refine (conFileTag_valores whole (le_refl 6) s _).trans ?_
      exact congrArg (Option.bind · _) other
    exact atendida_responder rfl rfl (congrArg (Option.map sinContenido) called)
      (fun _ _ => rfl) (fun _ _ => rfl) rfl rfl
  | commit f | delete f =>
    exact atendida_responder rfl rfl
      (congrArg (Option.map sinContenido) (conFileTag_solo whole s _)) (fun _ _ => rfl)
      (fun _ _ => rfl) rfl rfl
  | flush f paginas =>
    exact atendida_responder rfl rfl (operar_flush fits) (fun _ _ => rfl) (fun _ _ => rfl) rfl rfl
  | readBlock f k =>
    cases read : leerBloque sb s f k with
    | none =>
      refine ⟨⟨.storageSendErrorReadBlock, []⟩, ?_, by simp [CabeMensaje, total], ?_, ?_⟩
      · simp [Solicitud.paquete, Solicitud.resultado, rutinaOperaciones, read]
      · refine turno_respuesta (operar_readBlock fits) ?_ (by simp [CabeMensaje, total])
        rw [read]
        rfl
      · simp [leerRespuesta, codigoDe_numero, directo, read]
    | some bloque =>
      have long := leerBloque_length read
      have room : CabeMensaje ⟨.storageSendOkReadBlock, [.bloque bloque]⟩ := by
        simp only [CabeMensaje, total, List.map_cons, List.map_nil, valor, long, List.sum_cons,
          List.sum_nil]
        omega
      refine ⟨⟨.storageSendOkReadBlock, [.bloque bloque]⟩, ?_, room, ?_, ?_⟩
      · simp [Solicitud.paquete, Solicitud.resultado, rutinaOperaciones, read]
      · refine turno_respuesta (operar_readBlock fits) ?_ room
        rw [read]
        rfl
      · simp [leerRespuesta, codigoDe_numero, directo, read, listGet, valor, ← long]

abbrev Pedidas := List (Int × Solicitud)

def enviadas (pedidas : Pedidas) : Option Bytes :=
  enviados (pedidas.map fun q => (BitVec.ofNat 32 (numero (q.2.paquete q.1).codigo),
    (q.2.paquete q.1).campos.map valor))

def enLineaDe (pedidas : Pedidas) : Bytes :=
  pedidas.flatMap fun q => enSocket (q.2.paquete q.1)

theorem enviadas_enLinea {pedidas : Pedidas} (fit : ∀ q ∈ pedidas, CabeSolicitud q.1 q.2) :
    enviadas pedidas = some (enLineaDe pedidas) := by
  refine (enviados_enLinea _ fun m hm => ?_).trans ?_
  · obtain ⟨q, hq, rfl⟩ := List.mem_map.mp hm
    exact (fit q hq).largo
  · rw [List.flatMap_map]
    rfl

theorem rutinaOperacionesDe_pedidas (unit : sb.tamanioBloque + 12 < 2 ^ 31) (pedidas : Pedidas) :
    ∀ s : Storage Hash, (∀ q ∈ pedidas, CabeSolicitud q.1 q.2) → ∃ respuestas,
      (∀ turnos, pedidas.length < turnos →
        rutinaOperacionesDe sb md5 turnos s (enLineaDe pedidas) =
          some (respuestas, after (directo sb md5) s (pedidas.map Prod.snd))) ∧
      leerRespuestas sb.tamanioBloque (pedidas.map Prod.snd) respuestas =
        some (replies (directo sb md5) s (pedidas.map Prod.snd), []) := by
  induction pedidas with
  | nil =>
    intro s _
    refine ⟨[], fun turnos enough => ?_, rfl⟩
    obtain ⟨turnos, rfl⟩ := Nat.exists_eq_succ_of_ne_zero (Nat.ne_of_gt enough)
    rfl
  | cons q pedidas ih =>
    intro s fit
    have first := fit q List.mem_cons_self
    obtain ⟨respuesta, _, room, served, read⟩ := atendida md5 (s := s) first unit
    obtain ⟨respuestas, loop, rest⟩ := ih (directo sb md5 s q.2).2
      fun q hq => fit q (List.mem_cons_of_mem _ hq)
    refine ⟨enSocket respuesta ++ respuestas, fun turnos enough => ?_, ?_⟩
    · obtain ⟨turnos, rfl⟩ := Nat.exists_eq_succ_of_ne_zero
        (Nat.ne_of_gt (Nat.zero_lt_of_lt enough))
      have there := recibirPaquete_enSocket first.largo (enLineaDe pedidas)
      have all : enLineaDe (q :: pedidas) =
          enSocket (q.2.paquete q.1) ++ enLineaDe pedidas := List.flatMap_cons
      rw [all, rutinaOperacionesDe, there]
      simp only [served, ← directo_resultado, loop turnos (Nat.lt_of_succ_lt_succ enough),
        Option.bind_eq_bind, Option.bind_some, Option.pure_def]
      rfl
    · have back := recibirPaquete_enSocket room respuestas
      rw [List.map_cons, leerRespuestas, back]
      simp only [rest, read, Option.bind_eq_bind, Option.bind_some, Option.pure_def]
      rfl

/-- Whatever a Worker asks for, over the bytes of the connection the operations leave Storage as
    they do when they are called, the Worker learns what they returned, and no byte is left. -/
theorem storage_remoto (unit : sb.tamanioBloque + 12 < 2 ^ 31) (s : Storage Hash)
    (pedidas : Pedidas) (fit : ∀ q ∈ pedidas, CabeSolicitud q.1 q.2) :
    ∃ enviado respuestas, enviadas pedidas = some enviado ∧
      (∀ turnos, pedidas.length < turnos → rutinaOperacionesDe sb md5 turnos s enviado =
        some (respuestas, after (directo sb md5) s (pedidas.map Prod.snd))) ∧
      leerRespuestas sb.tamanioBloque (pedidas.map Prod.snd) respuestas =
        some (replies (directo sb md5) s (pedidas.map Prod.snd), []) := by
  obtain ⟨respuestas, served, read⟩ :=
    rutinaOperacionesDe_pedidas md5 unit pedidas s fit
  exact ⟨enLineaDe pedidas, respuestas, enviadas_enLinea fit, served, read⟩

/-- Query 7 makes A:1 of one block, flushes a page to it and reads the block, which is not there
    for query 8. -/
def unaPagina : Pedidas :=
  [(7, .getBlockSize), (7, .create a1), (7, .truncate a1 1), (7, .flush a1 [(0, [121])]),
    (7, .readBlock a1 0), (8, .readBlock a1 1)]

theorem storage_remoto_una_pagina : ∃ enviado respuestas, enviadas unaPagina = some enviado ∧
    (rutinaOperacionesDe discoDeSeis (id : Bytes → Bytes) 7 (formatearFs discoDeSeis) enviado).map
      Prod.fst = some respuestas ∧
    leerRespuestas 1 (unaPagina.map Prod.snd) respuestas = some ([.tamanioBloque (some 1),
      .error false, .error false, .error false, .bloque (some [121]), .bloque none], []) := by
  have fit : ∀ q ∈ unaPagina, CabeSolicitud q.1 q.2 := by
    have whole : ∀ q ∈ unaPagina, (∀ c ∈ (q.2.paquete q.1).campos, Cabe c) ∧
        CabeMensaje (q.2.paquete q.1) := by decide
    exact fun q hq => ⟨fun n hn => (whole q hq).1 _ hn, (whole q hq).2⟩
  have learns : replies (directo discoDeSeis (id : Bytes → Bytes)) (formatearFs discoDeSeis)
      (unaPagina.map Prod.snd) = [.tamanioBloque (some 1), .error false, .error false,
        .error false, .bloque (some [121]), .bloque none] := by decide
  have unit : discoDeSeis.tamanioBloque + 12 < 2 ^ 31 := by decide
  obtain ⟨enviado, respuestas, sent, served, read⟩ := storage_remoto (id : Bytes → Bytes) unit
    (formatearFs discoDeSeis) unaPagina fit
  rw [learns] at read
  refine ⟨enviado, respuestas, sent, ?_, read⟩
  rw [served 7 (by decide), Option.map_some]

end SistemaRemoto
