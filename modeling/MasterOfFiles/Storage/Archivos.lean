import MasterOfFiles.Storage.Estado

/-!
CREATE, TRUNCATE, TAG, DELETE and READ_BLOCK of operaciones.c, run alone: the mutex of
the File:Tag and the one of the bitmap are taken and released inside each operation and
do not appear here. Every operation returns its reply and the state it leaves. Block
numbers of requests are ints, sizes are those the int arithmetic handles (not negative,
no overflow).
-/
namespace StorageArchivos
open StorageEstado LinkDirectory

variable {Hash : Type}

/-- verificar_si_commited: a File:Tag without metadata is not committed. -/
def verificarSiCommited (s : Storage Hash) (f : FileTag) : Bool :=
  match s.carpetas.lookup f with
  | none => false
  | some c => c.estado == .commited

def crearFile (s : Storage Hash) (f : FileTag) : Bool × Storage Hash :=
  match s.carpetas.lookup f with
  | some _ => (false, s)
  | none => (true, s.ponerCarpeta f ⟨0, .workInProgress, [], ∅⟩)

/-- The growing loop of truncar_file: logical blocks i, i+1, ... linked to block 0. -/
def enlazarCeros (f : FileTag) : Nat → Nat → Storage Hash → Bool × Storage Hash
  | 0, _, s => (true, s)
  | n + 1, i, s =>
    match s.enlazar 0 f i with
    | none => (false, s)
    | some s' => enlazarCeros f n (i + 1) s'

/-- One turn of the shrinking loop; `bloques` is array_bloques_fisico. -/
def quitarBloque (sb : Superbloque) (f : FileTag) (bloques : List Nat) (i : Nat)
    (s : Storage Hash) : Storage Hash :=
  let fisico := bloques.getD i 0
  let s := (s.desenlazar f i).getD s
  if s.existe fisico = true ∧ s.nlink fisico = 1 then s.marcarBloqueLibre sb fisico else s

def quitarBloques (sb : Superbloque) (f : FileTag) (bloques : List Nat) (desde : Nat) :
    Nat → Storage Hash → Storage Hash
  | 0, s => s
  | n + 1, s => quitarBloques sb f bloques desde n (quitarBloque sb f bloques (desde + n) s)

/-- The rebuilt block list: what is kept of the old one, then block 0. -/
def bloquesFinales (bloques : List Nat) (nuevos : Nat) : List Nat :=
  bloques.take nuevos ++ List.replicate (nuevos - bloques.length) 0

def guardarTruncado (s : Storage Hash) (f : FileTag) (tamanio : Nat) (blocks : List Nat) :
    Storage Hash :=
  match s.carpetas.lookup f with
  | none => s
  | some c => s.ponerCarpeta f { c with tamanio := tamanio, blocks := blocks }

def truncarFile (sb : Superbloque) (s : Storage Hash) (f : FileTag) (nuevoTamanio : Nat) :
    Bool × Storage Hash :=
  if esProtegido f then (false, s)
  else if verificarSiCommited s f then (false, s)
  else match s.carpetas.lookup f with
  | none => (false, s)
  | some c =>
    let actuales := sb.bloquesLogicos c.tamanio
    let nuevos := sb.bloquesLogicos nuevoTamanio
    let crecido := enlazarCeros f (nuevos - actuales) actuales s
    if crecido.1 = false then (false, crecido.2)
    else
      let s := quitarBloques sb f c.blocks nuevos (actuales - nuevos) crecido.2
      (true, guardarTruncado s f nuevoTamanio (bloquesFinales c.blocks nuevos))

/-- The destination directory is new, so every link(2) of the copy succeeds. -/
def tagFile (s : Storage Hash) (origen destino : FileTag) : Bool × Storage Hash :=
  if esProtegido origen then (false, s)
  else match s.carpetas.lookup origen, s.carpetas.lookup destino with
  | none, _ => (false, s)
  | some _, some _ => (false, s)
  | some c, none => (true, s.ponerCarpeta destino { c with estado := .workInProgress })

def leerBloque (sb : Superbloque) (s : Storage Hash) (f : FileTag) (bloque : Int) :
    Option Bytes :=
  match s.carpetas.lookup f with
  | none => none
  | some c =>
    if bloque < 0 ∨ (sb.bloquesLogicos c.tamanio : Int) ≤ bloque then none
    else if c.blocks.length ≤ bloque.toNat then none
    else match c.logicos.lookup bloque.toNat with
    | none => none
    | some b =>
      let leido := (s.datos b).take sb.tamanioBloque
      some (leido ++ List.replicate (sb.tamanioBloque - leido.length) 0)

/-- First pass of eliminar_file_tag: the logical blocks of the BLOCKS list. -/
def desenlazarTodos (f : FileTag) : Nat → Nat → Storage Hash → Storage Hash
  | 0, _, s => s
  | n + 1, i, s => desenlazarTodos f n (i + 1) ((s.desenlazar f i).getD s)

/-- Second pass, for one entry of BLOCKS. bitmap->size counts bytes. -/
def liberarFisico (sb : Superbloque) (s : Storage Hash) (b : Nat) : Storage Hash :=
  if s.existe b then
    if s.nlink b ≤ 1 then (s.borrarFisico b).liberar b else s
  else if b < (sb.cantidadBloques + 7) / 8 ∧ s.bitmap b = true then s.liberar b
  else s

/-- rm -rf of the directory of the File:Tag. -/
def borrarCarpeta (s : Storage Hash) (f : FileTag) : Storage Hash :=
  { s with carpetas := s.carpetas.erase f }

def eliminarFileTag (sb : Superbloque) (s : Storage Hash) (f : FileTag) :
    Bool × Storage Hash :=
  if esProtegido f then (false, s)
  else match s.carpetas.lookup f with
  | none => (false, s)
  | some c =>
    let sinLinks := desenlazarTodos f c.blocks.length 0 s
    let liberado := c.blocks.foldl (liberarFisico sb) sinLinks
    (true, borrarCarpeta liberado.persistirBitmap f)

theorem crearFile_cases (s : Storage Hash) (f : FileTag) :
    (∃ c, s.carpetas.lookup f = some c ∧ crearFile s f = (false, s)) ∨
      s.carpetas.lookup f = none ∧
        crearFile s f = (true, s.ponerCarpeta f ⟨0, .workInProgress, [], ∅⟩) := by
  unfold crearFile
  cases hc : s.carpetas.lookup f with
  | some c => exact .inl ⟨c, rfl, rfl⟩
  | none => exact .inr ⟨rfl, rfl⟩

theorem tagFile_cases (s : Storage Hash) (origen destino : FileTag) :
    tagFile s origen destino = (false, s) ∨
      ∃ c, esProtegido origen = false ∧ s.carpetas.lookup origen = some c ∧
        s.carpetas.lookup destino = none ∧ tagFile s origen destino =
          (true, s.ponerCarpeta destino { c with estado := .workInProgress }) := by
  unfold tagFile
  cases hp : esProtegido origen with
  | true => exact .inl rfl
  | false =>
  cases ho : s.carpetas.lookup origen with
  | none => exact .inl rfl
  | some c =>
  cases hd : s.carpetas.lookup destino with
  | some _ => exact .inl rfl
  | none => exact .inr ⟨c, rfl, rfl, rfl, rfl⟩

theorem eliminarFileTag_cases (sb : Superbloque) (s : Storage Hash) (f : FileTag) :
    eliminarFileTag sb s f = (false, s) ∨
      ∃ c, esProtegido f = false ∧ s.carpetas.lookup f = some c ∧ eliminarFileTag sb s f =
        (true, borrarCarpeta (c.blocks.foldl (liberarFisico sb)
          (desenlazarTodos f c.blocks.length 0 s)).persistirBitmap f) := by
  unfold eliminarFileTag
  cases hp : esProtegido f with
  | true => exact .inl rfl
  | false =>
  cases hc : s.carpetas.lookup f with
  | none => exact .inl rfl
  | some c => exact .inr ⟨c, rfl, rfl, rfl⟩

end StorageArchivos
