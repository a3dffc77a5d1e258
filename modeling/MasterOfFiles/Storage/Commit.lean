import MasterOfFiles.Storage.Escritura

/-!
COMMIT of operaciones.c: evitar_duplicidad and realizar_commit. crypto_md5 is a function
of the bytes of a block, given by the commons library.
-/
namespace StorageCommit
open StorageEstado StorageArchivos StorageEscritura LinkDirectory

variable {Hash : Type} [DecidableEq Hash]

def hashDeBloque (sb : Superbloque) (md5 : Bytes → Hash) (s : Storage Hash) (b : Nat) : Hash :=
  md5 ((s.datos b).take sb.tamanioBloque)

structure Dedup (Hash : Type) where
  storage : Storage Hash
  indice : Dir Hash Nat
  nuevos : List Nat
  seModifico : Bool

/-- The bit of the block that lost its logical link is cleared and bitmap.bin saved. -/
def liberarOriginal (sb : Superbloque) (s : Storage Hash) (actual : Nat) : Storage Hash :=
  (if actual < sb.cantidadBloques ∧ s.bitmap actual = true then s.liberar actual
    else s).persistirBitmap

/-- The body of the loop of evitar_duplicidad for logical block `i`. -/
def deduplicarBloque (sb : Superbloque) (md5 : Bytes → Hash) (f : FileTag) (d : Dedup Hash)
    (i actual : Nat) : Dedup Hash :=
  if d.storage.existe actual = false then { d with nuevos := d.nuevos ++ [actual] }
  else
    let hash := hashDeBloque sb md5 d.storage actual
    match d.indice.lookup hash with
    | none => { d with indice := d.indice.insert hash actual, nuevos := d.nuevos ++ [actual] }
    | some existente =>
      if existente = actual then { d with nuevos := d.nuevos ++ [actual] }
      else match d.storage.desenlazar f i with
      | none => { d with nuevos := d.nuevos ++ [actual], seModifico := true }
      | some suelto =>
        match suelto.enlazar existente f i with
        | none =>
          { d with storage := (suelto.enlazar actual f i).getD suelto,
                   nuevos := d.nuevos ++ [actual], seModifico := false }
        | some s' =>
          { d with storage := liberarOriginal sb s' actual,
                   nuevos := d.nuevos ++ [existente], seModifico := true }

def deduplicarDesde (sb : Superbloque) (md5 : Bytes → Hash) (f : FileTag) :
    Nat → List Nat → Dedup Hash → Dedup Hash
  | _, [], d => d
  | i, actual :: resto, d =>
    deduplicarDesde sb md5 f (i + 1) resto (deduplicarBloque sb md5 f d i actual)

def evitarDuplicidad (sb : Superbloque) (md5 : Bytes → Hash) (s : Storage Hash) (f : FileTag) :
    Storage Hash :=
  match s.carpetas.lookup f with
  | none => s
  | some c =>
    let d := deduplicarDesde sb md5 f 0 c.blocks ⟨s, s.indice, [], false⟩
    let guardado := if d.seModifico then guardarBlocks d.storage f d.nuevos else d.storage
    { guardado with indice := d.indice }

def guardarCommit (s : Storage Hash) (f : FileTag) : Storage Hash :=
  match s.carpetas.lookup f with
  | none => s
  | some c => s.ponerCarpeta f { c with estado := .commited }

def realizarCommit (sb : Superbloque) (md5 : Bytes → Hash) (s : Storage Hash) (f : FileTag) :
    Bool × Storage Hash :=
  if esProtegido f then (false, s)
  else match s.carpetas.lookup f with
  | none => (false, s)
  | some c =>
    if c.estado = .commited then (true, s)
    else (true, (guardarCommit (evitarDuplicidad sb md5 s f) f).persistirBitmap)

end StorageCommit
