import MasterOfFiles.Lib.LinkDirectory
import MasterOfFiles.Lib.FirstFit

/-!
State of the Storage module between two requests. Files on disk are kept by what
the code observes of them: the directory files/<file>/<tag>/ with its metadata.config
and its logical_blocks links, the files physical_blocks/block<b>.dat, bitmap.bin and
blocks_hash_index.config. An inode is named by the number of its physical block.
File-system calls fail for the reasons of their arguments only, never for I/O.
-/
namespace StorageEstado
open LinkDirectory FirstFit

abbrev Bytes := List UInt8

/-- No separator of a path and nothing the shell of rm -rf would expand. -/
def caracterSimple (c : Char) : Bool :=
  c.isAlphanum || c == '_' || c == '-' || c == '.' || c == ':'

structure Nombre where
  texto : String
  simple : texto ≠ "" ∧ texto ≠ "." ∧ texto ≠ ".." ∧ texto.toList.all caracterSimple = true
  deriving DecidableEq

structure FileTag where
  file : Nombre
  tag : Nombre
  deriving DecidableEq

def stringEqualsIgnoreCase (a b : String) : Bool :=
  a.toList.map Char.toLower == b.toList.map Char.toLower

def initialFileBase : FileTag := ⟨⟨"initial_file", by decide⟩, ⟨"BASE", by decide⟩⟩

/-- The guard of every operation that must not touch initial_file:BASE. -/
def esProtegido (f : FileTag) : Bool :=
  stringEqualsIgnoreCase f.file.texto "initial_file" && stringEqualsIgnoreCase f.tag.texto "BASE"

theorem inicial_protegido : esProtegido initialFileBase = true := by decide

theorem sin_proteger_ne_inicial {f : FileTag} (h : esProtegido f = false) :
    f ≠ initialFileBase := by
  rintro rfl
  rw [inicial_protegido] at h
  contradiction

structure Superbloque where
  tamanioFilesystem : Nat
  tamanioBloque : Nat
  bloque_pos : 0 < tamanioBloque
  un_bloque : tamanioBloque ≤ tamanioFilesystem

def Superbloque.cantidadBloques (sb : Superbloque) : Nat :=
  sb.tamanioFilesystem / sb.tamanioBloque

/-- Ceiling division of TAMANIO, as every operation computes it. -/
def Superbloque.bloquesLogicos (sb : Superbloque) (tamanio : Nat) : Nat :=
  (tamanio + sb.tamanioBloque - 1) / sb.tamanioBloque

theorem cantidadBloques_pos (sb : Superbloque) : 0 < sb.cantidadBloques :=
  Nat.div_pos sb.un_bloque sb.bloque_pos

theorem bloquesLogicos_zero (sb : Superbloque) : sb.bloquesLogicos 0 = 0 := by
  have := sb.bloque_pos
  simp only [Superbloque.bloquesLogicos]
  exact Nat.div_eq_of_lt (by omega)

inductive EstadoArchivo where
  | workInProgress
  | commited
  deriving DecidableEq

/-- files/<file>/<tag>/: metadata.config and the links of logical_blocks/. -/
structure Carpeta where
  tamanio : Nat
  estado : EstadoArchivo
  blocks : List Nat
  logicos : Dir Nat Nat

structure Storage (Hash : Type) where
  bitmap : Nat → Bool
  bitmapEnDisco : Nat → Bool
  existe : Nat → Bool
  datos : Nat → Bytes
  carpetas : Dir FileTag Carpeta
  indice : Dir Hash Nat

namespace Storage
variable {Hash : Type} (s : Storage Hash)

/-- The block that logical_blocks/<i>.dat of a File:Tag is hard-linked to. -/
def destino (f : FileTag) (i : Nat) : Option Nat :=
  (s.carpetas.lookup f).bind fun c => c.logicos.lookup i

def Enlazado (b : Nat) : Prop := ∃ f i, s.destino f i = some b

/-- st_nlink: the physical path, when it exists, and the logical links. -/
def nlink (b : Nat) : Nat :=
  (if s.existe b then 1 else 0) + linkCount Carpeta.logicos s.carpetas b

def ponerCarpeta (f : FileTag) (c : Carpeta) : Storage Hash :=
  { s with carpetas := s.carpetas.insert f c }

/-- link(2) from a physical block to logical block i. -/
def enlazar (b : Nat) (f : FileTag) (i : Nat) : Option (Storage Hash) :=
  match s.carpetas.lookup f with
  | none => none
  | some c =>
    if s.existe b ∧ c.logicos.lookup i = none then
      some (s.ponerCarpeta f { c with logicos := c.logicos.insert i b })
    else none

/-- unlink(2) of logical block i. -/
def desenlazar (f : FileTag) (i : Nat) : Option (Storage Hash) :=
  match s.carpetas.lookup f with
  | none => none
  | some c =>
    match c.logicos.lookup i with
    | none => none
    | some _ => some (s.ponerCarpeta f { c with logicos := c.logicos.erase i })

/-- bitarray_set_bit -/
def ocupar (b : Nat) : Storage Hash := { s with bitmap := Function.update s.bitmap b true }

/-- bitarray_clean_bit -/
def liberar (b : Nat) : Storage Hash := { s with bitmap := Function.update s.bitmap b false }

def marcarBloqueLibre (sb : Superbloque) (b : Nat) : Storage Hash :=
  if sb.cantidadBloques ≤ b then s
  else if s.bitmap b = false then s
  else s.liberar b

def persistirBitmap : Storage Hash := { s with bitmapEnDisco := s.bitmap }

/-- fopen "wb" of a physical block: created if missing, emptied. -/
def abrirVacio (b : Nat) : Storage Hash :=
  { s with existe := Function.update s.existe b true, datos := Function.update s.datos b [] }

/-- fopen "r+b", fseek to 0, fwrite: what lies beyond the new bytes stays. -/
def escribirFisico (b : Nat) (contenido : Bytes) : Option (Storage Hash) :=
  if s.existe b then
    some { s with
      datos := Function.update s.datos b (contenido ++ (s.datos b).drop contenido.length) }
  else none

/-- unlink(2) of physical_blocks/block<b>.dat. -/
def borrarFisico (b : Nat) : Storage Hash :=
  { s with existe := Function.update s.existe b false }

end Storage

variable {Hash : Type} {s s' : Storage Hash} {f g : FileTag} {i j b : Nat} {c : Carpeta}

theorem destino_some : s.destino f i = some b ↔
    ∃ c, s.carpetas.lookup f = some c ∧ c.logicos.lookup i = some b := by
  exact Option.bind_eq_some_iff

theorem destino_of_lookup (h : s.carpetas.lookup f = some c) :
    s.destino f i = c.logicos.lookup i := by
  simp [Storage.destino, h]

theorem lookup_ponerCarpeta (s : Storage Hash) (f g : FileTag) (c : Carpeta) :
    (s.ponerCarpeta f c).carpetas.lookup g = if g = f then some c else s.carpetas.lookup g :=
  lookup_insert_ite s.carpetas f g c

theorem destino_ponerCarpeta (s : Storage Hash) (f g : FileTag) (c : Carpeta) (i : Nat) :
    (s.ponerCarpeta f c).destino g i = if g = f then c.logicos.lookup i else s.destino g i := by
  simp only [Storage.destino, lookup_ponerCarpeta]
  split <;> rfl

structure MismoDisco (s s' : Storage Hash) : Prop where
  bitmap : s'.bitmap = s.bitmap
  existe : s'.existe = s.existe
  datos : s'.datos = s.datos
  indice : s'.indice = s.indice

theorem mismoDisco_ponerCarpeta (s : Storage Hash) (f : FileTag) (c : Carpeta) :
    MismoDisco s (s.ponerCarpeta f c) := ⟨rfl, rfl, rfl, rfl⟩

theorem enlazar_some (h : s.enlazar b f i = some s') :
    ∃ c, s.carpetas.lookup f = some c ∧ s.existe b = true ∧ c.logicos.lookup i = none ∧
      s' = s.ponerCarpeta f { c with logicos := c.logicos.insert i b } := by
  unfold Storage.enlazar at h
  split at h
  · contradiction
  · rename_i c hc
    split at h
    · rename_i ok
      exact ⟨c, hc, ok.1, ok.2, (Option.some.inj h).symm⟩
    · contradiction

theorem enlazar_eq_some (hc : s.carpetas.lookup f = some c) (he : s.existe b = true)
    (free : c.logicos.lookup i = none) :
    s.enlazar b f i = some (s.ponerCarpeta f { c with logicos := c.logicos.insert i b }) := by
  simp [Storage.enlazar, hc, he, free]

theorem desenlazar_some (h : s.desenlazar f i = some s') :
    ∃ c x, s.carpetas.lookup f = some c ∧ c.logicos.lookup i = some x ∧
      s' = s.ponerCarpeta f { c with logicos := c.logicos.erase i } := by
  unfold Storage.desenlazar at h
  split at h
  · contradiction
  · rename_i c hc
    split at h
    · contradiction
    · rename_i x hx
      exact ⟨c, x, hc, hx, (Option.some.inj h).symm⟩

theorem desenlazar_eq_some {x : Nat} (hc : s.carpetas.lookup f = some c)
    (hx : c.logicos.lookup i = some x) :
    s.desenlazar f i = some (s.ponerCarpeta f { c with logicos := c.logicos.erase i }) := by
  simp [Storage.desenlazar, hc, hx]

theorem desenlazar_none : s.desenlazar f i = none ↔ s.destino f i = none := by
  unfold Storage.desenlazar Storage.destino
  cases s.carpetas.lookup f with
  | none => simp
  | some c => cases h : c.logicos.lookup i <;> simp [h]

theorem destino_enlazar (h : s.enlazar b f i = some s') (g : FileTag) (j : Nat) :
    s'.destino g j = if g = f ∧ j = i then some b else s.destino g j := by
  obtain ⟨c, hc, _, _, rfl⟩ := enlazar_some h
  rw [destino_ponerCarpeta]
  by_cases hg : g = f
  · subst hg
    simp [lookup_insert_ite, destino_of_lookup hc]
  · simp [hg]

theorem destino_desenlazar (h : s.desenlazar f i = some s') (g : FileTag) (j : Nat) :
    s'.destino g j = if g = f ∧ j = i then none else s.destino g j := by
  obtain ⟨c, x, hc, _, rfl⟩ := desenlazar_some h
  rw [destino_ponerCarpeta]
  by_cases hg : g = f
  · subst hg
    simp [lookup_erase_ite, destino_of_lookup hc]
  · simp [hg]

theorem not_enlazado_iff : linkCount Carpeta.logicos s.carpetas b = 0 ↔ ¬ s.Enlazado b := by
  rw [linkCount_eq_zero]
  simp only [Storage.Enlazado, not_exists, destino_some, not_and]
  constructor
  · intro h f i c hf hl
    exact h f c i hf hl
  · intro h f c i hf hl
    exact h f i c hf hl

theorem nlink_one_of_existe (he : s.existe b = true) : s.nlink b = 1 ↔ ¬ s.Enlazado b := by
  rw [← not_enlazado_iff]
  simp [Storage.nlink, he]

theorem nlink_le_one_of_existe (he : s.existe b = true) : s.nlink b ≤ 1 ↔ ¬ s.Enlazado b := by
  rw [← not_enlazado_iff]
  simp only [Storage.nlink, he, ↓reduceIte]
  omega

end StorageEstado
