import MasterOfFiles.Storage.PasosDeOperaciones
import MasterOfFiles.Lib.GuardedRuns

/-!
Requests of the Workers, one at a time, from a freshly formatted file system. A TRUNCATE here has
a size that is not negative and does not wrap; Truncados has any int.
-/
namespace StoragePedidos
open StorageEstado StorageArchivos StorageEscritura StorageCommit StoragePrimitivas
open StoragePasos LinkDirectory

inductive Pedido where
  | crear (f : FileTag)
  | truncar (f : FileTag) (tamanio : Nat)
  | tag (origen destino : FileTag)
  | escribir (f : FileTag) (bloque : Int) (contenido : Bytes)
  | flush (f : FileTag) (paginas : List Pagina) (cantidadPaginas : Int)
  | commit (f : FileTag)
  | eliminar (f : FileTag)

def Pedido.objetivo : Pedido → FileTag
  | .crear f => f
  | .truncar f _ => f
  | .tag _ destino => destino
  | .escribir f _ _ => f
  | .flush f _ _ => f
  | .commit f => f
  | .eliminar f => f

variable {Hash : Type} {sb : Superbloque} {s : Storage Hash} {f g : FileTag} {c : Carpeta}

/-- formatear_fs: every physical block zeroed, block 0 full of the character '0' and
    linked from initial_file:BASE. -/
def formatearFs (sb : Superbloque) : Storage Hash where
  bitmap := fun b => b == 0
  bitmapEnDisco := fun b => b == 0
  existe := fun b => decide (b < sb.cantidadBloques)
  datos := fun b => List.replicate sb.tamanioBloque (if b = 0 then 48 else 0)
  carpetas := AList.singleton initialFileBase carpetaBase
  indice := ∅

theorem lookup_formatearFs (f : FileTag) :
    (formatearFs sb : Storage Hash).carpetas.lookup f =
      if f = initialFileBase then some carpetaBase else none := by
  have h := lookup_insert_ite (∅ : Dir FileTag Carpeta) initialFileBase f carpetaBase
  rw [AList.insert_empty, AList.lookup_empty] at h
  exact h

theorem destino_formatearFs {i b : Nat}
    (h : (formatearFs sb : Storage Hash).destino f i = some b) : b = 0 := by
  obtain ⟨c, hc, hl⟩ := destino_some.mp h
  rw [lookup_formatearFs] at hc
  split at hc
  · cases hc
    have hs := lookup_insert_ite (∅ : Dir Nat Nat) 0 i 0
    rw [AList.insert_empty, AList.lookup_empty] at hs
    rw [carpetaBase, hs] at hl
    split at hl
    · exact (Option.some.inj hl).symm
    · contradiction
  · contradiction

theorem sano_formatearFs (sb : Superbloque) : Sano sb (formatearFs sb : Storage Hash) := by
  refine ⟨?_, ?_, by simp [lookup_formatearFs]⟩
  · intro f i b hd
    rw [destino_formatearFs hd]
    exact decide_eq_true (cantidadBloques_pos sb)
  · intro b hb
    rw [eq_of_beq hb]
    exact cantidadBloques_pos sb

theorem enUso_formatearFs (sb : Superbloque) : EnUso (formatearFs sb : Storage Hash) := by
  intro f i b hd
  rw [destino_formatearFs hd]
  rfl

variable [DecidableEq Hash]

def atender (sb : Superbloque) (md5 : Bytes → Hash) (s : Storage Hash) :
    Pedido → Bool × Storage Hash
  | .crear f => crearFile s f
  | .truncar f tamanio => truncarFile sb s f tamanio
  | .tag origen destino => tagFile s origen destino
  | .escribir f bloque contenido => escribirBloque sb s f bloque contenido
  | .flush f paginas cantidadPaginas => flushArchivo sb s f paginas cantidadPaginas
  | .commit f => realizarCommit sb md5 s f
  | .eliminar f => eliminarFileTag sb s f

def trasPedido (sb : Superbloque) (md5 : Bytes → Hash) (s : Storage Hash) (p : Pedido) :
    Storage Hash :=
  (atender sb md5 s p).2

def trasPedidos (sb : Superbloque) (md5 : Bytes → Hash) (ps : List Pedido) : Storage Hash :=
  ps.foldl (trasPedido sb md5) (formatearFs sb)

variable {md5 : Bytes → Hash} {p : Pedido}

theorem trasPedido_pasos {estricta : Prop} (apta : Apta sb estricta s)
    (noCommit : ∀ f, p ≠ .commit f) :
    Primitivas sb estricta p.objetivo s (trasPedido sb md5 s p) := by
  cases p with
  | crear f => exact crearFile_pasos s f
  | truncar f tamanio => exact truncarFile_pasos apta tamanio
  | tag origen destino => exact tagFile_pasos apta origen destino
  | escribir f bloque contenido => exact escribirBloque_pasos apta bloque contenido
  | flush f paginas cantidad => exact flushArchivo_pasos apta paginas cantidad
  | commit f => exact (noCommit f rfl).elim
  | eliminar f => exact eliminarFileTag_pasos apta

theorem trasPedido_commited (hc : s.carpetas.lookup p.objetivo = some c)
    (commited : c.estado = .commited) (noDelete : ∀ f, p ≠ .eliminar f) :
    trasPedido sb md5 s p = s := by
  have closed : verificarSiCommited s p.objetivo = true := by
    simp [verificarSiCommited, hc, commited]
  unfold trasPedido
  cases p with
  | crear f => simp only [Pedido.objetivo] at hc; simp [atender, crearFile, hc]
  | truncar f tamanio =>
    simp only [Pedido.objetivo] at closed
    simp only [atender, truncarFile, closed, ↓reduceIte]
    split <;> rfl
  | tag origen destino =>
    simp only [Pedido.objetivo] at hc
    simp only [atender, tagFile, hc]
    split
    · rfl
    · split <;> simp_all
  | escribir f bloque contenido =>
    simp only [Pedido.objetivo] at closed
    simp only [atender, escribirBloque, closed, ↓reduceIte]
    split <;> rfl
  | flush f paginas cantidad =>
    simp only [Pedido.objetivo] at hc closed
    simp only [atender, flushArchivo, hc, closed, ↓reduceIte]
    split <;> rfl
  | commit f =>
    simp only [Pedido.objetivo] at hc
    simp only [atender, realizarCommit, hc, commited, ↓reduceIte]
    split <;> rfl
  | eliminar f => exact (noDelete f rfl).elim

theorem trasPedido_base (sano : Sano sb s) (onBase : p.objetivo = initialFileBase) :
    trasPedido sb md5 s p = s := by
  by_cases hdel : ∃ f, p = .eliminar f
  · obtain ⟨f, rfl⟩ := hdel
    simp only [Pedido.objetivo] at onBase
    simp [trasPedido, atender, eliminarFileTag, onBase, inicial_protegido]
  · refine trasPedido_commited (c := carpetaBase) ?_ rfl fun f hf => hdel ⟨f, hf⟩
    rw [onBase]
    exact sano.base

/-! Histories on a disk of six one-byte blocks, for the concrete runs of later modules. -/

def discoDeSeis : Superbloque := ⟨6, 1, by decide, by decide⟩

def a1 : FileTag := ⟨⟨"A", by decide⟩, ⟨"1", by decide⟩⟩
def b1 : FileTag := ⟨⟨"B", by decide⟩, ⟨"1", by decide⟩⟩
def b2 : FileTag := ⟨⟨"B", by decide⟩, ⟨"2", by decide⟩⟩
def c1 : FileTag := ⟨⟨"C", by decide⟩, ⟨"1", by decide⟩⟩

def nuevoCon (f : FileTag) (byte : UInt8) : List Pedido :=
  [.crear f, .truncar f 1, .escribir f 0 [byte]]

end StoragePedidos
