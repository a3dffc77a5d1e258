import MasterOfFiles.Storage.Intercalados
import MasterOfFiles.Storage.Volcados
import MasterOfFiles.Storage.Tomas
import Mathlib.Tactic.IntervalCases

/-!
A DELETE and a FLUSH of two File:Tags, step by step. Each works on one block at a time
outside any mutex: DELETE from the stat that finds it without links to the section that
clears its bit, FLUSH from the section that reserves it to the link. As long as neither
takes the block the other is working on, no block in use is free or without its file.
-/
namespace StorageDeleteYFlush
open StorageEstado StorageArchivos StorageEscritura StoragePrimitivas StoragePasos StorageAcuerdo
open StorageBloquesEnUso StorageVolcados StorageTomas StorageIntercalados StoragePedidos
open LinkDirectory FirstFit GuardedRuns

variable {Hash : Type}

/-- The block that DELETE has found without links and not freed yet. -/
def enManosDelete (d : Delete) : Option Nat :=
  match d.pc with
  | .unlinkFisico i | .limpiarBit i | .limpiarFaltante i => some (d.bloques.getD i 0)
  | _ => none

/-- The block that FLUSH has reserved and not linked yet. -/
def enManosFlush (x : Flush) : Option Nat :=
  match x.pc with
  | .abrirOrigen _ n | .abrirDestino _ n _ | .leer _ n | .escribirCopia _ n _ => some n
  | .unlinkLogico _ n | .link _ n | .revertir n | .revertirLink _ n => some n
  | _ => none

def Apartado (sb : Superbloque) (x : Sistema Hash) : Quien → Prop
  | .delete => ∀ i, x.delete.pc = .stat i → enManosFlush x.flush ≠ some (x.delete.bloques.getD i 0)
  | .flush => ∀ p n, x.flush.pc = .reservar p →
      firstFree sb.cantidadBloques x.storage.bitmap = some n → enManosDelete x.delete ≠ some n

structure Acuerdan (s : Storage Hash) : Prop where
  bits : ∀ b, s.bitmap b = true ↔ b = 0 ∨ s.Enlazado b
  listas : ∀ f c, s.carpetas.lookup f = some c → Listado c
  fisicos : Fisicos s

variable {sb : Superbloque} {d f : FileTag} {x : Sistema Hash} {s s' : Storage Hash}

def creado (x : Flush) : Option Nat :=
  match x.pc with
  | .leer _ n | .escribirCopia _ n _ | .unlinkLogico _ n | .link _ n => some n
  | _ => none

def sinLink (x : Flush) : Option Nat :=
  match x.pc with
  | .link p _ => some p.i
  | _ => none

def deshace (x : Flush) : Prop :=
  match x.pc with
  | .revertirLink _ _ | .recrearLink _ => True
  | _ => False

structure Ordenado (f : FileTag) (x : Sistema Hash) : Prop where
  uso : BloquesEnUso x.storage
  suelto : ∀ b, enManosDelete x.delete = some b → ¬ x.storage.Enlazado b
  reservado : ∀ n, enManosFlush x.flush = some n →
    x.storage.bitmap n = true ∧ ¬ x.storage.Enlazado n
  aparte : ∀ n, enManosFlush x.flush = some n → enManosDelete x.delete ≠ some n
  abierto : ∀ n, creado x.flush = some n → x.storage.existe n = true
  hueco : ∀ i, sinLink x.flush = some i →
    ∃ c, x.storage.carpetas.lookup f = some c ∧ c.logicos.lookup i = none
  firme : ¬ deshace x.flush

theorem creado_enManos {y : Flush} {n : Nat} (h : creado y = some n) :
    enManosFlush y = some n := by
  unfold creado at h
  unfold enManosFlush
  split at h
  case h_5 => contradiction
  all_goals
    rename_i hpc
    rw [hpc]
    exact h

structure Quita (f : FileTag) (x : Sistema Hash) (d' : Delete) (s' : Storage Hash) : Prop where
  links : ∀ b, s'.Enlazado b → x.storage.Enlazado b
  bits : ∀ b, x.storage.bitmap b = true → s'.bitmap b = true ∨ enManosDelete x.delete = some b
  archivos : ∀ b, x.storage.existe b = true → s'.existe b = true ∨ enManosDelete x.delete = some b
  carpeta : s'.carpetas.lookup f = x.storage.carpetas.lookup f
  manos : ∀ b, enManosDelete d' = some b →
    ¬ x.storage.Enlazado b ∧ enManosFlush x.flush ≠ some b

theorem ordenado_quita (h : Ordenado f x) {d' : Delete} (q : Quita f x d' s') :
    Ordenado f { x with delete := d', storage := s' } := by
  have kept : ∀ b, s'.Enlazado b → enManosDelete x.delete ≠ some b :=
    fun b linked mine => h.suelto b mine (q.links b linked)
  refine ⟨?_, ?_, ?_, ?_, ?_, ?_, h.firme⟩
  · intro b linked
    obtain ⟨used, there⟩ := h.uso b (q.links b linked)
    exact ⟨(q.bits b used).resolve_right (kept b linked),
      (q.archivos b there).resolve_right (kept b linked)⟩
  · intro b mine linked
    exact (q.manos b mine).1 (q.links b linked)
  · intro n held
    obtain ⟨used, free⟩ := h.reservado n held
    exact ⟨(q.bits n used).resolve_right (h.aparte n held), fun linked => free (q.links n linked)⟩
  · intro n held mine
    exact (q.manos n mine).2 held
  · intro n made
    have held : enManosFlush x.flush = some n := creado_enManos made
    exact (q.archivos n (h.abierto n made)).resolve_right (h.aparte n held)
  · intro i gap
    obtain ⟨c, hc, free⟩ := h.hueco i gap
    exact ⟨c, q.carpeta.trans hc, free⟩

theorem quita_sigue (h : Ordenado f x) {d' : Delete}
    (same : ∀ b, enManosDelete d' = some b → enManosDelete x.delete = some b) :
    Quita f x d' x.storage :=
  ⟨fun _ l => l, fun _ l => .inl l, fun _ l => .inl l, rfl,
    fun b mine => ⟨h.suelto b (same b mine), fun held => h.aparte b held (same b mine)⟩⟩

theorem aStat_manos (d : Delete) (i : Nat) : enManosDelete (d.aStat i) = none := by
  by_cases more : i < d.bloques.length
  · simp only [Delete.aStat, if_pos more, enManosDelete]
  · simp only [Delete.aStat, if_neg more, enManosDelete]

theorem aUnlink_manos (d : Delete) (i : Nat) : enManosDelete (d.aUnlink i) = none := by
  unfold Delete.aUnlink
  split
  · rfl
  · exact aStat_manos d 0

theorem desenlazar_getD_mismo (s : Storage Hash) (d : FileTag) (i : Nat) :
    MismoDisco s ((s.desenlazar d i).getD s) ∧ ∀ g, g ≠ d →
      ((s.desenlazar d i).getD s).carpetas.lookup g = s.carpetas.lookup g := by
  cases h : s.desenlazar d i with
  | none => exact ⟨⟨rfl, rfl, rfl, rfl⟩, fun _ _ => rfl⟩
  | some s' =>
    obtain ⟨c, b, _, _, rfl⟩ := desenlazar_some h
    refine ⟨mismoDisco_ponerCarpeta s d _, fun g other => ?_⟩
    rw [Option.getD_some, lookup_ponerCarpeta, if_neg other]

theorem quita_liberar {b : Nat} (mine : enManosDelete x.delete = some b)
    {d' : Delete} (none_ : enManosDelete d' = none) :
    Quita f x d' (x.storage.liberar b) := by
  refine ⟨fun _ l => l, ?_, fun _ l => .inl l, rfl, ?_⟩
  · intro c used
    by_cases same : c = b
    · exact .inr (same ▸ mine)
    · exact .inl (by simp [Storage.liberar, same, used])
  · intro c hc
    rw [none_] at hc
    contradiction

theorem quita_desenlazar (ne : f ≠ d) (i : Nat) {d' : Delete}
    (none_ : enManosDelete d' = none) :
    Quita f x d' ((x.storage.desenlazar d i).getD x.storage) := by
  obtain ⟨same, others⟩ := desenlazar_getD_mismo x.storage d i
  refine ⟨(desenlazar_suelta x.storage d i).enlazados, ?_, ?_, others f ne, ?_⟩
  · intro b used
    exact .inl (by rw [same.bitmap]; exact used)
  · intro b there
    exact .inl (by rw [same.existe]; exact there)
  · intro b mine
    rw [none_] at mine
    contradiction

theorem quita_borrarFisico {b : Nat} (h : Ordenado f x) (mine : enManosDelete x.delete = some b)
    {d' : Delete} (still : enManosDelete d' = some b) :
    Quita f x d' (x.storage.borrarFisico b) := by
  refine ⟨fun _ l => l, fun _ l => .inl l, ?_, rfl, ?_⟩
  · intro c there
    by_cases same : c = b
    · exact .inr (same ▸ mine)
    · exact .inl (by simp only [Storage.borrarFisico, Function.update_of_ne same]; exact there)
  · intro c hc
    cases still.symm.trans hc
    exact ⟨h.suelto b mine, fun held => h.aparte b held mine⟩

theorem quita_borrarCarpeta (ne : f ≠ d) {d' : Delete} (none_ : enManosDelete d' = none) :
    Quita f x d' (borrarCarpeta x.storage d) := by
  refine ⟨?_, fun _ l => .inl l, fun _ l => .inl l, ?_, ?_⟩
  · rintro b ⟨g, j, hd⟩
    rw [destino_borrarCarpeta] at hd
    split at hd
    · contradiction
    · exact ⟨g, j, hd⟩
  · rw [lookup_borrarCarpeta, if_neg ne]
  · intro b mine
    rw [none_] at mine
    contradiction

theorem ordenado_suelta (h : Ordenado f x) {d' : Delete} (none_ : enManosDelete d' = none) :
    Ordenado f { x with delete := d' } :=
  ordenado_quita h (quita_sigue h fun b mine => by rw [none_] at mine; contradiction)

theorem ordenado_toma {b : Nat} (h : Ordenado f x) {d' : Delete}
    (mine : enManosDelete d' = some b) (free : ¬ x.storage.Enlazado b)
    (other : enManosFlush x.flush ≠ some b) : Ordenado f { x with delete := d' } := by
  refine ordenado_quita h ⟨fun _ l => l, fun _ l => .inl l, fun _ l => .inl l, rfl, ?_⟩
  intro c hc
  cases mine.symm.trans hc
  exact ⟨free, other⟩

theorem ordenado_delete (h : Ordenado f x) (ne : f ≠ d) (apart : Apartado sb x .delete) :
    Ordenado f (paso sb d f x .delete) := by
  unfold paso
  dsimp only
  unfold pasoDelete
  split
  · -- access
    split
    · exact ordenado_suelta h rfl
    · exact ordenado_suelta h rfl
  · -- abrirMetadata
    split
    · exact ordenado_suelta h rfl
    · exact ordenado_suelta h (aUnlink_manos _ 0)
  · -- unlinkLogico
    exact ordenado_quita h (quita_desenlazar ne _ (aUnlink_manos _ _))
  · -- stat: what it finds without links is not in the hands of FLUSH
    rename_i i hpc
    dsimp only
    split
    · rename_i there
      split
      · rename_i few
        exact ordenado_toma h rfl ((nlink_le_one_of_existe there).mp few) (apart i hpc)
      · exact ordenado_suelta h (aStat_manos _ _)
    · rename_i missing
      exact ordenado_toma h rfl (fun linked => missing (h.uso _ linked).2) (apart i hpc)
  · -- unlinkFisico
    rename_i i hpc
    have mine : enManosDelete x.delete = some (x.delete.bloques.getD i 0) := by
      rw [enManosDelete, hpc]
    exact ordenado_quita h (quita_borrarFisico h mine rfl)
  · -- limpiarBit
    rename_i i hpc
    have mine : enManosDelete x.delete = some (x.delete.bloques.getD i 0) := by
      rw [enManosDelete, hpc]
    exact ordenado_quita h (quita_liberar mine (aStat_manos _ _))
  · -- limpiarFaltante
    rename_i i hpc
    have mine : enManosDelete x.delete = some (x.delete.bloques.getD i 0) := by
      rw [enManosDelete, hpc]
    dsimp only
    split
    · exact ordenado_quita h (quita_liberar mine (aStat_manos _ _))
    · exact ordenado_suelta h (aStat_manos _ _)
  · -- persistir
    exact ordenado_quita h ⟨fun _ l => l, fun _ l => .inl l, fun _ l => .inl l, rfl,
      fun b mine => by contradiction⟩
  · -- rmRf
    exact ordenado_quita h (quita_borrarCarpeta ne rfl)
  · -- fin
    exact h

/-- FLUSH works on no block: between two pages, before the first or after the last. -/
structure SinManos (y : Flush) : Prop where
  manos : enManosFlush y = none
  creado : creado y = none
  gap : sinLink y = none
  firme : ¬ deshace y

theorem ordenado_sigue (h : Ordenado f x) {y : Flush}
    (links : ∀ b, s'.Enlazado b → x.storage.Enlazado b)
    (bits : s'.bitmap = x.storage.bitmap)
    (archivos : ∀ b, x.storage.existe b = true → s'.existe b = true)
    (manos : ∀ n, enManosFlush y = some n → enManosFlush x.flush = some n)
    (abierto : ∀ n, creado y = some n → s'.existe n = true)
    (hueco : ∀ i, sinLink y = some i →
      ∃ c, s'.carpetas.lookup f = some c ∧ c.logicos.lookup i = none)
    (firme : ¬ deshace y) : Ordenado f { x with flush := y, storage := s' } := by
  refine ⟨?_, ?_, ?_, fun n held => h.aparte n (manos n held), abierto, hueco, firme⟩
  · intro b linked
    obtain ⟨used, there⟩ := h.uso b (links b linked)
    exact ⟨by rw [bits]; exact used, archivos b there⟩
  · exact fun b mine linked => h.suelto b mine (links b linked)
  · intro n held
    obtain ⟨used, free⟩ := h.reservado n (manos n held)
    exact ⟨by rw [bits]; exact used, fun linked => free (links n linked)⟩

theorem ordenado_libre (h : Ordenado f x) {y : Flush} (idle : SinManos y)
    (links : ∀ b, s'.Enlazado b → x.storage.Enlazado b)
    (bits : s'.bitmap = x.storage.bitmap)
    (archivos : ∀ b, x.storage.existe b = true → s'.existe b = true) :
    Ordenado f { x with flush := y, storage := s' } := by
  refine ordenado_sigue h links bits archivos ?_ ?_ ?_ idle.firme
  · intro n held
    rw [idle.manos] at held
    contradiction
  · intro n made
    rw [idle.creado] at made
    contradiction
  · intro i gap
    rw [idle.gap] at gap
    contradiction

theorem sinManos_falla (y : Flush) : SinManos y.falla := ⟨rfl, rfl, rfl, id⟩

theorem sinManos_lista (y : Flush) (e : EscrituraPendiente) : SinManos (y.lista e) :=
  ⟨rfl, rfl, rfl, id⟩

theorem sinManos_aEscribir (y : Flush) : SinManos y.aEscribir := by
  unfold Flush.aEscribir
  split
  · exact ⟨rfl, rfl, rfl, id⟩
  · exact ⟨rfl, rfl, rfl, id⟩
  · exact ⟨rfl, rfl, rfl, id⟩

structure Copiando (y y' : Flush) (s s' : Storage Hash) : Prop where
  carpetas : s'.carpetas = s.carpetas
  bitmap : s'.bitmap = s.bitmap
  archivos : ∀ b, s.existe b = true → s'.existe b = true
  manos : enManosFlush y' = enManosFlush y
  abierto : ∀ n, creado y' = some n → s'.existe n = true ∨ creado y = some n
  gap : sinLink y' = none
  firme : ¬ deshace y'

/-- What one step of FLUSH can do. -/
inductive AvanceFlush (sb : Superbloque) (f : FileTag) (y : Flush) (s : Storage Hash) :
    Flush → Storage Hash → Prop where
  | libre {y' : Flush} {s' : Storage Hash} (idle : SinManos y')
      (carpetas : s'.carpetas = s.carpetas) (bitmap : s'.bitmap = s.bitmap)
      (existe : s'.existe = s.existe) : AvanceFlush sb f y s y' s'
  | reserva {p : EnTurno} {n : Nat} (hpc : y.pc = .reservar p)
      (hn : firstFree sb.cantidadBloques s.bitmap = some n) :
      AvanceFlush sb f y s { y with pc := .abrirOrigen p n } (s.ocupar n)
  | copia {y' : Flush} {s' : Storage Hash} (sigue : Copiando y y' s s') : AvanceFlush sb f y s y' s'
  | desenlaza {p : EnTurno} {n : Nat} {s' : Storage Hash} (hpc : y.pc = .unlinkLogico p n)
      (hu : s.desenlazar f p.i = some s') : AvanceFlush sb f y s { y with pc := .link p n } s'
  | enlaza {p : EnTurno} {n : Nat} {s' : Storage Hash} (hpc : y.pc = .link p n)
      (hl : s.enlazar n f p.i = some s') :
      AvanceFlush sb f y s (y.lista ⟨n, p.contenido, p.i, some n⟩) s'
  | sinEnlazar {p : EnTurno} {n : Nat} (hpc : y.pc = .link p n) (hl : s.enlazar n f p.i = none) :
      AvanceFlush sb f y s { y with pc := .revertirLink p n } s
  | revierte {n : Nat} (hpc : y.pc = .revertir n) : AvanceFlush sb f y s y.falla (s.liberar n)
  | revierteLink {p : EnTurno} {n : Nat} (hpc : y.pc = .revertirLink p n) :
      AvanceFlush sb f y s { y with pc := .recrearLink p } (s.liberar n)
  | recrea {p : EnTurno} (hpc : y.pc = .recrearLink p) :
      AvanceFlush sb f y s y.falla ((s.enlazar p.actual f p.i).getD s)
  | guarda {y' : Flush} {blocks : List Nat} (idle : SinManos y') :
      AvanceFlush sb f y s y' (guardarBlocks s f blocks)

theorem AvanceFlush.quieto {y y' : Flush} {s : Storage Hash} (idle : SinManos y') :
    AvanceFlush sb f y s y' s := .libre idle rfl rfl rfl

theorem avance_statLogico {y : Flush} {s : Storage Hash} (hpc : y.pc = .statLogico) :
    AvanceFlush sb f y s (pasoFlush sb f y s).1 (pasoFlush sb f y s).2 := by
  simp only [pasoFlush, hpc]
  split
  · exact .quieto ⟨rfl, rfl, rfl, id⟩
  split
  · exact .quieto (sinManos_falla _)
  split
  · exact .quieto (sinManos_falla _)
  split
  · exact .quieto (sinManos_falla _)
  split
  · exact .quieto (sinManos_lista _ _)
  · exact .quieto ⟨rfl, rfl, rfl, id⟩

theorem avance_reservar {y : Flush} {s : Storage Hash} {p : EnTurno} (hpc : y.pc = .reservar p) :
    AvanceFlush sb f y s (pasoFlush sb f y s).1 (pasoFlush sb f y s).2 := by
  simp only [pasoFlush, hpc]
  split
  · exact .quieto (sinManos_falla _)
  · rename_i n hn
    exact .reserva hpc hn

theorem avance_abrirDestino {y : Flush} {s : Storage Hash} {p : EnTurno} {n : Nat} {origin : Bool}
    (hpc : y.pc = .abrirDestino p n origin) :
    AvanceFlush sb f y s (pasoFlush sb f y s).1 (pasoFlush sb f y s).2 := by
  simp only [pasoFlush, hpc]
  have held : enManosFlush y = some n := by rw [enManosFlush, hpc]
  have files : ∀ b, s.existe b = true → (s.abrirVacio n).existe b = true := by
    intro b there
    simp only [Storage.abrirVacio, Function.update_apply]
    split
    · rfl
    · exact there
  have opened : (s.abrirVacio n).existe n = true := by simp [Storage.abrirVacio]
  cases origin with
  | true =>
    refine .copia ⟨rfl, rfl, files, held.symm, fun m made => .inl ?_, rfl, id⟩
    cases made
    exact opened
  | false =>
    exact .copia ⟨rfl, rfl, files, held.symm, fun m made => by contradiction, rfl, id⟩

theorem avance_unlinkLogico {y : Flush} {s : Storage Hash} {p : EnTurno} {n : Nat}
    (hpc : y.pc = .unlinkLogico p n) :
    AvanceFlush sb f y s (pasoFlush sb f y s).1 (pasoFlush sb f y s).2 := by
  simp only [pasoFlush, hpc]
  have held : enManosFlush y = some n := by rw [enManosFlush, hpc]
  split
  · exact .copia ⟨rfl, rfl, fun _ l => l, held.symm, fun m made => by contradiction, rfl, id⟩
  · rename_i s' hu
    exact .desenlaza hpc hu

theorem avance_link {y : Flush} {s : Storage Hash} {p : EnTurno} {n : Nat}
    (hpc : y.pc = .link p n) :
    AvanceFlush sb f y s (pasoFlush sb f y s).1 (pasoFlush sb f y s).2 := by
  simp only [pasoFlush, hpc]
  split
  · rename_i hl
    exact .sinEnlazar hpc hl
  · rename_i s' hl
    exact .enlaza hpc hl

theorem avance_abrirFinal {y : Flush} {s : Storage Hash} (hpc : y.pc = .abrirFinal) :
    AvanceFlush sb f y s (pasoFlush sb f y s).1 (pasoFlush sb f y s).2 := by
  simp only [pasoFlush, hpc]
  split
  · exact .quieto (sinManos_aEscribir _)
  split
  · exact .quieto ⟨rfl, rfl, rfl, id⟩
  · exact .quieto (sinManos_aEscribir _)

theorem pasoFlush_avance (sb : Superbloque) (f : FileTag) (y : Flush) (s : Storage Hash) :
    AvanceFlush sb f y s (pasoFlush sb f y s).1 (pasoFlush sb f y s).2 := by
  cases hpc : y.pc with
  | access | verificarEstado | abrirMetadata =>
    simp only [pasoFlush, hpc]
    split <;> exact .quieto ⟨rfl, rfl, rfl, id⟩
  | statLogico => exact avance_statLogico hpc
  | reservar p => exact avance_reservar hpc
  | abrirOrigen p n =>
    simp only [pasoFlush, hpc]
    have held : enManosFlush y = some n := by rw [enManosFlush, hpc]
    exact .copia ⟨rfl, rfl, fun _ l => l, held.symm, fun m made => by contradiction, rfl, id⟩
  | abrirDestino p n origin => exact avance_abrirDestino hpc
  | leer p n | escribirCopia p n buffer =>
    simp only [pasoFlush, hpc]
    have held : enManosFlush y = some n := by rw [enManosFlush, hpc]
    have made : creado y = some n := by rw [creado, hpc]
    exact .copia ⟨rfl, rfl, fun _ l => l, held.symm, fun m hm => .inr (made.trans hm), rfl, id⟩
  | unlinkLogico p n => exact avance_unlinkLogico hpc
  | link p n => exact avance_link hpc
  | revertir n =>
    simp only [pasoFlush, hpc]
    exact .revierte hpc
  | revertirLink p n =>
    simp only [pasoFlush, hpc]
    exact .revierteLink hpc
  | recrearLink p =>
    simp only [pasoFlush, hpc]
    exact .recrea hpc
  | guardarMetadata =>
    simp only [pasoFlush, hpc]
    split
    · exact .guarda (sinManos_aEscribir _)
    · exact .quieto (sinManos_aEscribir _)
  | abrirFinal => exact avance_abrirFinal hpc
  | escribirFinal e =>
    simp only [pasoFlush, hpc]
    exact .libre (sinManos_aEscribir _) rfl rfl rfl
  | persistir =>
    simp only [pasoFlush, hpc]
    exact .libre ⟨rfl, rfl, rfl, id⟩ rfl rfl rfl
  | fin ok =>
    simp only [pasoFlush, hpc]
    exact .quieto ⟨by rw [enManosFlush, hpc], by rw [creado, hpc], by rw [sinLink, hpc],
      by rw [deshace, hpc]; exact id⟩

theorem enlazado_carpetas (same : s'.carpetas = s.carpetas) {b : Nat} (linked : s'.Enlazado b) :
    s.Enlazado b := by
  obtain ⟨g, j, hd⟩ := linked
  refine ⟨g, j, ?_⟩
  rw [Storage.destino, ← same]
  exact hd

theorem ordenado_reservar (h : Ordenado f x) {p : EnTurno} {n : Nat}
    (hn : firstFree sb.cantidadBloques x.storage.bitmap = some n)
    (apart : enManosDelete x.delete ≠ some n) :
    Ordenado f { x with flush := { x.flush with pc := .abrirOrigen p n },
                        storage := x.storage.ocupar n } := by
  have free : ¬ x.storage.Enlazado n := by
    intro linked
    have clear := (firstFree_some hn).2.2
    rw [(h.uso n linked).1] at clear
    contradiction
  have set_ : ∀ b, x.storage.bitmap b = true → (x.storage.ocupar n).bitmap b = true := by
    intro b used
    simp only [Storage.ocupar, Function.update_apply]
    split
    · rfl
    · exact used
  refine ⟨?_, h.suelto, ?_, ?_, fun m made => by contradiction, fun i gap => by contradiction, id⟩
  · intro b linked
    exact ⟨set_ b (h.uso b linked).1, (h.uso b linked).2⟩
  · intro m held
    cases held
    exact ⟨by simp [Storage.ocupar], free⟩
  · intro m held
    cases held
    exact apart

theorem ordenado_link (h : Ordenado f x) {y : Flush} (idle : SinManos y) {n i : Nat}
    (held : enManosFlush x.flush = some n) (made : creado x.flush = some n)
    (linked : x.storage.enlazar n f i = some s') :
    Ordenado f { x with flush := y, storage := s' } := by
  obtain ⟨used, _⟩ := h.reservado n held
  have there := h.abierto n made
  have news : ∀ b, s'.Enlazado b → b = n ∨ x.storage.Enlazado b := by
    rintro b ⟨g, j, hd⟩
    rw [destino_enlazar linked] at hd
    split at hd
    · exact .inl (Option.some.inj hd).symm
    · exact .inr ⟨g, j, hd⟩
  obtain ⟨c, _, _, _, rfl⟩ := enlazar_some linked
  refine ⟨?_, ?_, ?_, ?_, ?_, ?_, idle.firme⟩
  · intro b hb
    rcases news b hb with rfl | old
    · exact ⟨used, there⟩
    · exact h.uso b old
  · intro b mine hb
    rcases news b hb with rfl | old
    · exact h.aparte b held mine
    · exact h.suelto b mine old
  · intro m hm
    rw [idle.manos] at hm
    contradiction
  · intro m hm
    rw [idle.manos] at hm
    contradiction
  · intro m hm
    rw [idle.creado] at hm
    contradiction
  · intro j gap
    rw [idle.gap] at gap
    contradiction

theorem ordenado_revertir (h : Ordenado f x) {y : Flush} (idle : SinManos y) {n : Nat}
    (held : enManosFlush x.flush = some n) :
    Ordenado f { x with flush := y, storage := x.storage.liberar n } := by
  refine ⟨?_, h.suelto, ?_, ?_, ?_, ?_, idle.firme⟩
  · intro b linked
    have ne : b ≠ n := by
      rintro rfl
      exact (h.reservado b held).2 linked
    obtain ⟨used, there⟩ := h.uso b linked
    exact ⟨by simp only [Storage.liberar, Function.update_of_ne ne]; exact used, there⟩
  · intro m hm
    rw [idle.manos] at hm
    contradiction
  · intro m hm
    rw [idle.manos] at hm
    contradiction
  · intro m hm
    rw [idle.creado] at hm
    contradiction
  · intro j gap
    rw [idle.gap] at gap
    contradiction

theorem ordenado_flush (h : Ordenado f x) (apart : Apartado sb x .flush) :
    Ordenado f (paso sb d f x .flush) := by
  have step := pasoFlush_avance sb f x.flush x.storage
  unfold paso
  dsimp only
  generalize (pasoFlush sb f x.flush x.storage).1 = y' at step ⊢
  generalize (pasoFlush sb f x.flush x.storage).2 = s' at step ⊢
  cases step with
  | libre idle carpetas bitmap existe =>
    exact ordenado_libre h idle (fun _ l => enlazado_carpetas carpetas l) bitmap
      (fun b there => by rw [existe]; exact there)
  | @reserva p n hpc hn => exact ordenado_reservar h hn (apart p n hpc hn)
  | copia sigue =>
    refine ordenado_sigue h (fun _ l => enlazado_carpetas sigue.carpetas l) sigue.bitmap
      sigue.archivos (fun m held => sigue.manos.symm.trans held) ?_ ?_ sigue.firme
    · intro m made
      rcases sigue.abierto m made with there | before
      · exact there
      · exact sigue.archivos m (h.abierto m before)
    · intro i gap
      rw [sigue.gap] at gap
      contradiction
  | @desenlaza p n s' hpc hu =>
    have held : enManosFlush x.flush = some n := by rw [enManosFlush, hpc]
    have made : creado x.flush = some n := by rw [creado, hpc]
    have fewer := (desenlazar_suelta x.storage f p.i).enlazados
    rw [hu, Option.getD_some] at fewer
    obtain ⟨c, b, _, _, rfl⟩ := desenlazar_some hu
    refine ordenado_sigue h fewer rfl (fun _ l => l) (fun m hm => held.trans hm)
      (fun m hm => h.abierto m (made.trans hm)) ?_ id
    intro i gap
    cases gap
    exact ⟨_, by rw [lookup_ponerCarpeta, if_pos rfl], AList.lookup_erase p.i c.logicos⟩
  | enlaza hpc hl =>
    exact ordenado_link h (sinManos_lista _ _) (by rw [enManosFlush, hpc]) (by rw [creado, hpc]) hl
  | @sinEnlazar p n hpc hl =>
    -- the name is free, the folder there and the block has its file: link(2) does not fail
    obtain ⟨c, hc, free⟩ := h.hueco p.i (by rw [sinLink, hpc])
    rw [enlazar_eq_some hc (h.abierto n (by rw [creado, hpc])) free] at hl
    contradiction
  | revierte hpc => exact ordenado_revertir h (sinManos_falla _) (by rw [enManosFlush, hpc])
  | revierteLink hpc => exact (h.firme (by rw [deshace, hpc]; trivial)).elim
  | recrea hpc => exact (h.firme (by rw [deshace, hpc]; trivial)).elim
  | @guarda y' blocks idle =>
    have same := guardarBlocks_mismo x.storage f blocks
    refine ordenado_libre h idle ?_ same.bitmap (fun b there => by rw [same.existe]; exact there)
    rintro b ⟨g, j, hd⟩
    rw [destino_guardarBlocks] at hd
    exact ⟨g, j, hd⟩

def inicial (s : Storage Hash) (paginas : List Pagina) (cantidad : Int) : Sistema Hash :=
  ⟨s, Delete.inicial, Flush.inicial paginas cantidad⟩

theorem ordenado_inicial (agree : Acuerdan s) (f : FileTag) (paginas : List Pagina)
    (cantidad : Int) : Ordenado f (inicial s paginas cantidad) := by
  refine ⟨?_, fun b mine => by contradiction, fun n held => by contradiction,
    fun n held => by contradiction, fun n made => by contradiction,
    fun i gap => by contradiction, id⟩
  intro b linked
  refine ⟨(agree.bits b).mpr (.inr linked), ?_⟩
  obtain ⟨g, j, hd⟩ := linked
  exact agree.fisicos g j b hd

theorem ordenado_paso (ne : f ≠ d) (x : Sistema Hash) (quien : Quien) (h : Ordenado f x)
    (apart : Apartado sb x quien) : Ordenado f (paso sb d f x quien) := by
  cases quien with
  | delete => exact ordenado_delete h ne apart
  | flush => exact ordenado_flush h apart

/-- In every interleaving whose steps keep apart, every state reached has each block in use
    marked and with its file. -/
theorem apartados_sin_perdidas (sb : Superbloque) (ne : f ≠ d) (agree : Acuerdan s)
    (paginas : List Pagina) (cantidad : Int) {turnos : List Quien}
    (apart : Along (paso sb d f) (Apartado sb) (inicial s paginas cantidad) turnos) :
    ∀ pre, pre <+: turnos →
      BloquesEnUso (pre.foldl (paso sb d f) (inicial s paginas cantidad)).storage := by
  have step : ∀ (x : Sistema Hash) quien, Ordenado f x → Apartado sb x quien →
      Ordenado f (paso sb d f x quien) :=
    ordenado_paso ne
  have all := invariant_on_prefixes (Ordenado f) step
    (ordenado_inicial agree f paginas cantidad) apart
  exact fun pre hp => (all pre hp).uso

/-- The entry of BLOCKS that DELETE looks at. -/
def mirando (d : Delete) : Option Nat :=
  match d.pc with
  | .stat i | .unlinkFisico i | .limpiarBit i | .limpiarFaltante i => some i
  | _ => none

/-- The entries of BLOCKS that DELETE has not done with. -/
def porVer (d : Delete) : List Nat :=
  match d.pc with
  | .unlinkLogico _ => d.bloques
  | .stat i | .unlinkFisico i | .limpiarBit i | .limpiarFaltante i => d.bloques.drop i
  | _ => []

/-- A block that BLOCKS of d repeats is linked from a third File:Tag, as block 0 is from
    initial_file:BASE. -/
def RepiteAjenos (s : Storage Hash) (d f : FileTag) : Prop :=
  ∀ c, s.carpetas.lookup d = some c → ∀ (i j b : Nat), i < j → c.blocks[i]? = some b →
    c.blocks[j]? = some b → ∃ g k, g ≠ d ∧ g ≠ f ∧ s.destino g k = some b

theorem enlazar_ajena {b i : Nat} (linked : s.enlazar b f i = some s') {g : FileTag}
    (other : g ≠ f) : s'.carpetas.lookup g = s.carpetas.lookup g := by
  obtain ⟨c, _, _, _, rfl⟩ := enlazar_some linked
  rw [lookup_ponerCarpeta, if_neg other]

theorem pasoFlush_ajena (sb : Superbloque) (y : Flush) (s : Storage Hash) {g : FileTag}
    (other : g ≠ f) : (pasoFlush sb f y s).2.carpetas.lookup g = s.carpetas.lookup g := by
  have step := pasoFlush_avance sb f y s
  generalize (pasoFlush sb f y s).1 = y' at step
  generalize (pasoFlush sb f y s).2 = s' at step ⊢
  cases step with
  | libre idle carpetas bitmap existe => rw [carpetas]
  | reserva hpc hn => rfl
  | copia sigue => rw [sigue.carpetas]
  | desenlaza hpc hu =>
    obtain ⟨c, b, _, _, rfl⟩ := desenlazar_some hu
    rw [lookup_ponerCarpeta, if_neg other]
  | enlaza hpc hl => exact enlazar_ajena hl other
  | sinEnlazar hpc hl => rfl
  | revierte hpc => rfl
  | revierteLink hpc => rfl
  | @recrea p hpc =>
    cases hl : s.enlazar p.actual f p.i with
    | none => rfl
    | some s' => exact enlazar_ajena hl other
  | guarda idle => exact guardarBlocks_ajena s _ other

/-- No entry that DELETE has still to look at can be taken by FLUSH. -/
structure Vigilado (d f : FileTag) (s₀ : Storage Hash) (x : Sistema Hash) : Prop where
  ajenas : ∀ g, g ≠ d → g ≠ f → x.storage.carpetas.lookup g = s₀.carpetas.lookup g
  sinLeer : x.delete.pc = .access ∨ x.delete.pc = .abrirMetadata →
    x.storage.carpetas.lookup d = s₀.carpetas.lookup d
  leida : porVer x.delete ≠ [] → ∃ c, s₀.carpetas.lookup d = some c ∧ x.delete.bloques = c.blocks
  enRango : ∀ i, mirando x.delete = some i → i < x.delete.bloques.length
  tomados : ∀ b ∈ porVer x.delete,
    x.storage.bitmap b = true ∧ enManosFlush x.flush ≠ some b

theorem getD_mem_drop {l : List Nat} {i : Nat} (inside : i < l.length) :
    l.getD i 0 ∈ l.drop i := by
  rw [List.drop_eq_getElem_cons inside, List.getD_eq_getElem?_getD,
    List.getElem?_eq_getElem inside]
  exact List.mem_cons_self

theorem porVer_mirando {y : Delete} {i : Nat} (looks : mirando y = some i) :
    porVer y = y.bloques.drop i := by
  unfold mirando at looks
  unfold porVer
  split at looks
  case h_5 => contradiction
  all_goals
    rename_i hpc
    cases looks
    rw [hpc]

theorem manos_mirando {y : Delete} {b : Nat} (mine : enManosDelete y = some b) :
    ∃ i, mirando y = some i ∧ y.bloques.getD i 0 = b := by
  unfold enManosDelete at mine
  unfold mirando
  split at mine
  case h_4 => contradiction
  all_goals
    rename_i i hpc
    rw [hpc]
    exact ⟨i, rfl, Option.some.inj mine⟩

theorem apartado_vigilado {s₀ : Storage Hash} (v : Vigilado d f s₀ x) (quien : Quien) :
    Apartado sb x quien := by
  cases quien with
  | delete =>
    intro i hpc
    have looks : mirando x.delete = some i := by rw [mirando, hpc]
    have listed : x.delete.bloques.getD i 0 ∈ porVer x.delete := by
      rw [porVer_mirando looks]
      exact getD_mem_drop (v.enRango i looks)
    exact (v.tomados _ listed).2
  | flush =>
    intro p n _ hn mine
    obtain ⟨i, looks, same⟩ := manos_mirando mine
    have listed : n ∈ porVer x.delete := by
      rw [porVer_mirando looks, ← same]
      exact getD_mem_drop (v.enRango i looks)
    have used := (v.tomados n listed).1
    have free := (firstFree_some hn).2.2
    rw [used] at free
    contradiction

structure Leida (y y' : Delete) (quedan : List Nat) : Prop where
  bloques : y'.bloques = y.bloques
  quedan : porVer y' = quedan
  enRango : ∀ k, mirando y' = some k → k < y.bloques.length
  tarde : ¬ (y'.pc = .access ∨ y'.pc = .abrirMetadata)

theorem leida_aStat (y : Delete) (i : Nat) : Leida y (y.aStat i) (y.bloques.drop i) := by
  by_cases more : i < y.bloques.length
  · have start : y.aStat i = { y with pc := .stat i } := by rw [Delete.aStat, if_pos more]
    rw [start]
    refine ⟨rfl, rfl, ?_, by simp⟩
    intro k looks
    cases looks
    exact more
  · have last : y.aStat i = { y with pc := .persistir } := by rw [Delete.aStat, if_neg more]
    rw [last]
    refine ⟨rfl, ?_, fun k looks => by contradiction, by simp⟩
    exact (List.drop_eq_nil_of_le (Nat.le_of_not_lt more)).symm

theorem leida_aUnlink (y : Delete) (i : Nat) : Leida y (y.aUnlink i) y.bloques := by
  by_cases more : i < y.bloques.length
  · have start : y.aUnlink i = { y with pc := .unlinkLogico i } := by
      rw [Delete.aUnlink, if_pos more]
    rw [start]
    exact ⟨rfl, rfl, fun k looks => by contradiction, by simp⟩
  · have last : y.aUnlink i = y.aStat 0 := by rw [Delete.aUnlink, if_neg more]
    rw [last]
    exact leida_aStat y 0

theorem vigilado_mueve {s₀ : Storage Hash} (v : Vigilado d f s₀ x) {y : Delete}
    {quedan : List Nat} (read : Leida x.delete y quedan)
    (fewer : ∀ b ∈ quedan, b ∈ porVer x.delete)
    (ajenas : ∀ g, g ≠ d → s'.carpetas.lookup g = x.storage.carpetas.lookup g)
    (bits : ∀ b ∈ quedan, s'.bitmap b = x.storage.bitmap b) :
    Vigilado d f s₀ { x with delete := y, storage := s' } := by
  refine ⟨fun g hd hf => (ajenas g hd).trans (v.ajenas g hd hf),
    fun early => (read.tarde early).elim, ?_, ?_, ?_⟩
  · intro some_
    obtain ⟨b, hb⟩ := List.exists_mem_of_ne_nil _ some_
    rw [read.quedan] at hb
    obtain ⟨c, hc, list⟩ := v.leida (List.ne_nil_of_mem (fewer b hb))
    exact ⟨c, hc, read.bloques.trans list⟩
  · intro k looks
    rw [read.bloques]
    exact read.enRango k looks
  · intro b hb
    rw [read.quedan] at hb
    obtain ⟨used, free⟩ := v.tomados b (fewer b hb)
    exact ⟨by rw [bits b hb]; exact used, free⟩

theorem vigilado_sigue {s₀ : Storage Hash} (v : Vigilado d f s₀ x) {y : Delete}
    {quedan : List Nat} (read : Leida x.delete y quedan)
    (fewer : ∀ b ∈ quedan, b ∈ porVer x.delete) :
    Vigilado d f s₀ { x with delete := y } :=
  vigilado_mueve v read fewer (fun _ _ => rfl) (fun _ _ => rfl)

theorem entrada_unica {s₀ : Storage Hash} (h : Ordenado f x) (v : Vigilado d f s₀ x)
    (repite : RepiteAjenos s₀ d f) {i b : Nat} (looks : mirando x.delete = some i)
    (entry : x.delete.bloques.getD i 0 = b) (mine : enManosDelete x.delete = some b) :
    b ∉ x.delete.bloques.drop (i + 1) := by
  intro again
  have inside := v.enRango i looks
  have listed : porVer x.delete ≠ [] := by
    rw [porVer_mirando looks]
    exact List.ne_nil_of_mem (getD_mem_drop inside)
  obtain ⟨c, hc, list⟩ := v.leida listed
  have first : c.blocks[i]? = some b := by
    rw [← list, List.getElem?_eq_getElem inside, ← entry, List.getD_eq_getElem?_getD,
      List.getElem?_eq_getElem inside, Option.getD_some]
  obtain ⟨k, hk⟩ := List.mem_iff_getElem?.mp again
  rw [List.getElem?_drop, list] at hk
  obtain ⟨g, j, hd, hf, link⟩ := repite c hc i (i + 1 + k) b (by omega) first hk
  have still : x.storage.destino g j = some b := by
    rw [← link]
    simp only [Storage.destino, v.ajenas g hd hf]
  exact h.suelto b mine ⟨g, j, still⟩

theorem vigilado_libera {s₀ : Storage Hash} (h : Ordenado f x) (v : Vigilado d f s₀ x)
    (repite : RepiteAjenos s₀ d f) {i : Nat} (looks : mirando x.delete = some i)
    (mine : enManosDelete x.delete = some (x.delete.bloques.getD i 0)) :
    Vigilado d f s₀ { x with
      delete := x.delete.aStat (i + 1)
      storage := x.storage.liberar (x.delete.bloques.getD i 0) } := by
  have unique := entrada_unica h v repite looks rfl mine
  refine vigilado_mueve v (leida_aStat x.delete (i + 1)) ?_ (fun _ _ => rfl) ?_
  · intro b hb
    rw [porVer_mirando looks]
    exact List.drop_subset_drop_left x.delete.bloques (Nat.le_succ i) hb
  · intro b hb
    have ne : b ≠ x.delete.bloques.getD i 0 := by
      rintro rfl
      exact unique hb
    simp only [Storage.liberar, Function.update_of_ne ne]

theorem mem_porVer {y : Delete} {i k : Nat} (looks : mirando y = some i) (later : i ≤ k) :
    ∀ b ∈ y.bloques.drop k, b ∈ porVer y := by
  intro b hb
  rw [porVer_mirando looks]
  exact List.drop_subset_drop_left y.bloques later hb

theorem leida_mirando {s₀ : Storage Hash} {i : Nat} {pc : PasoDelete} (v : Vigilado d f s₀ x)
    (looks : mirando x.delete = some i)
    (left : porVer { x.delete with pc := pc } = x.delete.bloques.drop i)
    (still : mirando { x.delete with pc := pc } = some i) :
    Leida x.delete { x.delete with pc := pc } (x.delete.bloques.drop i) := by
  refine ⟨rfl, left, ?_, ?_⟩
  · intro k hk
    cases still.symm.trans hk
    exact v.enRango i looks
  · rintro (early | early) <;> (simp only at early; subst early; contradiction)

theorem vigilado_termina {s₀ : Storage Hash} {pc : PasoDelete} (v : Vigilado d f s₀ x)
    (read : Leida x.delete { x.delete with pc := pc } []) :
    Vigilado d f s₀ { x with delete := { x.delete with pc := pc } } :=
  vigilado_sigue v read fun b hb => by contradiction

theorem vigilado_lee {s₀ : Storage Hash}
    (listas : ∀ c, s₀.carpetas.lookup d = some c → Listado c) (h : Ordenado f x)
    (v : Vigilado d f s₀ x) (folder : x.storage.carpetas.lookup d = s₀.carpetas.lookup d)
    (hc : x.storage.carpetas.lookup d = some c) :
    Vigilado d f s₀
      { x with delete := Delete.aUnlink { x.delete with bloques := c.blocks } 0 } := by
  have read := leida_aUnlink { x.delete with bloques := c.blocks } 0
  refine ⟨v.ajenas, fun early => (read.tarde early).elim,
    fun _ => ⟨c, folder.symm.trans hc, read.bloques⟩, fun k looks => ?_, ?_⟩
  · rw [read.bloques]
    exact read.enRango k looks
  · -- the entries are in use, and what FLUSH works on is not
    intro b hb
    rw [read.quedan] at hb
    obtain ⟨k, hk⟩ := List.mem_iff_getElem?.mp hb
    have linked : x.storage.Enlazado b :=
      ⟨d, k, by rw [destino_listado (listas c (folder.symm.trans hc)) hc]; exact hk⟩
    exact ⟨(h.uso b linked).1, fun held => (h.reservado b held).2 linked⟩

theorem vigilado_delete {s₀ : Storage Hash}
    (listas : ∀ c, s₀.carpetas.lookup d = some c → Listado c) (repite : RepiteAjenos s₀ d f)
    (h : Ordenado f x) (v : Vigilado d f s₀ x) : Vigilado d f s₀ (paso sb d f x .delete) := by
  unfold paso
  dsimp only
  unfold pasoDelete
  split
  · -- access
    rename_i hpc
    split
    · exact vigilado_termina v ⟨rfl, rfl, fun k looks => by contradiction, by simp⟩
    · exact ⟨v.ajenas, fun _ => v.sinLeer (.inl hpc), fun some_ => (some_ rfl).elim,
        fun i looks => by contradiction, fun b hb => by contradiction⟩
  · -- abrirMetadata
    rename_i hpc
    split
    · exact vigilado_termina v ⟨rfl, rfl, fun k looks => by contradiction, by simp⟩
    · rename_i c hc
      exact vigilado_lee listas h v (v.sinLeer (.inr hpc)) hc
  · -- unlinkLogico
    rename_i i hpc
    obtain ⟨disk, others⟩ := desenlazar_getD_mismo x.storage d i
    refine vigilado_mueve v (leida_aUnlink x.delete (i + 1)) ?_ others ?_
    · intro b hb
      rw [porVer, hpc]
      exact hb
    · intro b _
      rw [disk.bitmap]
  · -- stat
    rename_i i hpc
    have looks : mirando x.delete = some i := by rw [mirando, hpc]
    dsimp only
    split
    · split
      · exact vigilado_sigue v (leida_mirando v looks rfl rfl) (mem_porVer looks (Nat.le_refl i))
      · exact vigilado_sigue v (leida_aStat x.delete (i + 1)) (mem_porVer looks (Nat.le_succ i))
    · exact vigilado_sigue v (leida_mirando v looks rfl rfl) (mem_porVer looks (Nat.le_refl i))
  · -- unlinkFisico
    rename_i i hpc
    have looks : mirando x.delete = some i := by rw [mirando, hpc]
    exact vigilado_mueve v (leida_mirando v looks rfl rfl) (mem_porVer looks (Nat.le_refl i))
      (fun _ _ => rfl) (fun _ _ => rfl)
  · -- limpiarBit
    rename_i i hpc
    exact vigilado_libera h v repite (by rw [mirando, hpc]) (by rw [enManosDelete, hpc])
  · -- limpiarFaltante
    rename_i i hpc
    have looks : mirando x.delete = some i := by rw [mirando, hpc]
    dsimp only
    split
    · exact vigilado_libera h v repite looks (by rw [enManosDelete, hpc])
    · exact vigilado_sigue v (leida_aStat x.delete (i + 1)) (mem_porVer looks (Nat.le_succ i))
  · -- persistir
    exact vigilado_mueve v ⟨rfl, rfl, fun k looks => by contradiction, by simp⟩
      (fun b hb => by contradiction) (fun _ _ => rfl) (fun _ _ => rfl)
  · -- rmRf
    refine vigilado_mueve v ⟨rfl, rfl, fun k looks => by contradiction, by simp⟩
      (fun b hb => by contradiction) (fun g other => ?_) (fun _ _ => rfl)
    rw [lookup_borrarCarpeta, if_neg other]
  · -- fin
    exact v

structure Toma (y y' : Flush) (s s' : Storage Hash) : Prop where
  bits : ∀ b, s.bitmap b = true → s'.bitmap b = true ∨ enManosFlush y = some b
  manos : ∀ n, enManosFlush y' = some n → enManosFlush y = some n ∨ s.bitmap n = false

theorem toma_igual {y y' : Flush} (same : s'.bitmap = s.bitmap)
    (manos : ∀ n, enManosFlush y' = some n → enManosFlush y = some n) : Toma y y' s s' :=
  ⟨fun b used => .inl (by rw [same]; exact used), fun n held => .inl (manos n held)⟩

theorem toma_libre {y y' : Flush} (same : s'.bitmap = s.bitmap) (idle : SinManos y') :
    Toma y y' s s' := by
  apply toma_igual same
  intro n held
  rw [idle.manos] at held
  contradiction

theorem toma_liberar {y y' : Flush} {n : Nat} (held : enManosFlush y = some n)
    (none_ : enManosFlush y' = none) : Toma y y' s (s.liberar n) := by
  refine ⟨fun b used => ?_, fun m hm => by rw [none_] at hm; contradiction⟩
  by_cases same : b = n
  · exact .inr (same ▸ held)
  · exact .inl (by simp only [Storage.liberar, Function.update_of_ne same]; exact used)

theorem pasoFlush_toma (sb : Superbloque) (f : FileTag) (y : Flush) (s : Storage Hash) :
    Toma y (pasoFlush sb f y s).1 s (pasoFlush sb f y s).2 := by
  have step := pasoFlush_avance sb f y s
  generalize (pasoFlush sb f y s).1 = y' at step ⊢
  generalize (pasoFlush sb f y s).2 = s' at step ⊢
  cases step with
  | libre idle carpetas bitmap existe => exact toma_libre bitmap idle
  | @reserva p n hpc hn =>
    refine ⟨fun b used => .inl ?_, fun m held => .inr ?_⟩
    · simp only [Storage.ocupar, Function.update_apply]
      split
      · rfl
      · exact used
    · cases held
      exact (firstFree_some hn).2.2
  | copia sigue => exact toma_igual sigue.bitmap fun m held => sigue.manos.symm.trans held
  | desenlaza hpc hu =>
    obtain ⟨c, b, _, _, rfl⟩ := desenlazar_some hu
    exact toma_igual rfl fun m held => by rw [enManosFlush, hpc]; exact held
  | enlaza hpc hl =>
    obtain ⟨c, _, _, _, rfl⟩ := enlazar_some hl
    exact toma_libre rfl (sinManos_lista _ _)
  | sinEnlazar hpc hl => exact toma_igual rfl fun m held => by rw [enManosFlush, hpc]; exact held
  | revierte hpc => exact toma_liberar (by rw [enManosFlush, hpc]) rfl
  | revierteLink hpc => exact toma_liberar (by rw [enManosFlush, hpc]) rfl
  | @recrea p hpc =>
    cases hl : s.enlazar p.actual f p.i with
    | none => exact toma_libre rfl (sinManos_falla _)
    | some s' =>
      obtain ⟨c, _, _, _, rfl⟩ := enlazar_some hl
      exact toma_libre rfl (sinManos_falla _)
  | guarda idle => exact toma_libre (guardarBlocks_mismo s f _).bitmap idle

theorem vigilado_flush {s₀ : Storage Hash} (ne : f ≠ d) (v : Vigilado d f s₀ x) :
    Vigilado d f s₀ (paso sb d f x .flush) := by
  have takes := pasoFlush_toma sb f x.flush x.storage
  refine ⟨fun g hd hf => (pasoFlush_ajena sb x.flush x.storage hf).trans (v.ajenas g hd hf),
    fun early => (pasoFlush_ajena sb x.flush x.storage (Ne.symm ne)).trans (v.sinLeer early),
    v.leida, v.enRango, ?_⟩
  intro b hb
  obtain ⟨used, free⟩ := v.tomados b hb
  refine ⟨(takes.bits b used).resolve_right free, fun held => ?_⟩
  rcases takes.manos b held with before | clear
  · exact free before
  · rw [used] at clear
    contradiction

theorem vigilado_inicial (s : Storage Hash) (d f : FileTag) (paginas : List Pagina)
    (cantidad : Int) : Vigilado d f s (inicial s paginas cantidad) :=
  ⟨fun _ _ _ => rfl, fun _ => rfl, fun some_ => (some_ rfl).elim,
    fun i looks => by contradiction, fun b hb => by contradiction⟩

theorem sin_repetidos_apartados (sb : Superbloque) (ne : f ≠ d) (agree : Acuerdan s)
    (repite : RepiteAjenos s d f) (paginas : List Pagina) (cantidad : Int)
    (turnos : List Quien) :
    Along (paso sb d f) (Apartado sb) (inicial s paginas cantidad) turnos := by
  have start := ordenado_inicial agree f paginas cantidad
  have watched := vigilado_inicial s d f paginas cantidad
  generalize inicial s paginas cantidad = x at start watched
  induction turnos generalizing x with
  | nil => trivial
  | cons quien turnos ih =>
    have apart : Apartado sb x quien := apartado_vigilado watched quien
    refine ⟨apart, ih _ (ordenado_paso ne x quien start apart) ?_⟩
    cases quien with
    | delete => exact vigilado_delete (fun c hc => agree.listas d c hc) repite start watched
    | flush => exact vigilado_flush ne watched

theorem acuerdan_of_consistente (h : Consistente sb s)
    (linked : ∀ b < sb.cantidadBloques, s.bitmap b = true → b = 0 ∨ s.Enlazado b) :
    Acuerdan s := by
  refine ⟨fun b => ⟨fun used => linked b (h.sano.rango b used) used, ?_⟩,
    fun f c hc => (h.acorde f c hc).1, h.sano.fisicos⟩
  rintro (rfl | there)
  · exact h.uso initialFileBase 0 0 (destino_some.mpr ⟨carpetaBase, h.sano.base, by decide⟩)
  · obtain ⟨g, i, hd⟩ := there
    exact h.uso g i b hd

def turnosAlternados : List Quien := (List.replicate 20 [.delete, .flush]).flatten

def separados : Storage Bytes := trasPedidos discoDeSeis id (nuevoCon a1 120 ++ nuevoCon b1 121)

theorem acuerdan_separados : Acuerdan separados := by
  refine acuerdan_of_consistente (consistente_trasPedidos discoDeSeis (by decide)) ?_
  intro b hb used
  have six : b < 6 := hb
  interval_cases b
  · exact .inl rfl
  · exact .inr ⟨a1, 0, by decide⟩
  · exact .inr ⟨b1, 0, by decide⟩
  all_goals exact absurd used (by decide)

theorem repiteAjenos_separados : RepiteAjenos separados a1 b1 := by
  intro c hc i j b order _ second
  have only : (separados.carpetas.lookup a1).map (·.blocks) = some [1] := by decide
  rw [hc, Option.map_some, Option.some_inj] at only
  have inside : j < 1 := by simpa [only] using (List.getElem?_eq_some_iff.mp second).1
  omega

theorem apartados_sin_perdidas_corrida : BloquesEnUso (turnosAlternados.foldl
    (paso discoDeSeis a1 b1) (inicial separados [(0, [122])] 1)).storage :=
  apartados_sin_perdidas discoDeSeis (by decide) acuerdan_separados [(0, [122])] 1
    (sin_repetidos_apartados discoDeSeis (by decide) acuerdan_separados repiteAjenos_separados
      [(0, [122])] 1 turnosAlternados) turnosAlternados (List.prefix_refl turnosAlternados)

def repetido : Storage Bytes := trasPedidos discoDeSeis id
  [.crear a1, .truncar a1 2, .escribir a1 0 [120], .escribir a1 1 [120], .commit a1,
    .crear b1, .truncar b1 1]

theorem acuerdan_repetido : Acuerdan repetido := by
  refine acuerdan_of_consistente (consistente_trasPedidos discoDeSeis (by decide)) ?_
  intro b hb used
  have six : b < 6 := hb
  interval_cases b
  · exact .inl rfl
  · exact .inr ⟨a1, 0, by decide⟩
  all_goals exact absurd used (by decide)

/-- DELETE A:1 up to its first visit to block 1, which it frees; FLUSH B:1 with the new block
    1 up to its link; the second stat of block 1, with one link; FLUSH to its end and then
    DELETE, which takes the file and the bit. -/
def turnosCruzados : List Quien :=
  List.replicate 7 .delete ++ List.replicate 10 .flush ++ [.delete] ++
    List.replicate 6 .flush ++ List.replicate 4 .delete

def cruzado : Sistema Bytes :=
  turnosCruzados.foldl (paso discoDeSeis a1 b1) (inicial repetido [(0, [121])] 1)

/-- Both reply true, and the block that B:1 reads is free and without its file. -/
theorem segunda_visita_toma_bloque_reservado :
    Acuerdan repetido ∧ cruzado.delete.pc = .fin true ∧ cruzado.flush.pc = .fin true ∧
      ¬ BloquesEnUso cruzado.storage := by
  refine ⟨acuerdan_repetido, rfl, rfl, fun uso => ?_⟩
  have used := (uso 1 ⟨b1, 0, by decide⟩).1
  exact absurd used (by decide)

end StorageDeleteYFlush
