import MasterOfFiles.Lib.LockOrder
import MasterOfFiles.Storage.Exclusion

/-!
No cycle of threads waiting for each other. A TAG of a File:Tag onto itself is an exception:
mutex_a and mutex_b are then one mutex, and the thread waits for itself. So is a TAG whose
mutex_a was removed before it asks for mutex_b, if malloc gives the address again.
-/
namespace StorageInterbloqueo
open LockOrder StorageEstado StorageCerrojos StorageDisciplina StorageCuentas StorageExclusion

/-- A TAG whose two lock names are one. The protected origin is refused before any lock. -/
def TagPropio : Solicitud → Prop
  | .tagFile origen destino => origen.protegido = false ∧ origen.clave = destino.clave
  | _ => False

theorem ordenTag_estricto {origen destino : Nombres} (apart : origen.clave ≠ destino.clave) :
    (ordenTag origen destino).1.clave < (ordenTag origen destino).2.clave := by
  unfold ordenTag
  split
  · assumption
  · rename_i not_before
    exact lt_of_le_of_ne (not_lt.mp not_before) (Ne.symm apart)

theorem tagEnOrden_of_separados {r : Solicitud} (apart : ¬ TagPropio r) :
    TagEnOrden (· < ·) r := by
  cases r with
  | tagFile origen destino =>
    intro free
    have ne : origen.clave ≠ destino.clave := fun same => apart ⟨free, same⟩
    exact Prod.Lex.lt_iff.mpr (.inr ⟨rfl, ordenTag_estricto ne⟩)
  | _ => trivial

variable {Id : Type}

def rangoMutex (s : Sistema Id) : Mutex → Rango
  | .archivo n => toLex (0, (s.claves n).getD "")
  | .hashIndex => toLex (1, "")
  | .bitmap => toLex (2, "")
  | .dictLocks => toLex (3, "")

variable {s : Sistema Id} {i : Id} {c : Cuenta} {x : Cerrojo} {m m' : Mutex}
  {antes : Rango → Rango → Prop}

theorem rango_mutex (h : Cuadra antes s i c) (hm : (s.hilos i).mutex x = some m) :
    rangoMutex s m = c.rango x := by
  cases x with
  | archivo p =>
    obtain ⟨n, hn, rfl⟩ := Option.map_eq_some_iff.mp hm
    simp [rangoMutex, Cuenta.rango, h.claves p, hn]
  | _ =>
    cases hm
    rfl

theorem pide_despues (h : Cuadra antes s i c) (asked : Pide s i m) (owned : Tiene s i m') :
    antes (rangoMutex s m') (rangoMutex s m) := by
  obtain ⟨x, resto, next, hm⟩ := asked
  obtain ⟨y, hy, hm'⟩ := (h.tomados m').mp owned
  have text := h.disciplina
  rw [next] at text
  obtain ⟨_, _, order, _⟩ := text
  rw [rango_mutex h hm, rango_mutex h hm']
  exact order y hy

variable [DecidableEq Id]

/-- Whatever the threads run and however their steps are mixed, there is no cycle of waits, if
    no request is a TAG onto itself and no mutex is removed while another thread points to it. -/
theorem sin_interbloqueo (malloc : Sistema Id → Nat) (solicitudes : Id → List Solicitud)
    (apart : ∀ i, ∀ r ∈ solicitudes i, ¬ TagPropio r) (turnos : List Id)
    (free : GuardedRuns.Along (avanzar malloc) QuitaLibre (inicial solicitudes) turnos)
    (parte : List Id) (part : parte <+: turnos) (i : Id) :
    ¬ Deadlocked (Pide (parte.foldl (avanzar malloc) (inicial solicitudes)))
      (Tiene (parte.foldl (avanzar malloc) (inicial solicitudes))) i := by
  have start : Cuadran (· < ·) (inicial solicitudes) :=
    cuadran_inicial (fun _ _ less => less) solicitudes
      fun i r hr => tagEnOrden_of_separados (apart i r hr)
  obtain ⟨_, now⟩ := corrida_vivos solicitudes start free part
  apply no_deadlock_of_ranked (rangoMutex _)
  intro j m m' asked owned
  obtain ⟨c, hc⟩ := now.cuentas j
  exact pide_despues hc asked owned

def tagWriteDelete : Fin 3 → List Solicitud
  | 0 => [.tagFile ⟨"A", "1"⟩ ⟨"A", "2"⟩]
  | 1 => [.escribirBloque ⟨"A", "1"⟩ true]
  | 2 => [.eliminarFileTag ⟨"A", "2"⟩ 0 true]

/-- When the TAG waits for the WRITE. -/
theorem sin_interbloqueo_tag_y_write :
    let turnos : List (Fin 3) :=
      [2, 2, 2, 2, 2, 2, 2, 2, 0, 0, 0, 1, 0, 1, 1, 1, 0, 0, 0, 1, 1, 0, 0]
    let s := turnos.foldl (avanzar fun _ => 0) (inicial tagWriteDelete)
    Pide s 0 (.archivo 0) ∧ Tiene s 1 (.archivo 0) ∧ ¬ Deadlocked (Pide s) (Tiene s) 0 := by
  intro turnos s
  refine ⟨⟨.archivo .a, _, rfl, rfl⟩, rfl, ?_⟩
  refine sin_interbloqueo _ tagWriteDelete ?_ turnos ?_ turnos List.prefix_rfl 0
  · intro i r hr
    match i with
    | 0 =>
      obtain rfl := List.mem_singleton.mp hr
      have apart : (⟨"A", "1"⟩ : Nombres).clave ≠ (⟨"A", "2"⟩ : Nombres).clave := by decide
      exact fun same => apart same.2
    | 1 | 2 =>
      obtain rfl := List.mem_singleton.mp hr
      exact id
  · decide

/-- The TAG of A:1 to A:1: mutex_a is locked, and locked again as mutex_b. -/
def tagDeA1 : Fin 1 → List Solicitud := fun _ => [.tagFile ⟨"A", "1"⟩ ⟨"A", "1"⟩]

theorem tag_propio_se_espera :
    ¬ ∀ (malloc : Sistema (Fin 1) → Nat) (solicitudes : Fin 1 → List Solicitud)
        (turnos : List (Fin 1)) (i : Fin 1),
      ¬ Deadlocked (Pide (turnos.foldl (avanzar malloc) (inicial solicitudes)))
        (Tiene (turnos.foldl (avanzar malloc) (inicial solicitudes))) i := by
  intro all
  apply all (fun _ => 0) tagDeA1 (List.replicate 7 0) 0
  apply Relation.TransGen.single
  exact ⟨.archivo 0, ⟨.archivo .b, _, rfl, rfl⟩, rfl⟩

/-- A TAG of A:1 to B:1 while a DELETE removes the mutex of A:1, whose address malloc gives again
    for B:1. -/
def tagYDelete : Fin 2 → List Solicitud
  | 0 => [.tagFile ⟨"A", "1"⟩ ⟨"B", "1"⟩]
  | 1 => [.eliminarFileTag ⟨"A", "1"⟩ 0 true]

example : Deadlocked
    (Pide ([1, 1, 1, 1, 1, 0, 0, 0, 1, 1, 1, 0, 0, 0, 0].foldl (avanzar fun _ => 0)
      (inicial tagYDelete)))
    (Tiene ([1, 1, 1, 1, 1, 0, 0, 0, 1, 1, 1, 0, 0, 0, 0].foldl (avanzar fun _ => 0)
      (inicial tagYDelete))) 0 := by
  apply Relation.TransGen.single
  exact ⟨.archivo 0, ⟨.archivo .b, _, rfl, rfl⟩, rfl⟩

end StorageInterbloqueo
