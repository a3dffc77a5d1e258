import Mathlib.Logic.Function.Basic

/- Threads over one shared state, each with resources it holds while it works. A thread takes
   only resources that are not taken, and its steps leave alone what the others hold, so no
   two threads ever hold the same one and each can count on its own. -/
namespace Ownership
variable {Thread Local Shared Ghost Resource : Type*}

structure Pool (Thread Local Shared : Type*) where
  locals : Thread → Local
  shared : Shared

section Steps
variable [DecidableEq Thread]

def Pool.step (act : Thread → Local → Shared → Local × Shared)
    (x : Pool Thread Local Shared) (t : Thread) : Pool Thread Local Shared where
  locals := Function.update x.locals t (act t (x.locals t) x.shared).1
  shared := (act t (x.locals t) x.shared).2

def Pool.run (act : Thread → Local → Shared → Local × Shared)
    (x : Pool Thread Local Shared) (order : List Thread) : Pool Thread Local Shared :=
  order.foldl (Pool.step act) x

theorem run_idle {act : Thread → Local → Shared → Local × Shared} {t : Thread}
    {order : List Thread} (idle : t ∉ order) (x : Pool Thread Local Shared) :
    (x.run act order).locals t = x.locals t := by
  induction order generalizing x with
  | nil => rfl
  | cons u rest ih =>
    simp only [List.mem_cons, not_or] at idle
    exact (ih idle.2 (x.step act u)).trans (Function.update_of_ne idle.1 _ _)

end Steps

/-- `own` is what a thread knows of itself and of the shared state, given what it went through;
    it survives the steps of the others as long as they hold nothing of its own. -/
structure Discipline (act : Thread → Local → Shared → Local × Shared)
    (own : Thread → Ghost → Local → Shared → Prop) (held : Ghost → Local → Resource → Prop)
    (taken : Shared → Resource → Prop) : Prop where
  marked : ∀ {t g l s r}, own t g l s → held g l r → taken s r
  step : ∀ {t g l s}, own t g l s → ∃ g', own t g' (act t l s).1 (act t l s).2 ∧
    ∀ r, held g' (act t l s).1 r → held g l r ∨ ¬ taken s r
  frame : ∀ {t u g l g₂ l₂ s}, t ≠ u → own t g l s → own u g₂ l₂ s →
    (∀ r, held g l r → ¬ held g₂ l₂ r) → own u g₂ l₂ (act t l s).2

variable {act : Thread → Local → Shared → Local × Shared}
  {own : Thread → Ghost → Local → Shared → Prop} {held : Ghost → Local → Resource → Prop}
  {taken : Shared → Resource → Prop}

def Apart (own : Thread → Ghost → Local → Shared → Prop) (held : Ghost → Local → Resource → Prop)
    (x : Pool Thread Local Shared) (ghost : Thread → Ghost) : Prop :=
  (∀ t, own t (ghost t) (x.locals t) x.shared) ∧
    ∀ t u, t ≠ u → ∀ r, held (ghost t) (x.locals t) r → ¬ held (ghost u) (x.locals u) r

variable [DecidableEq Thread] {x : Pool Thread Local Shared} {ghost : Thread → Ghost}

theorem apart_step (d : Discipline act own held taken) (h : Apart own held x ghost) (t : Thread) :
    ∃ ghost', Apart own held (x.step act t) ghost' := by
  obtain ⟨g', mine, news⟩ := d.step (h.1 t)
  refine ⟨Function.update ghost t g', ?_, ?_⟩
  · intro u
    by_cases same : u = t
    · subst same
      simpa [Pool.step] using mine
    · simpa [Pool.step, same] using d.frame (Ne.symm same) (h.1 t) (h.1 u) (h.2 t u (Ne.symm same))
  -- what t holds now it held before, or nobody did
  have foreign : ∀ u, u ≠ t → ∀ r, held g' (act t (x.locals t) x.shared).1 r →
      ¬ held (ghost u) (x.locals u) r := by
    intro u ne r mine theirs
    rcases news r mine with before | free
    · exact h.2 t u (Ne.symm ne) r before theirs
    · exact free (d.marked (h.1 u) theirs)
  intro u v ne r first second
  by_cases hu : u = t
  · subst hu
    have hv : v ≠ u := Ne.symm ne
    simp only [Pool.step, Function.update_self, Function.update_of_ne hv] at first second
    exact foreign v hv r first second
  · by_cases hv : v = t
    · subst hv
      simp only [Pool.step, Function.update_self, Function.update_of_ne hu] at first second
      exact foreign u hu r second first
    · simp only [Pool.step, Function.update_of_ne hu, Function.update_of_ne hv] at first second
      exact h.2 u v ne r first second

theorem apart_run (d : Discipline act own held taken) (h : Apart own held x ghost)
    (order : List Thread) : ∃ ghost', Apart own held (x.run act order) ghost' := by
  induction order generalizing x ghost with
  | nil => exact ⟨ghost, h⟩
  | cons t rest ih =>
    obtain ⟨ghost₁, h₁⟩ := apart_step d h t
    exact ih h₁

end Ownership
