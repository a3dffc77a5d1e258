import Mathlib.Data.List.Basic
import Mathlib.Logic.Function.Basic

/- Enhanced second-chance replacement: which place a clock with reference bits R and modified
   bits M takes, and the reference bits that its turns leave. Places are arbitrary; a turn is
   the list of them from where the hand stands. -/
namespace SecondChance
variable {Place : Type*}

def IsFirst (turn : List Place) (good : Place → Prop) (v : Place) : Prop :=
  ∃ before after, turn = before ++ v :: after ∧ good v ∧ ∀ u ∈ before, ¬ good u

theorem isFirst_of_find? {turn : List Place} {good : Place → Bool} {v : Place}
    (found : turn.find? good = some v) : IsFirst turn (fun u => good u = true) v := by
  obtain ⟨here, before, after, split, earlier⟩ := List.find?_eq_some_iff_append.mp found
  exact ⟨before, after, split, here, fun u hu => by simpa using earlier u hu⟩

theorem IsFirst.congr {turn : List Place} {good good' : Place → Prop} {v : Place}
    (first : IsFirst turn good v) (same : ∀ u ∈ turn, good u ↔ good' u) :
    IsFirst turn good' v := by
  obtain ⟨before, after, rfl, here, earlier⟩ := first
  refine ⟨before, after, rfl, (same v (by simp)).mp here, fun u hu other => ?_⟩
  exact earlier u hu ((same u (by simp [hu])).mpr other)

variable [DecidableEq Place]

def cleared (passed : List Place) (bits : Place → Bool) : Place → Bool := fun m =>
  if m ∈ passed then false else bits m

@[simp] theorem cleared_nil (bits : Place → Bool) : cleared [] bits = bits := by
  funext u
  simp [cleared]

theorem cleared_cons (m : Place) (passed : List Place) (bits : Place → Bool) :
    cleared (m :: passed) bits = cleared passed (Function.update bits m false) := by
  funext u
  by_cases same : u = m
  · simp [cleared, same]
  · simp [cleared, same]

/-- The place taken and the reference bits left: the first that is neither referenced nor
    modified; or else the first modified one that is not referenced, with the bits of those
    passed before it reset; or else, with every bit reset, the first that is not modified; or
    else the first of all. -/
inductive Choice (turn : List Place) (R M : Place → Bool) : Place → (Place → Bool) → Prop
  | clean {v : Place} (first : IsFirst turn (fun u => R u = false ∧ M u = false) v) :
      Choice turn R M v R
  | modified {v : Place} {before after : List Place}
      (noneClean : ∀ u ∈ turn, ¬ (R u = false ∧ M u = false))
      (split : turn = before ++ v :: after) (here : R v = false ∧ M v = true)
      (earlier : ∀ u ∈ before, ¬ (R u = false ∧ M u = true)) :
      Choice turn R M v (cleared before R)
  | second {v : Place} (all : ∀ u ∈ turn, R u = true)
      (first : IsFirst turn (fun u => M u = false) v) : Choice turn R M v (cleared turn R)
  | full {v : Place} (all : ∀ u ∈ turn, R u = true ∧ M u = true) (head : turn.head? = some v) :
      Choice turn R M v (cleared turn R)

end SecondChance
