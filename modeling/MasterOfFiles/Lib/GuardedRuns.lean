import Mathlib.Data.List.Basic

/- Runs of a deterministic system whose actions are guarded by a condition on
   the state they are taken in. States and actions are arbitrary types. -/
namespace GuardedRuns
variable {State Action : Type*}

def Along (step : State → Action → State) (guard : State → Action → Prop) :
    State → List Action → Prop
  | _, [] => True
  | s, a :: as => guard s a ∧ Along step guard (step s a) as

instance decidableAlong (step : State → Action → State) (guard : State → Action → Prop)
    [∀ s a, Decidable (guard s a)] : ∀ s as, Decidable (Along step guard s as)
  | _, [] => inferInstanceAs (Decidable True)
  | s, a :: as =>
    have := decidableAlong step guard (step s a) as
    inferInstanceAs (Decidable (guard s a ∧ Along step guard (step s a) as))

variable {step : State → Action → State} {guard : State → Action → Prop}

theorem along_mono {weak : State → Action → Prop}
    (weaker : ∀ s a, guard s a → weak s a) {s : State} {as : List Action}
    (h : Along step guard s as) : Along step weak s as := by
  induction as generalizing s with
  | nil => trivial
  | cons a as ih => exact ⟨weaker s a h.1, ih h.2⟩

theorem along_append {s : State} {as bs : List Action} :
    Along step guard s (as ++ bs) ↔
      Along step guard s as ∧ Along step guard (as.foldl step s) bs := by
  induction as generalizing s with
  | nil => simp [Along]
  | cons a as ih => simp [Along, ih, and_assoc]

theorem along_and {other : State → Action → Prop} {s : State} {as : List Action}
    (first : Along step guard s as) (second : Along step other s as) :
    Along step (fun s a => guard s a ∧ other s a) s as := by
  induction as generalizing s with
  | nil => trivial
  | cons a as ih => exact ⟨⟨first.1, second.1⟩, ih first.2 second.2⟩

theorem along_of_forall {kind : Action → Prop} {as : List Action} (all : ∀ a ∈ as, kind a)
    (s : State) : Along step (fun _ a => kind a) s as := by
  induction as generalizing s with
  | nil => trivial
  | cons a as ih =>
    exact ⟨all a (by simp), ih (fun b hb => all b (List.mem_cons_of_mem a hb)) (step s a)⟩

theorem invariant_run (inv : State → Prop) (keeps : ∀ s a, inv s → inv (step s a))
    {s : State} (start : inv s) (as : List Action) : inv (as.foldl step s) := by
  induction as generalizing s with
  | nil => exact start
  | cons a as ih => exact ih (keeps s a start)

theorem invariant_guarded_run (inv : State → Prop)
    (keeps : ∀ s a, inv s → guard s a → inv (step s a))
    {s : State} (start : inv s) {as : List Action} (h : Along step guard s as) :
    inv (as.foldl step s) := by
  induction as generalizing s with
  | nil => exact start
  | cons a as ih => exact ih (keeps s a start h.1) h.2

theorem invariant_on_prefixes (inv : State → Prop)
    (keeps : ∀ s a, inv s → guard s a → inv (step s a))
    {s : State} (start : inv s) {as : List Action} (h : Along step guard s as) :
    ∀ pre, pre <+: as → inv (pre.foldl step s) := by
  rintro pre ⟨rest, rfl⟩
  exact invariant_guarded_run inv keeps start (along_append.mp h).1

/-- A property that one step keeps exactly when its guard holds is true after every
    prefix of a run exactly when every step of the run meets its guard. -/
theorem every_prefix_iff_along (inv good : State → Prop)
    (keeps : ∀ s a, inv s → inv (step s a))
    (exact_step : ∀ s a, inv s → good s → (good (step s a) ↔ guard s a))
    {s : State} (start : inv s) (first : good s) (as : List Action) :
    (∀ pre, pre <+: as → good (pre.foldl step s)) ↔ Along step guard s as := by
  induction as generalizing s with
  | nil => simp [Along, first]
  | cons a as ih =>
    have tail : good (step s a) →
        ((∀ pre, pre <+: as → good (pre.foldl step (step s a))) ↔
          Along step guard (step s a) as) := fun hg => ih (keeps s a start) hg
    constructor
    · intro all
      have next : good (step s a) := all [a] (by simp)
      refine ⟨(exact_step s a start first).mp next, (tail next).mp ?_⟩
      intro pre hp
      exact all (a :: pre) (by simpa using hp)
    · rintro ⟨hg, rest⟩ pre hp
      have next := (exact_step s a start first).mpr hg
      cases pre with
      | nil => exact first
      | cons b pre =>
        obtain ⟨rfl, _⟩ := List.cons_prefix_cons.mp hp
        exact (tail next).mpr rest pre ((List.prefix_cons_inj b).mp hp)

section Simulation
variable {Abstract Move : Type*}

/-- The moves of another system for the actions of a run, none or several for each. -/
def moves (step : State → Action → State) (translate : State → Action → List Move) :
    State → List Action → List Move
  | _, [] => []
  | s, a :: as => translate s a ++ moves step translate (step s a) as

theorem simulated_run {move : Abstract → Move → Abstract} {allowed : Abstract → Move → Prop}
    {translate : State → Action → List Move} (sim : State → Abstract → Prop)
    (one : ∀ s a A, sim s A → guard s a → Along move allowed A (translate s a) ∧
      sim (step s a) ((translate s a).foldl move A))
    {s : State} {A : Abstract} (start : sim s A) {as : List Action} (run : Along step guard s as) :
    Along move allowed A (moves step translate s as) ∧
      sim (as.foldl step s) ((moves step translate s as).foldl move A) := by
  induction as generalizing s A with
  | nil => exact ⟨trivial, start⟩
  | cons a as ih =>
    obtain ⟨here, next⟩ := one s a A start run.1
    obtain ⟨rest, final⟩ := ih next run.2
    refine ⟨along_append.mpr ⟨here, rest⟩, ?_⟩
    rw [moves, List.foldl_append]
    exact final

end Simulation

def countAlong (step : State → Action → State) (kind : State → Action → Bool) :
    State → List Action → Nat
  | _, [] => 0
  | s, a :: as => (if kind s a then 1 else 0) + countAlong step kind (step s a) as

theorem done_within_measure {kind : State → Action → Bool} (measure : State → Nat)
    (done : State → Prop) (used_up : ∀ s, measure s = 0 → done s)
    (less : ∀ s a, kind s a = true → measure (step s a) < measure s)
    (no_more : ∀ s a, kind s a = false → ¬ done s → measure (step s a) ≤ measure s)
    {s : State} {as : List Action} (enough : measure s ≤ countAlong step kind s as) :
    ∃ pre, pre <+: as ∧ done (pre.foldl step s) := by
  induction as generalizing s with
  | nil => exact ⟨[], by simp, used_up s (by simpa [countAlong] using enough)⟩
  | cons a as ih =>
    by_cases h : done s
    · exact ⟨[], by simp, h⟩
    have tail : measure (step s a) ≤ countAlong step kind (step s a) as := by
      cases k : kind s a with
      | true =>
        have := less s a k
        simp only [countAlong, k, if_true] at enough
        omega
      | false =>
        have := no_more s a k h
        simp only [countAlong, k, Bool.false_eq_true, if_false] at enough
        omega
    obtain ⟨pre, hp, finished⟩ := ih tail
    exact ⟨a :: pre, by simpa using hp, finished⟩

end GuardedRuns
