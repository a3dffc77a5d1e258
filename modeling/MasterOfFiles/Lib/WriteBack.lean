import Mathlib.Logic.Function.Basic
import Mathlib.Logic.Relation

/- A write-back cache over a store: what a reader of both sees, and the steps that move
   values between the two without changing it. Keys and values are arbitrary. -/
namespace WriteBack
variable {Key Value : Type*}

structure Line (Value : Type*) where
  value : Value
  dirty : Bool

abbrev Cache (Key Value : Type*) := Key → Option (Line Value)

abbrev Store (Key Value : Type*) := Key → Option Value

def view (store : Store Key Value) (cache : Cache Key Value) (k : Key) : Option Value :=
  match cache k with
  | some line => some line.value
  | none => store k

/-- A line that is not dirty holds what the store holds. -/
def Coherent (store : Store Key Value) (cache : Cache Key Value) : Prop :=
  ∀ k line, cache k = some line → line.dirty = false → store k = some line.value

def Backed (store : Store Key Value) (cache : Cache Key Value) : Prop :=
  ∀ k line, cache k = some line → (store k).isSome = true

/-- The same of one key: what happens to a key does not depend on the others. -/
def CoherentAt (store : Store Key Value) (cache : Cache Key Value) (k : Key) : Prop :=
  ∀ line, cache k = some line → line.dirty = false → store k = some line.value

def BackedAt (store : Store Key Value) (cache : Cache Key Value) (k : Key) : Prop :=
  ∀ line, cache k = some line → (store k).isSome = true

def stored (keys : Key → Prop) [DecidablePred keys] (store : Store Key Value)
    (cache : Cache Key Value) : Store Key Value := fun k =>
  match cache k with
  | some ⟨v, true⟩ => if keys k then some v else store k
  | _ => store k

def cleaned (keys : Key → Prop) [DecidablePred keys] (cache : Cache Key Value) :
    Cache Key Value := fun k =>
  if keys k then (cache k).map fun line => ⟨line.value, false⟩ else cache k

variable {store : Store Key Value} {cache : Cache Key Value} {k o : Key} {line : Line Value}

theorem view_clean (h : CoherentAt store cache k)
    (clean : ∀ line, cache k = some line → line.dirty = false) :
    view store cache k = store k := by
  cases hc : cache k with
  | none => simp [view, hc]
  | some line => simp [view, hc, h line hc (clean line hc)]

theorem writeBack_at (keys : Key → Prop) [DecidablePred keys] (h : CoherentAt store cache k) :
    CoherentAt (stored keys store cache) (cleaned keys cache) k ∧
      view (stored keys store cache) (cleaned keys cache) k = view store cache k := by
  cases hc : cache k with
  | none => by_cases hk : keys k <;> simp [CoherentAt, view, stored, cleaned, hc, hk]
  | some line =>
    obtain ⟨v, dirty⟩ := line
    have clean := h ⟨v, dirty⟩ hc
    by_cases hk : keys k
    · cases dirty with
      | true => simp [CoherentAt, view, stored, cleaned, hc, hk]
      | false => simpa [CoherentAt, view, stored, cleaned, hc, hk] using clean rfl
    · cases dirty with
      | true => simp [CoherentAt, view, stored, cleaned, hc, hk]
      | false => simpa [CoherentAt, view, stored, cleaned, hc, hk] using clean rfl

variable [DecidableEq Key]

theorem view_put (v : Value) :
    view store (Function.update cache k (some ⟨v, true⟩)) =
      Function.update (view store cache) k (some v) := by
  funext o
  by_cases ho : o = k
  · subst ho
    simp [view]
  · simp [view, ho]

theorem coherentAt_put (h : o ≠ k → CoherentAt store cache o) (v : Value) :
    CoherentAt store (Function.update cache k (some ⟨v, true⟩)) o := by
  intro line hl clean
  by_cases ho : o = k
  · rw [ho, Function.update_self, Option.some.injEq] at hl
    rw [← hl] at clean
    contradiction
  · rw [Function.update_of_ne ho] at hl
    exact h ho line hl clean

theorem backedAt_put (h : BackedAt store cache o) (there : cache k = some line) (v : Value) :
    BackedAt store (Function.update cache k (some ⟨v, true⟩)) o := by
  intro line' hl
  by_cases ho : o = k
  · subst ho
    exact h line there
  · exact h line' (by simpa [ho] using hl)

/-- What a cache may do on its own: write dirty lines back, drop a clean line, load one. -/
inductive Upkeep : Store Key Value × Cache Key Value →
    Store Key Value × Cache Key Value → Prop where
  | writeBack (keys : Key → Prop) [DecidablePred keys] (store : Store Key Value)
      (cache : Cache Key Value) :
      Upkeep (store, cache) (stored keys store cache, cleaned keys cache)
  | drop {store : Store Key Value} {cache : Cache Key Value} {k : Key} {line : Line Value}
      (there : cache k = some line) (clean : line.dirty = false) :
      Upkeep (store, cache) (store, Function.update cache k none)
  | load {store : Store Key Value} {cache : Cache Key Value} {k : Key} {v : Value}
      (absent : cache k = none) (hv : store k = some v) :
      Upkeep (store, cache) (store, Function.update cache k (some ⟨v, false⟩))

theorem upkeep_at {p q : Store Key Value × Cache Key Value} (step : Upkeep p q)
    (h : CoherentAt p.1 p.2 k) :
    CoherentAt q.1 q.2 k ∧ view q.1 q.2 k = view p.1 p.2 k := by
  cases step with
  | writeBack keys store cache => exact writeBack_at keys h
  | @drop store cache k' line there clean =>
    by_cases hk : k = k'
    · subst hk
      simpa [CoherentAt, view, there] using h line there clean
    · simpa [CoherentAt, view, hk] using h
  | @load store cache k' v absent hv =>
    by_cases hk : k = k'
    · subst hk
      simp [CoherentAt, view, absent, hv]
    · simpa [CoherentAt, view, hk] using h

theorem upkeeps_at {p q : Store Key Value × Cache Key Value}
    (run : Relation.ReflTransGen Upkeep p q) (h : CoherentAt p.1 p.2 k) :
    CoherentAt q.1 q.2 k ∧ view q.1 q.2 k = view p.1 p.2 k := by
  induction run with
  | refl => exact ⟨h, rfl⟩
  | tail _ step ih =>
    obtain ⟨coherent, same⟩ := ih
    obtain ⟨coherent', same'⟩ := upkeep_at step coherent
    exact ⟨coherent', same'.trans same⟩

theorem upkeep_stored {p q : Store Key Value × Cache Key Value} (step : Upkeep p q)
    (there : (p.1 k).isSome = true) : (q.1 k).isSome = true := by
  cases step with
  | writeBack keys store cache =>
    simp only [stored]
    split
    · split
      · rfl
      · exact there
    · exact there
  | drop _ _ => exact there
  | load _ _ => exact there

theorem upkeeps_stored {p q : Store Key Value × Cache Key Value}
    (run : Relation.ReflTransGen Upkeep p q) (there : (p.1 k).isSome = true) :
    (q.1 k).isSome = true := by
  induction run with
  | refl => exact there
  | tail _ step ih => exact upkeep_stored step ih

theorem view_missing {p q : Store Key Value × Cache Key Value}
    (run : Relation.ReflTransGen Upkeep p q) (absent : p.2 k = none) (noValue : q.1 k = none) :
    view p.1 p.2 k = none := by
  rw [view, absent]
  by_contra some_
  have there := upkeeps_stored run (Option.isSome_iff_ne_none.mpr some_)
  simp [noValue] at there

theorem backedAt_upkeep {p q : Store Key Value × Cache Key Value} (step : Upkeep p q)
    (h : BackedAt p.1 p.2 k) : BackedAt q.1 q.2 k := by
  intro line hl
  cases step with
  | writeBack keys store cache =>
    cases hc : cache k with
    | none => simp [cleaned, hc] at hl
    | some old => exact upkeep_stored (.writeBack keys store cache) (h old hc)
  | @drop store cache k' line' there clean =>
    by_cases hk : k = k'
    · simp [hk] at hl
    · exact h line (by simpa [hk] using hl)
  | @load store cache k' v absent hv =>
    by_cases hk : k = k'
    · simp [hk, hv]
    · exact h line (by simpa [hk] using hl)

theorem backedAt_upkeeps {p q : Store Key Value × Cache Key Value}
    (run : Relation.ReflTransGen Upkeep p q) (h : BackedAt p.1 p.2 k) : BackedAt q.1 q.2 k := by
  induction run with
  | refl => exact h
  | tail _ step ih => exact backedAt_upkeep step ih

end WriteBack
