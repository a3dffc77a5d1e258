import Mathlib.Data.List.Basic
import Mathlib.Logic.Function.Basic

/- First-fit allocation over a bitmap whose slot 0 is never handed out. -/
namespace FirstFit

/-- Free slots of 1..n-1 in the order the search meets them. -/
def freeSlots (n : Nat) (used : Nat → Bool) : List Nat :=
  (List.range' 1 (n - 1)).filter fun i => !used i

def firstFree (n : Nat) (used : Nat → Bool) : Option Nat :=
  (List.range' 1 (n - 1)).find? fun i => !used i

theorem mem_freeSlots {n : Nat} {used : Nat → Bool} {i : Nat} :
    i ∈ freeSlots n used ↔ 1 ≤ i ∧ i < n ∧ used i = false := by
  simp only [freeSlots, List.mem_filter, List.mem_range'_1, Bool.not_eq_true', ← and_assoc]
  refine and_congr_left fun _ => ?_
  omega

theorem freeSlots_nodup (n : Nat) (used : Nat → Bool) : (freeSlots n used).Nodup :=
  (List.nodup_range').filter _

theorem firstFree_eq_head (n : Nat) (used : Nat → Bool) :
    firstFree n used = (freeSlots n used).head? := by
  simp only [firstFree, freeSlots, List.head?_filter]

theorem firstFree_some {n : Nat} {used : Nat → Bool} {i : Nat}
    (h : firstFree n used = some i) : 1 ≤ i ∧ i < n ∧ used i = false := by
  rw [firstFree_eq_head] at h
  exact mem_freeSlots.mp (List.mem_of_head? h)

theorem firstFree_none {n : Nat} {used : Nat → Bool} :
    firstFree n used = none ↔ freeSlots n used = [] := by
  rw [firstFree_eq_head, List.head?_eq_none_iff]

theorem freeSlots_after_take {n : Nat} {used : Nat → Bool} {i : Nat}
    (h : firstFree n used = some i) :
    freeSlots n used = i :: freeSlots n (Function.update used i true) := by
  rw [firstFree_eq_head] at h
  obtain ⟨rest, hr⟩ := List.head?_eq_some_iff.mp h
  have fresh : i ∉ rest := by
    have := freeSlots_nodup n used
    rw [hr] at this
    exact (List.nodup_cons.mp this).1
  have same : freeSlots n (Function.update used i true) =
      (freeSlots n used).filter (fun j => decide (j ≠ i)) := by
    simp only [freeSlots, List.filter_filter]
    apply List.filter_congr
    intro j _
    by_cases e : j = i
    · subst e; simp
    · simp [e]
  rw [same, hr]
  simp only [List.filter_cons, ne_eq, not_true_eq_false, decide_false, Bool.false_eq_true,
    ↓reduceIte, List.cons.injEq, true_and]
  symm
  rw [List.filter_eq_self]
  intro j hj
  simp only [decide_eq_true_eq]
  intro e
  exact fresh (e ▸ hj)

end FirstFit
