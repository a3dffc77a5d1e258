import Mathlib.Algebra.BigOperators.Group.Finset.Basic

/- What the entries of a table weigh together over a finite set of keys, and what the change
   of one entry does to the total. Keys, values and weights are arbitrary. -/
namespace Tally
variable {Key Value Weight : Type*} [AddCommMonoid Weight]

def tally (keys : Finset Key) (weight : Value → Weight) (table : Key → Value) : Weight :=
  ∑ k ∈ keys, weight (table k)

variable {keys : Finset Key} {weight : Value → Weight} {table table' : Key → Value} {k : Key}

theorem tally_eq_zero (none_ : ∀ k ∈ keys, weight (table k) = 0) : tally keys weight table = 0 :=
  Finset.sum_eq_zero none_

variable [DecidableEq Key]

variable (weight table) in
theorem tally_update (hk : k ∈ keys) (v : Value) :
    tally keys weight (Function.update table k v) + weight (table k) =
      tally keys weight table + weight v := by
  have rest : ∑ i ∈ keys.erase k, weight (Function.update table k v i) =
      ∑ i ∈ keys.erase k, weight (table i) := by
    refine Finset.sum_congr rfl fun i hi => ?_
    rw [Function.update_of_ne (Finset.ne_of_mem_erase hi)]
  unfold tally
  rw [← Finset.sum_erase_add _ _ hk, ← Finset.sum_erase_add _ (fun i => weight (table i)) hk,
    rest, Function.update_self]
  exact add_right_comm _ _ _

variable (weight table) in
theorem tally_insert (hk : k ∉ keys) (v : Value) :
    tally (insert k keys) weight (Function.update table k v) =
      weight v + tally keys weight table := by
  unfold tally
  rw [Finset.sum_insert hk, Function.update_self]
  congr 1
  refine Finset.sum_congr rfl fun i hi => ?_
  rw [Function.update_of_ne]
  rintro rfl
  exact hk hi

end Tally
