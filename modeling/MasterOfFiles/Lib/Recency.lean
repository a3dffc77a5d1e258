import Mathlib.Data.List.Basic

/- Recency over a history of uses: the place of the last use of each item, and lists whose
   items stand in the order of their last uses. -/
namespace Recency
variable {Item : Type*} [DecidableEq Item]

/-- The place of the last use in the history, from 1 on; 0 when there is none. -/
def lastUse (history : List Item) (a : Item) : Nat := history.length - history.reverse.idxOf a

variable {history l l' : List Item} {a b : Item}

theorem lastUse_le (history : List Item) (a : Item) : lastUse history a ≤ history.length :=
  Nat.sub_le _ _

theorem lastUse_self (history : List Item) (a : Item) :
    lastUse (history ++ [a]) a = history.length + 1 := by
  simp [lastUse]

theorem lastUse_other (other : b ≠ a) : lastUse (history ++ [a]) b = lastUse history b := by
  simp only [lastUse, List.reverse_append, List.reverse_cons, List.reverse_nil, List.nil_append,
    List.singleton_append, List.length_append, List.length_singleton]
  rw [List.idxOf_cons_ne _ other.symm]
  omega

/-- Every item was used, each later than the ones before it in the list. -/
structure InOrder (history l : List Item) : Prop where
  used : ∀ a ∈ l, a ∈ history
  sorted : l.Pairwise fun a b => lastUse history a < lastUse history b

theorem inOrder_nil (history : List Item) : InOrder history [] := ⟨by simp, .nil⟩

theorem InOrder.sublist (h : InOrder history l) (part : List.Sublist l' l) :
    InOrder history l' :=
  ⟨fun a ha => h.used a (part.subset ha), h.sorted.sublist part⟩

theorem InOrder.use (h : InOrder history l) (fresh : a ∉ l) :
    InOrder (history ++ [a]) (l ++ [a]) := by
  have others : ∀ b ∈ l, lastUse (history ++ [a]) b = lastUse history b := by
    intro b hb
    exact lastUse_other fun same => fresh (same ▸ hb)
  constructor
  · intro b hb
    rcases List.mem_append.mp hb with old | new
    · exact List.mem_append_left _ (h.used b old)
    · exact List.mem_append_right _ new
  · refine List.pairwise_append.mpr ⟨?_, List.pairwise_singleton _ _, ?_⟩
    · refine h.sorted.imp_of_mem fun {b c} hb hc before => ?_
      rw [others b hb, others c hc]
      exact before
    · intro b hb c hc
      rw [List.mem_singleton.mp hc, lastUse_self, others b hb]
      exact Nat.lt_succ_of_le (lastUse_le history b)

theorem InOrder.head_least (h : InOrder history (a :: l)) (hb : b ∈ l) :
    lastUse history a < lastUse history b := (List.pairwise_cons.mp h.sorted).1 b hb

end Recency
