import Mathlib.Logic.Relation
import Mathlib.Order.Defs.PartialOrder

/- Threads that hold locks and want one more. When every lock has a rank and a thread only
   wants locks above those it holds, nobody waits for itself through the others. -/
namespace LockOrder
variable {Thread Lock Rank : Type*}

def WaitsFor (wants holds : Thread → Lock → Prop) (t u : Thread) : Prop :=
  ∃ l, wants t l ∧ holds u l

/-- A chain of waits that comes back to t, of one wait or more. -/
def Deadlocked (wants holds : Thread → Lock → Prop) (t : Thread) : Prop :=
  Relation.TransGen (WaitsFor wants holds) t t

variable [Preorder Rank] {wants holds : Thread → Lock → Prop} {t u : Thread}

theorem rank_along_waits (rank : Lock → Rank)
    (ordered : ∀ t l m, wants t l → holds t m → rank m < rank l)
    (chain : Relation.TransGen (WaitsFor wants holds) t u) :
    ∃ l m, wants t l ∧ holds u m ∧ rank l ≤ rank m := by
  induction chain with
  | single wait =>
    obtain ⟨l, wanted, held⟩ := wait
    exact ⟨l, l, wanted, held, le_refl _⟩
  | tail _ wait ih =>
    obtain ⟨l, m, wanted, held, le⟩ := ih
    obtain ⟨l', wanted', held'⟩ := wait
    exact ⟨l, l', wanted, held', le_trans le (le_of_lt (ordered _ _ _ wanted' held))⟩

theorem no_deadlock_of_ranked (rank : Lock → Rank)
    (ordered : ∀ t l m, wants t l → holds t m → rank m < rank l) (t : Thread) :
    ¬ Deadlocked wants holds t := by
  intro cycle
  obtain ⟨l, m, wanted, held, le⟩ := rank_along_waits rank ordered cycle
  exact absurd (ordered t l m wanted held) (not_lt_of_ge le)

end LockOrder
