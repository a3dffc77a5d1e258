import Mathlib.Data.List.Basic
import Mathlib.Data.List.Nodup

/- A cache of bounded size that holds its items in the order of their last use and drops the
   first. An item that the source does not give makes room and is not held. What a small cache
   holds is the end of what a bigger one does. -/
namespace LruStack
variable {Item : Type*}

def room (size : Nat) (held : List Item) : List Item :=
  if held.length < size then held else held.tail

variable {size size' : Nat} {held small big : List Item}

theorem room_suffix (size : Nat) (held : List Item) : room size held <:+ held := by
  unfold room
  split
  · exact List.suffix_refl held
  · exact List.tail_suffix held

theorem room_suffix_room (le : size ≤ size') (inside : small <:+ big) :
    room size small <:+ room size' big := by
  by_cases space : big.length < size'
  · rw [room.eq_1 size' big, if_pos space]
    exact (room_suffix size small).trans inside
  rw [room.eq_1 size' big, if_neg space]
  cases big with
  | nil =>
    rw [List.suffix_nil.mp inside]
    exact room_suffix size []
  | cons x xs =>
    rw [List.tail_cons]
    rcases List.suffix_cons_iff.mp inside with same | behind
    · have full : ¬ small.length < size := by
        rw [same]
        omega
      have drop : room size small = xs := by rw [room, if_neg full, same, List.tail_cons]
      exact drop ▸ List.suffix_refl xs
    · exact (room_suffix size small).trans behind

variable [BEq Item] [LawfulBEq Item]

/-- A use is an item and whether the source gives it when it is asked. -/
def use (size : Nat) (held : List Item) (a : Item × Bool) : List Item :=
  if a.1 ∈ held then held.erase a.1 ++ [a.1]
  else if a.2 then room size held ++ [a.1]
  else room size held

def uses (size : Nat) (held : List Item) (as : List (Item × Bool)) : List Item :=
  as.foldl (use size) held

def faults (size : Nat) : List Item → List (Item × Bool) → Nat
  | _, [] => 0
  | held, a :: as => (if a.1 ∈ held then 0 else 1) + faults size (use size held a) as

theorem faults_singleton (size : Nat) (held : List Item) (a : Item × Bool) :
    faults size held [a] = if a.1 ∈ held then 0 else 1 := by
  rw [faults, faults, Nat.add_zero]

theorem uses_append (as bs : List (Item × Bool)) :
    uses size held (as ++ bs) = uses size (uses size held as) bs :=
  List.foldl_append

theorem faults_append (as bs : List (Item × Bool)) : ∀ held : List Item,
    faults size held (as ++ bs) = faults size held as + faults size (uses size held as) bs := by
  induction as with
  | nil => exact fun _ => (Nat.zero_add _).symm
  | cons a as ih =>
    intro held
    rw [List.cons_append, faults, faults, ih, Nat.add_assoc]
    rfl

theorem mem_use {a : Item × Bool} {b : Item} (h : b ∈ use size held a) :
    b ∈ held ∨ (b = a.1 ∧ a.2 = true) := by
  have part := room_suffix size held
  unfold use at h
  split at h
  · rename_i here
    rcases List.mem_append.mp h with old | new
    · exact .inl (List.mem_of_mem_erase old)
    · exact .inl (List.mem_singleton.mp new ▸ here)
  split at h
  · rename_i ok
    rcases List.mem_append.mp h with old | new
    · exact .inl (part.subset old)
    · exact .inr ⟨List.mem_singleton.mp new, ok⟩
  · exact .inl (part.subset h)

theorem nodup_use (nodup : held.Nodup) (a : Item × Bool) : (use size held a).Nodup := by
  have part := room_suffix size held
  unfold use
  split
  · have gone : a.1 ∉ held.erase a.1 := fun h => (nodup.mem_erase_iff.mp h).1 rfl
    exact (nodup.erase a.1).append (List.nodup_singleton _) (by simpa using gone)
  rename_i absent
  split
  · have fresh : a.1 ∉ room size held := fun h => absent (part.subset h)
    exact (nodup.sublist part.sublist).append (List.nodup_singleton _) (by simpa using fresh)
  · exact nodup.sublist part.sublist

/-- The source goes on giving what is held and what it has given. -/
structure Lasting (held : List Item) (as : List (Item × Bool)) : Prop where
  held : ∀ a ∈ as, a.1 ∈ held → a.2 = true
  given : as.Pairwise fun a b => a.1 = b.1 → a.2 = true → b.2 = true

theorem Lasting.use {a : Item × Bool} {as : List (Item × Bool)} (h : Lasting held (a :: as))
    (size : Nat) : Lasting (use size held a) as := by
  obtain ⟨first, rest⟩ := List.pairwise_cons.mp h.given
  refine ⟨fun b hb here => ?_, rest⟩
  rcases mem_use here with old | ⟨same, given⟩
  · exact h.held b (List.mem_cons_of_mem a hb) old
  · exact first b hb same.symm given

theorem use_suffix_use (le : size ≤ size') (nodup : big.Nodup) {a : Item × Bool}
    (given : a.1 ∈ big → a.2 = true) (inside : small <:+ big) :
    use size small a <:+ use size' big a := by
  obtain ⟨front, rfl⟩ := inside
  have add {l l' : List Item} (h : l <:+ l') : l ++ [a.1] <:+ l' ++ [a.1] := by
    obtain ⟨before, rfl⟩ := h
    exact ⟨before, by rw [List.append_assoc]⟩
  by_cases here : a.1 ∈ small
  · have apart : a.1 ∉ front := fun h => (List.disjoint_of_nodup_append nodup) h here
    rw [use, if_pos here, use, if_pos (List.mem_append_right front here),
      List.erase_append_right _ apart]
    exact add (List.suffix_append front _)
  by_cases ahead : a.1 ∈ front
  · have there : a.1 ∈ front ++ small := List.mem_append_left small ahead
    rw [use, if_neg here, if_pos (given there), use, if_pos there,
      List.erase_append_left _ ahead]
    exact add ((room_suffix size small).trans (List.suffix_append _ small))
  have absent : a.1 ∉ front ++ small := fun h => (List.mem_append.mp h).elim ahead here
  have rooms : room size small <:+ room size' (front ++ small) :=
    room_suffix_room le (List.suffix_append front small)
  rw [use, if_neg here, use, if_neg absent]
  split
  · exact add rooms
  · exact rooms

/-- A bigger cache holds all that the small one does, and asks its source no more often. -/
theorem inclusion (le : size ≤ size') (as : List (Item × Bool)) :
    ∀ small big, big.Nodup → Lasting big as → small <:+ big →
      uses size small as <:+ uses size' big as ∧
        faults size' big as ≤ faults size small as := by
  induction as with
  | nil => exact fun _ _ _ _ inside => ⟨inside, Nat.le_refl 0⟩
  | cons a as ih =>
    intro small big nodup lasting inside
    have next := use_suffix_use le nodup (lasting.held a List.mem_cons_self) inside
    obtain ⟨final, fewer⟩ := ih _ _ (nodup_use nodup a) (lasting.use size') next
    refine ⟨final, ?_⟩
    rw [faults, faults]
    refine Nat.add_le_add ?_ fewer
    by_cases here : a.1 ∈ small
    · rw [if_pos (inside.subset here)]
      exact Nat.zero_le _
    · rw [if_neg here]
      split <;> decide

end LruStack
