import Mathlib.Data.List.Basic
import Mathlib.Order.Lattice

/- A queue whose items were numbered as they came in: what was served and what still waits, in
   terms of those turns, and the choice of the first of the smallest. -/
namespace ArrivalQueue
variable {Item : Type*}

structure Log (Item : Type*) where
  next : Nat
  waiting : List (Nat × Item)
  served : List (Nat × Item)

inductive Move (Item : Type*) where
  | rest
  | arrive (a : Item)
  | serve (a : Item)
  | withdraw (a : Item)

def Log.empty : Log Item := ⟨0, [], []⟩

section Moves
variable [DecidableEq Item]

def leave (a : Item) (waiting : List (Nat × Item)) : List (Nat × Item) :=
  waiting.eraseP fun x => x.2 = a

def Log.move (log : Log Item) : Move Item → Log Item
  | .rest => log
  | .arrive a => { log with next := log.next + 1, waiting := log.waiting ++ [(log.next, a)] }
  | .serve a =>
    { log with
      waiting := leave a log.waiting
      served := log.served ++ (log.waiting.find? fun x => x.2 = a).toList }
  | .withdraw a => { log with waiting := leave a log.waiting }

def Move.on : Move Item → List Item → List Item
  | .rest, l => l
  | .arrive a, l => l ++ [a]
  | .serve a, l => l.erase a
  | .withdraw a, l => l.erase a

variable {a : Item} {t : Nat} {before after : List (Nat × Item)}

theorem leave_items (a : Item) (waiting : List (Nat × Item)) :
    (leave a waiting).map Prod.snd = (waiting.map Prod.snd).erase a := by
  induction waiting with
  | nil => rfl
  | cons x rest ih =>
    rw [leave] at ih ⊢
    by_cases same : x.2 = a
    · rw [List.eraseP_cons_of_pos (by simpa using same), List.map_cons, same,
        List.erase_cons_head]
    · rw [List.eraseP_cons_of_neg (by simpa using same), List.map_cons, List.map_cons, ih,
        List.erase_cons_tail (by simpa using same)]

theorem move_items (log : Log Item) (m : Move Item) :
    (log.move m).waiting.map Prod.snd = m.on (log.waiting.map Prod.snd) := by
  cases m with
  | rest => rfl
  | arrive a => simp [Log.move, Move.on]
  | serve a => exact leave_items a log.waiting
  | withdraw a => exact leave_items a log.waiting

theorem leave_split (first : ∀ x ∈ before, x.2 ≠ a) :
    leave a (before ++ (t, a) :: after) = before ++ after := by
  rw [leave, List.eraseP_append_right _ fun x hx => by simpa using first x hx,
    List.eraseP_cons_of_pos (by simp)]

theorem find_split (first : ∀ x ∈ before, x.2 ≠ a) :
    (before ++ (t, a) :: after).find? (fun x => x.2 = a) = some (t, a) := by
  rw [List.find?_append, List.find?_eq_none.mpr fun x hx => by simpa using first x hx]
  simp

end Moves

/-- Those that wait stand in the order of their turns. -/
structure InTurn (log : Log Item) : Prop where
  sorted : log.waiting.Pairwise fun x y => x.1 < y.1
  given : ∀ x ∈ log.waiting, x.1 < log.next

/-- And whoever was served came before all of them, in that order too. -/
structure FirstComeFirstServed (log : Log Item) : Prop where
  sorted : (log.served ++ log.waiting).Pairwise fun x y => x.1 < y.1
  given : ∀ x ∈ log.served ++ log.waiting, x.1 < log.next

theorem inTurn_empty : InTurn (Log.empty : Log Item) := ⟨.nil, by simp [Log.empty]⟩

theorem served_empty : FirstComeFirstServed (Log.empty : Log Item) :=
  ⟨.nil, by simp [Log.empty]⟩

theorem pairwise_arrive {l : List (Nat × Item)} {n : Nat} (sorted : l.Pairwise fun x y => x.1 < y.1)
    (given : ∀ x ∈ l, x.1 < n) (a : Item) : (l ++ [(n, a)]).Pairwise fun x y => x.1 < y.1 := by
  refine List.pairwise_append.mpr ⟨sorted, List.pairwise_singleton _ _, ?_⟩
  intro x hx y hy
  rw [List.mem_singleton.mp hy]
  exact given x hx

theorem given_arrive {l : List (Nat × Item)} {n : Nat} (given : ∀ x ∈ l, x.1 < n) (a : Item) :
    ∀ x ∈ l ++ [(n, a)], x.1 < n + 1 := by
  intro x hx
  rcases List.mem_append.mp hx with old | new
  · exact Nat.lt_succ_of_lt (given x old)
  · rw [List.mem_singleton.mp new]
    exact Nat.lt_succ_self n

section Moves
variable [DecidableEq Item] {log : Log Item}

theorem inTurn_leave (h : InTurn log) (a : Item) :
    (leave a log.waiting).Pairwise (fun x y => x.1 < y.1) ∧
      ∀ x ∈ leave a log.waiting, x.1 < log.next :=
  ⟨h.sorted.sublist List.eraseP_sublist, fun x hx => h.given x (List.mem_of_mem_eraseP hx)⟩

theorem inTurn_move (h : InTurn log) (m : Move Item) : InTurn (log.move m) := by
  cases m with
  | rest => exact h
  | arrive a => exact ⟨pairwise_arrive h.sorted h.given a, given_arrive h.given a⟩
  | serve a => exact ⟨(inTurn_leave h a).1, (inTurn_leave h a).2⟩
  | withdraw a => exact ⟨(inTurn_leave h a).1, (inTurn_leave h a).2⟩

theorem served_move (h : FirstComeFirstServed log) (m : Move Item)
    (head : ∀ a, m = .serve a → (log.waiting.map Prod.snd).head? = some a) :
    FirstComeFirstServed (log.move m) := by
  cases m with
  | rest => exact h
  | arrive a =>
    constructor
    · rw [Log.move, ← List.append_assoc]
      exact pairwise_arrive h.sorted h.given a
    · rw [Log.move, ← List.append_assoc]
      exact given_arrive h.given a
  | serve a =>
    have first := head a rfl
    cases queue : log.waiting with
    | nil =>
      rw [queue] at first
      contradiction
    | cons x rest =>
      rw [queue, List.map_cons, List.head?_cons, Option.some.injEq] at first
      obtain ⟨t, b⟩ := x
      dsimp only at first
      subst first
      have same : (log.move (.serve b)).served ++ (log.move (.serve b)).waiting =
          log.served ++ log.waiting := by
        simp [Log.move, leave, queue]
      constructor
      · rw [same]
        exact h.sorted
      · rw [same]
        exact h.given
  | withdraw a =>
    have part : List.Sublist (log.served ++ leave a log.waiting) (log.served ++ log.waiting) :=
      List.Sublist.append_left List.eraseP_sublist _
    exact ⟨h.sorted.sublist part, fun x hx => h.given x (part.subset hx)⟩

end Moves

/-- How many of those that wait came before this turn. -/
def Log.ahead (log : Log Item) (t : Nat) : Nat := log.waiting.countP fun x => x.1 < t

section Moves
variable [DecidableEq Item] {log : Log Item} {a : Item} {t : Nat}

theorem mem_of_move {m : Move Item} (given : t < log.next)
    (waits : (t, a) ∈ (log.move m).waiting) : (t, a) ∈ log.waiting := by
  cases m with
  | rest => exact waits
  | arrive b =>
    rcases List.mem_append.mp waits with old | new
    · exact old
    · cases List.mem_singleton.mp new
      exact absurd given (Nat.lt_irrefl _)
  | serve b => exact List.mem_of_mem_eraseP waits
  | withdraw b => exact List.mem_of_mem_eraseP waits

theorem next_le_move (log : Log Item) (m : Move Item) : log.next ≤ (log.move m).next := by
  cases m with
  | arrive b => exact Nat.le_succ _
  | _ => exact Nat.le_refl _

theorem overtaken_move {m : Move Item} (given : t < log.next)
    (first : ∀ b, m = .serve b → ∃ before u after, log.waiting = before ++ (u, b) :: after ∧
      (log.move m).waiting = before ++ after ∧ (log.move m).served = log.served ++ [(u, b)] ∧
      u < t) :
    (log.move m).served.length + (log.move m).ahead t ≤ log.served.length + log.ahead t := by
  cases m with
  | rest => exact Nat.le_refl _
  | arrive b =>
    have behind : ¬ log.next < t := Nat.not_lt.mpr (Nat.le_of_lt given)
    simp [Log.move, Log.ahead, behind]
  | serve b =>
    obtain ⟨before, u, after, queue, left, served, earlier⟩ := first b rfl
    simp only [Log.ahead, queue, left, served, List.countP_append, List.countP_cons,
      List.length_append, List.length_singleton, decide_eq_true earlier, if_true]
    omega
  | withdraw b =>
    exact Nat.add_le_add_left (List.Sublist.countP_le List.eraseP_sublist) _

end Moves

variable {Key : Type*} [LinearOrder Key]

/-- A scan that only a strictly smaller key moves. -/
def firstLeast (key : Item → Key) (m : Item) (l : List Item) : Item :=
  l.foldl (fun m a => if key a < key m then a else m) m

theorem firstLeast_split (key : Item → Key) (l : List Item) :
    ∀ m, ∃ before after, m :: l = before ++ firstLeast key m l :: after ∧
      (∀ b ∈ before, key (firstLeast key m l) < key b) ∧
      ∀ b ∈ after, key (firstLeast key m l) ≤ key b := by
  induction l with
  | nil => exact fun m => ⟨[], [], rfl, by simp, by simp⟩
  | cons a rest ih =>
    intro m
    rw [firstLeast, List.foldl_cons]
    by_cases smaller : key a < key m
    · rw [if_pos smaller]
      obtain ⟨before, after, split, less, least⟩ := ih a
      refine ⟨m :: before, after, congrArg (m :: ·) split, fun b hb => ?_, least⟩
      have below : key (firstLeast key a rest) ≤ key a := by
        have here : a ∈ before ++ firstLeast key a rest :: after := split ▸ List.mem_cons_self
        rcases List.mem_append.mp here with ahead | there
        · exact le_of_lt (less a ahead)
        · rcases List.mem_cons.mp there with same | behind
          · exact le_of_eq (congrArg key same).symm
          · exact least a behind
      rcases List.mem_cons.mp hb with rfl | hb
      · exact lt_of_le_of_lt below smaller
      · exact less b hb
    · rw [if_neg smaller]
      obtain ⟨before, after, split, less, least⟩ := ih m
      cases before with
      | nil =>
        rw [List.nil_append, List.cons.injEq] at split
        refine ⟨[], a :: after, ?_, by simp, ?_⟩
        · rw [List.nil_append, ← split.2]
          exact congrArg (· :: a :: rest) split.1
        · intro b hb
          rcases List.mem_cons.mp hb with rfl | hb
          · show key (firstLeast key m rest) ≤ key b
            rw [← split.1]
            exact not_lt.mp smaller
          · exact least b hb
      | cons c before =>
        rw [List.cons_append, List.cons.injEq] at split
        refine ⟨m :: a :: before, after, ?_, ?_, least⟩
        · exact congrArg (fun l => m :: a :: l) split.2
        · have first : key (firstLeast key m rest) < key m := less m (by simp [split.1])
          intro b hb
          rcases List.mem_cons.mp hb with rfl | hb
          · exact first
          · rcases List.mem_cons.mp hb with rfl | hb
            · exact lt_of_lt_of_le first (not_lt.mp smaller)
            · exact less b (List.mem_cons_of_mem c hb)

end ArrivalQueue
