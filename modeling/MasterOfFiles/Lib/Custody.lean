import Mathlib.Data.List.Basic
import Mathlib.Data.List.Nodup
import Mathlib.Logic.Function.Basic

/- Items that wait in a queue, run, or are in the hands of a holder on their way from one to
   the other. Moving an item takes it out of the one place it is in and puts it in another. -/
namespace Custody
variable {Item Holder : Type*}

structure Places (Item Holder : Type*) where
  queue : List Item
  running : List Item
  held : Holder → Option Item

inductive Place (Holder : Type*) where
  | queue
  | running
  | held (h : Holder)

def Places.At (p : Places Item Holder) (i : Item) : Place Holder → Prop
  | .queue => i ∈ p.queue
  | .running => i ∈ p.running
  | .held h => p.held h = some i

structure Places.Unique (p : Places Item Holder) : Prop where
  one : ∀ i l l', p.At i l → p.At i l' → l = l'
  queue : p.queue.Nodup
  running : p.running.Nodup

/-- The item is now in the given place, or in none; every other item is where it was. -/
structure Moved (p p' : Places Item Holder) (i : Item) (target : Option (Place Holder)) :
    Prop where
  at_iff : ∀ j l, p'.At j l ↔ (j ≠ i ∧ p.At j l) ∨ (j = i ∧ target = some l)
  queue : p.queue.Nodup → p'.queue.Nodup
  running : p.running.Nodup → p'.running.Nodup

variable {p p' p'' : Places Item Holder} {i : Item} {h : Holder}
variable {target target' : Option (Place Holder)}

theorem unique_moved (moved : Moved p p' i target) (unique : p.Unique) : p'.Unique := by
  refine ⟨?_, moved.queue unique.queue, moved.running unique.running⟩
  intro j l l' first second
  rcases (moved.at_iff j l).mp first with ⟨other, here⟩ | ⟨_, here⟩
  · rcases (moved.at_iff j l').mp second with ⟨_, there⟩ | ⟨same, _⟩
    · exact unique.one j l l' here there
    · exact (other same).elim
  · rcases (moved.at_iff j l').mp second with ⟨other, _⟩ | ⟨_, there⟩
    · contradiction
    · exact Option.some.inj (here.symm.trans there)

theorem Moved.trans (first : Moved p p' i target) (second : Moved p' p'' i target') :
    Moved p p'' i target' := by
  refine ⟨?_, fun u => second.queue (first.queue u), fun u => second.running (first.running u)⟩
  intro j l
  rw [second.at_iff, first.at_iff]
  by_cases same : j = i <;> simp [same]

theorem nowhere_of_moved (moved : Moved p p' i none) (l : Place Holder) : ¬ p'.At i l := by
  rw [moved.at_iff]
  simp

theorem elsewhere {l l' : Place Holder} (unique : p.Unique) (here : p.At i l)
    (other : l ≠ l') : ¬ p.At i l' :=
  fun there => other (unique.one i l l' here there)

theorem moved_enqueue (new : ∀ l, ¬ p.At i l) :
    Moved p { p with queue := p.queue ++ [i] } i (some .queue) := by
  refine ⟨?_, fun u => List.Nodup.append u (by simp) (by simpa [Places.At] using new .queue), id⟩
  intro j l
  have out := new l
  cases l with
  | queue | running | held =>
    simp_all [Places.At]
    grind

theorem moved_begin (new : ∀ l, ¬ p.At i l) :
    Moved p { p with running := p.running ++ [i] } i (some .running) := by
  refine ⟨?_, id, fun u => List.Nodup.append u (by simp) (by simpa [Places.At] using new .running)⟩
  intro j l
  have out := new l
  cases l with
  | queue | running | held =>
    simp_all [Places.At]
    grind

section
variable [DecidableEq Item]

theorem moved_withdraw (unique : p.Unique) (waiting : i ∈ p.queue) :
    Moved p { p with queue := p.queue.erase i } i none := by
  refine ⟨?_, fun u => u.erase i, id⟩
  intro j l
  have out (other : .queue ≠ l) : ¬ p.At i l := elsewhere (l := .queue) unique waiting other
  cases l with
  | queue => simp [Places.At, unique.queue.mem_erase_iff]
  | running | held k =>
    simp_all [Places.At]
    grind

theorem moved_stop (unique : p.Unique) (runs : i ∈ p.running) :
    Moved p { p with running := p.running.erase i } i none := by
  refine ⟨?_, id, fun u => u.erase i⟩
  intro j l
  have out (other : .running ≠ l) : ¬ p.At i l := elsewhere (l := .running) unique runs other
  cases l with
  | running => simp [Places.At, unique.running.mem_erase_iff]
  | queue | held k =>
    simp_all [Places.At]
    grind

end

variable [DecidableEq Holder]

theorem moved_hold (new : ∀ l, ¬ p.At i l) (free : p.held h = none) :
    Moved p { p with held := Function.update p.held h (some i) } i (some (.held h)) := by
  refine ⟨?_, id, id⟩
  intro j l
  have out := new l
  cases l with
  | queue | running =>
    simp_all [Places.At]
    grind
  | held k =>
    simp_all [Places.At, Function.update_apply]
    grind

theorem moved_release (unique : p.Unique) (holds : p.held h = some i) :
    Moved p { p with held := Function.update p.held h none } i none := by
  refine ⟨?_, id, id⟩
  intro j l
  have out (other : .held h ≠ l) : ¬ p.At i l := elsewhere (l := .held h) unique holds other
  cases l with
  | queue | running =>
    simp_all [Places.At]
    grind
  | held k =>
    simp_all [Places.At, Function.update_apply]
    grind

end Custody
