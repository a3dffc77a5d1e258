import Mathlib.Data.List.Forall2
import Mathlib.Logic.Relation

/- Programs that talk to a server over a connection without request numbers: a program is in
step when it reads one reply after each request, before it sends the next one. -/
namespace Dialogue
open Relation

variable {Req Rep α β : Type}

inductive Talk (Req Rep α : Type) where
  | done (a : α)
  | send (q : Req) (next : Talk Req Rep α)
  | receive (next : Rep → Talk Req Rep α)

namespace Talk

def bind : Talk Req Rep α → (α → Talk Req Rep β) → Talk Req Rep β
  | .done a, f => f a
  | .send q next, f => .send q (next.bind f)
  | .receive next, f => .receive fun r => (next r).bind f

instance : Monad (Talk Req Rep) where
  pure := .done
  bind := bind

@[simp] theorem pure_eq (a : α) : (pure a : Talk Req Rep α) = .done a := rfl

@[simp] theorem done_bind (a : α) (f : α → Talk Req Rep β) : (.done a >>= f) = f a := rfl

@[simp] theorem send_bind (q : Req) (next : Talk Req Rep α) (f : α → Talk Req Rep β) :
    (.send q next >>= f) = .send q (next >>= f) := rfl

@[simp] theorem receive_bind (next : Rep → Talk Req Rep α) (f : α → Talk Req Rep β) :
    (.receive next >>= f) = .receive fun r => next r >>= f := rfl

def Ensures (P : α → Prop) : Talk Req Rep α → Prop
  | .done a => P a
  | .send _ next => next.Ensures P
  | .receive next => ∀ r, (next r).Ensures P

theorem ensures_bind {P : α → Prop} {Q : β → Prop} {d : Talk Req Rep α}
    {f : α → Talk Req Rep β} (first : d.Ensures P) (then_ : ∀ a, P a → (f a).Ensures Q) :
    (d >>= f).Ensures Q := by
  induction d with
  | done a => exact then_ a first
  | send q next ih => exact ih first
  | receive next ih => exact fun r => ih r (first r)

def Ends : Talk Req Rep α → α → Prop
  | .done b, a => b = a
  | .send _ next, a => next.Ends a
  | .receive next, a => ∃ r, (next r).Ends a

theorem ensures_iff {P : α → Prop} {d : Talk Req Rep α} :
    d.Ensures P ↔ ∀ a, d.Ends a → P a := by
  induction d with
  | done b => simp [Ensures, Ends]
  | send q next ih => exact ih
  | receive next ih =>
    simp only [Ensures, Ends, ih]
    constructor
    · intro all a ends
      obtain ⟨r, ends⟩ := ends
      exact all r a ends
    · intro all r a ends
      exact all a ⟨r, ends⟩

theorem ensures_ends (d : Talk Req Rep α) : d.Ensures d.Ends := ensures_iff.mpr fun _ ends => ends

theorem ensures_and {P Q : α → Prop} {d : Talk Req Rep α} (first : d.Ensures P)
    (second : d.Ensures Q) : d.Ensures fun a => P a ∧ Q a := by
  rw [ensures_iff] at first second ⊢
  exact fun a ends => ⟨first a ends, second a ends⟩

variable (serve : Req → Option Rep → Prop) (answers : Req → Rep → Prop)

def Answered (q : Req) : Prop := ∀ o, serve q o → ∃ r, o = some r ∧ answers q r

/-- The first argument is the request that waits for its reply. -/
def InStep : Option Req → Talk Req Rep α → Prop
  | none, .done _ => True
  | none, .send q next => Answered serve answers q ∧ InStep (some q) next
  | some q, .receive next => ∀ r, answers q r → InStep none (next r)
  | _, _ => False

variable {serve answers}

theorem inStep_bind {d : Talk Req Rep α} {f : α → Talk Req Rep β} {o : Option Req}
    (first : InStep serve answers o d) (then_ : ∀ a, InStep serve answers none (f a)) :
    InStep serve answers o (d >>= f) := by
  induction d generalizing o with
  | done a =>
    cases o with
    | none => exact then_ a
    | some q => exact first.elim
  | send q next ih =>
    cases o with
    | none => exact ⟨first.1, ih first.2⟩
    | some q => exact first.elim
  | receive next ih =>
    cases o with
    | none => exact first.elim
    | some q => exact fun r ok => ih r (first r ok)

end Talk

/-- The program, the server and the queues between them, with all that was sent, replied and
    read up to now. -/
structure Wire (Req Rep α : Type) where
  client : Talk Req Rep α
  toServer : List Req
  serving : Option Req
  toClient : List Rep
  sent : List Req
  replied : List Rep
  read : List Rep

def Wire.unanswered (w : Wire Req Rep α) : Nat := w.toServer.length + w.serving.toList.length

/-- Sent, and its reply not read yet. -/
def Wire.pending (w : Wire Req Rep α) : Nat := w.unanswered + w.toClient.length

def Wire.idle (a : α) : Wire Req Rep α := ⟨.done a, [], none, [], [], [], []⟩

/-- A program that ended with `a` may start another one. -/
inductive Wire.Step (serve : Req → Option Rep → Prop) (Start : α → Talk Req Rep α → Prop) :
    Wire Req Rep α → Wire Req Rep α → Prop
  | start (w : Wire Req Rep α) (a : α) (d : Talk Req Rep α) (ended : w.client = .done a)
      (allowed : Start a d) : Step serve Start w { w with client := d }
  | send (w : Wire Req Rep α) (q : Req) (next : Talk Req Rep α)
      (now : w.client = .send q next) :
      Step serve Start w
        { w with client := next, toServer := w.toServer ++ [q], sent := w.sent ++ [q] }
  | take (w : Wire Req Rep α) (q : Req) (rest : List Req) (free : w.serving = none)
      (first : w.toServer = q :: rest) :
      Step serve Start w { w with toServer := rest, serving := some q }
  | reply (w : Wire Req Rep α) (q : Req) (o : Option Rep) (busy : w.serving = some q)
      (outcome : serve q o) :
      Step serve Start w
        { w with serving := none, toClient := w.toClient ++ o.toList,
                 replied := w.replied ++ o.toList }
  | receive (w : Wire Req Rep α) (r : Rep) (rest : List Rep) (next : Rep → Talk Req Rep α)
      (now : w.client = .receive next) (first : w.toClient = r :: rest) :
      Step serve Start w { w with client := next r, toClient := rest, read := w.read ++ [r] }

variable {serve : Req → Option Rep → Prop} {answers : Req → Rep → Prop}
  {Start : α → Talk Req Rep α → Prop} {w w' : Wire Req Rep α}

/-- Where the request of a program in step is. -/
inductive Tuned (serve : Req → Option Rep → Prop) (answers : Req → Rep → Prop) :
    Wire Req Rep α → Prop
  | quiet (d : Talk Req Rep α) (qs : List Req) (rs : List Rep)
      (inStep : d.InStep serve answers none) (past : List.Forall₂ answers qs rs) :
      Tuned serve answers ⟨d, [], none, [], qs, rs, rs⟩
  | sent (d : Talk Req Rep α) (qs : List Req) (rs : List Rep) (q : Req)
      (inStep : d.InStep serve answers (some q)) (served : Talk.Answered serve answers q)
      (past : List.Forall₂ answers qs rs) :
      Tuned serve answers ⟨d, [q], none, [], qs ++ [q], rs, rs⟩
  | served (d : Talk Req Rep α) (qs : List Req) (rs : List Rep) (q : Req)
      (inStep : d.InStep serve answers (some q)) (served : Talk.Answered serve answers q)
      (past : List.Forall₂ answers qs rs) :
      Tuned serve answers ⟨d, [], some q, [], qs ++ [q], rs, rs⟩
  | replied (d : Talk Req Rep α) (qs : List Req) (rs : List Rep) (q : Req) (r : Rep)
      (inStep : d.InStep serve answers (some q)) (ok : answers q r)
      (past : List.Forall₂ answers qs rs) :
      Tuned serve answers ⟨d, [], none, [r], qs ++ [q], rs ++ [r], rs⟩

theorem ensures_step {P : α → Prop} (starts : ∀ a d, P a → Start a d → d.Ensures P)
    (ends : w.client.Ensures P) (step : w.Step serve Start w') : w'.client.Ensures P := by
  cases step with
  | start a d ended allowed =>
    rw [ended] at ends
    exact starts a d ends allowed
  | send q next now =>
    rw [now] at ends
    exact ends
  | take q rest free first => exact ends
  | reply q o busy outcome => exact ends
  | receive r rest next now first =>
    rw [now] at ends
    exact ends r

theorem tuned_step (starts : ∀ a d, w.client = .done a → Start a d → d.InStep serve answers none)
    (tuned : Tuned serve answers w) (step : w.Step serve Start w') : Tuned serve answers w' := by
  cases tuned with
  | quiet d qs rs inStep past =>
    cases step with
    | start a next ended allowed => exact .quiet next qs rs (starts a next ended allowed) past
    | send q next now =>
      cases now
      exact .sent next qs rs q inStep.2 inStep.1 past
    | take q rest free first => cases first
    | reply q o busy outcome => cases busy
    | receive r rest next now first => cases first
  | sent d qs rs q inStep served past =>
    cases step with
    | start a next ended allowed =>
      cases ended
      exact inStep.elim
    | send q' next now =>
      cases now
      exact inStep.elim
    | take q' rest free first =>
      cases first
      exact .served d qs rs q inStep served past
    | reply q' o busy outcome => cases busy
    | receive r rest next now first => cases first
  | served d qs rs q inStep served past =>
    cases step with
    | start a next ended allowed =>
      cases ended
      exact inStep.elim
    | send q' next now =>
      cases now
      exact inStep.elim
    | take q' rest free first => cases first
    | reply q' o busy outcome =>
      cases busy
      obtain ⟨r, rfl, ok⟩ := served o outcome
      exact .replied d qs rs q r inStep ok past
    | receive r rest next now first => cases first
  | replied d qs rs q r inStep ok past =>
    cases step with
    | start a next ended allowed =>
      cases ended
      exact inStep.elim
    | send q' next now =>
      cases now
      exact inStep.elim
    | take q' rest free first => cases first
    | reply q' o busy outcome => cases busy
    | receive r' rest next now first =>
      cases now
      cases first
      exact .quiet (next r) _ _ (inStep r ok) (List.rel_append past (.cons ok .nil))

theorem tuned_run {P : α → Prop}
    (starts : ∀ a d, P a → Start a d → d.InStep serve answers none ∧ d.Ensures P) {a : α}
    (first : P a) (run : ReflTransGen (Wire.Step serve Start) (Wire.idle a) w) :
    Tuned serve answers w ∧ w.client.Ensures P := by
  induction run with
  | refl => exact ⟨.quiet (.done a) [] [] trivial .nil, first⟩
  | tail _ step ih =>
    obtain ⟨tuned, ends⟩ := ih
    refine ⟨tuned_step (fun b d ended allowed => ?_) tuned step,
      ensures_step (fun b d h allowed => (starts b d h allowed).2) ends step⟩
    rw [ended] at ends
    exact (starts b d ends allowed).1

/-- The program with these replies, read one after each request: what it sent and its end. -/
def Talk.play : Talk Req Rep α → List Rep → Option (List Req × α)
  | .done a, [] => some ([], a)
  | .send q (.receive next), r :: rs => (play (next r) rs).map fun p => (q :: p.1, p.2)
  | _, _ => none

theorem run_of_play {d : Talk Req Rep α} {rs : List Rep} {qs : List Req} {a : α}
    (played : d.play rs = some (qs, a)) (served : List.Forall₂ (fun q r => serve q (some r)) qs rs)
    (qs₀ : List Req) (rs₀ : List Rep) : ReflTransGen (Wire.Step serve Start)
      ⟨d, [], none, [], qs₀, rs₀, rs₀⟩
      ⟨.done a, [], none, [], qs₀ ++ qs, rs₀ ++ rs, rs₀ ++ rs⟩ := by
  induction rs generalizing d qs qs₀ rs₀ with
  | nil =>
    cases served
    cases d with
    | done b =>
      cases played
      simpa using ReflTransGen.refl
    | send q next => cases next <;> contradiction
    | receive next => contradiction
  | cons r rs ih =>
    cases served with
    | cons one more =>
      rename_i q qs
      obtain ⟨next, rfl, rest⟩ : ∃ next, d = .send q (.receive next) ∧
          (next r).play rs = some (qs, a) := by
        cases d with
        | done b => contradiction
        | receive next => contradiction
        | send q' next =>
          cases next with
          | done b => contradiction
          | send q'' next => contradiction
          | receive next =>
            obtain ⟨p, hp, same⟩ := Option.map_eq_some_iff.mp played
            cases same
            exact ⟨next, rfl, hp⟩
      have later := ih rest more (qs₀ ++ [q]) (rs₀ ++ [r])
      rw [List.append_assoc, List.append_assoc] at later
      refine .head (.send _ q _ rfl) (.head (.take _ q [] rfl rfl) (.head
        (.reply _ q (some r) rfl one) (.head (.receive _ r [] next rfl rfl) later)))

def Talk.playAll : List ((α → Talk Req Rep α) × List Rep) → α → Option (List Req × α)
  | [], a => some ([], a)
  | (d, rs) :: more, a =>
    ((d a).play rs).bind fun p => (playAll more p.2).map fun q => (p.1 ++ q.1, q.2)

theorem length_of_play {d : Talk Req Rep α} {rs : List Rep} {qs : List Req} {a : α}
    (played : d.play rs = some (qs, a)) : qs.length = rs.length := by
  fun_induction Talk.play d rs generalizing qs a with
  | case1 b =>
    cases played
    rfl
  | case2 q next r rs ih =>
    obtain ⟨p, hp, same⟩ := Option.map_eq_some_iff.mp played
    cases same
    simp [ih hp]
  | case3 => contradiction

theorem run_of_playAll (sessions : List ((α → Talk Req Rep α) × List Rep))
    (allowed : ∀ s ∈ sessions, ∀ a, Start a (s.1 a)) {qs : List Req} {a b : α}
    (played : Talk.playAll sessions a = some (qs, b))
    (served : List.Forall₂ (fun q r => serve q (some r)) qs (sessions.flatMap (·.2)))
    (qs₀ : List Req) (rs₀ : List Rep) : ReflTransGen (Wire.Step serve Start)
      ⟨.done a, [], none, [], qs₀, rs₀, rs₀⟩
      ⟨.done b, [], none, [], qs₀ ++ qs, rs₀ ++ sessions.flatMap (·.2),
        rs₀ ++ sessions.flatMap (·.2)⟩ := by
  induction sessions generalizing qs a qs₀ rs₀ with
  | nil =>
    cases played
    simpa using ReflTransGen.refl
  | cons s more ih =>
    obtain ⟨d, rs⟩ := s
    obtain ⟨first, hfirst, later⟩ := Option.bind_eq_some_iff.mp played
    obtain ⟨rest, hrest, same⟩ := Option.map_eq_some_iff.mp later
    cases same
    rw [List.flatMap_cons] at served ⊢
    have sameLength : first.1.length = rs.length := length_of_play hfirst
    have now := List.forall₂_take_append _ _ _ served
    have then_ := List.forall₂_drop_append _ _ _ served
    rw [← sameLength, List.take_left] at now
    rw [← sameLength, List.drop_left] at then_
    have one : ReflTransGen (Wire.Step serve Start) ⟨d a, [], none, [], qs₀, rs₀, rs₀⟩
        ⟨.done first.2, [], none, [], qs₀ ++ first.1, rs₀ ++ rs, rs₀ ++ rs⟩ :=
      run_of_play hfirst now qs₀ rs₀
    have more := ih (fun s hs => allowed s (List.mem_cons_of_mem _ hs)) hrest then_
      (qs₀ ++ first.1) (rs₀ ++ rs)
    rw [List.append_assoc, List.append_assoc] at more
    exact .head (.start _ a (d a) rfl (allowed (d, rs) List.mem_cons_self a)) (one.trans more)

theorem pending_le_one (tuned : Tuned serve answers w) : w.pending ≤ 1 := by
  cases tuned <;> simp [Wire.pending, Wire.unanswered]

theorem replied_in_order (tuned : Tuned serve answers w) :
    ∃ qs last, w.sent = qs ++ last ∧ last.length = w.unanswered ∧
      List.Forall₂ answers qs w.replied := by
  cases tuned with
  | quiet d qs rs inStep past => exact ⟨qs, [], by simp, rfl, past⟩
  | sent d qs rs q inStep served past => exact ⟨qs, [q], rfl, rfl, past⟩
  | served d qs rs q inStep served past => exact ⟨qs, [q], rfl, rfl, past⟩
  | replied d qs rs q r inStep ok past =>
    exact ⟨qs ++ [q], [], by simp, rfl, List.rel_append past (.cons ok .nil)⟩

theorem next_reply (tuned : Tuned serve answers w) {r : Rep} {rest : List Rep}
    (first : w.toClient = r :: rest) : ∃ q, w.sent.getLast? = some q ∧ answers q r := by
  cases tuned with
  | replied d qs rs q r' inStep ok past =>
    cases first
    exact ⟨q, by simp, ok⟩
  | _ => cases first

theorem reply_comes (total : ∀ q, ∃ o, serve q o) (tuned : Tuned serve answers w)
    {next : Rep → Talk Req Rep α} (waits : w.client = .receive next) :
    ∃ w' r, ReflTransGen (Wire.Step serve Start) w w' ∧ w'.client = next r ∧ w'.pending = 0 := by
  have read : ∀ (qs : List Req) (rs before : List Rep) (r : Rep),
      Wire.Step serve Start ⟨.receive next, [], none, [r], qs, rs, before⟩
        ⟨next r, [], none, [], qs, rs, before ++ [r]⟩ :=
    fun qs rs before r => .receive _ r [] next rfl rfl
  have attend : ∀ (qs : List Req) (rs : List Rep) (q : Req), Talk.Answered serve answers q →
      ∃ r, Wire.Step serve Start ⟨.receive next, [], some q, [], qs, rs, rs⟩
        ⟨.receive next, [], none, [r], qs, rs ++ [r], rs⟩ := by
    intro qs rs q served
    obtain ⟨o, outcome⟩ := total q
    obtain ⟨r, rfl, _⟩ := served o outcome
    exact ⟨r, .reply _ q (some r) rfl outcome⟩
  cases tuned with
  | quiet d qs rs inStep past =>
    cases waits
    exact inStep.elim
  | sent d qs rs q inStep served past =>
    cases waits
    obtain ⟨r, step⟩ := attend (qs ++ [q]) rs q served
    exact ⟨_, r, .tail (.tail (.single (.take _ q [] rfl rfl)) step) (read _ _ _ r), rfl, rfl⟩
  | served d qs rs q inStep served past =>
    cases waits
    obtain ⟨r, step⟩ := attend (qs ++ [q]) rs q served
    exact ⟨_, r, .tail (.single step) (read _ _ _ r), rfl, rfl⟩
  | replied d qs rs q r inStep ok past =>
    cases waits
    exact ⟨_, r, .single (read _ _ _ r), rfl, rfl⟩

end Dialogue
