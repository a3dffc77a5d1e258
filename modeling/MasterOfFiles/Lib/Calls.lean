import MasterOfFiles.Lib.Dialogue

/- A program that is in step is a program of calls: on a wire that carries encoded requests and
replies it ends as if each request were a call that returns the reply. -/
namespace Dialogue

variable {Req Rep State W α β : Type}

namespace Talk

def Sends (P : Req → Prop) : Talk Req Rep α → Prop
  | .done _ => True
  | .send q next => P q ∧ next.Sends P
  | .receive next => ∀ r, (next r).Sends P

theorem sends_bind {P : Req → Prop} {Q : α → Prop} {d : Talk Req Rep α} {f : α → Talk Req Rep β}
    (first : d.Sends P) (ends : d.Ensures Q) (then_ : ∀ a, Q a → (f a).Sends P) :
    (d >>= f).Sends P := by
  induction d with
  | done a => exact then_ a ends
  | send q next ih => exact ⟨first.1, ih first.2 ends⟩
  | receive next ih => exact fun r => ih r (first r) (ends r)

def Keeps (P : Req → Prop) (Q : α → Prop) (d : Talk Req Rep α) : Prop := d.Sends P ∧ d.Ensures Q

theorem Keeps.of_sends {P : Req → Prop} {d : Talk Req Rep α} (sends : d.Sends P) :
    d.Keeps P fun _ => True :=
  ⟨sends, ensures_iff.mpr fun _ _ => trivial⟩

theorem Keeps.and {P : Req → Prop} {Q R : α → Prop} {d : Talk Req Rep α} (keeps : d.Keeps P Q)
    (more : d.Ensures R) : d.Keeps P fun a => Q a ∧ R a :=
  ⟨keeps.1, ensures_and keeps.2 more⟩

theorem keeps_bind {P : Req → Prop} {Q : α → Prop} {R : β → Prop} {d : Talk Req Rep α}
    {f : α → Talk Req Rep β} (first : d.Keeps P Q) (then_ : ∀ a, Q a → (f a).Keeps P R) :
    (d >>= f).Keeps P R :=
  ⟨sends_bind first.1 first.2 fun a ok => (then_ a ok).1,
    ensures_bind first.2 fun a ok => (then_ a ok).2⟩

/-- It ends with a when each request followed by the reading of its reply is a call. -/
inductive Calls (call : State → Req → Rep → State → Prop) :
    Talk Req Rep α → State → α → State → Prop
  | done (a : α) (s : State) : Calls call (.done a) s a s
  | call (q : Req) (next : Rep → Talk Req Rep α) (r : Rep) (a : α) (s s' s'' : State)
      (made : call s q r s') (rest : Calls call (next r) s' a s'') :
      Calls call (.send q (.receive next)) s a s''

theorem Calls.ensured {call : State → Req → Rep → State → Prop} {Q : α → Prop}
    {d : Talk Req Rep α} {a : α} {s s' : State} (calls : d.Calls call s a s')
    (ends : d.Ensures Q) : Q a := by
  induction calls with
  | done a s => exact ends
  | call q next r a s s' s'' made rest ih => exact ih (ends r)

theorem Calls.kept {call : State → Req → Rep → State → Prop} {P : Req → Prop} {I : State → Prop}
    (step : ∀ s q r s', P q → call s q r s' → I s → I s') {d : Talk Req Rep α} {a : α}
    {s s' : State} (calls : d.Calls call s a s') (sends : d.Sends P) (before : I s) : I s' := by
  induction calls with
  | done a s => exact before
  | call q next r a s s' s'' made rest ih =>
    exact ih (sends.2 r) (step s q r s' sends.1 made before)

section
variable {serve : Req → Option Rep → Prop} {answers : Req → Rep → Prop}
  {call : State → Req → Rep → State → Prop}

theorem Calls.bind_inv (answered : ∀ s q r s', call s q r s' → answers q r)
    {d : Talk Req Rep α} {f : α → Talk Req Rep β} (inStep : d.InStep serve answers none)
    {s s'' : State} {b : β} (calls : (d >>= f).Calls call s b s'') :
    ∃ a s', d.Calls call s a s' ∧ (f a).Calls call s' b s'' := by
  have both : (d.InStep serve answers none → ∀ s, (d >>= f).Calls call s b s'' →
        ∃ a s', d.Calls call s a s' ∧ (f a).Calls call s' b s'') ∧
      ∀ q, d.InStep serve answers (some q) → ∃ next, d = .receive next ∧
        ∀ r, answers q r → ∀ s, (next r >>= f).Calls call s b s'' →
          ∃ a s', (next r).Calls call s a s' ∧ (f a).Calls call s' b s'' := by
    clear inStep calls s
    induction d with
    | done a => exact ⟨fun _ s calls => ⟨a, s, .done a s, calls⟩, fun _ no => no.elim⟩
    | send q next ih =>
      refine ⟨fun inStep s calls => ?_, fun _ no => no.elim⟩
      obtain ⟨next, rfl, go⟩ := ih.2 q inStep.2
      cases calls with
      | call _ _ r _ _ s' _ made rest =>
        obtain ⟨a, s₁, first, then_⟩ := go r (answered _ _ _ _ made) s' rest
        exact ⟨a, s₁, .call q next r a s s' s₁ made first, then_⟩
    | receive next ih =>
      refine ⟨fun no => no.elim, fun q inStep => ⟨next, rfl, fun r ok s calls => ?_⟩⟩
      exact (ih r).1 (inStep r ok) s calls
  exact both.1 inStep s calls

theorem calls_exist (serves : ∀ q, ∃ o, serve q o)
    (total : ∀ s q r, answers q r → ∃ r s', call s q r s' ∧ answers q r)
    {d : Talk Req Rep α} (inStep : d.InStep serve answers none) (s : State) :
    ∃ a s', d.Calls call s a s' := by
  have both : (d.InStep serve answers none → ∀ s, ∃ a s', d.Calls call s a s') ∧
      ∀ q, d.InStep serve answers (some q) → ∃ next, d = .receive next ∧
        ∀ r, answers q r → ∀ s, ∃ a s', (next r).Calls call s a s' := by
    clear inStep s
    induction d with
    | done a => exact ⟨fun _ s => ⟨a, s, .done a s⟩, fun _ no => no.elim⟩
    | send q next ih =>
      refine ⟨fun inStep s => ?_, fun _ no => no.elim⟩
      obtain ⟨next, rfl, go⟩ := ih.2 q inStep.2
      obtain ⟨o, served⟩ := serves q
      obtain ⟨answer, _, fine⟩ := inStep.1 o served
      obtain ⟨r, s', made, ok⟩ := total s q answer fine
      obtain ⟨a, s'', rest⟩ := go r ok s'
      exact ⟨a, s'', .call q next r a s s' s'' made rest⟩
    | receive next ih =>
      refine ⟨fun no => no.elim, fun q inStep => ⟨next, rfl, fun r ok s => ?_⟩⟩
      exact (ih r).1 (inStep r ok) s
  exact both.1 inStep s

end

end Talk

/-- How requests and replies travel: what is written for a request, what the server replies to
    the words in its inbox, and the reply that is read from the words in the client's. -/
structure Codec (State Req Rep W : Type) where
  write : Req → Option (List W)
  attend : State → List W → Option (List W × State)
  read : List W → Option (Rep × List W)

/-- The program over the wire; `inbox` is what came back and was not read. -/
def Talk.overWire (c : Codec State Req Rep W) :
    Talk Req Rep α → State → List W → Option (α × State × List W)
  | .done a, s, inbox => some (a, s, inbox)
  | .send q next, s, inbox => do
    let sent ← c.write q
    let (reply, s) ← c.attend s sent
    next.overWire c s (inbox ++ reply)
  | .receive next, s, inbox => do
    let (r, inbox) ← c.read inbox
    (next r).overWire c s inbox

variable {serve : Req → Option Rep → Prop} {answers : Req → Rep → Prop}
  {call : State → Req → Rep → State → Prop} {P : Req → Prop} {c : Codec State Req Rep W}

def Codec.Carries (c : Codec State Req Rep W) (answers : Req → Rep → Prop)
    (call : State → Req → Rep → State → Prop) (s : State) (q : Req) : Prop :=
  ∃ r s' sent reply, call s q r s' ∧ answers q r ∧ c.write q = some sent ∧
    c.attend s sent = some (reply, s') ∧ c.read reply = some (r, [])

theorem overWire_calls (carries : ∀ s q, P q → c.Carries answers call s q)
    {d : Talk Req Rep α} (inStep : d.InStep serve answers none) (sends : d.Sends P) (s : State) :
    ∃ a s', d.overWire c s [] = some (a, s', []) ∧ d.Calls call s a s' := by
  have both : (d.InStep serve answers none → d.Sends P → ∀ s, ∃ a s',
        d.overWire c s [] = some (a, s', []) ∧ d.Calls call s a s') ∧
      ∀ q, d.InStep serve answers (some q) → d.Sends P → ∃ next, d = .receive next ∧
        ∀ r, answers q r → ∀ s, ∃ a s', (next r).overWire c s [] = some (a, s', []) ∧
          (next r).Calls call s a s' := by
    clear inStep sends s
    induction d with
    | done a => exact ⟨fun _ _ s => ⟨a, s, rfl, .done a s⟩, fun _ no => no.elim⟩
    | send q next ih =>
      refine ⟨fun inStep sends s => ?_, fun _ no => no.elim⟩
      obtain ⟨next, rfl, go⟩ := ih.2 q inStep.2 sends.2
      obtain ⟨r, s', sent, reply, made, ok, written, attended, read⟩ := carries s q sends.1
      obtain ⟨a, s'', run, rest⟩ := go r ok s'
      refine ⟨a, s'', ?_, .call q next r a s s' s'' made rest⟩
      simp only [Talk.overWire, written, attended, List.nil_append, read, run,
        Option.bind_eq_bind, Option.bind_some]
    | receive next ih =>
      refine ⟨fun no => no.elim, fun q inStep sends => ⟨next, rfl, fun r ok s => ?_⟩⟩
      exact (ih r).1 (inStep r ok) (sends r) s
  exact both.1 inStep sends s

end Dialogue
