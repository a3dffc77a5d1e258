import MasterOfFiles.Lib.GuardedRuns

/- Two machines that answer actions one at a time. The abstract one is told, with each action,
   of whatever it does not keep itself and its answer may depend on. -/
namespace Refinement
open GuardedRuns
variable {State Abstract Action Env Reply : Type*}

def replies (serve : State → Action → Reply × State) : State → List Action → List Reply
  | _, [] => []
  | s, a :: as => (serve s a).1 :: replies serve (serve s a).2 as

def after (serve : State → Action → Reply × State) (s : State) (as : List Action) : State :=
  as.foldl (fun s a => (serve s a).2) s

/-- Each action with what the environment was when it was served. -/
def noted (serve : State → Action → Reply × State) (env : State → Env) :
    State → List Action → List (Action × Env)
  | _, [] => []
  | s, a :: as => (a, env s) :: noted serve env (serve s a).2 as

def Alike (serve : State → Action → Reply × State)
    (spec : Abstract → Action × Env → Reply × Abstract) (view : State → Abstract)
    (env : State → Env) (s : State) (a : Action) : Prop :=
  spec (view s) (a, env s) = ((serve s a).1, view (serve s a).2)

variable {serve : State → Action → Reply × State}
  {spec : Abstract → Action × Env → Reply × Abstract} {view : State → Abstract}
  {env : State → Env} {guard : State → Action → Prop}

/-- Machines that serve one action alike give the same replies on whole runs and end in states
    with the same view. -/
theorem refines_run (inv : State → Prop)
    (keeps : ∀ s a, inv s → guard s a → inv (serve s a).2)
    (alike : ∀ s a, inv s → guard s a → Alike serve spec view env s a)
    {s : State} (start : inv s) {as : List Action}
    (run : Along (fun s a => (serve s a).2) guard s as) :
    replies spec (view s) (noted serve env s as) = replies serve s as ∧
      after spec (view s) (noted serve env s as) = view (after serve s as) := by
  induction as generalizing s with
  | nil => exact ⟨rfl, rfl⟩
  | cons a as ih =>
    have one := alike s a start run.1
    obtain ⟨same, final⟩ := ih (keeps s a start run.1) run.2
    simp only [noted, replies, after, List.foldl_cons] at same final ⊢
    rw [show spec (view s) (a, env s) = ((serve s a).1, view (serve s a).2) from one]
    exact ⟨congrArg _ same, final⟩

end Refinement
