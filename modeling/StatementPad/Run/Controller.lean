import StatementPad.Run.Job

/-! # The controller of runs

The state that runs share, and the runs in flight. `Controller.perform` is one atomic action on that state;
`Controller.trigger` and `Controller.settle` take a task as far as it goes when nothing else interferes.
-/
namespace StatementPad

structure Controller where
  state : RunState := .idle
  /-- The buffer whose directory the interpreter is in. -/
  entered : Option BufferId := none
  /-- What has been sent and not yet been read, oldest first. -/
  events : List RunEvent := []
  jobs : List (Task Unit) := []

namespace Controller

def perform : (action : SharedAction) → Controller → action.Answer × Controller
  | .tryBegin, c => let (accepted, state) := c.state.begin; (accepted, { c with state })
  | .advance next, c => ((), { c with state := next })
  | .send event, c => ((), { c with events := c.events ++ [event] })
  | .spawn request, c => ((), { c with jobs := c.jobs ++ [Job.run request] })
  | .lastEntered, c => (c.entered, c)
  | .enter buffer, c => ((), { c with entered := some buffer })

/-- What a kernel in state `κ` answers to a call; it may keep the caller waiting. -/
abbrev Kernel (κ : Type) := (call : KernelCall) → κ → Option call.Answer × κ

def advance {κ α : Type} (answer : Kernel κ) : Task α → Controller → κ → Task α × Controller × κ
  | .done value, c, k => (.done value, c, k)
  | .act action next, c, k =>
    let (reply, c) := c.perform action
    advance answer (next reply) c k
  | .call call next, c, k =>
    match answer call k with
    | (none, k) => (.call call next, c, k)
    | (some reply, k) => advance answer (next reply) c k

def trigger (c : Controller) (r : RunRequest) : Bool × Controller :=
  match advance (fun _ (_ : Unit) => (none, ())) (Job.trigger r) c () with
  | (.done accepted, c, _) => (accepted, c)
  | (_, c, _) => (false, c)

/-- Lets the runs in flight go on until they are done or wait for the kernel. -/
def settle {κ : Type} (answer : Kernel κ) (c : Controller) (k : κ) : Controller × κ :=
  c.jobs.foldl (fun (c, k) job =>
    match advance answer job c k with
    | (.done (), c, k) => (c, k)
    | (job, c, k) => ({ c with jobs := c.jobs ++ [job] }, k)) ({ c with jobs := [] }, k)

def takeEvents (c : Controller) : List RunEvent × Controller := (c.events, { c with events := [] })

def forgetWorkingDir (c : Controller) : Controller := { c with entered := none }

end Controller
end StatementPad
