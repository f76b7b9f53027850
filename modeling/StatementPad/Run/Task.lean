import StatementPad.Fault
import StatementPad.Run.Request

/-! # Tasks

A task is what is left to do of a piece of work, one atomic step at a time: an action on the state that all
runs share, or a call to the kernel, whose answer decides what comes next. Schedules interleave the steps of
several tasks; `Task.bind` puts one task after another.
-/
namespace StatementPad

inductive KernelCall where
  /-- Compile source that begins at line `offset` of a file; the kernel keeps what compiles. -/
  | compile (offset : Nat) (filename source : Text)
  /-- Evaluate the expression that compiled last. -/
  | evaluate
  | execute
  | executeSource (offset : Nat) (filename source : Text)
  | setWorkingDir (path : Text)
  deriving DecidableEq, Repr

abbrev KernelCall.Answer : KernelCall → Type
  | compile .. => Except Fault Verdict
  | evaluate | execute | executeSource .. => Except Fault Outcome
  | setWorkingDir _ => Except Fault Unit

inductive SharedAction where
  /-- Claim the idle state; the answer tells whether it was idle. -/
  | tryBegin
  | advance (next : RunState)
  | send (event : RunEvent)
  | spawn (request : RunRequest)
  | lastEntered
  | enter (buffer : BufferId)
  deriving DecidableEq, Repr

abbrev SharedAction.Answer : SharedAction → Type
  | tryBegin => Bool
  | lastEntered => Option BufferId
  | advance _ | send _ | spawn _ | enter _ => Unit

inductive Task (α : Type) : Type where
  | done (value : α)
  | act (action : SharedAction) (next : action.Answer → Task α)
  | call (call : KernelCall) (next : call.Answer → Task α)

namespace Task

variable {α β : Type}

def bind : Task α → (α → Task β) → Task β
  | done value, f => f value
  | act action next, f => act action fun answer => bind (next answer) f
  | call c next, f => call c fun answer => bind (next answer) f

instance : Monad Task where
  pure := done
  bind := bind

def perform (action : SharedAction) : Task action.Answer := act action done

def ask (c : KernelCall) : Task c.Answer := call c done

def send (event : RunEvent) : Task Unit := perform (.send event)

/-- Change the state, then report the change: two steps. -/
def setState (s : RunState) : Task Unit := do
  perform (.advance s)
  send (.state s)

end Task
end StatementPad
