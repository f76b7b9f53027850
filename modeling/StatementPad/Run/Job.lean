import StatementPad.Probe

/-! # What a run does

A run finds its block, paints it, moves the cursor past it and hands it to the kernel. Every step is told to
whoever reads the events. Whatever happens, a run ends in the idle state.
-/
namespace StatementPad.Job

inductive Dispatch where
  | evaluate
  | execute
  /-- Source that never compiled is executed as it stands. -/
  | source
  deriving DecidableEq, Repr

def Dispatch.call (filename : Text) (block : CodeBlock) : Dispatch → Task (Except Fault Outcome)
  | evaluate => Task.ask .evaluate
  | execute => Task.ask .execute
  | source => Task.ask (.executeSource block.start filename block.text)

def moveCursor (r : RunRequest) (line : Nat) : Task Unit :=
  if r.advance then Task.send (.moveCursor r.buffer line) else pure ()

def reject (r : RunRequest) (block : CodeBlock) (outcome : Outcome) : Task Unit := do
  let lines := block.codeLines
  Task.setState .failed
  Task.send (.paint r.buffer lines .error)
  moveCursor r block.start
  Task.send (.finished r.buffer lines outcome)

/-- Takes the interpreter to the directory of the buffer when another buffer was entered last. Only a fault
that is fatal keeps the buffer from being entered. -/
def enterBuffer (r : RunRequest) : Task (Except Fault Unit) := do
  if (← Task.perform .lastEntered) = some r.buffer then pure (.ok ())
  else
    match r.workingDir with
    | none => enter
    | some dir =>
      match ← Task.ask (.setWorkingDir dir) with
      | .ok () => enter
      | .error fault => if fault.isFatal then pure (.error fault) else enter
where
  enter : Task (Except Fault Unit) := do
    Task.perform (.enter r.buffer)
    pure (.ok ())

def runBlock (r : RunRequest) (block : CodeBlock) (dispatch : Dispatch) : Task (Except Fault Unit) := do
  let lines := block.codeLines
  Task.setState .resolved
  Task.send (.paint r.buffer lines .active)
  moveCursor r (max r.selection.cursor (block.stop + 1))
  Task.setState .running
  match ← enterBuffer r with
  | .error fault => abandon lines fault
  | .ok () =>
    match ← dispatch.call r.filename block with
    | .error fault => abandon lines fault
    | .ok outcome =>
      Task.setState (if outcome.isError then .error else .success)
      Task.send (.paint r.buffer lines (if outcome.isError then .error else .finished))
      Task.send (.finished r.buffer lines outcome)
      pure (.ok ())
where
  abandon (lines : LineRange) (fault : Fault) : Task (Except Fault Unit) := do
    Task.send (.paint r.buffer lines .error)
    pure (.error fault)

def dispatch (r : RunRequest) : Except Fault Probe → Task (Except Fault Unit)
  | .error fault => pure (.error fault)
  | .ok .empty | .ok .outside => do
    Task.send (.clearMarker r.buffer)
    pure (.ok ())
  | .ok (.invalid block report) => do
    reject r block (.syntaxError report)
    pure (.ok ())
  | .ok (.incomplete block) => do
    reject r block .incomplete
    pure (.ok ())
  | .ok (.exhausted block) => runBlock r block .source
  | .ok (.ready block expression) => runBlock r block (if expression then .evaluate else .execute)

def run (r : RunRequest) : Task Unit := do
  let found ← Probe.find r.snapshot r.filename r.selection r.mode r.requireInside
  match ← dispatch r found with
  | .ok () => pure ()
  | .error fault => Task.send (.aborted r.buffer fault.message)
  Task.setState .idle

/-- Starts the run of a request unless another run is in flight. -/
def trigger (r : RunRequest) : Task Bool := do
  if ← Task.perform .tryBegin then
    Task.send (.state .probing)
    Task.perform (.spawn r)
    pure true
  else pure false

end StatementPad.Job
