import StatementPad.Channel.Connection
import StatementPad.Document.File
import StatementPad.Document.Request
import StatementPad.Key
import StatementPad.Pad.Drawing
import StatementPad.SnippetLog

/-! # Editing sessions

A session is the pad together with the controller of runs, the connection to the interpreter and the files.
Keys and the mouse act at once; what runs and restarts report is taken over by `settle`, and output that was
collected between runs by `tick`.
-/
namespace StatementPad

/-- A point in time, in milliseconds and as it is written in the log of snippets. -/
structure Instant where
  millis : Nat
  stamp : Text
  deriving DecidableEq, Repr

structure Session (σ : Type) where
  pad : Pad
  connection : Connection σ
  files : Files
  snippetLog : Text
  cwd : Text
  controller : Controller := {}
  /-- How the restarts ended that have not been reported yet. -/
  restarts : List (Option Fault) := []

namespace Session

variable {σ : Type} (interpreter : Interpreter σ)

def withPad (s : Session σ) (f : Pad → Pad) : Session σ := { s with pad := f s.pad }

def say (s : Session σ) (status : Text) : Session σ := s.withPad fun p => { p with status }

/-! ## Runs -/

def trigger (s : Session σ) (r : RunRequest) : Session σ :=
  if s.pad.shown.isPython then
    let (accepted, controller) := s.controller.trigger r
    if accepted then { s with controller } else s.say ("busy (" ++ s.controller.state.label ++ ")")
  else s.say (s.pad.shown.name ++ " is not a Python buffer")

def run (s : Session σ) (mode : RunMode) (advance : Bool) : Session σ :=
  s.trigger { s.pad.shown.request s.cwd mode with advance }

def restart (s : Session σ) : Session σ :=
  let (fault, connection) := s.connection.restart interpreter s.files
  { s with pad := s.pad.restarting, connection, restarts := s.restarts ++ [fault] }

def deliver (s : Session σ) : Session σ :=
  let (events, controller) := s.controller.takeEvents
  { s with controller, pad := events.foldl Pad.apply s.pad }

def reportRestart (s : Session σ) (fault : Option Fault) : Session σ :=
  { s with controller := s.controller.forgetWorkingDir, pad := s.pad.restarted (fault.map Fault.message) }

/-- Lets runs go on as far as they can, and shows what they and the restarts report. -/
def settle (s : Session σ) : Session σ :=
  let (controller, connection) := s.controller.settle (Connection.kernel interpreter) s.connection
  let s := ({ s with controller, connection } : Session σ).deliver
  { s.restarts.foldl reportRestart s with restarts := [] }

def tick (s : Session σ) : Session σ :=
  if s.connection.isAlive then
    let (output, connection) := s.connection.flush interpreter
    { s with connection, pad := s.pad.showOutput (output.toOption.getD []) }
  else s

/-! ## Files -/

def save (s : Session σ) : Session σ :=
  match s.pad.shown.save s.files with
  | .ok (d, files) =>
    ({ s with files, pad := s.pad.changeShown fun _ => d } : Session σ).say ("saved " ++ d.name)
  | .error f => s.say f.inline

def logSnippet (now : Instant) (s : Session σ) : Session σ :=
  match s.pad.shown.selectedText with
  | some snippet =>
    let (result, files) := SnippetLog.append s.files s.snippetLog now.stamp snippet
    ({ s with files } : Session σ).say <| match result with
      | .ok () => "snippet saved to " ++ s.snippetLog
      | .error f => f.inline
  | none =>
    let (id, pad) := s.pad.takeId
    let s := { s with pad }
    match Document.openFile s.files id s.snippetLog with
    | .ok d => s.withPad (·.openDocument d)
    | .error f => s.say f.inline

/-! ## Keys and the mouse -/

def control (now : Instant) (s : Session σ) : Char → Bool × Session σ
  | 'q' => (true, s)
  | 'c' => let (quit, pad) := s.pad.askQuit now.millis; (quit, { s with pad })
  | 'r' => (false, s.restart interpreter)
  | 'l' => (false, s.withPad fun p => { p with console := p.console.clear }.scrollToEnd)
  | 'u' =>
    match s.pad.console.undo with
    | (true, console) => (false, s.withPad fun p => { p with console })
    | (false, _) => (false, s.say "nothing to undo")
  | 's' => (false, s.save)
  | 'k' => (false, s.logSnippet now)
  | 'n' => (false, s.withPad Pad.showNext)
  | _ => (false, s)

def function (s : Session σ) : Nat → Session σ
  | 1 => s.withPad Pad.toggleHelp
  | 5 => s.run .block s.pad.advanceCursor
  | 6 => s.run .block false
  | 8 => s.run .cell s.pad.advanceCursor
  | _ => s

/-- What a key does; the answer tells whether the session is over. While the help is shown, any key closes
it. -/
def press (now : Instant) (s : Session σ) (key : Key) : Bool × Session σ :=
  if s.pad.helpShown then (false, s.withPad Pad.toggleHelp)
  else
    match key with
    | .control c => s.control interpreter now c
    | .function n => (false, s.function n)
    | .typed c => (false, s.withPad (·.edit (·.insertChar c)))
    | .move m extend => (false, s.withPad (·.changeShown (·.move m extend)))
    | .enter => (false, s.withPad (·.edit (·.insertNewline)))
    | .tab => (false, s.withPad (·.edit (·.insertTab)))
    | .backspace => (false, s.withPad (·.editMaybe (·.backspace)))
    | .delete => (false, s.withPad (·.editMaybe (·.delete)))
    | .pageUp => (false, s.withPad (·.scrollUp 5))
    | .pageDown => (false, s.withPad (·.scrollDown 5))
    | .unknown => (false, s)

def mouse (s : Session σ) (column row : UInt16) : MouseAction → Session σ
  | .scrollUp => s.withPad (·.scrollUp 1)
  | .scrollDown => s.withPad (·.scrollDown 1)
  | .pressLeft => s.withPad (·.click column row)
  | .pressMiddle =>
    match s.pad.lineAt row with
    | some line => s.trigger ((s.pad.shown.request s.cwd .block).clickedAt line)
    | none => s
  | .other => s

def paste (s : Session σ) (t : Text) : Session σ := s.withPad (·.edit (·.insertText t))

end Session
end StatementPad
