import StatementPad.Batch
import StatementPad.Session
import StatementPad.Settings
import StatementPad.Usage

/-! # The program

From arguments and surroundings to a batch run or an editing session. A program that ends has a code, and has
written to two streams; a failure is reported on the second one.
-/
namespace StatementPad

structure Surroundings where
  files : Files
  cwd : Text
  /-- The directory of the user, unless the environment names another one. -/
  home : Text
  environment : List (Text × Text)
  deriving DecidableEq, Repr

structure Ending where
  code : Nat
  written : List Chunk
  deriving DecidableEq, Repr

namespace Ending

def ofFailure (f : Failure) : Ending := ⟨1, [.err f.report]⟩

def ofUsage (e : UsageError) : Ending := if e.isMistake then ⟨2, [.err e.message]⟩ else ⟨0, [.out e.message]⟩

def ofPrinter (p : Printer) : Except Failure Unit → Ending
  | .ok () => ⟨0, p.written⟩
  | .error f => ⟨1, p.written ++ [.err f.report]⟩

end Ending

namespace Program

variable {σ : Type} (interpreter : Interpreter σ)

def settings (w : Surroundings) (c : CommandLine) : Settings :=
  let s := Settings.load w.files w.home w.environment
  match c.program with
  | some program => s.set "PYPAD_PYTHON" program
  | none => s

def connect (fs : Files) (s : Settings) (worker : σ) : Except Failure (Connection σ) × σ :=
  let limit := Text.Duration.ofMilliseconds s.answerLimit
  match Connection.open interpreter fs s.interpreter limit worker with
  | (.ok c, worker) => (.ok c, worker)
  | (.error fault, worker) => (.error fault.failure, worker)

/-! ## Batch runs -/

def flushOutput (c : Connection σ) : List Chunk × Connection σ :=
  if c.isAlive then
    let (output, c) := c.flush interpreter
    (output.toOption.getD [], c)
  else ([], c)

def kernelAccess : KernelAccess (Connection σ) := ⟨Connection.kernel interpreter, flushOutput interpreter⟩

def documentToRun (w : Surroundings) (c : CommandLine) : Except Failure Document := do
  Document.runnable (← Document.openAll w.files 1 c.files)

def runBatch (w : Surroundings) (color : Bool) (c : CommandLine) (worker : σ) : Ending × σ :=
  match documentToRun w c with
  | .error f => (.ofFailure f, worker)
  | .ok document =>
    match connect interpreter w.files (settings w c) worker with
    | (.error f, worker) => (.ofFailure f, worker)
    | (.ok kernel, _) =>
      let b : Batch (Connection σ) := { document, cwd := w.cwd, kernel, printer := { color } }
      let (b, result) := b.run (kernelAccess interpreter) c
      (.ofPrinter b.printer result, (b.kernel.shutdown interpreter).worker)

/-! ## Editing sessions -/

def prepareLog (fs : Files) (path : Text) : Except Failure Files := do
  let dir := (Path.parent? path).getD []
  let (result, fs) := fs.createDirs dir
  SnippetLog.during "creating log directory " dir result
  SnippetLog.during "opening log file " path (fs.appendText path [])

/-- A session with the files of the arguments, as it is before the first key. -/
def openSession (w : Surroundings) (c : CommandLine) (worker : σ) : Except Failure (Session σ) × σ :=
  let s := settings w c
  match prepareLog w.files s.logFile with
  | .error f => (.error f, worker)
  | .ok files =>
    match Document.openAll files 1 c.files with
    | .error f => (.error f, worker)
    | .ok documents =>
      match connect interpreter files s worker with
      | (.error f, worker) => (.error f, worker)
      | (.ok connection, worker) =>
        let pad := { Pad.ofDocuments documents s.maxConsoleLines with
          advanceCursor := s.advanceCursor && !c.inPlace, highlightCells := s.cellHighlight }
        (.ok { pad, connection, files, snippetLog := s.snippetLog, cwd := w.cwd }, worker)

end Program
end StatementPad
