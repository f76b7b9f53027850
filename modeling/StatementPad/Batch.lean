import StatementPad.CommandLine
import StatementPad.Document.File
import StatementPad.Document.Request
import StatementPad.Printer
import StatementPad.Run.Controller

/-! # Batch runs

Without an editor, either one block or cell is run, or the blocks of a document one after the other until one
of them fails. A step triggers one run and follows its events to the idle state; output that the interpreter
has collected is fetched before and after it.
-/
namespace StatementPad

structure KernelAccess (κ : Type) where
  answer : Controller.Kernel κ
  flush : κ → List Chunk × κ

structure Batch (κ : Type) where
  document : Document
  /-- Where relative paths start. -/
  cwd : Text
  kernel : κ
  printer : Printer
  controller : Controller := {}

namespace Batch

variable {κ : Type} (access : KernelAccess κ)

structure Step where
  ran : Option LineRange := none
  failed : Bool := false
  nextLine : Option Nat := none
  deriving DecidableEq, Repr

/-- Prints the events of a run of the document called `name`, up to the idle state. -/
def follow (name : Text) : List RunEvent → Printer → Step → Printer × Except Failure Step
  | [], printer, _ => (printer, .error ⟨"execution controller stopped", []⟩)
  | event :: rest, printer, step =>
    match event with
    | .state .idle => (printer, .ok step)
    | .paint _ lines .active => follow name rest (printer.banner ("# " ++ name ++ " " ++ lines.shown)) step
    | .moveCursor _ line => follow name rest printer { step with nextLine := some line }
    | .finished _ lines outcome =>
      follow name rest (printer.writeChunks outcome.chunks)
        { step with ran := some lines, failed := outcome.isError }
    | .aborted _ reason => (printer, .error ⟨"Python stopped responding: " ++ reason, []⟩)
    | _ => follow name rest printer step

def printWaiting (b : Batch κ) : Batch κ :=
  let (chunks, kernel) := access.flush b.kernel
  { b with kernel, printer := b.printer.writeChunks chunks }

def step (mode : RunMode) (b : Batch κ) : Batch κ × Except Failure Step :=
  let (accepted, controller) := b.controller.trigger (b.document.request b.cwd mode)
  if accepted then
    let b := ({ b with controller } : Batch κ).printWaiting access
    let (controller, kernel) := b.controller.settle access.answer b.kernel
    let (events, controller) := controller.takeEvents
    let (printer, result) := follow b.document.name events b.printer {}
    let b := { b with controller, kernel, printer }
    match result with
    | .ok step => (b.printWaiting access, .ok step)
    | .error f => (b, .error f)
  else (b, .error ⟨"an execution is already running", []⟩)

def failure (lines : LineRange) : Failure := ⟨lines.shown ++ " failed", []⟩

/-! ## One run -/

def outOfRange (d : Document) : Failure :=
  ⟨d.name ++ " has only " ++ Text.Decimal.write d.lines.length ++ " lines", []⟩

def place (line : Option Nat) (endLine : Option Nat) (d : Document) : Except Failure Document :=
  let start := line.getD 1 - 1
  if d.lines.length ≤ start then .error (outOfRange d)
  else .ok <| match endLine with
    | some stop => d.selectLines start (max (stop - 1) start)
    | none => d.setCursor start 0

def runOne (line endLine : Option Nat) (mode : RunMode) (b : Batch κ) : Batch κ × Except Failure Unit :=
  match place line endLine b.document with
  | .error f => (b, .error f)
  | .ok document =>
    match ({ b with document } : Batch κ).step access mode with
    | (b, .error f) => (b, .error f)
    | (b, .ok step) =>
      match step.ran with
      | some lines => (b, if step.failed then .error (failure lines) else .ok ())
      | none => ({ b with printer := b.printer.notice "nothing to run" }, .ok ())

/-! ## All blocks -/

inductive Progress where
  | finished (result : Except Failure Unit)
  | goOn

def advance (b : Batch κ) : Batch κ × Progress :=
  match b.step access .block with
  | (b, .error f) => (b, .finished (.error f))
  | (b, .ok step) =>
    match step.ran, step.nextLine with
    | none, _ => (b, .finished (.ok ()))
    | some lines, next? =>
      if step.failed then (b, .finished (.error (failure lines)))
      else
        match next? with
        | some next =>
          if next < b.document.lines.length ∧ lines.start < next then
            ({ b with document := b.document.setCursor next 0 }, .goOn)
          else (b, .finished (.ok ()))
        | none => (b, .finished (.ok ()))

/-- Runs at most `n` blocks; there is no result while more could be run. -/
def advanceAtMost : Nat → Batch κ → Batch κ × Option (Except Failure Unit)
  | 0, b => (b, none)
  | n + 1, b =>
    match b.advance access with
    | (b, .finished result) => (b, some result)
    | (b, .goOn) => advanceAtMost n b

/-- Runs the document from its top. Every run moves the cursor down, so that there is one for each line at
most. -/
def runAll (b : Batch κ) : Batch κ × Except Failure Unit :=
  let b := { b with document := b.document.setCursor 0 0 }
  let (b, result) := advanceAtMost access b.document.lines.length b
  (b, result.getD (.ok ()))

def run (c : CommandLine) (b : Batch κ) : Batch κ × Except Failure Unit :=
  if c.all || (c.line.isNone && !c.cell) then b.runAll access
  else b.runOne access c.line c.endLine (if c.cell then .cell else .block)

end Batch
end StatementPad
