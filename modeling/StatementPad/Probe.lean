import StatementPad.Block
import StatementPad.Block.Start
import StatementPad.Block.Ends
import StatementPad.Cell
import StatementPad.Run.Task

/-! # Finding the block to run

The smallest block around a selection that the compiler accepts. The block is grown from one proposed end
to the next for as long as the compiler asks for more lines; a cell is taken as it is.
-/
namespace StatementPad

inductive Probe where
  | empty
  /-- The cursor has to lie in the block and does not. -/
  | outside
  | ready (block : CodeBlock) (expression : Bool)
  | invalid (block : CodeBlock) (report : List Chunk)
  /-- A cell that needs more lines. -/
  | incomplete (block : CodeBlock)
  /-- Every proposed end was asked to go on. -/
  | exhausted (block : CodeBlock)
  deriving DecidableEq, Repr

namespace Probe

/-- A block without text is incomplete, and the kernel is not asked. -/
def judge (filename : Text) (block : CodeBlock) : Task (Except Fault Verdict) :=
  if block.isEmpty then pure (.ok .incomplete) else Task.ask (.compile block.start filename block.text)

/-- The block whose `first` line and last line are known to compile, unless the cursor is to be inside. -/
def confirm (inside : Option Nat) (block : CodeBlock) (expression : Bool) : Probe :=
  if inside.all block.lines.contains then ready block expression else outside

def settle? (inside : Option Nat) (block : CodeBlock) : Except Fault Verdict → Option (Except Fault Probe)
  | .error fault => some (.error fault)
  | .ok .expression => some (.ok (confirm inside block true))
  | .ok .statements => some (.ok (confirm inside block false))
  | .ok (.syntaxError report) => some (.ok (invalid block report))
  | .ok .incomplete => none

/-- Tries the block from `start` to `stop`, and then, for as long as it is incomplete, the ones that end
at the lines that follow. -/
def grow (b : Buffer) (filename : Text) (inside : Option Nat) (start stop : Nat) :
    List Nat → Task (Except Fault Probe)
  | [] => do
    let block := CodeBlock.ofBuffer b start stop
    let verdict ← judge filename block
    pure ((settle? inside block verdict).getD (.ok (if block.isEmpty then empty else exhausted block)))
  | next :: more => do
    let block := CodeBlock.ofBuffer b start stop
    let verdict ← judge filename block
    match settle? inside block verdict with
    | some result => pure result
    | none => grow b filename inside start next more

/-- The line that is known to belong to the block: its first code line, unless that is indented. -/
def startHint (anchor : Nat) (first : EndCandidate) : Nat :=
  if first.needsAbove then anchor else first.firstCode.getD anchor

def ofSelection (b : Buffer) (filename : Text) (selection : LineSelection) (requireInside : Bool) :
    Task (Except Fault Probe) :=
  let last := b.length - 1
  let anchor := min selection.start last
  let minLine := max anchor (min selection.stop last)
  match EndCandidate.candidates b anchor minLine b.length with
  | [] => pure (.ok empty)
  | first :: rest =>
    if first.isEmpty then pure (.ok empty)
    else
      let start := BlockStart.find b (startHint anchor first) first.needsAbove
      let stop := max first.stop start
      let inside := if requireInside then some selection.cursor else none
      grow b filename inside start stop ((rest.map EndCandidate.stop).filter (stop < ·))

def ofCell (b : Buffer) (filename : Text) (range : LineRange) : Task (Except Fault Probe) := do
  let block := CodeBlock.ofBuffer b range.start range.stop
  match ← judge filename block with
  | .error fault => pure (.error fault)
  | .ok .expression => pure (.ok (ready block true))
  | .ok .statements => pure (.ok (ready block false))
  | .ok .incomplete => pure (.ok (incomplete block))
  | .ok (.syntaxError report) => pure (.ok (invalid block report))

/-- A selection in `block` mode that stands for the cell below its line. -/
def startsOnMarker (b : Buffer) (selection : LineSelection) : Bool :=
  !selection.isSelection && Cell.isMarkerAt b selection.start

def find (b : Buffer) (filename : Text) (selection : LineSelection) (mode : RunMode) (requireInside : Bool) :
    Task (Except Fault Probe) :=
  if b.isEmpty then pure (.ok empty)
  else
    match mode with
    | .cell => ofRange (Cell.enclosing b selection.cursor)
    | .block =>
      if startsOnMarker b selection then ofRange (Cell.body b selection.start)
      else ofSelection b filename selection requireInside
where
  ofRange : Option LineRange → Task (Except Fault Probe)
    | some range => ofCell b filename range
    | none => pure (.ok empty)

end Probe
end StatementPad
