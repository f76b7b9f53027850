import StatementPad.Output

/-! # The console

Lines of output, at most `maxLines` of them: when there are more, the oldest go. The last line stays open
until it is terminated, and text for its stream goes on in it. A batch remembers where it began, so that
`undo` can take back what it wrote.
-/
namespace StatementPad

structure ConsoleLine where
  text : Text
  isError : Bool
  deriving DecidableEq, Repr

/-- Where a batch began: how many lines there were, and the bytes of the last one if it was open. -/
structure BatchMark where
  start : Nat
  openLength : Option Nat
  deriving DecidableEq, Repr

structure Console where
  lines : List ConsoleLine := []
  /-- The last line has not been terminated. -/
  isOpen : Bool := false
  /-- The newest batch first. -/
  batches : List BatchMark := []
  current : Option BatchMark := none
  maxLines : Nat
  deriving DecidableEq, Repr

namespace Console

def ofCap (maxLines : Nat) : Console := { maxLines := max maxLines 1 }

def text (c : Console) : Text :=
  Text.joinLines (c.lines.map ConsoleLine.text) ++ (if c.lines.isEmpty || c.isOpen then [] else ['\n'])

def clear (c : Console) : Console := ofCap c.maxLines

/-! ## Writing -/

def trimReturns (t : Text) : Text := (t.reverse.dropWhile (· == '\r')).reverse

/-- Adds one piece of a line, to the open line if that belongs to the same stream. -/
def addPiece (isError : Bool) (c : Console) (piece : Text) (terminated : Bool) : Console :=
  let piece := trimReturns piece
  match c.lines.getLast? with
  | some last =>
    if c.isOpen && last.isError == isError then
      { c with lines := c.lines.dropLast ++ [⟨last.text ++ piece, isError⟩], isOpen := !terminated }
    else { c with lines := c.lines ++ [⟨piece, isError⟩], isOpen := !terminated }
  | none => { c with lines := [⟨piece, isError⟩], isOpen := !terminated }

def addPieces (isError : Bool) : Console → List Text → Console
  | c, [] => c
  | c, [last] => if last.isEmpty then c else c.addPiece isError last false
  | c, piece :: rest => addPieces isError (c.addPiece isError piece true) rest

def BatchMark.shifted (excess : Nat) (m : BatchMark) : BatchMark :=
  ⟨m.start - excess, if m.start ≤ excess then none else m.openLength⟩

def dropOldest (c : Console) : Console :=
  let excess := c.lines.length - c.maxLines
  if excess = 0 then c
  else
    { c with
      lines := c.lines.drop excess
      batches := c.batches.map (BatchMark.shifted excess)
      current := c.current.map (BatchMark.shifted excess) }

def write (isError : Bool) (t : Text) (c : Console) : Console :=
  (addPieces isError c (Text.breakLines t)).dropOldest

def writeOut (c : Console) (t : Text) : Console := c.write false t
def writeError (c : Console) (t : Text) : Console := c.write true t

def writeChunk (c : Console) (chunk : Chunk) : Console :=
  match chunk.stream with
  | .out => c.writeOut chunk.text
  | .err => c.writeError chunk.text

/-! ## Batches -/

def mark (c : Console) : BatchMark :=
  ⟨c.lines.length, if c.isOpen then c.lines.getLast?.map fun last => Text.utf8Length last.text else none⟩

def changedSince (c : Console) (m : BatchMark) : Bool :=
  c.lines.length != m.start ||
    match m.openLength, c.lines.getLast? with
    | some length, some last => Text.utf8Length last.text != length
    | _, _ => false

def beginBatch (c : Console) : Console := { c with current := some c.mark }

/-- Keeps the batch if it wrote anything. -/
def endBatch (c : Console) : Console :=
  match c.current with
  | none => c
  | some m => { c with current := none, batches := if c.changedSince m then m :: c.batches else c.batches }

def writeChunks (c : Console) (chunks : List Chunk) : Console :=
  if chunks.isEmpty then c else (chunks.foldl writeChunk c.beginBatch).endBatch

def cutLast (length : Nat) : List ConsoleLine → List ConsoleLine
  | [] => []
  | [last] => [{ last with text := Text.takeBytes length last.text }]
  | line :: rest => line :: cutLast length rest

def undo (c : Console) : Bool × Console :=
  match c.batches with
  | [] => (false, c)
  | m :: batches =>
    let lines := c.lines.take m.start
    match m.openLength, lines with
    | some length, _ :: _ => (true, { c with lines := cutLast length lines, isOpen := true, batches })
    | _, _ => (true, { c with lines, isOpen := false, batches })

end Console
end StatementPad
