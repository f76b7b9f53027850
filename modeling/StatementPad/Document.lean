import StatementPad.Selection

/-! # Documents

The lines of an open file, a cursor and the other end of a selection. Every edit replaces the text between
two positions by some pieces of lines; the cursor ends up behind them. The event of an edit tells how many
lines after its first one went and by how many the buffer grew.
-/
namespace StatementPad

structure Position where
  line : Nat
  column : Nat
  deriving DecidableEq, Repr

namespace Position

def before (p q : Position) : Bool := p.line < q.line || (p.line == q.line && p.column < q.column)

end Position

structure EditEvent where
  line : Nat
  /-- By how many lines the buffer grew. -/
  delta : Int
  /-- The lines after `line` that went, before anything was put in their place. -/
  removed : Nat
  deriving DecidableEq, Repr

def EditEvent.simple (line : Nat) (delta : Int) : EditEvent := ⟨line, delta, (-delta).toNat⟩

structure Document where
  id : Nat
  path : Option Text
  lines : Buffer
  cursor : Position := ⟨0, 0⟩
  /-- Where the selection began. -/
  anchor : Option Position := none
  modified : Bool := false
  deriving DecidableEq, Repr

namespace Document

def ofText (id : Nat) (t : Text) (path : Option Text) : Document :=
  { id, path, lines := Buffer.ofText t }

def empty (id : Nat) : Document := ofText id [] none

def lineLength (d : Document) (line : Nat) : Nat := (Buffer.line d.lines line).length

def lastLine (d : Document) : Nat := d.lines.length - 1

def clamp (d : Document) (p : Position) : Position :=
  let line := min p.line d.lastLine
  ⟨line, min p.column (d.lineLength line)⟩

/-! ## Selection -/

def selection (d : Document) : Option (Position × Position) :=
  match d.anchor with
  | none => none
  | some anchor =>
    if anchor.before d.cursor then some (anchor, d.cursor)
    else if d.cursor.before anchor then some (d.cursor, anchor)
    else none

def clearSelection (d : Document) : Document := { d with anchor := none }

def setCursor (d : Document) (line column : Nat) : Document :=
  { d with anchor := none, cursor := d.clamp ⟨line, column⟩ }

def selectLines (d : Document) (start stop : Nat) : Document :=
  let stop := min stop d.lastLine
  { d with
    anchor := some ⟨min start stop, 0⟩
    cursor := if stop < d.lastLine then ⟨stop + 1, 0⟩ else ⟨stop, d.lineLength stop⟩ }

/-- The selection as lines; a last line of which nothing is selected does not count. -/
def lineSelection (d : Document) : LineSelection :=
  match d.selection with
  | some (start, stop) =>
    { start := start.line
      stop := if stop.column = 0 ∧ start.line < stop.line then stop.line - 1 else stop.line
      cursor := d.cursor.line
      isSelection := true }
  | none => .atLine d.cursor.line

def piecesBetween (b : Buffer) (start stop : Position) : List Text :=
  if start.line = stop.line then
    [((Buffer.line b start.line).take stop.column).drop start.column]
  else
    (Buffer.line b start.line).drop start.column ::
      ((b.drop (start.line + 1)).take (stop.line - (start.line + 1)) ++
        [(Buffer.line b stop.line).take stop.column])

def selectedText (d : Document) : Option Text :=
  d.selection.map fun (start, stop) => Text.joinLines (piecesBetween d.lines start stop)

/-! ## Moving the cursor -/

inductive Move where
  | left
  | right
  | up (rows : Nat)
  | down (rows : Nat)
  | home
  | stop
  deriving DecidableEq, Repr

def destination (d : Document) : Move → Position
  | .left =>
    if 0 < d.cursor.column then ⟨d.cursor.line, d.cursor.column - 1⟩
    else if 0 < d.cursor.line then ⟨d.cursor.line - 1, d.lineLength (d.cursor.line - 1)⟩
    else d.cursor
  | .right =>
    if d.cursor.column < d.lineLength d.cursor.line then ⟨d.cursor.line, d.cursor.column + 1⟩
    else if d.cursor.line + 1 < d.lines.length then ⟨d.cursor.line + 1, 0⟩
    else d.cursor
  | .up rows => d.clamp ⟨d.cursor.line - rows, d.cursor.column⟩
  | .down rows => d.clamp ⟨min (d.cursor.line + rows) d.lastLine, d.cursor.column⟩
  | .home => ⟨d.cursor.line, 0⟩
  | .stop => ⟨d.cursor.line, d.lineLength d.cursor.line⟩

def move (d : Document) (m : Move) (extend : Bool) : Document :=
  { d with
    anchor := if extend then some (d.anchor.getD d.cursor) else none
    cursor := d.destination m }

/-! ## Editing -/

/-- The lines with `pieces` in place of what stands between two positions: the first piece goes on the line
of `start`, the last one before the rest of the line of `stop`. -/
def splice (b : Buffer) (start stop : Position) (pieces : List Text) : Buffer :=
  let head := (Buffer.line b start.line).take start.column
  let tail := (Buffer.line b stop.line).drop stop.column
  let inserted := match pieces with
    | [] => [head ++ tail]
    | [piece] => [head ++ piece ++ tail]
    | first :: rest => (head ++ first) :: (rest.dropLast ++ [rest.getLastD [] ++ tail])
  b.take start.line ++ inserted ++ b.drop (stop.line + 1)

def behind (start : Position) : List Text → Position
  | [] => start
  | [piece] => ⟨start.line, start.column + piece.length⟩
  | _ :: rest => ⟨start.line + rest.length, (rest.getLastD []).length⟩

def replace (d : Document) (start stop : Position) (pieces : List Text) : Document × EditEvent :=
  let removed := stop.line - start.line
  ({ d with lines := splice d.lines start stop pieces, cursor := behind start pieces, modified := true },
   { line := start.line, delta := ((pieces.length - 1 : Nat) : Int) - removed, removed })

def bounds (d : Document) : Position × Position := d.selection.getD (d.cursor, d.cursor)

def releaseAnchor (d : Document) : Option Position := if d.selection.isSome then none else d.anchor

def replaceSelection (d : Document) (pieces : List Text) : Document × EditEvent :=
  { d with anchor := d.releaseAnchor }.replace d.bounds.1 d.bounds.2 pieces

def indentStep : Text := "    "

/-- The indentation of the line below a line that begins with `head`: one level more after a colon. -/
def indentBelow (head : Text) : Text :=
  head.takeWhile Line.isGap ++ (if Text.endsWith (Text.trimEnd head) ':' then indentStep else [])

/-- Breaks the line; blanks behind the cursor give way to the indentation. -/
def insertNewline (d : Document) : Document × EditEvent :=
  let (start, stop) := d.bounds
  let head := (Buffer.line d.lines start.line).take start.column
  let tail := (Buffer.line d.lines stop.line).drop stop.column
  let stop := ⟨stop.line, stop.column + (tail.takeWhile Text.isBlank).length⟩
  { d with anchor := d.releaseAnchor }.replace start stop [[], indentBelow head]

def insertChar (d : Document) (c : Char) : Document × EditEvent :=
  if c = '\n' then d.insertNewline else d.replaceSelection [[c]]

def insertText (d : Document) (t : Text) : Document × EditEvent := d.replaceSelection (Text.splitLines t)

def insertTab (d : Document) : Document × EditEvent := d.insertText indentStep

def deleteSelection (d : Document) : Document × Option EditEvent :=
  match d.selection with
  | none => (d, none)
  | some _ => let (d, event) := d.replaceSelection [[]]; (d, some event)

def deleteTo (d : Document) (other : Position) : Document × Option EditEvent :=
  let d := d.clearSelection
  if d.cursor.before other then let (d, event) := d.replace d.cursor other [[]]; (d, some event)
  else if other.before d.cursor then let (d, event) := d.replace other d.cursor [[]]; (d, some event)
  else (d, none)

def backspace (d : Document) : Document × Option EditEvent :=
  if d.selection.isSome then d.deleteSelection else d.deleteTo (d.destination .left)

def delete (d : Document) : Document × Option EditEvent :=
  if d.selection.isSome then d.deleteSelection else d.deleteTo (d.destination .right)

def appendEmptyLine (d : Document) : Document × EditEvent :=
  ({ d with lines := d.lines ++ [[]], modified := true }, .simple d.lastLine 1)

end Document
end StatementPad
