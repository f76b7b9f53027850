import StatementPad.Console
import StatementPad.Document
import StatementPad.Marker
import StatementPad.Path

/-! # The pad

What the user sees and what is needed to show it: open documents, of which one is shown, a console, markers,
and what is known about the interpreter. `Pad.apply` takes over the events of runs. Screen columns and rows
are words of sixteen bits.
-/
namespace StatementPad

structure Rect where
  x : UInt16
  y : UInt16
  width : UInt16
  height : UInt16
  deriving DecidableEq, Repr

namespace Rect

def lessOne (n : UInt16) : UInt16 := if n = 0 then 0 else n - 1

def innerTop (r : Rect) : UInt16 := r.y + 1

def innerBottom (r : Rect) : UInt16 := r.y + lessOne r.height

def innerRight (r : Rect) : UInt16 := r.x + lessOne r.width

end Rect

structure Pad where
  before : List Document
  shown : Document
  after : List Document
  console : Console
  markers : MarkerBook := []
  /-- The last state that was reported. -/
  runState : RunState := .idle
  kernelAlive : Bool := true
  status : Text
  helpShown : Bool := false
  /-- The first line in the editor pane. -/
  top : Nat := 0
  /-- Where the editor pane was drawn last. -/
  area : Rect := ⟨0, 0, 0, 0⟩
  /-- By how many lines the console is scrolled up from its end. -/
  scroll : Nat := 0
  advanceCursor : Bool := true
  highlightCells : Bool := true
  /-- When the user asked to quit, in milliseconds. -/
  quitAsked : Option Nat := none
  /-- A restart was asked for while something ran. -/
  runInterrupted : Bool := false
  nextId : BufferId
  deriving DecidableEq, Repr

namespace Pad

def ofDocuments (documents : List Document) (maxConsoleLines : Nat) : Pad :=
  let status : Text := "F5 run | F8 run cell | F1 help"
  let console := Console.ofCap maxConsoleLines
  match documents with
  | [] => { before := [], shown := .empty 1, after := [], console, status, nextId := 2 }
  | first :: rest =>
    { before := [], shown := first, after := rest, console, status
      nextId := rest.foldl (fun id d => max id (d.id + 1)) (first.id + 1) }

def documents (p : Pad) : List Document := p.before ++ p.shown :: p.after

def active (p : Pad) : Nat := p.before.length

def isRunning (p : Pad) : Bool := !p.runState.isIdle

/-! ## Documents -/

def takeId (p : Pad) : BufferId × Pad := (p.nextId, { p with nextId := p.nextId + 1 })

def activate (p : Pad) (n : Nat) : Pad :=
  if n = p.active then p
  else
    match p.documents[n]? with
    | none => p
    | some d => { p with before := p.documents.take n, shown := d, after := p.documents.drop (n + 1), top := 0 }

def showNext (p : Pad) : Pad := p.activate ((p.active + 1) % p.documents.length)

def sameFile (d e : Document) : Bool :=
  match d.path, e.path with
  | some p, some q => Path.same p q
  | _, _ => false

/-- Shows a document, or the one that has its file open already. -/
def openDocument (p : Pad) (d : Document) : Pad :=
  match p.documents.findIdx? fun e => sameFile e d with
  | some n => p.activate n
  | none => { p with after := p.after ++ [d] }.activate p.documents.length

def mapFirst {α : Type} (test : α → Bool) (f : α → α) : List α → List α
  | [] => []
  | a :: rest => if test a then f a :: rest else a :: mapFirst test f rest

def updateBuffer (p : Pad) (id : BufferId) (f : Document → Document) : Pad :=
  let isIt (d : Document) : Bool := d.id == id
  if p.before.any isIt then { p with before := mapFirst isIt f p.before }
  else if isIt p.shown then { p with shown := f p.shown }
  else { p with after := mapFirst isIt f p.after }

def edited (p : Pad) (e : EditEvent) : Pad :=
  { p with markers := p.markers.onEdit p.shown.id e p.isRunning }

def edit (p : Pad) (f : Document → Document × EditEvent) : Pad :=
  let (d, e) := f p.shown
  { p with shown := d }.edited e

def editMaybe (p : Pad) (f : Document → Document × Option EditEvent) : Pad :=
  match f p.shown with
  | (d, some e) => { p with shown := d }.edited e
  | (d, none) => { p with shown := d }

def changeShown (p : Pad) (f : Document → Document) : Pad := { p with shown := f p.shown }

/-! ## Events of runs -/

def scrollToEnd (p : Pad) : Pad := { p with scroll := 0 }

def report (p : Pad) (message : Text) : Pad := { p with console := p.console.writeError message }.scrollToEnd

def appendLines : Nat → Document → Document
  | 0, d => d
  | n + 1, d => appendLines n d.appendEmptyLine.1

/-- Puts the cursor on a line; a document that is too short gets empty lines. -/
def visit (line : Nat) (d : Document) : Document :=
  (appendLines (line + 1 - d.lines.length) d).setCursor line 0

def apply (p : Pad) : RunEvent → Pad
  | .state s => { p with runState := s, runInterrupted := !s.isIdle && p.runInterrupted }
  | .paint buffer lines state => { p with markers := p.markers.paint buffer lines state }
  | .clearMarker buffer => { p with markers := p.markers.clear buffer }
  | .moveCursor buffer line => p.updateBuffer buffer (visit line)
  | .finished _ lines outcome =>
    { p with
      console := p.console.writeChunks outcome.chunks
      kernelAlive := true
      status := lines.shown ++ (if outcome.isError then ": failed" else ": done") }.scrollToEnd
  | .aborted _ reason =>
    if p.runInterrupted then p.report "--- run interrupted by restart ---\n"
    else
      { p with kernelAlive := false, status := "Python stopped" }.report
        ("Python is not responding (" ++ reason ++ "). Press Ctrl+R to restart.\n")

def showOutput (p : Pad) (chunks : List Chunk) : Pad :=
  if chunks.isEmpty then p else { p with console := p.console.writeChunks chunks }.scrollToEnd

/-- A restart was asked for: what the interpreter has done so far is void. -/
def restarting (p : Pad) : Pad :=
  { p with
    markers := (p.markers.restate p.shown.id .error).2
    runInterrupted := p.isRunning
    status := "restarting Python..." }

def restarted (p : Pad) : (problem : Option Text) → Pad
  | none =>
    { p with kernelAlive := true, status := "Python restarted" }.report
      "--- Python restarted, namespace cleared ---\n"
  | some problem =>
    { p with kernelAlive := false, status := "restart failed" }.report
      ("Python could not be restarted: " ++ problem ++ "\n")

/-! ## Looking around -/

def toggleHelp (p : Pad) : Pad := { p with helpShown := !p.helpShown }

def followCursor (p : Pad) (height : Nat) : Pad :=
  let line := p.shown.cursor.line
  let height := max height 1
  if line < p.top then { p with top := line }
  else if p.top + height ≤ line then { p with top := line + 1 - height }
  else p

def lineAt (p : Pad) (row : UInt16) : Option Nat :=
  if row < p.area.innerTop ∨ p.area.innerBottom ≤ row then none
  else
    let line := p.top + (row - p.area.innerTop).toNat
    if line < p.shown.lines.length then some line else none

def scrollUp (p : Pad) (rows : Nat) : Pad := { p with scroll := p.scroll + rows }
def scrollDown (p : Pad) (rows : Nat) : Pad := { p with scroll := p.scroll - rows }

/-- Asking twice within this time is a wish to quit. -/
def quitWindow : Nat := 500

/-- The user asks to quit; the answer tells whether to do so. -/
def askQuit (p : Pad) (now : Nat) : Bool × Pad :=
  if p.quitAsked.any fun last => now - last ≤ quitWindow then (true, { p with quitAsked := none })
  else (false, { p with
    shown := p.shown.clearSelection, status := "press Ctrl+C again to quit", quitAsked := some now })

end Pad
end StatementPad
