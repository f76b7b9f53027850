import StatementPad.Document
import StatementPad.Run.Request
import StatementPad.Text.Decimal

/-! # Markers

A marker shows beside some lines of a buffer what became of them. A buffer has one marker at most. Edits
above a marker move it; an edit that touches it removes it, unless something is running.
-/
namespace StatementPad

structure Marker where
  lines : LineRange
  state : MarkerState
  deriving DecidableEq, Repr

abbrev MarkerBook := List (BufferId × Marker)

namespace MarkerBook

def get? (book : MarkerBook) (buffer : BufferId) : Option Marker := book.lookup buffer

def clear (book : MarkerBook) (buffer : BufferId) : MarkerBook := book.filter fun entry => entry.1 ≠ buffer

def paint (book : MarkerBook) (buffer : BufferId) (lines : LineRange) (state : MarkerState) : MarkerBook :=
  (buffer, ⟨lines, state⟩) :: clear book buffer

def restate (book : MarkerBook) (buffer : BufferId) (state : MarkerState) : Bool × MarkerBook :=
  match get? book buffer with
  | some marker => (true, paint book buffer marker.lines state)
  | none => (false, book)

def stateAt (book : MarkerBook) (buffer : BufferId) (line : Nat) : Option MarkerState :=
  match get? book buffer with
  | some marker => if marker.lines.contains line then some marker.state else none
  | none => none

end MarkerBook

namespace Marker

/-- `line`, moved by `delta` as far as the first line and a word of 64 bits allow. -/
def shift (line : Nat) (delta : Int) : Nat := min (line + delta).toNat (Text.Decimal.wordBound - 1)

/-- The edit changes or removes a line of the marker. -/
def touchedBy (m : Marker) (edit : EditEvent) : Bool :=
  edit.line ≤ m.lines.stop && m.lines.start ≤ edit.line + edit.removed

def afterEdit (edit : EditEvent) (running : Bool) (m : Marker) : Option Marker :=
  if m.touchedBy edit then
    if running then some ⟨⟨m.lines.start, max (shift m.lines.stop edit.delta) m.lines.start⟩, .active⟩ else none
  else if edit.line < m.lines.start then
    some { m with lines := ⟨shift m.lines.start edit.delta, shift m.lines.stop edit.delta⟩ }
  else some m

end Marker

def MarkerBook.onEdit (book : MarkerBook) (buffer : BufferId) (edit : EditEvent) (running : Bool) : MarkerBook :=
  match book.get? buffer with
  | none => book
  | some marker =>
    match marker.afterEdit edit running with
    | some m => book.paint buffer m.lines m.state
    | none => book.clear buffer

end StatementPad
