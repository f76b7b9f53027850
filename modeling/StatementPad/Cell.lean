import StatementPad.Buffer

/-! # Cells

Marker lines cut a buffer into cells. A cell goes from the line below its marker, or from the top of the
buffer, to its last line that is not blank; a cell of blank lines only has no range.
-/
namespace StatementPad.Cell

def isMarkerAt (b : Buffer) (line : Nat) : Bool := Line.isCellMarker (Buffer.line b line)

def isBlankAt (b : Buffer) (line : Nat) : Bool := Text.allBlank (Buffer.line b line)

def lastIn (p : Nat → Bool) (start stop : Nat) : Option Nat := (List.range' start (stop - start)).reverse.find? p

def firstIn (p : Nat → Bool) (start stop : Nat) : Option Nat := (List.range' start (stop - start)).find? p

def below (b : Buffer) (start : Nat) : Option LineRange :=
  let stop := (firstIn (isMarkerAt b) start b.length).getD b.length
  (lastIn (fun line => !isBlankAt b line) start stop).map (LineRange.mk start)

def body (b : Buffer) (marker : Nat) : Option LineRange := below b (marker + 1)

def marker? (b : Buffer) (line : Nat) : Option Nat := lastIn (isMarkerAt b) 0 (min line (b.length - 1) + 1)

def enclosing (b : Buffer) (line : Nat) : Option LineRange :=
  match marker? b line with
  | some marker => body b marker
  | none => below b 0

end StatementPad.Cell
