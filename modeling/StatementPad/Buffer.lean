import StatementPad.Line
import StatementPad.Text.Decimal

/-! # Buffers

The lines of a file, counted from zero. Reading past the end gives the empty line. A `LineRange` holds its
last line; one that ends before it starts is empty.
-/
namespace StatementPad

abbrev Buffer := List Text

structure LineRange where
  start : Nat
  stop : Nat
  deriving DecidableEq, Repr

namespace LineRange

def contains (r : LineRange) (line : Nat) : Bool := r.start ≤ line && line ≤ r.stop

instance : Membership Nat LineRange := ⟨fun r line => r.start ≤ line ∧ line ≤ r.stop⟩

instance (line : Nat) (r : LineRange) : Decidable (line ∈ r) :=
  inferInstanceAs (Decidable (r.start ≤ line ∧ line ≤ r.stop))

def size (r : LineRange) : Nat := r.stop + 1 - r.start

def isEmpty (r : LineRange) : Bool := r.stop < r.start

def shown (r : LineRange) : Text :=
  if r.start = r.stop then "line " ++ Text.Decimal.write (r.start + 1)
  else "lines " ++ Text.Decimal.write (r.start + 1) ++ "-" ++ Text.Decimal.write (r.stop + 1)

@[simp] theorem contains_iff {r : LineRange} {line : Nat} : r.contains line = true ↔ line ∈ r := by
  simp [contains, Membership.mem]

end LineRange

namespace Buffer

def line (b : Buffer) (n : Nat) : Text := (b[n]?).getD []

def classAt (b : Buffer) (n : Nat) : LineClass := Line.classify (line b n)

def slice (b : Buffer) (start stop : Nat) : List Text := (b.drop start).take (stop + 1 - start)

def textOf (b : Buffer) (start stop : Nat) : Text := Text.joinLines (slice b start stop)

def ofText (t : Text) : Buffer := Text.splitLines t

end Buffer
end StatementPad
