import StatementPad.Text.Decimal

/-! # Durations

A duration is a number of nanoseconds. It is shown in the largest of the units `s`, `ms`, `µs` and `ns` that
makes it at least one, as a decimal without zeros at its end.
-/
namespace StatementPad.Text.Duration

def ofMilliseconds (n : Nat) : Nat := n * 1000000

/-- `count` parts of a unit that has ten to the power `places` of them. -/
def inUnit (places count : Nat) : Text :=
  let parts := Nat.pow 10 places
  let digits := ((Decimal.writePadded places (count % parts)).reverse.dropWhile (· == '0')).reverse
  Decimal.write (count / parts) ++ (if digits.isEmpty || places = 0 then [] else '.' :: digits)

def shown (nanos : Nat) : Text :=
  if 1000000000 ≤ nanos then inUnit 9 nanos ++ "s"
  else if 1000000 ≤ nanos then inUnit 6 nanos ++ "ms"
  else if 1000 ≤ nanos then inUnit 3 nanos ++ "µs"
  else inUnit 0 nanos ++ "ns"

end StatementPad.Text.Duration
