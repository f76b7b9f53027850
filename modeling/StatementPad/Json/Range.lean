import StatementPad.Text.Decimal

/-! # The range of numbers

A number with a point or an exponent is a significand of 64 bits and a power of ten: digits that the
significand has no room for are dropped, those before the point at the price of a larger power. It is out of
range if its value, computed with 53 bits, is infinite.
-/
namespace StatementPad.Json

/-- Appends digits to `n` as long as a word has room for them; the second part is what is left. -/
def appendDigits (n : Nat) : Text → Nat × Text
  | [] => (n, [])
  | digit :: rest =>
    let next := 10 * n + (digit.toNat - '0'.toNat)
    if next < Text.Decimal.wordBound then appendDigits next rest else (n, digit :: rest)

/-- The nearest number that has 53 significant bits; of two, the one with an even last bit. -/
def roundBits (n : Nat) : Nat :=
  let unit := Nat.pow 2 (Nat.log2 n - 52)
  let quotient := n / unit
  let rest := n % unit
  if unit < 2 * rest ∨ (unit = 2 * rest ∧ quotient % 2 = 1) then (quotient + 1) * unit else quotient * unit

def infiniteBound : Nat := Nat.pow 2 1024 - Nat.pow 2 970

def maxExponent : Nat := 308

/-- Whether the number with the digits `whole` before and `places` after its point, times a power of ten, is
out of range. -/
def outOfRange (whole places : Text) (exponent : Int) : Bool :=
  let (head, dropped) := appendDigits 0 whole
  let (significand, unread) := appendDigits head places
  let power := exponent + dropped.length - (places.length - unread.length)
  if significand = 0 ∨ power < 0 then false
  else if maxExponent < power then true
  else infiniteBound ≤ roundBits significand * roundBits (Nat.pow 10 power.toNat)

end StatementPad.Json
