import StatementPad.Text

/-! # Decimal numbers

`write` gives the shortest decimal form. `read?` takes digits only; `readWord?` is for settings and
arguments: a plus sign may come first and the number has to fit 64 bits.
-/
namespace StatementPad.Text.Decimal

def write (n : Nat) : Text := Nat.toDigits 10 n

def writePadded (width n : Nat) : Text := padLeft width '0' (write n)

def value (digits : Text) : Nat := digits.foldl (fun n c => 10 * n + (c.toNat - '0'.toNat)) 0

def read? (t : Text) : Option Nat := if t ≠ [] ∧ t.all Char.isDigit then some (value t) else none

def wordBound : Nat := Nat.pow 2 64

def readWord? (t : Text) : Option Nat :=
  let digits := match t with
    | '+' :: rest => rest
    | _ => t
  (read? digits).filter (· < wordBound)

end StatementPad.Text.Decimal
