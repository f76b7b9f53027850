import StatementPad.Buffer

/-! # Selected lines

What a request takes from the cursor and the selection of a document.
-/
namespace StatementPad

structure LineSelection where
  start : Nat
  stop : Nat
  cursor : Nat
  isSelection : Bool
  deriving DecidableEq, Repr

namespace LineSelection

def atLine (line : Nat) : LineSelection := ⟨line, line, line, false⟩

def ofLines (start stop : Nat) : LineSelection := ⟨start, max stop start, max stop start, true⟩

end LineSelection
end StatementPad
