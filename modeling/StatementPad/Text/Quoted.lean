import StatementPad.Text.Extending
import StatementPad.Text

/-! # Quoted texts

A text as it is shown in a report: between quotes, with everything escaped that would not be seen as it is.
-/
namespace StatementPad.Text.Quoted

def hexDigits (n : Nat) : Text := Nat.toDigits 16 n

def escapeCode (c : Char) : Text := ['\\', 'u', '\x7b'] ++ hexDigits c.toNat ++ ['\x7d']

/-- Letters that fill the place of a part of a syllable and are not seen. -/
def isFiller (c : Char) : Bool :=
  c.toNat == 0x115F || c.toNat == 0x1160 || c.toNat == 0x3164 || c.toNat == 0xFFA0

def isSoundMark (c : Char) : Bool := c.toNat == 0xFF9E || c.toNat == 0xFF9F

def isHidden (c : Char) : Bool := isUnprintable c || isFiller c || (isExtending c && !isSoundMark c)

def escape (c : Char) : Text :=
  if c.toNat = 0 then ['\\', '0']
  else if c = '\t' then ['\\', 't']
  else if c = '\r' then ['\\', 'r']
  else if c = '\n' then ['\\', 'n']
  else if c = '"' ∨ c = '\\' then ['\\', c]
  else if 0x20 ≤ c.toNat ∧ c.toNat < 0x7F then [c]
  else if isHidden c then escapeCode c
  else [c]

def shown (t : Text) : Text := '"' :: (t.flatMap escape ++ ['"'])

end StatementPad.Text.Quoted
