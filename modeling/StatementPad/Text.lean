/-! # Texts

A text is the list of its characters, so a column is a position in the list. Blank characters are those
with the property `White_Space`. `breakLines` cuts a text at its line breaks and `joinLines` puts the
pieces together again; `splitLines` also drops the carriage return that may stand before a break.
-/
namespace StatementPad

abbrev Text := List Char

instance : Coe String Text := ⟨String.toList⟩

namespace Text

/-- The characters with the property `White_Space`. -/
def isBlank (c : Char) : Bool :=
  let n := c.toNat
  (9 ≤ n && n ≤ 13) || n == 0x20 || n == 0x85 || n == 0xA0 || n == 0x1680 || (0x2000 ≤ n && n ≤ 0x200A) ||
    n == 0x2028 || n == 0x2029 || n == 0x202F || n == 0x205F || n == 0x3000

def trimStart (t : Text) : Text := t.dropWhile isBlank

def trimEnd (t : Text) : Text := (t.reverse.dropWhile isBlank).reverse

def trim (t : Text) : Text := trimEnd (trimStart t)

def allBlank (t : Text) : Bool := t.all isBlank

def endsWith (t : Text) (c : Char) : Bool := t.getLast? == some c

def dropReturn (t : Text) : Text := if endsWith t '\r' then t.dropLast else t

/-- The pieces between the places where `c` stands: one more than there are such places. -/
def split (c : Char) : Text → List Text
  | [] => [[]]
  | d :: rest =>
    if d = c then [] :: split c rest
    else match split c rest with
      | [] => [[d]]
      | piece :: pieces => (d :: piece) :: pieces

def breakLines (t : Text) : List Text := split '\n' t

def joinLines (pieces : List Text) : Text := ['\n'].intercalate pieces

/-- The lines of a text as they are edited: without breaks and without a carriage return at their end. -/
def splitLines (t : Text) : List Text := (breakLines t).map dropReturn

/-- The lines of a text as they are shown: a carriage return at the end of the text is part of its last line. -/
def shownLines (t : Text) : List Text :=
  (breakLines t).dropLast.map dropReturn ++ ((breakLines t).getLast?).toList

def after? (head t : Text) : Option Text := if head.isPrefixOf t then some (t.drop head.length) else none

def splitOnce (c : Char) : Text → Option (Text × Text)
  | [] => none
  | d :: rest => if d = c then some ([], rest) else (splitOnce c rest).map fun (head, tail) => (d :: head, tail)

def asciiLower (t : Text) : Text := t.map Char.toLower

def repeated (n : Nat) (c : Char) : Text := List.replicate n c

def padLeft (width : Nat) (c : Char) (t : Text) : Text := repeated (width - t.length) c ++ t

def utf8Width (c : Char) : Nat :=
  if c.toNat < 0x80 then 1 else if c.toNat < 0x800 then 2 else if c.toNat < 0x10000 then 3 else 4

def utf8Length : Text → Nat
  | [] => 0
  | c :: rest => utf8Width c + utf8Length rest

/-- The byte offset of column `n`; past the end it is the length. -/
def byteOffset (t : Text) (n : Nat) : Nat := utf8Length (t.take n)

def takeBytes : Nat → Text → Text
  | _, [] => []
  | n, c :: rest => if utf8Width c ≤ n then c :: takeBytes (n - utf8Width c) rest else []

theorem utf8Width_pos (c : Char) : 0 < utf8Width c := by
  unfold utf8Width
  split
  · exact Nat.one_pos
  · split
    · exact Nat.two_pos
    · split <;> omega

@[simp] theorem utf8Length_append (s t : Text) : utf8Length (s ++ t) = utf8Length s + utf8Length t := by
  induction s with
  | nil => simp [utf8Length]
  | cons c rest ih => simp [utf8Length, ih, Nat.add_assoc]

theorem utf8Length_pos {t : Text} (h : t ≠ []) : 0 < utf8Length t := by
  cases t with
  | nil => exact absurd rfl h
  | cons c rest => exact Nat.lt_of_lt_of_le (utf8Width_pos c) (Nat.le_add_right _ _)

/-- The bytes of a text hold that text, whatever follows. -/
theorem takeBytes_append (s t : Text) : takeBytes (utf8Length s) (s ++ t) = s := by
  induction s with
  | nil =>
    cases t with
    | nil => rfl
    | cons c rest => simp [takeBytes, utf8Length, Nat.ne_of_gt (utf8Width_pos c)]
  | cons c rest ih => simp [takeBytes, utf8Length, ih]

theorem split_ne_nil (c : Char) (t : Text) : split c t ≠ [] := by
  cases t with
  | nil => simp [split]
  | cons d rest =>
    unfold split
    split
    · simp
    · split <;> simp

theorem splitLines_ne_nil (t : Text) : splitLines t ≠ [] := by
  simpa [splitLines, breakLines] using split_ne_nil '\n' t

end Text
end StatementPad
