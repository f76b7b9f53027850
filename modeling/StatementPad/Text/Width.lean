import StatementPad.Text
import StatementPad.Text.CharWidth
import StatementPad.Text.Emoji

/-! # Widths of texts

How many columns of a screen a text takes. Some characters take more or fewer columns than they would alone
because of what follows them: letters that are written as one, flags, and emoji with selectors, tones or joiners.
So a text is measured from its end, and `Context` is what a character has to know of the text behind it.
-/
namespace StatementPad.Text

/-! ## Letters of ligatures -/

/-- The letters of the joining group of alef. -/
def alefRanges : List (Nat × Nat) :=
  [(0x622, 0x623), (0x625, 0x625), (0x627, 0x627), (0x671, 0x673), (0x675, 0x675), (0x773, 0x774),
   (0x870, 0x882)]

def lamRanges : List (Nat × Nat) :=
  [(0x644, 0x644), (0x6B5, 0x6B8), (0x76A, 0x76A), (0x8A6, 0x8A6), (0x8C7, 0x8C7)]

/-- Characters without a column that part a lam from its alef. -/
def partingRanges : List (Nat × Nat) :=
  [(0x605, 0x605), (0x890, 0x891), (0x8E2, 0x8E2), (0x9BE, 0x9BE), (0x9D7, 0x9D7), (0xB3E, 0xB3E),
   (0xB57, 0xB57), (0xBBE, 0xBBE), (0xBD7, 0xBD7), (0xCC0, 0xCC0), (0xCC2, 0xCC2), (0xCC7, 0xCC8),
   (0xCCA, 0xCCB), (0xCD5, 0xCD6), (0xD3E, 0xD3E), (0xD4E, 0xD4E), (0xD57, 0xD57), (0xDCF, 0xDCF),
   (0xDDF, 0xDDF), (0x1160, 0x11FF), (0x180E, 0x180E), (0x1B35, 0x1B35), (0x1B3B, 0x1B3B), (0x1B3D, 0x1B3D),
   (0x1B43, 0x1B43), (0x200C, 0x200D), (0x2065, 0x2069), (0x302E, 0x302F), (0x3164, 0x3164),
   (0xA8FA, 0xA8FA), (0xD7B0, 0xD7C6), (0xD7CB, 0xD7FB), (0xFF9E, 0xFFA0), (0xFFF0, 0xFFF8),
   (0x111C2, 0x111C3), (0x1133E, 0x1133E), (0x11357, 0x11357), (0x114B0, 0x114B0), (0x114BD, 0x114BD),
   (0x115AF, 0x115AF), (0x11930, 0x11930), (0x1193F, 0x1193F), (0x11941, 0x11941), (0x11A3A, 0x11A3A),
   (0x11A84, 0x11A89), (0x11D46, 0x11D46), (0x11F02, 0x11F02), (0x1D165, 0x1D165), (0x1D16E, 0x1D172),
   (0xE0000, 0xE0000), (0xE0002, 0xE001F), (0xE0080, 0xE00FF), (0xE01F0, 0xE0FFF)]

/-- Khmer letters with a form below the line. -/
def khmerRanges : List (Nat × Nat) :=
  [(0x1780, 0x1782), (0x1784, 0x1787), (0x1789, 0x178C), (0x178E, 0x1793), (0x1795, 0x1798),
   (0x179B, 0x179D), (0x17A0, 0x17A0), (0x17A2, 0x17A2), (0x17A7, 0x17A7), (0x17AB, 0x17AC),
   (0x17AF, 0x17AF)]

def skippedRanges : List (Nat × Nat) :=
  [(0x34F, 0x34F), (0x17B4, 0x17B5), (0x180B, 0x180D), (0x180F, 0x180F), (0x200D, 0x200D), (0xFE00, 0xFE0F),
   (0xE0100, 0xE01EF)]

def isTifinagh (n : Nat) : Bool := (0x2D31 ≤ n && n ≤ 0x2D65) || n == 0x2D6F

/-! ## What stands behind a character -/

inductive Following where
  | plain
  | lineFeed
  | regional
  /-- Two regional indicators or more. -/
  | regionals
  | skinTone
  | emoji
  | joinedEmoji
  | joinedKeycap
  /-- One regional indicator behind a joiner, an even number of them, or an odd one. -/
  | joinedRegional | joinedEven | joinedOdd
  /-- The last `n` letters or digits of a tag. -/
  | tagLetters (n : Nat)
  | tagDigits (n : Nat)
  | alef
  | lamed
  | khmer
  | buginese
  | bugineseVowel
  | tifinagh
  | tifinaghJoiner
  | lisu
  | orkhon
  deriving DecidableEq, Repr

namespace Following

def isLetter : Following → Bool
  | alef | lamed | khmer | buginese | bugineseVowel | tifinagh | tifinaghJoiner | lisu | orkhon => true
  | _ => false

def isJoinedPicture : Following → Bool
  | joinedEmoji | joinedKeycap => true
  | _ => false

def ofChar (c : Char) : Following :=
  let n := c.toNat
  if isRegional c then regional
  else if isSkinTone c then skinTone
  else if isEmoji c then emoji
  else if inRanges alefRanges n then alef
  else if n = 0x5DC then lamed
  else if inRanges khmerRanges n then khmer
  else if n = 0x1A10 then buginese
  else if isTifinagh n then tifinagh
  else if n = 0xA4FC ∨ n = 0xA4FD then lisu
  else if n = 0x10C03 then orkhon
  else plain

end Following

structure Context where
  following : Following := .plain
  /-- A joiner stands in front of what follows. -/
  joined : Bool := false
  /-- A selector for pictures stands in front of it. -/
  picture : Bool := false
  /-- A selector for signs stands in front of it. -/
  sign : Bool := false
  deriving DecidableEq, Repr

namespace Context

def withPicture (x : Context) : Context :=
  if x.following.isLetter || x.following.isJoinedPicture then { x with picture := true } else { picture := true }

def withSign (x : Context) : Context :=
  if x.following.isLetter then { x with sign := true } else { sign := true }

def withoutPicture (x : Context) : Context :=
  if !x.picture then x else if x.following.isLetter then { x with picture := false } else {}

def withoutSign (x : Context) : Context :=
  if !x.sign then x else if x.following.isLetter then { x with sign := false } else {}

end Context

/-! ## Characters in their context -/

/-- The columns that a letter adds if it is written as one with what follows, and what it is for the character
before it. -/
def letterWidth? (n : Nat) (x : Context) : Option (Int × Following) :=
  match x.following, x.joined with
  | .alef, _ =>
    if inRanges lamRanges n then some (0, .plain)
    else if inRanges invisibleRanges n && !inRanges partingRanges n then some (0, .alef)
    else none
  | .lamed, true => if n = 0x5D0 then some (0, .plain) else none
  | .khmer, _ => if n = 0x17D2 then some (-1, .plain) else none
  | .buginese, true => if n = 0x1A17 then some (0, .bugineseVowel) else none
  | .bugineseVowel, _ => if n = 0x1A15 then some (0, .plain) else none
  | .tifinagh, joined =>
    if n = 0x2D7F then some (1, .tifinaghJoiner) else if joined && isTifinagh n then some (0, .plain) else none
  | .tifinaghJoiner, _ => if isTifinagh n then some (-1, .plain) else none
  | .lisu, _ => if 0xA4F8 ≤ n ∧ n ≤ 0xA4FB then some (0, .plain) else none
  | .orkhon, true => if n = 0x10C32 then some (0, .plain) else none
  | _, _ => none

def pictureWidth? (c : Char) : Following → Option (Int × Following)
  | .regional => if isRegional c then some (1, .regionals) else none
  | .regionals =>
    if isRegional c then some (1, .regionals) else if c = zeroWidthJoiner then some (0, .joinedEmoji) else none
  | .skinTone =>
    if takesSkinTone c then some (0, .emoji) else if c = zeroWidthJoiner then some (0, .joinedEmoji) else none
  | .emoji => if c = zeroWidthJoiner then some (0, .joinedEmoji) else none
  | .joinedEmoji =>
    if c = keycap then some (0, .joinedKeycap)
    else if isRegional c then some (1, .joinedRegional)
    else if isSkinTone c then some (0, .skinTone)
    else if c = tagEnd then some (0, .tagLetters 0)
    else if isEmoji c then some (0, .emoji)
    else none
  | .joinedRegional => if isRegional c then some (-1, .joinedEven) else none
  | .joinedEven =>
    if isRegional c then some (3, .joinedOdd) else if c = zeroWidthJoiner then some (0, .joinedEmoji) else none
  | .joinedOdd =>
    if isRegional c then some (-1, .joinedEven) else if c = zeroWidthJoiner then some (0, .joinedEmoji) else none
  | .tagLetters n =>
    if isTagLetter c ∧ n < 6 then some (0, .tagLetters (n + 1))
    else if isTagDigit c ∧ n ≤ 4 then some (0, .tagDigits 1)
    else if c = blackFlag ∧ 3 ≤ n then some (0, .emoji)
    else none
  | .tagDigits n =>
    if isTagDigit c ∧ n < 3 then some (0, .tagDigits (n + 1))
    else if c = blackFlag ∧ n = 3 then some (0, .emoji)
    else none
  | _ => none

/-- What `c` adds when no selector acts on it. -/
def widthBehind (c : Char) (x : Context) : Int × Context :=
  let between := x.following.isLetter && x.following != .alef
  if between && c = zeroWidthJoiner then (0, { x with joined := true })
  else if between && inRanges skippedRanges c.toNat then (0, x)
  else
    match (letterWidth? c.toNat x).or (pictureWidth? c x.following) with
    | some (columns, following) => (columns, { following })
    | none => (charWidth c, { following := .ofChar c })

/-- The columns that `c` adds in front of a text, and the context for the character before it. -/
def widthInFront (c : Char) (x : Context) : Int × Context :=
  if x.picture && isSelectable c then (if x.following.isJoinedPicture then 0 else 2, { following := .emoji })
  else
    let x := x.withoutPicture
    if c = '\n' then (1, { following := .lineFeed })
    else if c.toNat ≤ 0xA0 then (if c = '\r' ∧ x.following = .lineFeed then 0 else 1, {})
    else if c = pictureSelector then (0, x.withPicture)
    else if c = signSelector then (0, x.withSign)
    else if x.sign && narrowsToSign c then (1, {})
    else widthBehind c x.withoutSign

/-- The columns of a text, and the context for a character in front of it. -/
def measure : Text → Int × Context
  | [] => (0, {})
  | c :: rest =>
    let (columns, x) := measure rest
    let (more, x) := widthInFront c x
    (columns + more, x)

def width (t : Text) : Nat := (measure t).1.toNat

end StatementPad.Text
