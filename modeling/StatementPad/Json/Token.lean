import StatementPad.Json
import StatementPad.Json.Range

/-! # The tokens of JSON text

The text is read one character at a time. `LexState` is what has been seen of the token at hand; `advance`
takes one more character and gives the tokens it completes. Escaped UTF-16 units are put together when
their text ends: a unit that stands alone although it belongs to a pair has no meaning.
-/
namespace StatementPad.Json

inductive Token where
  | openObject | closeObject | openList | closeList | colon | comma
  | null
  | bool (b : Bool)
  | integer (i : Int)
  | fraction (written : Text)
  | text (t : Text)
  deriving DecidableEq

/-- A character of a quoted text, or a UTF-16 unit written as four hexadecimal digits. -/
inductive Piece where
  | char (c : Char)
  | unit (n : Nat)

def isHighUnit (n : Nat) : Bool := 0xD800 ≤ n && n < 0xDC00
def isLowUnit (n : Nat) : Bool := 0xDC00 ≤ n && n < 0xE000

def assemble : List Piece → Option Text
  | [] => some []
  | .char c :: rest => (assemble rest).map (c :: ·)
  | .unit high :: .unit low :: rest =>
    if isHighUnit high then
      if isLowUnit low then
        (assemble rest).map (Char.ofNat (0x10000 + (high - 0xD800) * 0x400 + (low - 0xDC00)) :: ·)
      else none
    else if isLowUnit high then none
    else (assemble (.unit low :: rest)).map (Char.ofNat high :: ·)
  | .unit n :: rest =>
    if isHighUnit n || isLowUnit n then none else (assemble rest).map (Char.ofNat n :: ·)

/-- The exponent that follows the digits of a number; the empty text stands for zero. -/
def exponent? : Text → Option Int
  | [] => some 0
  | e :: rest =>
    if e = 'e' ∨ e = 'E' then
      match rest with
      | '-' :: digits => (Text.Decimal.read? digits).map fun n => -(n : Int)
      | '+' :: digits => (Text.Decimal.read? digits).map Int.ofNat
      | digits => (Text.Decimal.read? digits).map Int.ofNat
    else none

def places? : Text → Option (Text × Text)
  | '.' :: rest =>
    match rest.takeWhile Char.isDigit with
    | [] => none
    | digits => some (digits, rest.dropWhile Char.isDigit)
  | rest => some ([], rest)

def number? (written : Text) : Option Token := do
  let negative := written.head? == some '-'
  let body := if negative then written.drop 1 else written
  let whole := body.takeWhile Char.isDigit
  let rest := body.dropWhile Char.isDigit
  if whole.isEmpty || (whole.head? == some '0' && 1 < whole.length) then none
  else
    let (places, rest') ← places? rest
    let exponent ← exponent? rest'
    if outOfRange whole places exponent then none
    else if !rest.isEmpty then some (.fraction written)
    else if !negative then some (.integer (Text.Decimal.value whole))
    else if whole == ['0'] then some (.fraction written)
    else some (.integer (-(Text.Decimal.value whole : Int)))

def wordToken (word : Text) : Option Token :=
  if word = "null".toList then some .null
  else if word = "true".toList then some (.bool true)
  else if word = "false".toList then some (.bool false)
  else number? word

inductive LexState where
  | between
  | word (seen : Text)
  | quoted (seen : List Piece)
  | escaped (seen : List Piece)
  /-- Inside a unit: how many digits are left and what the others say. -/
  | unit (seen : List Piece) (left value : Nat)

def isSpace (c : Char) : Bool := c == ' ' || c == '\t' || c == '\n' || c == '\r'

def isWordChar (c : Char) : Bool := c.isAlphanum || c == '+' || c == '-' || c == '.'

def punctuation? (c : Char) : Option Token :=
  if c = '\x7b' then some .openObject
  else if c = '\x7d' then some .closeObject
  else if c = '[' then some .openList
  else if c = ']' then some .closeList
  else if c = ':' then some .colon
  else if c = ',' then some .comma
  else none

def hexValue? (c : Char) : Option Nat :=
  if '0' ≤ c ∧ c ≤ '9' then some (c.toNat - 48)
  else if 'a' ≤ c ∧ c ≤ 'f' then some (c.toNat - 87)
  else if 'A' ≤ c ∧ c ≤ 'F' then some (c.toNat - 55)
  else none

def unescape? (c : Char) : Option Char :=
  if c = '"' ∨ c = '\\' ∨ c = '/' then some c
  else if c = 'b' then some (Char.ofNat 8)
  else if c = 'f' then some (Char.ofNat 12)
  else if c = 'n' then some '\n'
  else if c = 'r' then some '\r'
  else if c = 't' then some '\t'
  else none

def begin (c : Char) : Option (List Token × LexState) :=
  if isSpace c then some ([], .between)
  else if c = '"' then some ([], .quoted [])
  else if isWordChar c then some ([], .word [c])
  else (punctuation? c).map fun token => ([token], .between)

def advance : LexState → Char → Option (List Token × LexState)
  | .between, c => begin c
  | .word seen, c =>
    if isWordChar c then some ([], .word (c :: seen))
    else do
      let token ← wordToken seen.reverse
      let (tokens, state) ← begin c
      some (token :: tokens, state)
  | .quoted seen, c =>
    if c = '"' then (assemble seen.reverse).map fun t => ([.text t], .between)
    else if c = '\\' then some ([], .escaped seen)
    else if c.toNat < 0x20 then none
    else some ([], .quoted (.char c :: seen))
  | .escaped seen, c =>
    if c = 'u' then some ([], .unit seen 4 0)
    else (unescape? c).map fun d => ([], .quoted (.char d :: seen))
  | .unit seen left value, c =>
    (hexValue? c).map fun n =>
      let value := value * 16 + n
      if left ≤ 1 then ([], .quoted (.unit value :: seen)) else ([], .unit seen (left - 1) value)

def finish : LexState → Option (List Token)
  | .between => some []
  | .word seen => (wordToken seen.reverse).map fun token => [token]
  | _ => none

def tokensFrom : LexState → Text → Option (List Token)
  | state, [] => finish state
  | state, c :: rest => do
    let (tokens, state) ← advance state c
    let more ← tokensFrom state rest
    some (tokens ++ more)

def tokens (t : Text) : Option (List Token) := tokensFrom .between t

end StatementPad.Json
