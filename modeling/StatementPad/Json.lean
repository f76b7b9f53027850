import StatementPad.Text.Decimal

/-! # JSON values

Objects keep their fields in the order written, duplicates included. A number is an integer if it is
written as one; any other number keeps its written form. `write` is the compact form: no blanks, and in
texts only the quote, the backslash and the characters below U+0020 are escaped.
-/
namespace StatementPad

inductive Json where
  | null
  | bool (b : Bool)
  | integer (i : Int)
  | fraction (written : Text)
  | text (t : Text)
  | list (items : List Json)
  | object (fields : List (Text × Json))

namespace Json

def nat (n : Nat) : Json := integer n

def field? (name : Text) : Json → Option Json
  | object fields => fields.lookup name
  | _ => none

def fieldsNamed (name : Text) (fields : List (Text × Json)) : List Json :=
  (fields.filter fun field => field.1 = name).map (·.2)

def hexDigit (n : Nat) : Char := if n < 10 then Char.ofNat (48 + n) else Char.ofNat (87 + n)

def escape (c : Char) : Text :=
  if c = '"' then ['\\', '"']
  else if c = '\\' then ['\\', '\\']
  else if c.toNat = 8 then ['\\', 'b']
  else if c = '\t' then ['\\', 't']
  else if c = '\n' then ['\\', 'n']
  else if c.toNat = 12 then ['\\', 'f']
  else if c = '\r' then ['\\', 'r']
  else if c.toNat < 0x20 then ['\\', 'u', '0', '0', hexDigit (c.toNat / 16), hexDigit (c.toNat % 16)]
  else [c]

def quote (t : Text) : Text := '"' :: (t.flatMap escape ++ ['"'])

def writeInteger : Int → Text
  | .ofNat n => Text.Decimal.write n
  | .negSucc n => '-' :: Text.Decimal.write (n + 1)

mutual

def write : Json → Text
  | null => "null"
  | bool true => "true"
  | bool false => "false"
  | integer i => writeInteger i
  | fraction written => written
  | text t => quote t
  | list [] => ['[', ']']
  | list (item :: items) => '[' :: (write item ++ writeItems items)
  | object [] => ['\x7b', '\x7d']
  | object ((name, value) :: fields) => '\x7b' :: (quote name ++ ':' :: (write value ++ writeFields fields))

def writeItems : List Json → Text
  | [] => [']']
  | item :: items => ',' :: (write item ++ writeItems items)

def writeFields : List (Text × Json) → Text
  | [] => ['\x7d']
  | (name, value) :: fields => ',' :: (quote name ++ ':' :: (write value ++ writeFields fields))

end

end Json
end StatementPad
