import StatementPad.Text

/-! # Texts as bytes

`decode?` refuses bytes that are not UTF-8; it reads back what `encode` wrote.
-/
namespace StatementPad.Text.Utf8

abbrev Bytes := List UInt8

def encode (t : Text) : Bytes := t.flatMap String.utf8EncodeChar

def decode? (bytes : Bytes) : Option Text := (ByteArray.mk bytes.toArray).utf8Decode?.map Array.toList

@[simp] theorem decode?_encode (t : Text) : decode? (encode t) = some t := by
  have h : ByteArray.mk (encode t).toArray = t.utf8Encode := by
    apply ByteArray.ext
    simp [encode, List.utf8Encode]
  simp [decode?, h]

def newline : UInt8 := 10

def breakLines : Bytes → List Bytes
  | [] => [[]]
  | b :: rest =>
    if b = newline then [] :: breakLines rest
    else match breakLines rest with
      | [] => [[b]]
      | piece :: pieces => (b :: piece) :: pieces

end StatementPad.Text.Utf8
