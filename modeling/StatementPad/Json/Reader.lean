import StatementPad.Json.Token

/-! # Reading JSON

The tokens drive a machine with a stack: a frame for each list or object that is still open. A value nested
in more than 127 lists and objects is refused.
-/
namespace StatementPad.Json

/-- A list or an object that is still open, its newest entry first. -/
inductive Frame where
  | list (items : List Json)
  | object (fields : List (Text × Json)) (name : Text)

inductive ReadState where
  | value (stack : List Frame)
  /-- A value or the end of the list just opened. -/
  | item (stack : List Frame)
  /-- A field name, or, in an object just opened, its end. -/
  | key (fields : List (Text × Json)) (fresh : Bool) (stack : List Frame)
  | colon (fields : List (Text × Json)) (name : Text) (stack : List Frame)
  | complete (value : Json) (stack : List Frame)

def maxDepth : Nat := 127

def enter (stack : List Frame) (state : ReadState) : Option ReadState :=
  if stack.length < maxDepth then some state else none

def startValue (stack : List Frame) : Token → Option ReadState
  | .null => some (.complete .null stack)
  | .bool b => some (.complete (.bool b) stack)
  | .integer i => some (.complete (.integer i) stack)
  | .fraction written => some (.complete (.fraction written) stack)
  | .text t => some (.complete (.text t) stack)
  | .openList => enter stack (.item stack)
  | .openObject => enter stack (.key [] true stack)
  | _ => none

def ReadState.next : ReadState → Token → Option ReadState
  | .value stack, token => startValue stack token
  | .item stack, .closeList => some (.complete (.list []) stack)
  | .item stack, token => startValue (.list [] :: stack) token
  | .key fields _ stack, .text name => some (.colon fields name stack)
  | .key _ true stack, .closeObject => some (.complete (.object []) stack)
  | .colon fields name stack, .colon => some (.value (.object fields name :: stack))
  | .complete v (.list items :: stack), .comma => some (.value (.list (v :: items) :: stack))
  | .complete v (.list items :: stack), .closeList => some (.complete (.list (v :: items).reverse) stack)
  | .complete v (.object fields name :: stack), .comma => some (.key ((name, v) :: fields) false stack)
  | .complete v (.object fields name :: stack), .closeObject =>
    some (.complete (.object ((name, v) :: fields).reverse) stack)
  | _, _ => none

def readTokens : ReadState → List Token → Option Json
  | .complete v [], [] => some v
  | _, [] => none
  | state, token :: rest => (state.next token).bind fun state => readTokens state rest

def read? (t : Text) : Option Json := (tokens t).bind (readTokens (.value []))

end StatementPad.Json
