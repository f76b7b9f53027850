import StatementPad.Json.Reader
import StatementPad.Output
import StatementPad.Text.Quoted

/-! # Messages on the wire

Requests to the interpreter and its replies, one JSON object a line. An envelope adds the number that pairs a
reply with its request. `Envelope.write` fixes the order of the fields; `Envelope.read?` takes them in any
order and ignores fields that are not known.
-/
namespace StatementPad.Wire

inductive Request where
  | tryCompile (offset : Nat) (filename source : Text)
  | evaluate
  | execute
  | executeSource (offset : Nat) (filename source : Text)
  | setWorkingDir (path : Text)
  | flush
  | shutdown
  deriving DecidableEq, Repr

inductive Reply where
  | compiled (isValue : Bool)
  | incomplete
  | syntaxError (output : List Chunk)
  | evaluated (value : Option Text) (output : List Chunk)
  | executed (output : List Chunk)
  | raised (output : List Chunk)
  | flushed (output : List Chunk)
  | ack
  | failed (message : Text)
  deriving DecidableEq, Repr

structure Envelope (α : Type) where
  id : Nat
  body : α
  deriving DecidableEq, Repr

abbrev Fields := List (Text × Json)

/-! ## Writing -/

def streamName : Stream → Text
  | .out => "stdout"
  | .err => "stderr"

def chunkJson (c : Chunk) : Json := .object [("stream", .text (streamName c.stream)), ("text", .text c.text)]

def outputField (output : List Chunk) : Text × Json := ("output", .list (output.map chunkJson))

def sourceFields (offset : Nat) (filename source : Text) : Fields :=
  [("line_offset", .nat offset), ("filename", .text filename), ("source", .text source)]

def Request.name : Request → Text
  | tryCompile .. => "try_compile"
  | evaluate => "evaluate"
  | execute => "execute"
  | executeSource .. => "execute_source"
  | setWorkingDir _ => "set_working_dir"
  | flush => "flush"
  | shutdown => "shutdown"

def Request.fields : Request → Fields
  | tryCompile offset filename source | executeSource offset filename source =>
    sourceFields offset filename source
  | setWorkingDir path => [("path", .text path)]
  | evaluate | execute | flush | shutdown => []

def Reply.name : Reply → Text
  | compiled _ => "compiled"
  | incomplete => "incomplete"
  | syntaxError _ => "syntax_error"
  | evaluated .. => "evaluated"
  | executed _ => "executed"
  | raised _ => "raised"
  | flushed _ => "flushed"
  | ack => "ack"
  | failed _ => "failed"

def optionalText : Option Text → Json
  | some t => .text t
  | none => .null

def Reply.fields : Reply → Fields
  | compiled isValue => [("is_value", .bool isValue)]
  | evaluated value output => [("repr", optionalText value), outputField output]
  | syntaxError output | executed output | raised output | flushed output => [outputField output]
  | failed message => [("message", .text message)]
  | incomplete | ack => []

/-! ## Reading -/

def once? (name : Text) (fields : Fields) : Option (Option Json) :=
  match Json.fieldsNamed name fields with
  | [] => some none
  | [value] => some (some value)
  | _ => none

def required? (name : Text) (fields : Fields) : Option Json := (once? name fields).join

/-- Numbers on the wire have 64 bits. -/
def word? : Json → Option Nat
  | .integer (.ofNat n) => if n < Text.Decimal.wordBound then some n else none
  | _ => none

def text? : Json → Option Text
  | .text t => some t
  | _ => none

def bool? : Json → Option Bool
  | .bool b => some b
  | _ => none

def streamOfName? (name : Text) : Option Stream :=
  if name = streamName .out then some .out else if name = streamName .err then some .err else none

/-- A stream is given by its name, alone or as the only field of an object that holds nothing. -/
def stream? : Json → Option Stream
  | .text name => streamOfName? name
  | .object [(name, .null)] | .object [(name, .object [])] => streamOfName? name
  | _ => none

/-- A chunk is an object, or its two parts in a list. -/
def chunk? : Json → Option Chunk
  | .object fields => do
    let stream ← (required? "stream" fields).bind stream?
    let text ← (required? "text" fields).bind text?
    some ⟨stream, text⟩
  | .list [stream, text] => do some ⟨← stream? stream, ← text? text⟩
  | _ => none

def output? : Json → Option (List Chunk)
  | .list items => items.mapM chunk?
  | _ => none

def requiredText? (name : Text) (fields : Fields) : Option Text := (required? name fields).bind text?

def requiredOutput? (fields : Fields) : Option (List Chunk) := (required? "output" fields).bind output?

def optionalOutput? (fields : Fields) : Option (List Chunk) :=
  match once? "output" fields with
  | none => none
  | some none => some []
  | some (some json) => output? json

def optionalText? (name : Text) (fields : Fields) : Option (Option Text) :=
  match once? name fields with
  | none => none
  | some none | some (some .null) => some none
  | some (some json) => (text? json).map some

def source? (make : Nat → Text → Text → Request) (fields : Fields) : Option Request := do
  let offset ← (required? "line_offset" fields).bind word?
  let filename ← requiredText? "filename" fields
  let source ← requiredText? "source" fields
  some (make offset filename source)

def requestReaders : List (Text × (Fields → Option Request)) :=
  [("try_compile", source? .tryCompile),
   ("evaluate", fun _ => some .evaluate),
   ("execute", fun _ => some .execute),
   ("execute_source", source? .executeSource),
   ("set_working_dir", fun fields => (requiredText? "path" fields).map .setWorkingDir),
   ("flush", fun _ => some .flush),
   ("shutdown", fun _ => some .shutdown)]

def replyReaders : List (Text × (Fields → Option Reply)) :=
  [("compiled", fun fields => ((required? "is_value" fields).bind bool?).map .compiled),
   ("incomplete", fun _ => some .incomplete),
   ("syntax_error", fun fields => (requiredOutput? fields).map .syntaxError),
   ("evaluated", fun fields => do some (.evaluated (← optionalText? "repr" fields) (← optionalOutput? fields))),
   ("executed", fun fields => (optionalOutput? fields).map .executed),
   ("raised", fun fields => (requiredOutput? fields).map .raised),
   ("flushed", fun fields => (requiredOutput? fields).map .flushed),
   ("ack", fun _ => some .ack),
   ("failed", fun fields => (requiredText? "message" fields).map .failed)]

/-- The reader that a tag names, or that stands at the place it counts. -/
def reader? {α : Type} (readers : List (Text × (Fields → Option α))) : Json → Option (Fields → Option α)
  | .text name => readers.lookup name
  | .integer (.ofNat n) => readers[n]?.map (·.2)
  | _ => none

/-! ## Envelopes -/

/-- What an envelope holds: its tag, its fields and how they are read. -/
class Body (α : Type) where
  tag : Text
  name : α → Text
  fields : α → Fields
  readers : List (Text × (Fields → Option α))

instance : Body Request := ⟨"op", Request.name, Request.fields, requestReaders⟩
instance : Body Reply := ⟨"kind", Reply.name, Reply.fields, replyReaders⟩

namespace Envelope

variable {α : Type} [Body α]

def json (e : Envelope α) : Json :=
  .object (("id", .nat e.id) :: (Body.tag α, .text (Body.name e.body)) :: Body.fields e.body)

def write (e : Envelope α) : Text := Json.write e.json ++ ['\n']

def ofFields? (fields : Fields) : Option (Envelope α) := do
  let id ← (required? "id" fields).bind word?
  let rest := fields.filter fun field => field.1 ≠ "id".toList
  let read ← (required? (Body.tag α) rest).bind (reader? (Body.readers (α := α)))
  some ⟨id, ← read (rest.filter fun field => field.1 ≠ Body.tag α)⟩

def read? (line : Text) : Option (Envelope α) :=
  match Json.read? line with
  | some (.object fields) => ofFields? fields
  | _ => none

end Envelope

/-! ## Replies in reports -/

def shownStream : Stream → Text
  | .out => "Stdout"
  | .err => "Stderr"

def braced (inner : Text) : Text := " \x7b " ++ inner ++ " \x7d"

def shownChunk (c : Chunk) : Text :=
  "OutputChunk" ++ braced ("stream: " ++ shownStream c.stream ++ ", text: " ++ Text.Quoted.shown c.text)

def shownOutput (output : List Chunk) : Text :=
  "output: [" ++ List.intercalate ", ".toList (output.map shownChunk) ++ "]"

def shownOption : Option Text → Text
  | some t => "Some(" ++ Text.Quoted.shown t ++ ")"
  | none => "None"

def Reply.shown : Reply → Text
  | compiled isValue => "Compiled" ++ braced ("is_value: " ++ (if isValue then "true" else "false"))
  | incomplete => "Incomplete"
  | syntaxError output => "SyntaxError" ++ braced (shownOutput output)
  | evaluated value output => "Evaluated" ++ braced ("repr: " ++ shownOption value ++ ", " ++ shownOutput output)
  | executed output => "Executed" ++ braced (shownOutput output)
  | raised output => "Raised" ++ braced (shownOutput output)
  | flushed output => "Flushed" ++ braced (shownOutput output)
  | ack => "Ack"
  | failed message => "Failed" ++ braced ("message: " ++ Text.Quoted.shown message)

end StatementPad.Wire
