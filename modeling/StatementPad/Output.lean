import StatementPad.Text

/-! # Output of a run

Text written to one of two streams, and what a block of code came to.
-/
namespace StatementPad

inductive Stream where
  | out
  | err
  deriving DecidableEq, Repr

structure Chunk where
  stream : Stream
  text : Text
  deriving DecidableEq, Repr

namespace Chunk

def out (text : Text) : Chunk := ⟨.out, text⟩
def err (text : Text) : Chunk := ⟨.err, text⟩

def joined (chunks : List Chunk) : Text := chunks.flatMap Chunk.text

def on (stream : Stream) (chunks : List Chunk) : Text := joined (chunks.filter fun chunk => chunk.stream = stream)

end Chunk

inductive Verdict where
  | expression
  | statements
  | incomplete
  | syntaxError (report : List Chunk)
  deriving DecidableEq, Repr

def Verdict.isComplete : Verdict → Bool
  | .expression | .statements => true
  | .incomplete | .syntaxError _ => false

inductive Outcome where
  | incomplete
  | syntaxError (output : List Chunk)
  /-- The written form of an expression's value, after what its evaluation printed. -/
  | value (text : Text)
  | success (output : List Chunk)
  | runtimeError (output : List Chunk)
  deriving DecidableEq, Repr

namespace Outcome

def isError : Outcome → Bool
  | incomplete | syntaxError _ | runtimeError _ => true
  | value _ | success _ => false

def chunks : Outcome → List Chunk
  | incomplete => [.err "SyntaxError: incomplete input\n"]
  | value text => [.out (text ++ "\n")]
  | syntaxError output | success output | runtimeError output => output

end Outcome
end StatementPad
