import StatementPad.Buffer

/-! # Code blocks

A block is a stretch of a buffer together with its text, which has no blanks at its end. `codeLines` names
the buffer lines that hold its code: comments and blank lines around the code do not count.
-/
namespace StatementPad

structure CodeBlock where
  start : Nat
  stop : Nat
  text : Text
  deriving DecidableEq, Repr

namespace CodeBlock

def ofBuffer (b : Buffer) (start stop : Nat) : CodeBlock :=
  ⟨start, stop, Text.trimEnd (Buffer.textOf b start stop)⟩

def isEmpty (block : CodeBlock) : Bool := block.text.isEmpty

def lines (block : CodeBlock) : LineRange := ⟨block.start, max block.stop block.start⟩

def codeAt (first : Nat) : List Text → List Nat
  | [] => []
  | piece :: pieces =>
    if (Line.classify piece).isCode then first :: codeAt (first + 1) pieces else codeAt (first + 1) pieces

/-- From the first code line to the last one, or all lines if there is no code. -/
def codeLines (block : CodeBlock) : LineRange :=
  match codeAt block.start (Text.breakLines block.text) with
  | [] => block.lines
  | first :: rest => ⟨first, rest.getLastD first⟩

end CodeBlock
end StatementPad
