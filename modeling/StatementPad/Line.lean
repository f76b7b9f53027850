import StatementPad.Text

/-! # What a single line says

A line is judged by how it begins and how it ends, without looking at the rest of it or at other lines.
That is enough to propose where a statement may begin and end; the compiler has the last word.
-/
namespace StatementPad

structure CodeMarks where
  indented : Bool
  decorator : Bool
  /-- A clause of the statement above it: `elif`, `except`, `else` or `finally` in the first column. -/
  clause : Bool
  /-- A clause that never ends its statement: `elif` or `except`. -/
  chained : Bool
  /-- Opens a compound statement. -/
  header : Bool
  definition : Bool
  /-- Ends in a backslash, so that the next line belongs to it. -/
  continued : Bool
  deriving DecidableEq, Repr

inductive LineClass where
  | blank
  | comment
  | code (marks : CodeMarks)
  deriving DecidableEq, Repr

namespace LineClass

def marks? : LineClass → Option CodeMarks
  | code marks => some marks
  | _ => none

def has (flag : CodeMarks → Bool) (line : LineClass) : Bool := (line.marks?.map flag).getD false

def isCode : LineClass → Bool
  | code _ => true
  | _ => false

def isIndented : LineClass → Bool := has CodeMarks.indented
def isDecorator : LineClass → Bool := has CodeMarks.decorator
def isClause : LineClass → Bool := has CodeMarks.clause
def isChained : LineClass → Bool := has CodeMarks.chained
def isHeader : LineClass → Bool := has CodeMarks.header
def isDefinition : LineClass → Bool := has CodeMarks.definition
def isContinued : LineClass → Bool := has CodeMarks.continued

/-- The statement this line belongs to began above it. -/
def needsAbove (line : LineClass) : Bool := line.isIndented || line.isClause

/-- The statement this line belongs to cannot end with it. -/
def needsBelow (line : LineClass) : Bool :=
  line.isHeader || line.isChained || line.isDecorator || line.isContinued

end LineClass

namespace Line

def endsKeyword (c : Char) : Bool :=
  c == ':' || c == ' ' || c == '\t' || c == '(' || c == '[' || c == '\\'

def opensWith (keyword line : Text) : Bool :=
  match Text.after? keyword line with
  | none => false
  | some rest => rest.head?.all endsKeyword

def isGap (c : Char) : Bool := c == ' ' || c == '\t'

def opensAsyncDefinition (line : Text) : Bool :=
  match Text.after? "async" line with
  | none => false
  | some rest => rest.head?.any isGap && opensWith "def" (Text.trimStart rest)

def marksOf (line : Text) : CodeMarks :=
  let chained := opensWith "elif" line || opensWith "except" line
  let clause := chained || opensWith "else" line || opensWith "finally" line
  { indented := line.head?.any isGap
    decorator := line.head? == some '@'
    clause
    chained
    header := !clause &&
      (Text.endsWith line ':' || opensWith "if" line || opensWith "for" line || opensWith "while" line)
    definition := opensWith "def" line || opensWith "class" line || opensAsyncDefinition line
    continued := Text.endsWith line '\\' }

def classify (line : Text) : LineClass :=
  let line := Text.trimEnd line
  match Text.trimStart line with
  | [] => .blank
  | c :: _ => if c = '#' then .comment else .code (marksOf line)

def isCellMarker (line : Text) : Bool :=
  "#%%".toList.isPrefixOf line || "# %%".toList.isPrefixOf line

end Line
end StatementPad
