import StatementPad.Buffer

/-! # Where a block begins

The search goes up from an anchor until it meets a code line in the first column that is no clause, and
then on to the decorators above it. A definition keeps its decorators across blank and comment lines.
-/
namespace StatementPad.BlockStart

/-- The topmost decorator above `first`. The last argument is how many lines stand above; blank lines and
comments are passed over once a definition or a decorator has been met. -/
def decoratorsAbove (b : Buffer) (decorated : Bool) (first : Nat) : Nat → Nat
  | 0 => first
  | above + 1 =>
    let line := Buffer.classAt b above
    if line.isDecorator then decoratorsAbove b true above above
    else if decorated && !line.isCode then decoratorsAbove b decorated first above
    else first

/-- The last argument is the number of lines that have not been looked at; `first` is the topmost code line
so far. Without `needsMore` only a decorator makes the search go on. -/
def headAbove (b : Buffer) (needsMore : Bool) (first : Nat) : Nat → Nat
  | 0 => first
  | above + 1 =>
    let line := Buffer.classAt b above
    let needsMore := needsMore || line.needsAbove || line.isDefinition
    if !needsMore && !line.isDecorator then first
    else if !line.isCode then headAbove b needsMore first above
    else if line.needsAbove then headAbove b needsMore above above
    else decoratorsAbove b (line.isDefinition || line.isDecorator) above above

/-- The first line of the block around `anchor`. `expectAbove` says that the anchor is known to belong to
something that began above it. -/
def find (b : Buffer) (anchor : Nat) (expectAbove : Bool) : Nat :=
  match b.length with
  | 0 => 0
  | count + 1 => headAbove b expectAbove (min anchor count) (min anchor count + 1)

end StatementPad.BlockStart
