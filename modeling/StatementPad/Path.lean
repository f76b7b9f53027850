import StatementPad.Text

/-! # Paths

A path is a text whose parts stand between slashes. Empty parts and parts that are a single dot say nothing,
except for a dot at the beginning of a relative path.
-/
namespace StatementPad.Path

def isAbsolute (p : Text) : Bool := p.head? == some '/'

def pieces (p : Text) : List Text := Text.split '/' p

def steps (p : Text) : List Text := (pieces p).filter (!·.isEmpty)

def isPart (piece : Text) : Bool := !piece.isEmpty && piece != ['.']

def parts (p : Text) : List Text :=
  match pieces p with
  | ['.'] :: rest => ['.'] :: rest.filter isPart
  | all => all.filter isPart

def same (p q : Text) : Bool := isAbsolute p == isAbsolute q && parts p == parts q

/-- A path written backwards, without the slashes and dots at its end that say nothing. -/
def trimReversed : Text → Text
  | ['/'] => ['/']
  | '/' :: rest => trimReversed rest
  | '.' :: '/' :: rest => trimReversed ('/' :: rest)
  | p => p

def trimmed (p : Text) : Text := (trimReversed p.reverse).reverse

def lastPart (p : Text) : Text := ((trimmed p).reverse.takeWhile (· != '/')).reverse

def parent? (p : Text) : Option Text :=
  match (trimmed p).reverse with
  | [] | ['/'] => none
  | backwards => some (trimReversed (backwards.dropWhile (· != '/'))).reverse

def fileName? (p : Text) : Option Text :=
  let last := lastPart p
  if last.isEmpty || last == ['.'] || last == ['.', '.'] then none else some last

/-- What follows the last dot of the file name, unless the name begins with that dot. -/
def extension? (p : Text) : Option Text := do
  let name ← fileName? p
  let backwards := name.reverse.dropWhile (· != '.')
  if backwards.length ≤ 1 then none else some (name.drop backwards.length)

def join (base p : Text) : Text :=
  if isAbsolute p then p else if Text.endsWith base '/' then base ++ p else base ++ '/' :: p

end StatementPad.Path
