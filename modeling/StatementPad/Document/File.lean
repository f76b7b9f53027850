import StatementPad.Document
import StatementPad.Files

/-! # Documents and their files

Opening, saving and reloading, and what a document's path says about it. A file that does not exist opens as
an empty document.
-/
namespace StatementPad.Document

def readFile (fs : Files) (path : Text) : Except Failure Text :=
  if fs.existsAt path then
    match fs.readText path with
    | .ok t => .ok t
    | .error e => .error (e.failure.within ("reading " ++ path))
  else .ok []

def openFile (fs : Files) (id : Nat) (path : Text) : Except Failure Document := do
  pure (ofText id (← readFile fs path) (some path))

def noFileName : Failure := ⟨"buffer has no file name", []⟩

def save (d : Document) (fs : Files) : Except Failure (Document × Files) :=
  match d.path with
  | none => .error noFileName
  | some path =>
    match fs.writeText path (Text.joinLines d.lines) with
    | .ok fs => .ok ({ d with modified := false }, fs)
    | .error e => .error (e.failure.within ("writing " ++ path))

def reload (d : Document) (fs : Files) : Except Failure Document := do
  match d.path with
  | none => throw noFileName
  | some path =>
    let fresh := { d with lines := Buffer.ofText (← readFile fs path), anchor := none, modified := false }
    pure { fresh with cursor := fresh.clamp d.cursor }

def name (d : Document) : Text := (d.path.bind Path.fileName?).getD "untitled"

def sourceName (d : Document) : Text := d.path.getD "<untitled>"

/-- The directory of the file, as an absolute path; `cwd` is where relative paths start. -/
def workingDir (d : Document) (cwd : Text) : Option Text :=
  d.path.bind fun path => Path.parent? (Path.join cwd path)

def isPython (d : Document) : Bool :=
  match d.path.bind Path.extension? with
  | none => true
  | some ext => Text.asciiLower ext == "py".toList || Text.asciiLower ext == "pyw".toList

def openAll (fs : Files) (id : Nat) : List Text → Except Failure (List Document)
  | [] => .ok []
  | path :: rest =>
    match openFile fs id path with
    | .error f => .error (f.within ("opening " ++ path))
    | .ok d => (openAll fs (id + 1) rest).map (d :: ·)

def runnable : List Document → Except Failure Document
  | [] => .error ⟨"no file given", []⟩
  | d :: _ => if d.isPython then .ok d else .error ⟨d.name ++ " is not a Python buffer", []⟩

end StatementPad.Document
