import StatementPad.Path
import StatementPad.Text.Utf8
import StatementPad.Failure

/-! # Files

A tree of directories and files, with the directory that relative paths start from. A path is followed step by
step; what another step follows, be it a dot, has to be a directory. Names and paths are bounded in length.
Some of the files are programs. All of them are regular files that can be read and written; permission is denied
only to start what is no program.
-/
namespace StatementPad

open Text.Utf8 (Bytes)

inductive FileError where
  | notFound
  | alreadyExists
  | notDirectory
  | isDirectory
  | permissionDenied
  | nameTooLong
  | nulInPath
  | notUtf8
  deriving DecidableEq, Repr

namespace FileError

def message : FileError → Text
  | notFound => "No such file or directory (os error 2)"
  | alreadyExists => "File exists (os error 17)"
  | notDirectory => "Not a directory (os error 20)"
  | isDirectory => "Is a directory (os error 21)"
  | permissionDenied => "Permission denied (os error 13)"
  | nameTooLong => "File name too long (os error 36)"
  | nulInPath => "file name contained an unexpected NUL byte"
  | notUtf8 => "stream did not contain valid UTF-8"

def failure (e : FileError) : Failure := ⟨e.message, []⟩

end FileError

inductive FileEntry where
  | dir
  | file (content : Bytes)
  deriving DecidableEq, Repr

abbrev Location := List Text

structure Files where
  cwd : Location
  entries : List (Location × FileEntry)
  programs : List Location := []
  deriving DecidableEq, Repr

namespace Files

def entry? (fs : Files) (l : Location) : Option FileEntry :=
  if l = [] then some .dir else fs.entries.lookup l

def maxName : Nat := 255

def maxPath : Nat := 4095

/-- What stands at a location whose directory is there. -/
def lookup (fs : Files) (l : Location) : Except FileError (Option FileEntry) :=
  if maxName < Text.utf8Length (l.getLastD []) then .error .nameTooLong else .ok (fs.entry? l)

def put (fs : Files) (l : Location) (e : FileEntry) : Files :=
  { fs with entries := (l, e) :: fs.entries.filter fun old => old.1 ≠ l }

/-- The location that steps lead to from `here`; the last of them need not exist. -/
def follow (fs : Files) (here : Location) : List Text → Except FileError Location
  | [] => .ok here
  | step :: rest =>
    match fs.lookup here with
    | .error e => .error e
    | .ok none => .error .notFound
    | .ok (some (.file _)) => .error .notDirectory
    | .ok (some .dir) =>
      if step = ['.', '.'] then follow fs here.dropLast rest
      else if step = ['.'] then follow fs here rest
      else follow fs (here ++ [step]) rest

def origin (fs : Files) (path : Text) : Location := if Path.isAbsolute path then [] else fs.cwd

def checkPath (path : Text) : Except FileError Unit :=
  if path.contains (Char.ofNat 0) then .error .nulInPath
  else if maxPath < Text.utf8Length path then .error .nameTooLong
  else .ok ()

def locate (fs : Files) (path : Text) : Except FileError Location := do
  checkPath path
  if path.isEmpty then throw .notFound else follow fs (fs.origin path) (Path.steps path)

def namesDirectory (path : Text) : Bool := Text.endsWith path '/'

def find (fs : Files) (path : Text) : Except FileError (Location × FileEntry) := do
  let l ← fs.locate path
  match ← fs.lookup l with
  | none => throw .notFound
  | some .dir => pure (l, .dir)
  | some e => if namesDirectory path then throw .notDirectory else pure (l, e)

def existsAt (fs : Files) (path : Text) : Bool := (fs.find path).toOption.isSome

def isDirAt (fs : Files) (path : Text) : Bool :=
  match fs.find path with
  | .ok (_, .dir) => true
  | _ => false

/-- The files as they are seen from a directory; if there is none, nothing changes. -/
def enter (fs : Files) (path : Text) : Files :=
  match fs.find path with
  | .ok (l, .dir) => { fs with cwd := l }
  | _ => fs

def read (fs : Files) (path : Text) : Except FileError Bytes :=
  match fs.find path with
  | .error e => .error e
  | .ok (_, .dir) => .error .isDirectory
  | .ok (_, .file content) => .ok content

def readText (fs : Files) (path : Text) : Except FileError Text := do
  match Text.Utf8.decode? (← fs.read path) with
  | some t => pure t
  | none => throw .notUtf8

/-- Where a file can be written, and what it holds so far. -/
def openForWriting (fs : Files) (path : Text) : Except FileError (Location × Bytes) := do
  let l ← fs.locate path
  if namesDirectory path then throw .isDirectory
  else match ← fs.lookup l with
    | some .dir => throw .isDirectory
    | some (.file content) => pure (l, content)
    | none => pure (l, [])

def writeText (fs : Files) (path t : Text) : Except FileError Files := do
  let (l, _) ← fs.openForWriting path
  pure (fs.put l (.file (Text.Utf8.encode t)))

def appendText (fs : Files) (path t : Text) : Except FileError Files := do
  let (l, content) ← fs.openForWriting path
  pure (fs.put l (.file (content ++ Text.Utf8.encode t)))

/-- Creates the directories that steps name below `here`. Where it fails, those it has created stay; `begun`
tells that there are some. -/
def createFrom (begun : Bool) (fs : Files) (here : Location) : List Text → Except FileError Unit × Files
  | [] => (.ok (), fs)
  | step :: rest =>
    if step = ['.', '.'] then createFrom begun fs here.dropLast rest
    else if step = ['.'] then createFrom begun fs here rest
    else
      let l := here ++ [step]
      match fs.lookup l with
      | .error e => (.error e, fs)
      | .ok (some .dir) => createFrom begun fs l rest
      | .ok (some (.file _)) => (.error (if begun || rest.isEmpty then .alreadyExists else .notDirectory), fs)
      | .ok none => createFrom true (fs.put l .dir) l rest

def createDirs (fs : Files) (path : Text) : Except FileError Unit × Files :=
  match checkPath path with
  | .error e => (.error e, fs)
  | .ok () => createFrom false fs (fs.origin path) (Path.steps path)

/-! ## Making trees -/

def emptyAt (cwd : Location) : Files :=
  { cwd, entries := (List.range cwd.length).map fun n => (cwd.take (n + 1), .dir) }

/-- Puts something at a path and creates the directories above it; a directory that is there already stays. -/
def plant (fs : Files) (path : Text) (e : FileEntry) : Files :=
  let below (dir : Text) : Files := (fs.createDirs dir).2
  match e with
  | .dir => below path
  | .file _ =>
    let fs := match Path.parent? path with
      | some dir => below dir
      | none => fs
    match fs.openForWriting path with
    | .ok (l, _) => fs.put l e
    | .error _ => fs

def plantProgram (fs : Files) (path : Text) : Files :=
  let fs := fs.plant path (.file [])
  match fs.find path with
  | .ok (l, .file _) => { fs with programs := l :: fs.programs }
  | _ => fs

end Files
end StatementPad
