import StatementPad.Interpreter

/-! # Finding the program of an interpreter

A path is followed from the directory where the process starts. A name without a slash is tried in one directory
of the search path after the other.
-/
namespace StatementPad

inductive LaunchError where
  | nulInProgram
  | file (e : FileError)
  deriving DecidableEq, Repr

namespace LaunchError

def message : LaunchError → Text
  | nulInProgram => "nul byte found in provided data"
  | file e => e.message

end LaunchError

namespace Files

def program (fs : Files) (path : Text) : Except FileError Location := do
  let (l, _) ← fs.find path
  if fs.programs.contains l then pure l else throw .permissionDenied

/-- The first program at one of the paths. A path is passed over if there is nothing, or something that cannot
be started. If all are passed over, the latter is reported, or else why the last one was. -/
def firstProgram (fs : Files) (failure : FileError) : List Text → Except FileError Location
  | [] => .error failure
  | path :: rest =>
    match fs.program path with
    | .ok l => .ok l
    | .error .permissionDenied => fs.firstProgram .permissionDenied rest
    | .error e =>
      if e = .notFound ∨ e = .notDirectory then
        fs.firstProgram (if failure = .permissionDenied then failure else e) rest
      else .error e

end Files

namespace InterpreterSpec

def candidates (spec : InterpreterSpec) : List Text :=
  if spec.program.isEmpty then []
  else if spec.program.contains '/' then [spec.program]
  else spec.searchPath.map fun dir => if dir.isEmpty then spec.program else dir ++ '/' :: spec.program

def launch (spec : InterpreterSpec) (fs : Files) : Except LaunchError Location :=
  if spec.program.contains (Char.ofNat 0) then .error .nulInProgram
  else
    let fs := spec.workingDir.elim fs fs.enter
    (fs.firstProgram .notFound spec.candidates).mapError .file

end InterpreterSpec
end StatementPad
