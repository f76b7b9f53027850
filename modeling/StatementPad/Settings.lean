import StatementPad.Files
import StatementPad.Interpreter
import StatementPad.UserDirs

/-! # Settings

Settings are texts with a key. They come from three places: the values built in, the lines `KEY=VALUE` of a
file, and the environment; of two values for a key, the later one counts. A value that makes no sense where
it is used gives way to what is built in.
-/
namespace StatementPad

open Text.Utf8 (Bytes)

structure Settings where
  path : Text
  dirs : UserDirs
  /-- Keys and values, the latest first. -/
  values : List (Text × Text)
  deriving DecidableEq, Repr

namespace Settings

def builtIn : List (Text × Text) :=
  [("PYPAD_COMPILE_TIMEOUT_MS", "3000"), ("PYPAD_FLUSH_INTERVAL_MS", "150"), ("PYPAD_MAX_CONSOLE_LINES", "5000"),
   ("PYPAD_ADVANCE_CURSOR", "true"), ("PYPAD_CELL_HIGHLIGHT", "true"), ("PYPAD_MATPLOTLIB", "true")]

/-! ## Reading -/

/-- The lines up to the first one that is no text. -/
def readableLines : List Bytes → List Text
  | [] => []
  | bytes :: rest =>
    match Text.Utf8.decode? bytes with
    | none => []
    | some line => line :: readableLines rest

/-- What a line of the file sets: not a comment, and a key before the first equals sign. -/
def assignment? (line : Text) : Option (Text × Text) :=
  let line := Text.trim line
  if line.head? = some '#' then none
  else (Text.splitOnce '=' line).map fun (key, value) => (Text.trim key, Text.trim value)

def assignments (content : Bytes) : List (Text × Text) :=
  (readableLines (Text.Utf8.breakLines content)).filterMap assignment?

def isKey (name : Text) : Bool := "PYPAD_".toList.isPrefixOf name && name != "PYPAD_LOG".toList

def layered (path : Text) (dirs : UserDirs) (content : Bytes) (env : List (Text × Text)) : Settings :=
  ⟨path, dirs, (builtIn ++ assignments content ++ env.filter fun entry => isKey entry.1).reverse⟩

def ofFile (fs : Files) (path : Text) (dirs : UserDirs) : Except FileError Settings :=
  match fs.read path with
  | .ok content => .ok (layered path dirs content [])
  | .error .isDirectory => .ok (layered path dirs [] [])
  | .error e => .error e

/-- The settings of a user; the file may be missing. The environment holds text only: where a name or a value in it is
no text, the program ends before it comes to its settings. -/
def load (fs : Files) (home : Text) (env : List (Text × Text)) : Settings :=
  let dirs := UserDirs.ofEnvironment home env
  layered dirs.settingsFile dirs ((fs.read dirs.settingsFile).toOption.getD []) env

/-! ## Values -/

def get? (s : Settings) (key : Text) : Option Text := s.values.lookup key

def set (s : Settings) (key value : Text) : Settings := { s with values := (key, value) :: s.values }

def isTrue (value : Text) : Bool := Text.asciiLower value == "true".toList || value == ['1']

def flag (s : Settings) (key : Text) : Bool := (s.get? key).any isTrue

def number? (s : Settings) (key : Text) : Option Nat :=
  (s.get? key).bind fun value => Text.Decimal.readWord? (Text.trim value)

def nonempty? (s : Settings) (key : Text) : Option Text := (s.get? key).filter fun value => !value.isEmpty

def program (s : Settings) : Text := (s.nonempty? "PYPAD_PYTHON").getD "python3"

/-- How long an answer to an interactive request may take, in milliseconds. -/
def answerLimit (s : Settings) : Nat := (s.number? "PYPAD_COMPILE_TIMEOUT_MS").getD 3000

def flushInterval (s : Settings) : Nat := max ((s.number? "PYPAD_FLUSH_INTERVAL_MS").getD 150) 10

def advanceCursor (s : Settings) : Bool := s.flag "PYPAD_ADVANCE_CURSOR"
def cellHighlight (s : Settings) : Bool := s.flag "PYPAD_CELL_HIGHLIGHT"
def figureEvents (s : Settings) : Bool := s.flag "PYPAD_MATPLOTLIB"
def maxConsoleLines (s : Settings) : Nat := (s.number? "PYPAD_MAX_CONSOLE_LINES").getD 5000

def snippetLog (s : Settings) : Text := (s.nonempty? "PYPAD_SNIPPET_LOG").getD s.dirs.snippetLog
def logFile (s : Settings) : Text := (s.nonempty? "PYPAD_LOG_FILE").getD s.dirs.logFile

def interpreter (s : Settings) : InterpreterSpec :=
  ⟨s.program, s.figureEvents, some s.dirs.home, s.dirs.programs⟩

end Settings
end StatementPad
