import StatementPad.Text.Decimal

/-! # The command line

Arguments are files, flags and parameters with a value. What follows a parameter is its value unless it looks
like an option; a lone dash does not. Values are read when the next argument settles that nothing more belongs
to them, so that an unknown option is found before a wrong value in front of it.
-/
namespace StatementPad

structure CommandLine where
  files : List Text := []
  /-- Counted from one. -/
  line : Option Nat := none
  endLine : Option Nat := none
  cell : Bool := false
  all : Bool := false
  inPlace : Bool := false
  program : Option Text := none
  verbose : Bool := false
  deriving DecidableEq, Repr

inductive UsageError where
  | unknownArgument
  /-- A value is missing, or it is empty where it may not be. -/
  | invalidValue
  | notANumber
  | tooManyValues
  | argumentConflict
  | missingArgument
  /-- The arguments ask for the help text or the version. -/
  | displayHelp
  | displayVersion
  deriving DecidableEq, Repr

namespace CommandLine

def wantsBatch (c : CommandLine) : Bool := c.line.isSome || c.cell || c.all

inductive Flag where
  | cell
  | all
  | inPlace
  | verbose
  | help
  | version
  deriving DecidableEq, Repr

inductive Parameter where
  | line
  | endLine
  | program
  deriving DecidableEq, Repr

inductive Named where
  | flag (f : Flag)
  | parameter (p : Parameter)
  deriving DecidableEq, Repr

def longNames : List (Text × Named) :=
  [("line", .parameter .line), ("end-line", .parameter .endLine), ("python", .parameter .program),
   ("cell", .flag .cell), ("all", .flag .all), ("in-place", .flag .inPlace), ("verbose", .flag .verbose),
   ("help", .flag .help), ("version", .flag .version)]

def shortFlag? : Char → Option Flag
  | 'v' => some .verbose
  | 'h' => some .help
  | 'V' => some .version
  | _ => none

def once (given : Bool) (c : CommandLine) : Except UsageError CommandLine :=
  if given then .error .argumentConflict else .ok c

def raise (c : CommandLine) : Flag → Except UsageError CommandLine
  | .cell => once c.cell { c with cell := true }
  | .all => once c.all { c with all := true }
  | .inPlace => once c.inPlace { c with inPlace := true }
  | .verbose => once c.verbose { c with verbose := true }
  | .help => .error .displayHelp
  | .version => .error .displayVersion

def number (value : Text) : Except UsageError Nat :=
  match Text.Decimal.readWord? value with
  | some n => .ok n
  | none => .error .notANumber

def assign (c : CommandLine) (value : Text) : Parameter → Except UsageError CommandLine
  | .line => do
    let c ← once c.line.isSome c
    pure { c with line := some (← number value) }
  | .endLine => do
    let c ← once c.endLine.isSome c
    pure { c with endLine := some (← number value) }
  | .program => once c.program.isSome { c with program := some value }

inductive Pending where
  | nothing
  | missing (p : Parameter)
  | value (p : Parameter) (value : Text)
  | files (names : List Text)
  deriving DecidableEq, Repr

abbrev Progress := CommandLine × Pending

def complete : Progress → Except UsageError CommandLine
  | (c, .nothing) => .ok c
  | (_, .missing _) => .error .invalidValue
  | (c, .value p value) => c.assign value p
  | (c, .files names) => if names.any List.isEmpty then .error .invalidValue else .ok { c with files := c.files ++ names }

def addFile (s : Progress) (name : Text) : Except UsageError Progress :=
  match s with
  | (c, .files names) => .ok (c, .files (names ++ [name]))
  | s => do pure (← complete s, .files [name])

/-- An argument that is no option: a value that is waited for, or a file. -/
def takeWord (s : Progress) (word : Text) : Except UsageError Progress :=
  match s with
  | (c, .missing p) => .ok (c, .value p word)
  | s => addFile s word

def raiseFlag (s : Progress) (f : Flag) : Except UsageError Progress := do
  pure (← (← complete s).raise f, .nothing)

def takeLong (s : Progress) (option : Text) : Except UsageError Progress :=
  let (name, value?) := match Text.splitOnce '=' option with
    | some (name, value) => (name, some value)
    | none => (option, none)
  match longNames.lookup name, value? with
  | none, _ => .error .unknownArgument
  | some (.flag _), some _ => .error .tooManyValues
  | some (.flag f), none => raiseFlag s f
  | some (.parameter p), some value => do pure (← (← complete s).assign value p, .nothing)
  | some (.parameter p), none => do pure (← complete s, .missing p)

def takeShort (s : Progress) : Text → Except UsageError Progress
  | [] => .ok s
  | c :: rest =>
    match shortFlag? c with
    | none => .error .unknownArgument
    | some f => do takeShort (← raiseFlag s f) rest

/-- Reads the arguments one after the other; after two dashes everything is a file. -/
def takeAll (s : Progress) : List Text → Except UsageError CommandLine
  | [] => complete s
  | arg :: rest =>
    match arg with
    | ['-', '-'] => do complete (← rest.foldlM addFile s)
    | '-' :: '-' :: option => do takeAll (← takeLong s option) rest
    | '-' :: c :: flags => do takeAll (← takeShort s (c :: flags)) rest
    | word => do takeAll (← takeWord s word) rest

def validate (c : CommandLine) : Except UsageError CommandLine :=
  if c.all && c.line.isSome then .error .argumentConflict
  else if c.endLine.isSome && c.line.isNone && !c.all then .error .missingArgument
  else .ok c

def parse (args : List Text) : Except UsageError CommandLine := do validate (← takeAll ({}, .nothing) args)

end CommandLine
end StatementPad
