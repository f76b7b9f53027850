import StatementPad.Files

/-! # The log of snippets

Snippets are appended to a file, each under a line that says when.
-/
namespace StatementPad

structure Moment where
  year : Int
  month : Nat
  day : Nat
  hour : Nat
  minute : Nat
  second : Nat
  deriving DecidableEq, Repr

namespace Moment

/-- A year that has not just four digits has a sign. -/
def shown (m : Moment) : Text :=
  let two := Text.Decimal.writePadded 2
  let sign : Text := if 9999 < m.year then "+" else if m.year < 0 then "-" else ""
  sign ++ Text.Decimal.writePadded 4 m.year.natAbs ++ "-" ++ two m.month ++ "-" ++ two m.day ++
    " " ++ two m.hour ++ ":" ++ two m.minute ++ ":" ++ two m.second

end Moment

namespace SnippetLog

def rule : Text := Text.repeated 50 '-'

def entry (stamp snippet : Text) : Text :=
  "# " ++ rule ++ " " ++ stamp ++ " " ++ rule ++ "\n\n" ++ Text.trim snippet ++ "\n\n"

def during (what path : Text) {α : Type} : Except FileError α → Except Failure α
  | .ok a => .ok a
  | .error e => .error (e.failure.within (what ++ path))

def prepare (fs : Files) (path : Text) : Except Failure Unit × Files :=
  match Path.parent? path with
  | none | some [] => (.ok (), fs)
  | some dir =>
    let (result, fs) := fs.createDirs dir
    (during "creating " dir result, fs)

/-- Appends a snippet. A failure may leave directories behind that were created before it. -/
def append (fs : Files) (path stamp snippet : Text) : Except Failure Unit × Files :=
  match prepare fs path with
  | (.error f, fs) => (.error f, fs)
  | (.ok (), fs) =>
    match during "opening snippet log " path (fs.appendText path (entry stamp snippet)) with
    | .error f => (.error f, fs)
    | .ok fs => (.ok (), fs)

end SnippetLog
end StatementPad
