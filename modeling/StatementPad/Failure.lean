import StatementPad.Text.Decimal

/-! # Failures

Why an operation failed: what was tried, and below it what went wrong, the innermost cause last.
-/
namespace StatementPad

structure Failure where
  headline : Text
  causes : List Text := []
  deriving DecidableEq, Repr

namespace Failure

def within (headline : Text) (f : Failure) : Failure := ⟨headline, f.headline :: f.causes⟩

def inline (f : Failure) : Text := List.intercalate ": ".toList (f.headline :: f.causes)

def hanging (columns : Nat) (t : Text) : Text :=
  ('\n' :: Text.repeated columns ' ').intercalate (Text.breakLines t)

def numbered : Nat → List Text → Text
  | _, [] => []
  | n, cause :: causes =>
    Text.padLeft 5 ' ' (Text.Decimal.write n) ++ ": " ++ hanging 7 cause ++ "\n" ++ numbered (n + 1) causes

def listed : List Text → Text
  | [] => []
  | [cause] => "\nCaused by:\n    " ++ hanging 4 cause ++ "\n"
  | causes => "\nCaused by:\n" ++ numbered 0 causes

/-- The report with which a program ends. -/
def report (f : Failure) : Text := "Error: " ++ f.headline ++ "\n" ++ listed f.causes

end Failure
end StatementPad
