import StatementPad.Failure
import StatementPad.Text.Duration

/-! # Faults of the kernel

Why a call to the interpreter brought no answer.
-/
namespace StatementPad

inductive Fault where
  | notAlive
  | timeout (nanos : Nat)
  | noAnswer
  | spawn (program cause : Text)
  | io (cause : Text)
  | protocol (detail : Text)
  | rejected (message : Text)
  deriving DecidableEq, Repr

namespace Fault

def message : Fault → Text
  | notAlive => "Python kernel not responding; restart it to continue"
  | timeout nanos => "no answer from the Python kernel within " ++ Text.Duration.shown nanos
  | noAnswer => "the Python kernel went away before answering"
  | spawn program cause => "failed to start `" ++ program ++ "`: " ++ cause
  | io cause => "worker I/O failed: " ++ cause
  | protocol detail => "malformed worker message: " ++ detail
  | rejected text => "worker rejected the request: " ++ text

def failure (f : Fault) : Failure :=
  match f with
  | spawn _ cause | io cause => ⟨f.message, [cause]⟩
  | _ => ⟨f.message, []⟩

/-- After such a fault the interpreter has to be started again. -/
def isFatal : Fault → Bool
  | notAlive | noAnswer | io _ | spawn .. => true
  | timeout _ | protocol _ | rejected _ => false

end Fault
end StatementPad
