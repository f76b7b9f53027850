import StatementPad.Channel

/-! # What callers make of completions

A caller sees the reply to its request, or a fault. A reply of another kind than the request calls for is a
fault too.
-/
namespace StatementPad

namespace Completion

/-- `nanos` is how long the caller was ready to wait. -/
def reply? (nanos : Nat) : Completion → Except Fault Wire.Reply
  | reply (.failed message) => .error (.rejected message)
  | reply r => .ok r
  | noAnswer | stopped | restarted _ => .error .noAnswer
  | notAlive => .error .notAlive
  | timedOut => .error (.timeout nanos)

end Completion

namespace Wire

def unexpected (operation : Text) (r : Reply) : Fault :=
  .protocol ("unexpected reply to " ++ operation ++ ": " ++ r.shown)

namespace Reply

def verdict : Reply → Except Fault Verdict
  | compiled true => .ok .expression
  | compiled false => .ok .statements
  | incomplete => .ok .incomplete
  | syntaxError output => .ok (.syntaxError output)
  | other => .error (unexpected "try_compile" other)

def outcome (operation : Text) : Reply → Except Fault Outcome
  | evaluated (some value) output => .ok (.value (Chunk.joined output ++ value))
  | evaluated none output | executed output => .ok (.success output)
  | raised output => .ok (.runtimeError output)
  | syntaxError output => .ok (.syntaxError output)
  | incomplete => .ok .incomplete
  | other => .error (unexpected operation other)

def acknowledged : Reply → Except Fault Unit
  | ack => .ok ()
  | other => .error (unexpected "set_working_dir" other)

def output : Reply → Except Fault (List Chunk)
  | flushed chunks => .ok chunks
  | other => .error (unexpected "flush" other)

end Reply

def Request.hasLimit : Request → Bool
  | tryCompile .. | setWorkingDir _ | flush => true
  | evaluate | execute | executeSource .. | shutdown => false

end Wire
end StatementPad
