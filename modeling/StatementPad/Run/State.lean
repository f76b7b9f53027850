import StatementPad.Text

/-! # The state of a run

One request is handled at a time: from `idle` a run goes through `probing` and comes back to `idle`.
-/
namespace StatementPad

inductive RunState where
  | idle
  | probing
  /-- A block was found and is about to run. -/
  | resolved
  /-- The block does not compile. -/
  | failed
  | running
  | success
  | error
  deriving DecidableEq, Repr

namespace RunState

def canBecome : RunState → RunState → Bool
  | idle, probing
  | probing, resolved | probing, failed | probing, idle
  | resolved, running
  | failed, idle
  | running, success | running, error | running, idle
  | success, idle
  | error, idle => true
  | _, _ => false

def isIdle (s : RunState) : Bool := s == idle

def label : RunState → Text
  | idle => "idle"
  | probing => "probing"
  | resolved => "resolved"
  | failed => "syntax error"
  | running => "running"
  | success => "done"
  | error => "error"

def begin (s : RunState) : Bool × RunState := if s.isIdle then (true, probing) else (false, s)

end RunState
end StatementPad
