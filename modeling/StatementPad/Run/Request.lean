import StatementPad.Selection
import StatementPad.Output
import StatementPad.Run.State

/-! # Requests and events of runs

A request carries everything that a run needs, so that later edits cannot reach it. What a run does is
reported as events.
-/
namespace StatementPad

abbrev BufferId := Nat

inductive RunMode where
  /-- The statement around the cursor or the selection; on a cell marker, the cell below it. -/
  | block
  /-- The cell around the cursor. -/
  | cell
  deriving DecidableEq, Repr

structure RunRequest where
  buffer : BufferId
  filename : Text
  /-- Where the interpreter goes before the first run in this buffer. -/
  workingDir : Option Text
  snapshot : Buffer
  selection : LineSelection
  mode : RunMode
  /-- Move the cursor past the block once it is found. -/
  advance : Bool := true
  /-- Drop the request unless the block holds the cursor line. -/
  requireInside : Bool := false
  deriving DecidableEq, Repr

/-- The request for the block under `line`, and only if `line` is part of it. -/
def RunRequest.clickedAt (r : RunRequest) (line : Nat) : RunRequest :=
  { r with selection := .atLine line, requireInside := true, advance := false }

inductive MarkerState where
  /-- Waiting or running. -/
  | active
  | error
  | finished
  deriving DecidableEq, Repr

inductive RunEvent where
  | state (s : RunState)
  | paint (buffer : BufferId) (lines : LineRange) (marker : MarkerState)
  | clearMarker (buffer : BufferId)
  | moveCursor (buffer : BufferId) (line : Nat)
  | finished (buffer : BufferId) (lines : LineRange) (outcome : Outcome)
  /-- The kernel failed to answer. -/
  | aborted (buffer : BufferId) (reason : Text)
  deriving DecidableEq, Repr

end StatementPad
