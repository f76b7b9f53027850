import StatementPad.Fault
import StatementPad.Wire

/-! # The channel to the interpreter

One agent owns the interpreter's process and pairs its replies with the callers that wait for them. Callers
put commands into a queue; a ticket names the caller to whom the answer belongs. `Channel.step` is one atomic
step: of a caller, of the agent, or of the process at the other end. A call that is given up keeps its number
but has nobody left to answer.
-/
namespace StatementPad

abbrev Ticket := Nat

inductive Command where
  | call (ticket : Option Ticket) (request : Wire.Request)
  | restart (ticket : Ticket)
  | shutdown (ticket : Ticket)
  deriving DecidableEq, Repr

inductive Completion where
  | reply (r : Wire.Reply)
  | noAnswer
  | notAlive
  | timedOut
  | restarted (fault : Option Fault)
  | stopped
  deriving DecidableEq, Repr

structure Channel where
  alive : Bool := true
  /-- The agent reads what the process writes. -/
  reading : Bool := true
  stopped : Bool := false
  /-- The restart that waits for its process to start. -/
  restarting : Option Ticket := none
  nextId : Nat := 1
  /-- The calls sent to the process and not answered yet. -/
  pending : List (Nat × Option Ticket) := []
  queue : List Command := []
  deriving DecidableEq, Repr

inductive Signal where
  | submit (command : Command)
  /-- The agent takes the next command; `written` tells whether the process could be written to. -/
  | serve (written : Bool)
  /-- The process that a restart asked for has started, or has not. -/
  | started (fault : Option Fault)
  | line (t : Text)
  /-- The output of the process has ended or is no text. -/
  | lost
  | expire (ticket : Ticket)
  deriving DecidableEq, Repr

inductive Effect where
  | write (line : Text)
  | replaceProcess
  | kill
  | complete (ticket : Ticket) (completion : Completion)
  deriving DecidableEq, Repr

namespace Channel

def completeAll (tickets : List (Option Ticket)) (completion : Completion) : List Effect :=
  (tickets.filterMap id).map fun ticket => .complete ticket completion

def detach (c : Channel) : Channel × List Effect :=
  ({ c with alive := false, reading := false, pending := [] }, completeAll (c.pending.map (·.2)) .noAnswer)

def submit (command : Command) (c : Channel) : Channel × List Effect :=
  let enqueued := { c with queue := c.queue ++ [command] }
  match command with
  | .call ticket _ => if c.alive then (enqueued, []) else (c, completeAll [ticket] .notAlive)
  | .restart ticket =>
    if c.stopped then (c, [.complete ticket (.restarted (some .notAlive))]) else (enqueued, [])
  | .shutdown ticket => if c.stopped then (c, [.complete ticket .stopped]) else (enqueued, [])

def sendCall (ticket : Option Ticket) (request : Wire.Request) (written : Bool) (c : Channel) :
    Channel × List Effect :=
  if c.alive then
    let line := (Wire.Envelope.mk c.nextId request).write
    let sent := { c with nextId := c.nextId + 1, pending := c.pending ++ [(c.nextId, ticket)] }
    if written then (sent, [.write line])
    else
      let (c, effects) := sent.detach
      (c, .write line :: effects)
  else (c, completeAll [ticket] .noAnswer)

/-- What a command that the agent will not take any more comes to. -/
def abandoned : Command → List Effect
  | .call ticket _ => completeAll [ticket] .noAnswer
  | .restart ticket => [.complete ticket (.restarted (some .noAnswer))]
  | .shutdown ticket => [.complete ticket .stopped]

def shutdownLine : Text := (Wire.Envelope.mk 0 Wire.Request.shutdown).write

def stop (ticket : Ticket) (c : Channel) : Channel × List Effect :=
  let goodbye : List Effect := if c.alive then [.write shutdownLine] else []
  let (detached, effects) := c.detach
  ({ detached with stopped := true, queue := [] },
    goodbye ++ effects ++ .kill :: .complete ticket .stopped :: c.queue.flatMap abandoned)

def serve (written : Bool) (c : Channel) : Channel × List Effect :=
  if c.stopped || c.restarting.isSome then (c, [])
  else
    match c.queue with
    | [] => (c, [])
    | .call ticket request :: queue => sendCall ticket request written { c with queue }
    | .restart ticket :: queue =>
      let (c, effects) := ({ c with queue } : Channel).detach
      ({ c with restarting := some ticket }, effects ++ [.replaceProcess])
    | .shutdown ticket :: queue => stop ticket { c with queue }

def started (fault : Option Fault) (c : Channel) : Channel × List Effect :=
  match c.restarting with
  | none => (c, [])
  | some ticket =>
    let up := fault.isNone
    ({ c with restarting := none, alive := up, reading := up }, [.complete ticket (.restarted fault)])

/-- Hands a reply to the call with its number; any other line is ignored. -/
def receive (t : Text) (c : Channel) : Channel × List Effect :=
  match (Wire.Envelope.read? t : Option (Wire.Envelope Wire.Reply)) with
  | none => (c, [])
  | some e =>
    match c.pending.lookup e.id with
    | none => (c, [])
    | some ticket =>
      ({ c with pending := c.pending.filter fun call => call.1 ≠ e.id }, completeAll [ticket] (.reply e.body))

def forget (ticket : Ticket) (waiting : Option Ticket) : Option Ticket :=
  if waiting = some ticket then none else waiting

def Command.forget (ticket : Ticket) : Command → Command
  | .call waiting request => .call (Channel.forget ticket waiting) request
  | command => command

def awaits (c : Channel) (ticket : Ticket) : Bool :=
  c.pending.any (fun call => call.2 == some ticket) ||
    c.queue.any fun
      | .call waiting _ => waiting == some ticket
      | _ => false

def expire (ticket : Ticket) (c : Channel) : Channel × List Effect :=
  if c.awaits ticket then
    ({ c with
       pending := c.pending.map fun call => (call.1, forget ticket call.2)
       queue := c.queue.map (Command.forget ticket) },
     [.complete ticket .timedOut])
  else (c, [])

def step (s : Signal) (c : Channel) : Channel × List Effect :=
  match s with
  | .submit command => c.submit command
  | .serve written => c.serve written
  | .started fault => c.started fault
  | .line t => if c.reading then c.receive t else (c, [])
  | .lost => if c.reading then c.detach else (c, [])
  | .expire ticket => c.expire ticket

end Channel
end StatementPad
