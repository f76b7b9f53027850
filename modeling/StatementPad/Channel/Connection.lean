import StatementPad.Channel.Answers
import StatementPad.Interpreter
import StatementPad.Run.Controller

/-! # Connections

A channel with an interpreter at its other end. The agent serves every command as it comes and reads all
that the interpreter has written, line by line. Time passes only while a caller waits: one that waits only for
so long gives up when nothing more can come, and with it all who have waited longer.
-/
namespace StatementPad

open Text.Utf8 (Bytes)

structure Connection (σ : Type) where
  channel : Channel := {}
  files : Files
  spec : InterpreterSpec
  /-- How long a caller waits for an interactive request. -/
  limit : Nat
  worker : σ
  /-- What the process has written since its last line break. -/
  unread : Bytes := []
  nextTicket : Ticket := 0
  completed : List (Ticket × Completion) := []
  /-- The callers that wait only for `limit`. -/
  limited : List Ticket := []
  /-- The call of a run that has not been answered. -/
  outstanding : Option Ticket := none

namespace Connection

variable {σ : Type} (interpreter : Interpreter σ)

def step (s : Signal) (c : Connection σ) : Connection σ × List Effect :=
  let (channel, effects) := c.channel.step s
  let finished := effects.filterMap fun
    | .complete ticket completion => some (ticket, completion)
    | _ => none
  ({ c with channel, completed := finished ++ c.completed }, effects)

def takeLine (bytes : Bytes) (c : Connection σ) : Connection σ :=
  (c.step (match Text.Utf8.decode? bytes with
    | some t => .line (Text.dropReturn t)
    | none => .lost)).1

def read (output : ProcessOutput) (c : Connection σ) : Connection σ :=
  let pieces := Text.Utf8.breakLines (c.unread ++ output.bytes)
  let last := pieces.getLastD []
  let c := pieces.dropLast.foldl (fun c bytes => takeLine bytes c) c
  if output.ended then
    let c := if last.isEmpty then c else takeLine last c
    { (c.step .lost).1 with unread := [] }
  else { c with unread := last }

def carryOut (c : Connection σ) : Effect → Connection σ
  | .write line =>
    let (output, worker) := interpreter.receive line c.worker
    ({ c with worker } : Connection σ).read output
  | .replaceProcess =>
    let (fault, worker) := interpreter.start c.files c.spec c.worker
    (({ c with worker, unread := [] } : Connection σ).step (.started fault)).1
  | .kill => { c with unread := [] }
  | .complete .. => c

def submit (command : Ticket → Command) (c : Connection σ) : Ticket × Connection σ :=
  let ticket := c.nextTicket
  let (c, _) := ({ c with nextTicket := ticket + 1 } : Connection σ).step (.submit (command ticket))
  let (c, effects) := c.step (.serve true)
  (ticket, effects.foldl (carryOut interpreter) c)

def completion? (c : Connection σ) (ticket : Ticket) : Option Completion := c.completed.lookup ticket

/-! ## Callers -/

def «open» (files : Files) (spec : InterpreterSpec) (limit : Nat) (worker : σ) :
    Except Fault (Connection σ) × σ :=
  match interpreter.start files spec worker with
  | (none, worker) => (.ok { files, spec, limit, worker }, worker)
  | (some fault, worker) => (.error fault, worker)

def isAlive (c : Connection σ) : Bool := c.channel.alive

def begin (request : Wire.Request) (c : Connection σ) : Ticket × Connection σ :=
  let (ticket, c) := c.submit interpreter fun ticket => .call (some ticket) request
  (ticket, if request.hasLimit then { c with limited := ticket :: c.limited } else c)

/-- The limit of a caller has passed, and so have those of all who asked before it. -/
def expireUpTo (ticket : Ticket) (c : Connection σ) : Connection σ :=
  (c.limited.filter (· ≤ ticket)).foldl (fun c late => (c.step (.expire late)).1)
    { c with limited := c.limited.filter (ticket < ·) }

/-- Waits for the reply to a request that was sent; there is none as long as a caller without a limit waits. -/
def wait (ticket : Ticket) (c : Connection σ) : Option (Except Fault Wire.Reply) × Connection σ :=
  let c := if (c.completion? ticket).isNone && c.limited.contains ticket then c.expireUpTo ticket else c
  ((c.completion? ticket).map (Completion.reply? c.limit), c)

def flush (c : Connection σ) : Except Fault (List Chunk) × Connection σ :=
  let (ticket, c) := c.begin interpreter .flush
  let (reply, c) := c.wait ticket
  ((reply.getD (.error .noAnswer)).bind Wire.Reply.output, c)

def restart (files : Files) (c : Connection σ) : Option Fault × Connection σ :=
  let (ticket, c) := ({ c with files } : Connection σ).submit interpreter .restart
  match c.completion? ticket with
  | some (.restarted fault) => (fault, c)
  | _ => (some .noAnswer, c)

def shutdown (c : Connection σ) : Connection σ := (c.submit interpreter .shutdown).2

/-! ## The connection as a kernel -/

def requestOf : KernelCall → Wire.Request
  | .compile offset filename source => .tryCompile offset filename source
  | .evaluate => .evaluate
  | .execute => .execute
  | .executeSource offset filename source => .executeSource offset filename source
  | .setWorkingDir path => .setWorkingDir path

def interpret (reply : Except Fault Wire.Reply) : (call : KernelCall) → call.Answer
  | .compile .. => reply.bind Wire.Reply.verdict
  | .evaluate => reply.bind (Wire.Reply.outcome "evaluate")
  | .execute => reply.bind (Wire.Reply.outcome "execute")
  | .executeSource .. => reply.bind (Wire.Reply.outcome "execute_source")
  | .setWorkingDir _ => reply.bind Wire.Reply.acknowledged

/-- A call that has been sent is not sent again while its caller waits. -/
def kernel : Controller.Kernel (Connection σ) := fun call c =>
  let (ticket, c) := match c.outstanding with
    | some ticket => (ticket, c)
    | none => c.begin interpreter (requestOf call)
  match c.wait ticket with
  | (some reply, c) => (some (interpret reply call), { c with outstanding := none })
  | (none, c) => (none, { c with outstanding := some ticket })

end Connection
end StatementPad
