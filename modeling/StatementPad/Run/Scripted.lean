import StatementPad.Run.Controller

/-! # Scripted kernels

A kernel that takes its answers from queues and keeps a record of the calls. When a queue is used up, source
is incomplete, runs succeed without output, and directories can be entered. An outcome can be held back: its
caller waits until it is released, and a release that comes too early is remembered.
-/
namespace StatementPad

structure ScriptedKernel where
  verdicts : List (Except Fault Verdict)
  /-- What the runs come to, and whether it is held back. -/
  outcomes : List (Bool × Except Fault Outcome)
  moves : List (Except Fault Unit)
  /-- The calls since they were read last. -/
  calls : List KernelCall := []
  /-- The outcome that is held back, and whether it has been released. -/
  held : Option (Except Fault Outcome × Bool) := none
  releaseKept : Bool := false

namespace ScriptedKernel

def record (call : KernelCall) (k : ScriptedKernel) : ScriptedKernel := { k with calls := k.calls ++ [call] }

/-- The answer to a call that runs something; a call that waits is recorded once. -/
def run (call : KernelCall) (k : ScriptedKernel) : Option (Except Fault Outcome) × ScriptedKernel :=
  match k.held with
  | some (outcome, true) => (some outcome, { k with held := none })
  | some (_, false) => (none, k)
  | none =>
    let k := k.record call
    match k.outcomes with
    | [] => (some (.ok (.success [])), k)
    | (hold, outcome) :: outcomes =>
      let k := { k with outcomes }
      if !hold then (some outcome, k)
      else if k.releaseKept then (some outcome, { k with releaseKept := false })
      else (none, { k with held := some (outcome, false) })

def answer : Controller.Kernel ScriptedKernel
  | .compile offset filename source, k =>
    let k := k.record (.compile offset filename source)
    match k.verdicts with
    | [] => (some (.ok .incomplete), k)
    | verdict :: verdicts => (some verdict, { k with verdicts })
  | .evaluate, k => k.run .evaluate
  | .execute, k => k.run .execute
  | .executeSource offset filename source, k => k.run (.executeSource offset filename source)
  | .setWorkingDir path, k =>
    let k := k.record (.setWorkingDir path)
    match k.moves with
    | [] => (some (.ok ()), k)
    | move :: moves => (some move, { k with moves })

def release (k : ScriptedKernel) : ScriptedKernel :=
  match k.held with
  | some (outcome, false) => { k with held := some (outcome, true) }
  | _ => { k with releaseKept := true }

end ScriptedKernel
end StatementPad
