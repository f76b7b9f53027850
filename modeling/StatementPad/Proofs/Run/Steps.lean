import StatementPad.Block
import StatementPad.Proofs.Run.Path

/-! # What steps tell

The steps of a run tell which state it is in, what it has reported, and what the kernel said. The kernel keeps
the source that compiled last until it is run.
-/
namespace StatementPad

structure Source where
  offset : Nat
  filename : Text
  text : Text
  deriving DecidableEq, Repr

def CodeBlock.source (block : CodeBlock) (filename : Text) : Source := ⟨block.start, filename, block.text⟩

structure Slot where
  /-- What compiled last and has not been run since. -/
  compiled : Option Source := none
  /-- What was run last. -/
  running : Option Source := none
  deriving DecidableEq, Repr

namespace TaskStep

def isKernel : TaskStep → Bool
  | asked _ | answered _ _ => true
  | act _ _ => false

def stateAfter (s : RunState) : TaskStep → RunState
  | act (.advance next) _ => next
  | _ => s

def event? : TaskStep → Option RunEvent
  | act (.send event) _ => some event
  | _ => none

def verdict? : TaskStep → Option (Except Fault Verdict)
  | answered (.compile ..) verdict => some verdict
  | _ => none

def run? : TaskStep → Option KernelCall
  | asked .evaluate => some .evaluate
  | asked .execute => some .execute
  | asked (.executeSource offset filename source) => some (.executeSource offset filename source)
  | _ => none

def outcome? : TaskStep → Option Outcome
  | answered .evaluate (.ok outcome) => some outcome
  | answered .execute (.ok outcome) => some outcome
  | answered (.executeSource ..) (.ok outcome) => some outcome
  | _ => none

def slotAfter (s : Slot) : TaskStep → Slot
  | answered (.compile offset filename source) (.ok .expression) =>
    { s with compiled := some ⟨offset, filename, source⟩ }
  | answered (.compile offset filename source) (.ok .statements) =>
    { s with compiled := some ⟨offset, filename, source⟩ }
  | asked .evaluate => ⟨none, s.compiled⟩
  | asked .execute => ⟨none, s.compiled⟩
  | asked (.executeSource offset filename source) => { s with running := some ⟨offset, filename, source⟩ }
  | _ => s

def ran? (s : Slot) (step : TaskStep) : Option (Source × Outcome) :=
  step.outcome?.bind fun outcome => s.running.map (·, outcome)

end TaskStep

namespace Steps
variable (steps more : List TaskStep)

def state (s : RunState) : RunState := steps.foldl TaskStep.stateAfter s

def events : List RunEvent := steps.filterMap TaskStep.event?

def verdicts : List (Except Fault Verdict) := steps.filterMap TaskStep.verdict?

def runs : List KernelCall := steps.filterMap TaskStep.run?

/-- What came of the blocks that the kernel was called to run. -/
def outcomes : List Outcome := steps.filterMap TaskStep.outcome?

def slot (s : Slot) : Slot := steps.foldl TaskStep.slotAfter s

def painted : List LineRange := (events steps).filterMap fun
  | .paint _ lines .active => some lines
  | _ => none

def ran : List TaskStep → Slot → List (Source × Outcome)
  | [], _ => []
  | step :: steps, s => (step.ran? s).toList ++ ran steps (step.slotAfter s)

variable {steps more}

private theorem filterMap_cons_toList {α β : Type} (f : α → Option β) (a : α) (l : List α) :
    (a :: l).filterMap f = (f a).toList ++ l.filterMap f := by
  cases h : f a <;> simp [h]

@[simp] theorem state_append (s : RunState) : state (steps ++ more) s = state more (state steps s) :=
  List.foldl_append
@[simp] theorem state_cons (step : TaskStep) (s : RunState) :
    state (step :: steps) s = state steps (step.stateAfter s) := rfl
@[simp] theorem state_nil (s : RunState) : state [] s = s := rfl

@[simp] theorem events_append : events (steps ++ more) = events steps ++ events more := List.filterMap_append
@[simp] theorem events_cons (step : TaskStep) : events (step :: steps) = step.event?.toList ++ events steps :=
  filterMap_cons_toList _ step steps
@[simp] theorem events_nil : events [] = [] := rfl

@[simp] theorem verdicts_append : verdicts (steps ++ more) = verdicts steps ++ verdicts more := List.filterMap_append
@[simp] theorem verdicts_cons (step : TaskStep) : verdicts (step :: steps) = step.verdict?.toList ++ verdicts steps :=
  filterMap_cons_toList _ step steps
@[simp] theorem verdicts_nil : verdicts [] = [] := rfl

@[simp] theorem runs_append : runs (steps ++ more) = runs steps ++ runs more := List.filterMap_append
@[simp] theorem runs_cons (step : TaskStep) : runs (step :: steps) = step.run?.toList ++ runs steps :=
  filterMap_cons_toList _ step steps
@[simp] theorem runs_nil : runs [] = [] := rfl

@[simp] theorem outcomes_append : outcomes (steps ++ more) = outcomes steps ++ outcomes more := List.filterMap_append
@[simp] theorem outcomes_cons (step : TaskStep) : outcomes (step :: steps) = step.outcome?.toList ++ outcomes steps :=
  filterMap_cons_toList _ step steps
@[simp] theorem outcomes_nil : outcomes [] = [] := rfl

@[simp] theorem slot_append (s : Slot) : slot (steps ++ more) s = slot more (slot steps s) := List.foldl_append
@[simp] theorem slot_cons (step : TaskStep) (s : Slot) : slot (step :: steps) s = slot steps (step.slotAfter s) := rfl
@[simp] theorem slot_nil (s : Slot) : slot [] s = s := rfl

theorem slotAfter_of_not_isKernel {step : TaskStep} (h : step.isKernel = false) (s : Slot) :
    step.slotAfter s = s := by
  cases step with
  | act action answer => rfl
  | asked call => cases h
  | answered call answer => cases h

theorem slot_filter (steps : List TaskStep) (s : Slot) : slot (steps.filter TaskStep.isKernel) s = slot steps s := by
  induction steps generalizing s with
  | nil => rfl
  | cons step steps ih =>
    cases h : step.isKernel with
    | true => rw [List.filter_cons_of_pos h, slot_cons, slot_cons, ih]
    | false => rw [List.filter_cons_of_neg (by simp [h]), slot_cons, slotAfter_of_not_isKernel h, ih]

@[simp] theorem ran_nil (s : Slot) : ran [] s = [] := rfl

@[simp] theorem ran_cons (step : TaskStep) (s : Slot) :
    ran (step :: steps) s = (step.ran? s).toList ++ ran steps (step.slotAfter s) := rfl

@[simp] theorem ran_append (s : Slot) : ran (steps ++ more) s = ran steps s ++ ran more (slot steps s) := by
  induction steps generalizing s with
  | nil => rfl
  | cons step steps ih => rw [List.cons_append, ran_cons, ran_cons, ih, List.append_assoc]; rfl

theorem ran?_of_not_isKernel {step : TaskStep} (h : step.isKernel = false) (s : Slot) : step.ran? s = none := by
  cases step with
  | act action answer => rfl
  | asked call => cases h
  | answered call answer => cases h

theorem ran_filter (steps : List TaskStep) (s : Slot) : ran (steps.filter TaskStep.isKernel) s = ran steps s := by
  induction steps generalizing s with
  | nil => rfl
  | cons step steps ih =>
    cases h : step.isKernel with
    | true => rw [List.filter_cons_of_pos h, ran_cons, ran_cons, ih]
    | false =>
      rw [List.filter_cons_of_neg (by simp [h]), ran_cons, slotAfter_of_not_isKernel h, ran?_of_not_isKernel h, ih]
      rfl

end Steps
end StatementPad
