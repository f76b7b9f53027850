import StatementPad.Proofs.Run.Job

/-! # What a run tells

What the probe of a run finds decides what the run goes on to tell: that there is nothing to run, that a block
does not compile, or that a block is running and how that went. Of the kernel's answers after the probe only
the one to the block itself shows in what is told.
-/
namespace StatementPad
open StatementPad.Task

namespace Probe

def block? : Probe → Option CodeBlock
  | empty | outside => none
  | ready block _ | invalid block _ | incomplete block | exhausted block => some block

def rejected? : Probe → Option (CodeBlock × Outcome)
  | invalid block report => some (block, .syntaxError report)
  | incomplete block => some (block, .incomplete)
  | empty | outside | ready .. | exhausted _ => none

def dispatched? : Probe → Option (CodeBlock × Job.Dispatch)
  | ready block expression => some (block, if expression then .evaluate else .execute)
  | exhausted block => some (block, .source)
  | empty | outside | invalid .. | incomplete _ => none

variable {p : Probe} {block : CodeBlock}

theorem block?_of_rejected? {outcome : Outcome} (h : p.rejected? = some (block,outcome)) : p.block? = some block := by
  cases p <;> cases h <;> rfl

theorem block?_of_dispatched? {d : Job.Dispatch} (h : p.dispatched? = some (block,d)) : p.block? = some block := by
  cases p <;> cases h <;> rfl

end Probe

def RunEvent.buffer? : RunEvent → Option BufferId
  | paint buffer .. | clearMarker buffer | moveCursor buffer _ | finished buffer .. | aborted buffer _ => some buffer
  | state _ => none

def RunEvent.lines? : RunEvent → Option LineRange
  | paint _ lines _ | finished _ lines _ => some lines
  | state _ | clearMarker _ | moveCursor .. | aborted .. => none

namespace Steps
variable {steps more : List TaskStep}

/-- The last exchange with the kernel brought an outcome that is no error. -/
def Succeeded (steps : List TaskStep) : Prop :=
  ∃ step outcome, (steps.filter TaskStep.isKernel).getLast? = some step ∧ step.outcome? = some outcome ∧
    outcome.isError = false

theorem Succeeded.append (h : Succeeded more) : Succeeded (steps ++ more) := by
  obtain ⟨step,outcome,hlast,ho⟩ := h
  refine ⟨step,outcome,?_,ho⟩
  rw [List.filter_append, List.getLast?_append, hlast]
  rfl

theorem Succeeded.quiet (h : Succeeded steps) (hmore : more.any TaskStep.isKernel = false) :
    Succeeded (steps ++ more) := by
  have hquiet : more.filter TaskStep.isKernel = [] := by simpa [List.filter_eq_nil_iff] using hmore
  obtain ⟨step,outcome,hlast,ho⟩ := h
  exact ⟨step,outcome,by rw [List.filter_append, hquiet, List.append_nil, hlast],ho⟩

theorem succeeded_concat {step : TaskStep} {outcome : Outcome} (hk : step.isKernel = true)
    (ho : step.outcome? = some outcome) (hgood : outcome.isError = false) : Succeeded (steps ++ [step]) :=
  ⟨step,outcome,by rw [List.filter_append, List.filter_cons_of_pos hk, List.filter_nil, List.getLast?_concat],ho,hgood⟩

end Steps

namespace Job
open StatementPad.Probe
variable {r : RunRequest} {found : Except Fault Probe} {p : Probe} {block : CodeBlock} {d : Dispatch}
  {past steps probing rest : List TaskStep}

/-- What a run does once its probe is over. -/
def conclude (r : RunRequest) (found : Except Fault Probe) : Task Unit := do
  match ← dispatch r found with
  | .ok () => pure ()
  | .error fault => Task.send (.aborted r.buffer fault.message)
  Task.setState .idle

theorem run_eq (r : RunRequest) :
    run r = Task.bind (Probe.find r.snapshot r.filename r.selection r.mode r.requireInside) (conclude r) := rfl

def shown (r : RunRequest) (block : CodeBlock) : List RunEvent :=
  [.state .resolved, .paint r.buffer block.codeLines .active] ++
    moved r (max r.selection.cursor (block.stop + 1)) ++ [.state .running]

/-- What a run tells of what its probe has found, and of the outcomes that the kernel has answered since. -/
inductive Told (r : RunRequest) : Except Fault Probe → List Outcome → List RunEvent → Prop where
  | nothing {p : Probe} (h : p.block? = none) : Told r (.ok p) [] [.clearMarker r.buffer]
  | unanswered (fault : Fault) : Told r (.error fault) [] [.aborted r.buffer fault.message]
  | rejected {p : Probe} {block : CodeBlock} {outcome : Outcome} (h : p.rejected? = some (block,outcome))
      (hbad : outcome.isError = true) : Told r (.ok p) [] ([.state .failed, .paint r.buffer block.codeLines .error] ++
        moved r block.start ++ [.finished r.buffer block.codeLines outcome])
  | succeeded {p : Probe} {block : CodeBlock} {d : Dispatch} {outcome : Outcome}
      (h : p.dispatched? = some (block,d)) (hgood : outcome.isError = false) :
      Told r (.ok p) [outcome] (shown r block ++ [.state .success, .paint r.buffer block.codeLines .finished,
        .finished r.buffer block.codeLines outcome])
  | failed {p : Probe} {block : CodeBlock} {d : Dispatch} {outcome : Outcome}
      (h : p.dispatched? = some (block,d)) (hbad : outcome.isError = true) :
      Told r (.ok p) [outcome] (shown r block ++ [.state .error, .paint r.buffer block.codeLines .error,
        .finished r.buffer block.codeLines outcome])
  | lost {p : Probe} {block : CodeBlock} {d : Dispatch} (h : p.dispatched? = some (block,d)) (fault : Fault) :
      Told r (.ok p) [] (shown r block ++ [.paint r.buffer block.codeLines .error, .aborted r.buffer fault.message])

theorem lines_moved {line : Nat} {lines : LineRange} : ∀ event ∈ moved r line, lines ∈ event.lines? →
    lines = block.codeLines := by
  unfold moved
  split <;> simp [RunEvent.lines?]

theorem lines_shown {lines : LineRange} : ∀ event ∈ shown r block, lines ∈ event.lines? → lines = block.codeLines := by
  refine List.forall_mem_append.mpr ⟨List.forall_mem_append.mpr ⟨?_,lines_moved⟩,?_⟩
  · simp [RunEvent.lines?, eq_comm]
  · simp [RunEvent.lines?]

/-- Whatever is told is about the code of the block that was found. -/
theorem Told.lines {outcomes : List Outcome} {events : List RunEvent} {lines : LineRange}
    (h : Told r found outcomes events) : ∀ event ∈ events, lines ∈ event.lines? →
      ∃ p block, found = .ok p ∧ p.block? = some block ∧ lines = block.codeLines := by
  cases h with
  | nothing h | unanswered fault => simp [RunEvent.lines?]
  | @rejected p block outcome h hbad =>
    intro event hm hl
    refine ⟨p,block,rfl,block?_of_rejected? h,?_⟩
    revert event
    refine List.forall_mem_append.mpr ⟨List.forall_mem_append.mpr ⟨?_,lines_moved⟩,?_⟩
    · simp [RunEvent.lines?, eq_comm]
    · simp [RunEvent.lines?, eq_comm]
  | @succeeded p block d _ h | @failed p block d _ h | @lost p block d h =>
    intro event hm hl
    refine ⟨p,block,rfl,block?_of_dispatched? h,?_⟩
    revert event
    refine List.forall_mem_append.mpr ⟨lines_shown,?_⟩
    simp [RunEvent.lines?, eq_comm]

theorem Told.buffers {outcomes : List Outcome} {events : List RunEvent} (h : Told r found outcomes events) :
    ∀ event ∈ events, ∀ buffer ∈ event.buffer?, buffer = r.buffer := by
  have hmoved (line : Nat) : ∀ event ∈ moved r line, ∀ buffer ∈ event.buffer?, buffer = r.buffer := by
    unfold moved
    split <;> simp [RunEvent.buffer?]
  cases h with
  | nothing h | unanswered fault => simp [RunEvent.buffer?]
  | rejected h hbad => simpa [or_imp, forall_and, RunEvent.buffer?] using hmoved _
  | succeeded h | failed h | lost h => simpa [shown, or_imp, forall_and, RunEvent.buffer?] using hmoved _

/-- Nothing else is told when a marker is cleared. -/
theorem Told.of_clear {outcomes : List Outcome} {events : List RunEvent} {buffer : BufferId}
    (h : Told r found outcomes events) (hm : .clearMarker buffer ∈ events) : events = [.clearMarker r.buffer] := by
  have hmoved (line : Nat) : .clearMarker buffer ∉ moved r line := by
    unfold moved
    split <;> simp
  cases h with
  | nothing h => rfl
  | unanswered fault => simp at hm
  | rejected h hbad => simp [hmoved] at hm
  | succeeded h | failed h | lost h => simp [shown, hmoved] at hm

structure Tied (r : RunRequest) (found : Except Fault Probe) (past : List TaskStep) (step : TaskStep) : Prop where
  /-- The kernel is called to run the block that was found, and holds what the probe has left it with. -/
  runs : ∀ call, step.run? = some call → ∃ p block d, found = .ok p ∧ p.dispatched? = some (block,d) ∧
    call = d.kernelCall r.filename block ∧ ∀ s, Steps.slot past s = s
  finished : ∀ buffer lines, step.event? = some (.paint buffer lines .finished) →
    Steps.Succeeded past ∧ ∀ s, Steps.state past s ≠ .idle

def paintsFinished : RunEvent → Bool
  | .paint _ _ .finished => true
  | .paint .. | .state _ | .clearMarker _ | .moveCursor .. | .finished .. | .aborted .. => false

theorem tied_other {step : TaskStep} (hrun : step.run? = none) (he : step.event?.any paintsFinished = false) :
    Tied r found past step := by
  constructor
  · intro call hcall
    rw [hrun] at hcall
    cases hcall
  · intro buffer lines hpaint
    rw [hpaint] at he
    cases he

theorem quiet_of_enters {step : TaskStep} (h : enters step = true) :
    step.event? = none ∧ step.run? = none ∧ step.outcome? = none := by
  cases step with
  | act action answer => cases action <;> first | exact ⟨rfl,rfl,rfl⟩ | cases h
  | asked call | answered call answer => cases call <;> first | exact ⟨rfl,rfl,rfl⟩ | cases h

theorem tied_of_enters {step : TaskStep} (h : enters step = true) : Tied r found past step := by
  obtain ⟨he,hrun,-⟩ := quiet_of_enters h
  exact tied_other hrun (by rw [he]; rfl)

/-- A block is shown, and its kernel call is due. -/
structure Pending (r : RunRequest) (block : CodeBlock) (steps : List TaskStep) : Prop where
  events : Steps.events steps = shown r block
  outcomes : Steps.outcomes steps = []
  slot : ∀ s, Steps.slot steps s = s

theorem outcomes_of_enters {moves : List TaskStep} (h : ∀ step ∈ moves, enters step = true) :
    Steps.outcomes moves = [] :=
  List.filterMap_eq_nil_iff.mpr fun step hstep => (quiet_of_enters (h step hstep)).2.2

theorem Pending.append {moves : List TaskStep} (hp : Pending r block steps)
    (hm : ∀ step ∈ moves, enters step = true) : Pending r block (steps ++ moves) where
  events := by rw [Steps.events_append, hp.events, (silent_of_enters hm).events, List.append_nil]
  outcomes := by rw [Steps.outcomes_append, hp.outcomes, outcomes_of_enters hm]; rfl
  slot s := by rw [Steps.slot_append, hp.slot, (silent_of_enters hm).slot]

def closing (r : RunRequest) : Except Fault Unit → List RunEvent
  | .ok () => []
  | .error fault => [.aborted r.buffer fault.message]

abbrev Telling (r : RunRequest) (found : Except Fault Probe) (result : Except Fault Unit)
    (steps : List TaskStep) : Prop :=
  Told r found (Steps.outcomes steps) (Steps.events steps ++ closing r result)

theorem outcomes_sends (events : List RunEvent) :
    Steps.outcomes (events.map fun event => .act (.send event) ()) = [] := by
  refine List.filterMap_eq_nil_iff.mpr fun step hstep => ?_
  obtain ⟨event,-,rfl⟩ := List.mem_map.mp hstep
  rfl

theorem meets_abandon_told {more : List TaskStep} {fault : Fault} (h : p.dispatched? = some (block,d))
    (hp : Pending r block steps) (hevents : Steps.events more = []) (houtcomes : Steps.outcomes more = []) :
    Meets (Tied r (.ok p)) (Telling r (.ok p)) (steps ++ more) (runBlock.abandon r block.codeLines fault) := by
  simp only [runBlock.abandon, meets_bind, meets_send, meets_pure]
  refine ⟨tied_other rfl rfl,?_⟩
  have htold : Told r (.ok p) [] _ := .lost h fault
  simpa [Telling, hp.events, hp.outcomes, hevents, houtcomes, closing, TaskStep.event?, TaskStep.outcome?] using htold

theorem meets_report_told {outcome : Outcome} (h : p.dispatched? = some (block,d))
    (hevents : Steps.events steps = shown r block) (houtcomes : Steps.outcomes steps = [outcome])
    (hanswer : outcome.isError = false → Steps.Succeeded steps) :
    Meets (Tied r (.ok p)) (Telling r (.ok p)) steps (do
      Task.setState (if outcome.isError then .error else .success)
      Task.send (.paint r.buffer block.codeLines (if outcome.isError then .error else .finished))
      Task.send (.finished r.buffer block.codeLines outcome)
      pure (.ok ())) := by
  simp only [meets_bind, meets_setState, meets_send, meets_pure]
  refine ⟨tied_other rfl rfl,tied_other rfl rfl,?_,tied_other rfl rfl,?_⟩
  · constructor
    · intro call hcall
      cases hcall
    · intro buffer lines hpaint
      cases hbad : outcome.isError with
      | true => simp [hbad, TaskStep.event?] at hpaint
      | false => exact ⟨(hanswer hbad).quiet rfl,fun s => by simp [TaskStep.stateAfter]⟩
  · cases hbad : outcome.isError with
    | true =>
      have htold := Told.failed (r := r) h hbad
      simpa [Telling, hevents, houtcomes, closing, TaskStep.event?, TaskStep.outcome?] using htold
    | false =>
      have htold := Told.succeeded (r := r) h hbad
      simpa [Telling, hevents, houtcomes, closing, TaskStep.event?, TaskStep.outcome?] using htold

theorem meets_runBlock_told (h : p.dispatched? = some (block,d)) :
    Meets (Tied r (.ok p)) (Telling r (.ok p)) [] (runBlock r block d) := by
  simp only [runBlock, meets_bind, meets_setState, meets_send]
  refine ⟨tied_other rfl rfl,tied_other rfl rfl,tied_other rfl rfl,meets_moveCursor (tied_other rfl rfl) ?_⟩
  refine ⟨tied_other rfl rfl,tied_other rfl rfl,?_⟩
  refine (?_ : ∀ steps, Pending r block steps → Meets _ _ steps (enterBuffer r)) _ ?_
  · intro steps hp
    refine (meets_enterBuffer fun _ _ _ he => tied_of_enters he).mono (fun _ _ h => h) ?_
    rintro result _ ⟨moves,rfl,hm⟩
    have hp := hp.append hm
    generalize steps ++ moves = steps at hp
    cases result with
    | error fault =>
      rw [← List.append_nil steps]
      exact meets_abandon_told h hp rfl rfl
    | ok _ =>
      simp only [meets_bind, meets_call]
      refine ⟨?_,fun result => ⟨?_,?_⟩⟩
      · constructor
        · intro call hcall
          obtain rfl : d.kernelCall r.filename block = call := by cases d <;> exact Option.some.inj hcall
          exact ⟨p,block,d,rfl,h,rfl,hp.slot⟩
        · intro buffer lines hpaint
          cases hpaint
      · cases d <;> exact tied_other rfl rfl
      cases result with
      | error fault =>
        refine meets_abandon_told h hp (d.tells_answered r.filename block _).2 ?_
        cases d <;> rfl
      | ok outcome =>
        refine meets_report_told h ?_ ?_ fun hgood => ?_
        · rw [Steps.events_append, hp.events, (d.tells_answered r.filename block _).2, List.append_nil]
        · rw [Steps.outcomes_append, hp.outcomes]
          cases d <;> rfl
        · rw [List.append_cons]
          cases d <;> exact Steps.succeeded_concat rfl rfl hgood
  · have hm := tells_sends (moved r (max r.selection.cursor (block.stop + 1)))
    have ho := outcomes_sends (moved r (max r.selection.cursor (block.stop + 1)))
    constructor
    · simp [hm.events, shown, TaskStep.event?]
    · simp [ho, TaskStep.outcome?]
    · simp [hm.slot, TaskStep.slotAfter]

theorem meets_reject_told {outcome : Outcome} (h : p.rejected? = some (block,outcome)) :
    Meets (Tied r (.ok p)) (fun _ steps => Telling r (.ok p) (.ok ()) steps) [] (reject r block outcome) := by
  have hbad : outcome.isError = true := by cases p <;> cases h <;> rfl
  simp only [reject, meets_bind, meets_setState, meets_send]
  refine ⟨tied_other rfl rfl,tied_other rfl rfl,tied_other rfl rfl,meets_moveCursor (tied_other rfl rfl) ?_⟩
  refine ⟨tied_other rfl rfl,?_⟩
  have hm := tells_sends (moved r block.start)
  have ho := outcomes_sends (moved r block.start)
  have htold := Told.rejected (r := r) h hbad
  simpa [Telling, hm.events, ho, closing, TaskStep.event?, TaskStep.outcome?] using htold

theorem meets_dispatch_told : Meets (Tied r found) (Telling r found) [] (dispatch r found) := by
  rcases found with fault | p
  · exact .unanswered fault
  · have hnothing {p : Probe} (h : p.block? = none) : Meets (Tied r (.ok p)) (Telling r (.ok p)) [] (do
        Task.send (.clearMarker r.buffer)
        pure (.ok ())) := by
      rw [meets_bind, meets_send]
      exact ⟨tied_other rfl rfl,.nothing h⟩
    cases p with
    | empty | outside => exact hnothing rfl
    | invalid block report | incomplete block =>
      rw [dispatch, meets_bind]
      exact meets_reject_told rfl
    | exhausted block | ready block expression => exact meets_runBlock_told rfl

/-- Whatever the kernel answers, a run that has found something tells of it and becomes idle. -/
theorem meets_conclude (r : RunRequest) (found : Except Fault Probe) :
    Meets (Tied r found) (fun _ steps => ∃ told, Told r found (Steps.outcomes steps) told ∧
      Steps.events steps = told ++ [.state .idle]) [] (conclude r found) := by
  rw [conclude, meets_bind]
  refine meets_dispatch_told.mono (fun _ _ h => h) ?_
  intro result steps htold
  cases result with
  | ok _ =>
    refine meets_setState.mpr ⟨tied_other rfl rfl,tied_other rfl rfl,Steps.events steps,?_,?_⟩
    · simpa [Telling, closing, TaskStep.outcome?] using htold
    · simp [TaskStep.event?]
  | error fault =>
    simp only [meets_bind, meets_send, meets_setState]
    refine ⟨tied_other rfl rfl,tied_other rfl rfl,tied_other rfl rfl,
      Steps.events steps ++ [.aborted r.buffer fault.message],?_,?_⟩
    · simpa [Telling, closing, TaskStep.outcome?] using htold
    · simp [TaskStep.event?]

/-! ## Runs that are over -/

def Probes (r : RunRequest) (requireInside : Bool) (steps : List TaskStep) (found : Except Fault Probe) : Prop :=
  ∃ probing rest, steps = probing ++ rest ∧
    Path (find r.snapshot r.filename r.selection r.mode requireInside) probing (.done found) false

theorem Dispatch.running_asked {filename : Text} (h : d.Holds filename block past) (s : Slot) :
    (Steps.slot (past ++ [.asked (d.kernelCall filename block)]) s).running = some (block.source filename) := by
  rw [Steps.slot_append]
  cases d with
  | evaluate | execute => exact h s
  | source => rfl

/-- The kernel holds the block that the probe has found, unless it is to be given the source. -/
theorem holds_of_finding {b : Buffer} {selection : LineSelection} {mode : RunMode} {inside : Option Nat}
    {filename : Text} {trials : List Trial} (h : Finding b selection mode inside trials (.ok p))
    (hd : p.dispatched? = some (block,d)) : d.Holds filename block (trials.flatMap (trialSteps filename)) := by
  cases p with
  | empty | outside | invalid _ _ | incomplete _ => cases hd
  | exhausted block' =>
    cases hd
    exact trivial
  | ready block' expression =>
    cases hd
    obtain ⟨earlier,rfl,-⟩ := h.ready.trials
    cases expression <;> exact fun s => slot_trials s rfl

theorem Dispatch.Holds.append {filename : Text} (h : d.Holds filename block probing)
    (hslot : ∀ s, Steps.slot past s = s) : d.Holds filename block (probing ++ past) := by
  cases d with
  | evaluate | execute =>
    intro s
    rw [Steps.slot_append, hslot]
    exact h s
  | source => trivial

structure Parted (r : RunRequest) (requireInside : Bool) (found kept : Except Fault Probe)
    (probing rest : List TaskStep) : Prop where
  probe : Path (find r.snapshot r.filename r.selection r.mode requireInside) probing (.done found) false
  events : Steps.events probing = []
  runs : Steps.runs probing = []
  outcomes : Steps.outcomes probing = []
  finding : Finds r.snapshot r.filename r.selection r.mode
    (if requireInside then some r.selection.cursor else none) [] found probing
  told : ∃ told, Told r kept (Steps.outcomes rest) told ∧ Steps.events rest = told ++ [.state .idle]
  tied : ∀ front step back, rest = front ++ step :: back → Tied r kept front step

theorem outcomes_trials (filename : Text) (trials : List Trial) :
    Steps.outcomes (trials.flatMap (trialSteps filename)) = [] := by
  induction trials with
  | nil => rfl
  | cons trial trials ih =>
    rw [List.flatMap_cons, Steps.outcomes_append, ih]
    rfl

/-- A run falls into its probe and what it makes of what that finds. -/
theorem exists_parted {requireInside : Bool} {keep : Except Fault Probe → Except Fault Probe}
    (hkeep : Probe.find r.snapshot r.filename r.selection r.mode r.requireInside =
      (Probe.find r.snapshot r.filename r.selection r.mode requireInside).bind fun found => .done (keep found))
    (hp : Path (run r) steps (.done ()) false) :
    ∃ found probing rest, steps = probing ++ rest ∧ Parted r requireInside found (keep found) probing rest := by
  rw [run_eq, hkeep, bind_bind] at hp
  obtain ⟨found,probing,rest,rfl,hprobe,hrest⟩ := hp.done_bind
  have hc : Compiles (fun _ _ => True) r.filename [] := fun _ _ _ => ⟨trivial,trivial⟩
  obtain ⟨trials,hsteps,hfinding⟩ : Finds _ _ _ _ _ _ found probing :=
    hprobe.meetsAt (meets_find requireInside hc)
  obtain rfl : probing = trials.flatMap (trialSteps r.filename) := hsteps
  have hprobed := probed_trials r.filename trials
  have hconclude := meets_conclude r (keep found)
  refine ⟨found,_,rest,rfl,hprobe,hprobed.events,hprobed.runs,outcomes_trials r.filename trials,
    ⟨trials,rfl,hfinding⟩,hrest.meetsAt hconclude,?_⟩
  intro front step back he
  exact hrest.allowed_step hconclude he

section Parted
variable {requireInside : Bool} {kept : Except Fault Probe}

theorem Parted.holds (h : Parted r requireInside (.ok p) kept probing rest) (hd : p.dispatched? = some (block,d)) :
    d.Holds r.filename block probing := by
  obtain ⟨trials,rfl,hfinding⟩ := h.finding
  exact holds_of_finding hfinding hd

theorem Parted.whole (h : Parted r requireInside found kept probing rest) :
    ∃ told, Told r kept (Steps.outcomes (probing ++ rest)) told ∧
      Steps.events (probing ++ rest) = told ++ [.state .idle] := by
  obtain ⟨told,htold,he⟩ := h.told
  refine ⟨told,?_,?_⟩
  · rwa [Steps.outcomes_append, h.outcomes, List.nil_append]
  · rw [Steps.events_append, h.events, he, List.nil_append]

/-- A step that does something the probe never does comes after the probe. -/
theorem Parted.tied_of_split (h : Parted r requireInside found kept probing rest) {front back : List TaskStep}
    {step : TaskStep} (he : probing ++ rest = front ++ step :: back) (hstep : step.event? ≠ none ∨ step.run? ≠ none) :
    ∃ past, front = probing ++ past ∧ Tied r kept past step := by
  rcases append_eq_append_cons he with ⟨between,rfl,-⟩ | ⟨past,rfl,hrest⟩
  · have hevents := h.events
    have hruns := h.runs
    simp only [Steps.events_append, Steps.events_cons, Steps.runs_append, Steps.runs_cons, List.append_eq_nil_iff,
      Option.toList_eq_nil_iff] at hevents hruns
    exact hstep.elim (absurd hevents.2.1) (absurd hruns.2.1)
  · exact ⟨past,rfl,h.tied past step back hrest⟩

end Parted

/-- What a run has told so far belongs to what it tells of what its probe finds. -/
theorem told_of_path {u : Task Unit} {waiting : Bool} (hp : Path (run r) steps u waiting) :
    ∃ found probing rest outcomes told, Parted r r.requireInside found found probing rest ∧
      Told r found outcomes told ∧ ∀ event ∈ Steps.events steps, event ∈ told ∨ event = .state .idle := by
  -- What a run that is under way has told is the beginning of what it tells once it is over.
  obtain ⟨more,value,hwhole⟩ := hp.completes
  obtain ⟨found,probing,rest,he,hparted⟩ := exists_parted (bind_done _).symm hwhole
  obtain ⟨told,htold,hevents⟩ := hparted.whole
  refine ⟨found,probing,rest,_,told,hparted,htold,fun event hm => ?_⟩
  rw [← he, Steps.events_append] at hevents
  have htell : event ∈ told ++ [.state .idle] := hevents ▸ List.mem_append_left _ hm
  simpa using htell

end Job
end StatementPad
