import StatementPad.Run.Job
import StatementPad.Proofs.Probe
import StatementPad.Proofs.Run.Steps

/-! # What a run does

Whatever the kernel answers, each step of a run is a legal one, and what it runs is what was compiled before.
A run that is over has run one block, or has told why not.
-/
namespace StatementPad.Job
open StatementPad.Task Probe
variable {r : RunRequest} {past : List TaskStep}

/-- Changes of the state are legal and reported as they are. Nothing but a report follows the return to the
idle state. -/
def Orderly (past : List TaskStep) : TaskStep → Prop
  | .act (.advance next) _ =>
    Steps.state past .probing ≠ .idle ∧ (Steps.state past .probing).canBecome next = true
  | .act (.send event) _ => ∀ s, event = .state s → Steps.state past .probing = s
  | .act .tryBegin _ | .act (.spawn _) _ => False
  | .act .lastEntered _ | .act (.enter _) _ | .asked _ | .answered _ _ => Steps.state past .probing ≠ .idle

/-- The block that is shown as being run, and what the kernel said about it and its beginnings. -/
structure Judged (r : RunRequest) (past : List TaskStep) (block : CodeBlock) (verdict : Verdict) : Prop where
  snapshot : block = .ofBuffer r.snapshot block.start block.stop
  first : Steps.runs past = []
  painted : Steps.painted past = [block.codeLines]
  verdicts : ∃ earlier, Steps.verdicts past = earlier ++ [.ok verdict] ∧ (∀ v ∈ earlier, v = .ok .incomplete) ∧
    (takesCell r.snapshot r.selection r.mode = true → earlier = [])

/-- A run calls the kernel to run what compiled last. Source that is run as it stands is all that there was. -/
def Faithful (r : RunRequest) (past : List TaskStep) : TaskStep → Prop
  | .asked .evaluate => ∃ block, Judged r past block .expression ∧
      ∀ s, (Steps.slot past s).compiled = some (block.source r.filename)
  | .asked .execute => ∃ block, Judged r past block .statements ∧
      ∀ s, (Steps.slot past s).compiled = some (block.source r.filename)
  | .asked (.executeSource offset filename source) => ∃ block, Judged r past block .incomplete ∧
      takesCell r.snapshot r.selection r.mode = false ∧ block.source r.filename = ⟨offset,filename,source⟩
  | _ => True

/-- Whatever a run calls the kernel to run has been judged, and nothing that was judged forbids it. -/
theorem Faithful.judged {step : TaskStep} (h : Faithful r past step) (hrun : step.run? ≠ none) :
    ∃ block verdict, Judged r past block verdict ∧ (∀ report, verdict ≠ .syntaxError report) ∧
      (verdict = .incomplete → takesCell r.snapshot r.selection r.mode = false) := by
  cases step with
  | act action answer | answered call answer => exact absurd rfl hrun
  | asked call =>
    cases call with
    | compile offset filename source | setWorkingDir path => exact absurd rfl hrun
    | evaluate | execute =>
      obtain ⟨block,hj,-⟩ := h
      exact ⟨block,_,hj,by simp,by simp⟩
    | executeSource offset filename source =>
      obtain ⟨block,hj,hcell,-⟩ := h
      exact ⟨block,_,hj,by simp,fun _ => hcell⟩

theorem Judged.verdict_eq {block : CodeBlock} {verdict : Verdict} {v : Except Fault Verdict}
    (hj : Judged r past block verdict) (hv : v ∈ Steps.verdicts past) :
    v = .ok verdict ∨ v = .ok .incomplete ∧ takesCell r.snapshot r.selection r.mode = false := by
  obtain ⟨earlier,hverdicts,hearlier,hcell⟩ := hj.verdicts
  rw [hverdicts, List.mem_append, List.mem_singleton] at hv
  rcases hv with hv | hv
  · refine .inr ⟨hearlier v hv,?_⟩
    by_contra hc
    rw [hcell (by simpa using hc)] at hv
    cases hv
  · exact .inl hv

def Lawful (r : RunRequest) (past : List TaskStep) (step : TaskStep) : Prop := Orderly past step ∧ Faithful r past step

/-! ## Steps that only report -/

structure Tells (events : List RunEvent) (steps : List TaskStep) : Prop where
  events : Steps.events steps = events
  state : ∀ s, Steps.state steps s = s
  verdicts : Steps.verdicts steps = []
  runs : Steps.runs steps = []
  slot : ∀ s, Steps.slot steps s = s
  ran : ∀ s, Steps.ran steps s = []

abbrev Silent (steps : List TaskStep) : Prop := Tells [] steps

theorem Tells.append {events moreEvents : List RunEvent} {steps more : List TaskStep} (hs : Tells events steps)
    (hm : Tells moreEvents more) : Tells (events ++ moreEvents) (steps ++ more) where
  events := by rw [Steps.events_append, hs.events, hm.events]
  state s := by rw [Steps.state_append, hs.state, hm.state]
  verdicts := by rw [Steps.verdicts_append, hs.verdicts, hm.verdicts]; rfl
  runs := by rw [Steps.runs_append, hs.runs, hm.runs]; rfl
  slot s := by rw [Steps.slot_append, hs.slot, hm.slot]
  ran s := by rw [Steps.ran_append, hs.ran, hm.ran]; rfl

theorem tells_sends (events : List RunEvent) : Tells events (events.map fun event => .act (.send event) ()) := by
  induction events with
  | nil => exact ⟨rfl,fun _ => rfl,rfl,rfl,fun _ => rfl,fun _ => rfl⟩
  | cons event events ih => exact (⟨rfl,fun _ => rfl,rfl,rfl,fun _ => rfl,fun _ => rfl⟩ : Tells [event] [_]).append ih

def enters : TaskStep → Bool
  | .act .lastEntered _ | .act (.enter _) _ | .asked (.setWorkingDir _) | .answered (.setWorkingDir _) _ => true
  | _ => false

theorem silent_of_enters {moves : List TaskStep} (h : ∀ step ∈ moves, enters step = true) : Silent moves := by
  induction moves with
  | nil => exact ⟨rfl,fun _ => rfl,rfl,rfl,fun _ => rfl,fun _ => rfl⟩
  | cons step moves ih =>
    obtain ⟨hstep,hmoves⟩ := List.forall_mem_cons.mp h
    refine (?_ : Silent [step]).append (ih hmoves)
    cases step with
    | act action answer =>
      cases action <;> first | exact ⟨rfl,fun _ => rfl,rfl,rfl,fun _ => rfl,fun _ => rfl⟩ | cases hstep
    | asked call | answered call answer =>
      cases call <;> first | exact ⟨rfl,fun _ => rfl,rfl,rfl,fun _ => rfl,fun _ => rfl⟩ | cases hstep

/-- Whatever else is allowed, a buffer is entered by nothing but the steps for it. -/
theorem meets_enterBuffer {allowed : List TaskStep → TaskStep → Prop}
    (ha : ∀ moves step, (∀ move ∈ moves, enters move = true) → enters step = true → allowed (past ++ moves) step) :
    Meets allowed (fun _ steps => ∃ moves, steps = past ++ moves ∧ ∀ move ∈ moves, enters move = true) past
      (enterBuffer r) := by
  have henter {moves : List TaskStep} (hm : ∀ move ∈ moves, enters move = true) :
      Meets allowed (fun _ steps => ∃ moves, steps = past ++ moves ∧ ∀ move ∈ moves, enters move = true)
        (past ++ moves) (enterBuffer.enter r) := by
    simp only [enterBuffer.enter, meets_bind, meets_enter, meets_pure]
    exact ⟨ha moves _ hm rfl,_,List.append_assoc ..,List.forall_mem_append.mpr ⟨hm,by simp [enters]⟩⟩
  simp only [enterBuffer, meets_bind, meets_lastEntered]
  intro entered
  have hl : ∀ move ∈ [TaskStep.act .lastEntered entered], enters move = true := by simp [enters]
  refine ⟨by simpa using ha [] (.act .lastEntered entered) (by simp) rfl,?_⟩
  split
  · exact ⟨_,rfl,hl⟩
  · split
    · exact henter hl
    next dir _ =>
      simp only [meets_bind, meets_setWorkingDir]
      refine ⟨ha _ _ hl rfl,fun moved => ⟨?_,?_⟩⟩
      · rw [List.append_assoc]
        exact ha _ _ (by simp [enters]) rfl
      rw [List.append_assoc]
      cases moved with
      | ok _ => exact henter (by simp [enters])
      | error fault =>
        dsimp only
        split
        · exact meets_pure.mpr ⟨_,rfl,by simp [enters]⟩
        · exact henter (by simp [enters])

theorem lawful_of_enters {step : TaskStep} (hbusy : Steps.state past .probing ≠ .idle) (h : enters step = true) :
    Lawful r past step := by
  cases step with
  | act action answer => cases action <;> first | exact ⟨hbusy,trivial⟩ | cases h
  | asked call | answered call answer => cases call <;> first | exact ⟨hbusy,trivial⟩ | cases h

/-! ## Running a block -/

def Dispatch.kernelCall (filename : Text) (block : CodeBlock) : Dispatch → KernelCall
  | evaluate => .evaluate
  | execute => .execute
  | source => .executeSource block.start filename block.text

def Dispatch.answered (filename : Text) (block : CodeBlock) (result : Except Fault Outcome) : Dispatch → TaskStep
  | evaluate => .answered .evaluate result
  | execute => .answered .execute result
  | source => .answered (.executeSource block.start filename block.text) result

theorem meets_call {allowed : List TaskStep → TaskStep → Prop} {filename : Text} {block : CodeBlock}
    {d : Dispatch} {post : Except Fault Outcome → List TaskStep → Prop} :
    Meets allowed post past (d.call filename block) ↔ allowed past (.asked (d.kernelCall filename block)) ∧
      ∀ result, allowed (past ++ [.asked (d.kernelCall filename block)]) (d.answered filename block result) ∧
        post result (past ++ [.asked (d.kernelCall filename block), d.answered filename block result]) := by
  cases d <;> exact Iff.rfl

/-- How the kernel comes to run the block: it holds the block, or is given it. -/
def Dispatch.Holds (filename : Text) (block : CodeBlock) (steps : List TaskStep) : Dispatch → Prop
  | evaluate | execute => ∀ s, (Steps.slot steps s).compiled = some (block.source filename)
  | source => True

theorem Dispatch.ran_answered {filename : Text} {block : CodeBlock} {d : Dispatch} {outcome : Outcome}
    (h : d.Holds filename block past) (s : Slot) :
    Steps.ran [.asked (d.kernelCall filename block), d.answered filename block (.ok outcome)] (Steps.slot past s) =
      [(block.source filename,outcome)] := by
  have hrun : ((TaskStep.asked (d.kernelCall filename block)).slotAfter (Steps.slot past s)).running =
      some (block.source filename) := by
    cases d with
    | evaluate | execute => exact h s
    | source => rfl
  cases d <;> simpa [TaskStep.ran?, answered, kernelCall, TaskStep.outcome?] using hrun

def moved (r : RunRequest) (line : Nat) : List RunEvent := if r.advance then [.moveCursor r.buffer line] else []

theorem meets_moveCursor {allowed : List TaskStep → TaskStep → Prop} {line : Nat}
    {post : Unit → List TaskStep → Prop} (ha : allowed past (.act (.send (.moveCursor r.buffer line)) ()))
    (hpost : post () (past ++ (moved r line).map fun event => .act (.send event) ())) :
    Meets allowed post past (moveCursor r line) := by
  unfold moveCursor
  rw [moved] at hpost
  split at hpost
  next hr => rw [if_pos hr]; exact meets_send.mpr ⟨ha,hpost⟩
  next hr => rw [if_neg hr]; simpa using hpost

structure Probed (past : List TaskStep) (trials : List Trial) : Prop where
  state : ∀ s, Steps.state past s = s
  events : Steps.events past = []
  runs : Steps.runs past = []
  verdicts : Steps.verdicts past = trials.map Prod.snd
  ran : ∀ s, Steps.ran past s = []

theorem probed_trials (filename : Text) (trials : List Trial) :
    Probed (trials.flatMap (trialSteps filename)) trials := by
  induction trials with
  | nil => exact ⟨fun _ => rfl,rfl,rfl,rfl,fun _ => rfl⟩
  | cons trial trials ih =>
    rw [List.flatMap_cons]
    exact ⟨ih.state,ih.events,ih.runs,by rw [Steps.verdicts_append, ih.verdicts]; rfl,
      fun s => by rw [Steps.ran_append, ih.ran]; rfl⟩

theorem slot_trials {filename : Text} {earlier : List Trial} {block : CodeBlock} {verdict : Verdict} (s : Slot)
    (h : verdict.isComplete = true) :
    (Steps.slot ((earlier ++ [(block,Except.ok verdict)]).flatMap (trialSteps filename)) s).compiled =
      some (block.source filename) := by
  rw [List.flatMap_append, Steps.slot_append]
  cases verdict with
  | expression | statements => rfl
  | incomplete | syntaxError => cases h

def Dispatch.Due (r : RunRequest) (past : List TaskStep) (block : CodeBlock) (d : Dispatch) : Prop :=
  ∀ steps, Steps.runs steps = [] → Steps.painted steps = [block.codeLines] →
    Steps.verdicts steps = Steps.verdicts past → (∀ s, Steps.slot steps s = Steps.slot past s) →
      Faithful r steps (.asked (d.kernelCall r.filename block)) ∧ d.Holds r.filename block steps

inductive Answered (r : RunRequest) (block : CodeBlock) : Except Fault Unit → List TaskStep → Prop where
  | ok {steps : List TaskStep} {s : RunState} (marker : MarkerState) (outcome : Outcome)
      (hstate : Steps.state steps .probing = s) (hs : s ≠ .idle ∧ s.canBecome .idle = true)
      (hran : ∀ s, Steps.ran steps s = [(block.source r.filename,outcome)])
      (hevents : Steps.events steps = [.state .resolved, .paint r.buffer block.codeLines .active] ++
        moved r (max r.selection.cursor (block.stop + 1)) ++ [.state .running, .state s,
          .paint r.buffer block.codeLines marker, .finished r.buffer block.codeLines outcome]) :
      Answered r block (.ok ()) steps
  | error {steps : List TaskStep} {fault : Fault} (hstate : Steps.state steps .probing = .running)
      (hevents : Steps.events steps = [.state .resolved, .paint r.buffer block.codeLines .active] ++
        moved r (max r.selection.cursor (block.stop + 1)) ++ [.state .running,
          .paint r.buffer block.codeLines .error]) :
      Answered r block (.error fault) steps

structure Shown (r : RunRequest) (past : List TaskStep) (block : CodeBlock) (steps : List TaskStep) : Prop where
  state : Steps.state steps .probing = .running
  events : Steps.events steps = [.state .resolved, .paint r.buffer block.codeLines .active] ++
    moved r (max r.selection.cursor (block.stop + 1)) ++ [.state .running]
  runs : Steps.runs steps = []
  verdicts : Steps.verdicts steps = Steps.verdicts past
  slot : ∀ s, Steps.slot steps s = Steps.slot past s
  ran : ∀ s, Steps.ran steps s = []

theorem Shown.append {block : CodeBlock} {steps more : List TaskStep} (hs : Shown r past block steps)
    (hm : Silent more) : Shown r past block (steps ++ more) where
  state := by rw [Steps.state_append, hs.state, hm.state]
  events := by rw [Steps.events_append, hs.events, hm.events, List.append_nil]
  runs := by rw [Steps.runs_append, hs.runs, hm.runs]; rfl
  verdicts := by rw [Steps.verdicts_append, hs.verdicts, hm.verdicts, List.append_nil]
  slot s := by rw [Steps.slot_append, hs.slot, hm.slot]
  ran s := by rw [Steps.ran_append, hs.ran, hm.ran]; rfl

theorem Shown.painted {block : CodeBlock} {steps : List TaskStep} (hs : Shown r past block steps) :
    Steps.painted steps = [block.codeLines] := by
  rw [Steps.painted, hs.events]
  unfold moved
  split <;> simp

theorem meets_abandon {block : CodeBlock} {steps : List TaskStep} {fault : Fault} (more : List TaskStep)
    (hs : Shown r past block steps) (hstate : ∀ s, Steps.state more s = s) (hevents : Steps.events more = []) :
    Meets (Lawful r) (Answered r block) (steps ++ more) (runBlock.abandon r block.codeLines fault) := by
  simp only [runBlock.abandon, meets_bind, meets_send, meets_pure]
  refine ⟨⟨by simp [Orderly],trivial⟩,.error ?_ ?_⟩
  · simp [hs.state, hstate, TaskStep.stateAfter]
  · simp [hs.events, hevents, TaskStep.event?]

theorem Dispatch.tells_answered (filename : Text) (block : CodeBlock) (d : Dispatch) (result : Except Fault Outcome) :
    (∀ s, Steps.state [.asked (d.kernelCall filename block), d.answered filename block result] s = s) ∧
      Steps.events [.asked (d.kernelCall filename block), d.answered filename block result] = [] := by
  cases d <;> exact ⟨fun _ => rfl,rfl⟩

/-- What a run tells of an outcome. -/
theorem meets_report {block : CodeBlock} {steps more : List TaskStep} {outcome : Outcome}
    (hs : Shown r past block steps) (hstate : ∀ s, Steps.state more s = s) (hevents : Steps.events more = [])
    (hran : ∀ s, Steps.ran more (Steps.slot steps s) = [(block.source r.filename,outcome)]) :
    Meets (Lawful r) (Answered r block) (steps ++ more) (do
      Task.setState (if outcome.isError then .error else .success)
      Task.send (.paint r.buffer block.codeLines (if outcome.isError then .error else .finished))
      Task.send (.finished r.buffer block.codeLines outcome)
      pure (.ok ())) := by
  have hlegal : (if outcome.isError then RunState.error else .success) ≠ .idle ∧
      RunState.running.canBecome (if outcome.isError then .error else .success) = true ∧
      (if outcome.isError then RunState.error else .success).canBecome .idle = true := by
    split <;> decide
  simp only [meets_bind, meets_setState, meets_send, meets_pure]
  refine ⟨?_,?_,?_,?_,.ok (if outcome.isError then .error else .finished) outcome rfl ?_ (fun s => ?_) ?_⟩
  · rw [Lawful, Orderly, Steps.state_append, hs.state, hstate]
    exact ⟨⟨by decide,hlegal.2.1⟩,trivial⟩
  · exact ⟨by simp [Orderly, TaskStep.stateAfter],trivial⟩
  · exact ⟨by simp [Orderly],trivial⟩
  · exact ⟨by simp [Orderly],trivial⟩
  · simpa [TaskStep.stateAfter] using ⟨hlegal.1,hlegal.2.2⟩
  · simp only [Steps.ran_append, hs.ran, hran]
    simp [TaskStep.ran?, TaskStep.outcome?]
  · simp only [Steps.events_append, hs.events, hevents]
    simp [TaskStep.event?, hs.state, TaskStep.stateAfter]

theorem meets_runBlock {trials : List Trial} {block : CodeBlock} {d : Dispatch}
    (hp : Probed past trials) (hd : d.Due r past block) :
    Meets (Lawful r) (Answered r block) past (runBlock r block d) := by
  simp only [runBlock, meets_bind, meets_setState, meets_send]
  refine ⟨?_,?_,?_,?_⟩
  · exact ⟨⟨by simp [hp.state],by simp [hp.state]; decide⟩,trivial⟩
  · exact ⟨by simp [hp.state, Orderly, TaskStep.stateAfter],trivial⟩
  · exact ⟨by simp [hp.state, Orderly, TaskStep.stateAfter],trivial⟩
  refine meets_moveCursor ⟨by simp [Orderly],trivial⟩ ?_
  have hm := tells_sends (moved r (max r.selection.cursor (block.stop + 1)))
  generalize (moved r (max r.selection.cursor (block.stop + 1))).map
    (fun event => TaskStep.act (.send event) ()) = moves at hm ⊢
  refine ⟨?_,?_,?_⟩
  · refine ⟨⟨by simp [hp.state, hm.state, TaskStep.stateAfter],?_⟩,trivial⟩
    simp [hp.state, hm.state, TaskStep.stateAfter]
    decide
  · exact ⟨by simp [Orderly, TaskStep.stateAfter],trivial⟩
  refine (?_ : ∀ steps, Shown r past block steps → Meets (Lawful r) _ steps (enterBuffer r)) _ ?_
  · intro steps hs
    refine (meets_enterBuffer fun moves step hm he => lawful_of_enters ?_ he).mono (fun _ _ h => h) ?_
    · simp [hs.state, (silent_of_enters hm).state]
    rintro result _ ⟨more,rfl,hq⟩
    have hs := hs.append (silent_of_enters hq)
    generalize steps ++ more = steps at hs
    cases result with
    | error fault => simpa using meets_abandon [] hs (fun _ => rfl) rfl
    | ok _ =>
      obtain ⟨hfaithful,hholds⟩ := hd _ hs.runs hs.painted hs.verdicts hs.slot
      simp only [meets_bind, meets_call]
      refine ⟨⟨by simp [hs.state, Orderly],hfaithful⟩,fun result => ⟨⟨?_,?_⟩,?_⟩⟩
      · cases d <;> simp [hs.state, Orderly, Dispatch.answered, TaskStep.stateAfter]
      · cases d <;> exact trivial
      obtain ⟨ha,he⟩ := d.tells_answered r.filename block result
      cases result with
      | error fault => exact meets_abandon _ hs ha he
      | ok outcome =>
        exact meets_report hs ha he (Dispatch.ran_answered hholds)
  · refine ⟨?_,?_,?_,?_,?_,?_⟩
    · simp [TaskStep.stateAfter]
    · simp [hp.events, hm.events, TaskStep.event?]
    · simp [hp.runs, hm.runs, TaskStep.run?]
    · simp [hm.verdicts, TaskStep.verdict?]
    · simp [hm.slot, TaskStep.slotAfter]
    · simp [hp.ran, hm.ran, TaskStep.ran?, TaskStep.outcome?]

section Due
variable {trials : List Trial} {block : CodeBlock}

theorem judged_of_reached {verdict : Verdict} {steps : List TaskStep} (hp : Probed past trials)
    (hr : Reached r.snapshot r.selection r.mode trials block verdict) (hruns : Steps.runs steps = [])
    (hpainted : Steps.painted steps = [block.codeLines]) (hverdicts : Steps.verdicts steps = Steps.verdicts past) :
    Judged r steps block verdict := by
  obtain ⟨earlier,rfl,hearlier,hcell⟩ := hr.trials
  refine ⟨hr.snapshot,hruns,hpainted,earlier.map Prod.snd,?_,?_,fun hc => by rw [hcell hc]; rfl⟩
  · rw [hverdicts, hp.verdicts, List.map_append]
    rfl
  · rintro v hv
    obtain ⟨trial,ht,rfl⟩ := List.mem_map.mp hv
    exact hearlier trial ht

theorem due_ready {expression : Bool} (hp : Probed (trials.flatMap (trialSteps r.filename)) trials)
    (hr : Reached r.snapshot r.selection r.mode trials block (if expression then .expression else .statements)) :
    Dispatch.Due r (trials.flatMap (trialSteps r.filename)) block (if expression then .evaluate else .execute) := by
  intro steps hruns hpainted hverdicts hslot
  have hj := judged_of_reached hp hr hruns hpainted hverdicts
  have hcompiled (s : Slot) : (Steps.slot steps s).compiled = some (block.source r.filename) := by
    obtain ⟨earlier,rfl,-⟩ := hr.trials
    rw [hslot, slot_trials s (by split <;> rfl)]
  cases expression with
  | true | false => exact ⟨⟨block,hj,hcompiled⟩,hcompiled⟩

theorem due_exhausted (hp : Probed past trials) (hcell : takesCell r.snapshot r.selection r.mode = false)
    (hr : Reached r.snapshot r.selection r.mode trials block .incomplete) : Dispatch.Due r past block .source :=
  fun _ hruns hpainted hverdicts _ => ⟨⟨block,judged_of_reached hp hr hruns hpainted hverdicts,hcell,rfl⟩,trivial⟩

end Due

/-! ## The whole run -/

inductive Ended (r : RunRequest) (steps : List TaskStep) : Prop where
  | nothing {trials : List Trial} {found : Probe} (hfound : found = .empty ∨ found = .outside)
      (hfinding : Finding r.snapshot r.selection r.mode
        (if r.requireInside then some r.selection.cursor else none) trials (.ok found))
      (hran : ∀ s, Steps.ran steps s = [])
      (hevents : Steps.events steps = [.clearMarker r.buffer, .state .idle])
  | rejected (block : CodeBlock) {outcome : Outcome} (hbad : outcome.isError = true)
      (hevents : Steps.events steps = [.state .failed, .paint r.buffer block.codeLines .error] ++
        moved r block.start ++ [.finished r.buffer block.codeLines outcome, .state .idle])
  | ran {trials : List Trial} {block : CodeBlock} {verdict : Verdict} {s : RunState} (marker : MarkerState)
      (outcome : Outcome) (hreached : Reached r.snapshot r.selection r.mode trials block verdict)
      (hran : ∀ s, Steps.ran steps s = [(block.source r.filename,outcome)]) (hs : s ≠ .idle)
      (hevents : Steps.events steps = [.state .resolved, .paint r.buffer block.codeLines .active] ++
        moved r (max r.selection.cursor (block.stop + 1)) ++ [.state .running, .state s,
          .paint r.buffer block.codeLines marker, .finished r.buffer block.codeLines outcome, .state .idle])
  | aborted (events : List RunEvent) (reason : Text) (hidle : .state .idle ∉ events)
      (hevents : Steps.events steps = events ++ [.aborted r.buffer reason, .state .idle])

def Finished (r : RunRequest) (steps : List TaskStep) : Prop := Steps.state steps .probing = .idle ∧ Ended r steps

theorem state_idle_not_mem_moved (r : RunRequest) (line : Nat) : .state .idle ∉ moved r line := by
  unfold moved
  split <;> simp

theorem meets_release {steps : List TaskStep} (hs : (Steps.state steps .probing) ≠ .idle)
    (hlegal : (Steps.state steps .probing).canBecome .idle = true)
    (hend : Ended r (steps ++ stateSteps .idle)) :
    Meets (Lawful r) (fun _ steps => Finished r steps) steps (Task.setState .idle) := by
  rw [meets_setState]
  refine ⟨⟨⟨hs,hlegal⟩,trivial⟩,⟨by simp [Orderly, TaskStep.stateAfter],trivial⟩,?_,hend⟩
  simp [TaskStep.stateAfter]

/-- What the dispatch of a probe leaves to do: to report the fault, if there is one, and to become idle. -/
structure Left (r : RunRequest) (result : Except Fault Unit) (steps : List TaskStep) : Prop where
  busy : Steps.state steps .probing ≠ .idle
  legal : (Steps.state steps .probing).canBecome .idle = true
  ended : Ended r <| match result with
    | .ok () => steps ++ stateSteps .idle
    | .error fault => steps ++ [.act (.send (.aborted r.buffer fault.message)) ()] ++ stateSteps .idle

theorem left_of_answered {trials : List Trial} {block : CodeBlock} {verdict : Verdict} {result : Except Fault Unit}
    {steps : List TaskStep} (hr : Reached r.snapshot r.selection r.mode trials block verdict)
    (h : Answered r block result steps) : Left r result steps := by
  cases h with
  | ok marker outcome hstate hs hran hevents =>
    refine ⟨by rw [hstate]; exact hs.1,by rw [hstate]; exact hs.2,.ran marker outcome hr (fun s => ?_) hs.1 ?_⟩
    · simp [hran, TaskStep.ran?, TaskStep.outcome?]
    · simp [hevents, TaskStep.event?]
  | @error _ fault hstate hevents =>
    refine ⟨by rw [hstate]; decide,by rw [hstate]; decide,.aborted (Steps.events steps) fault.message ?_ ?_⟩
    · simp [hevents, state_idle_not_mem_moved]
    · simp [TaskStep.event?]

theorem meets_reject {block : CodeBlock} {outcome : Outcome} (hstate : Steps.state past .probing = .probing)
    (hevents : Steps.events past = []) (hbad : outcome.isError = true) :
    Meets (Lawful r) (fun _ steps => Left r (.ok ()) steps) past (reject r block outcome) := by
  simp only [reject, meets_bind, meets_setState, meets_send]
  refine ⟨⟨⟨by simp [hstate],by simp [hstate]; decide⟩,trivial⟩,⟨by simp [Orderly, TaskStep.stateAfter],trivial⟩,
    ⟨by simp [Orderly],trivial⟩,?_⟩
  refine meets_moveCursor ⟨by simp [Orderly],trivial⟩ ?_
  have hm := tells_sends (moved r block.start)
  generalize (moved r block.start).map (fun event => TaskStep.act (.send event) ()) = moves at hm ⊢
  refine ⟨⟨by simp [Orderly],trivial⟩,?_,?_,.rejected block hbad ?_⟩
  · simp [hm.state, TaskStep.stateAfter]
  · simp [hm.state, TaskStep.stateAfter]
    decide
  · simp [hevents, hm.events, TaskStep.event?]

theorem meets_dispatch {trials : List Trial} {found : Except Fault Probe}
    (hfinding : Finding r.snapshot r.selection r.mode (if r.requireInside then some r.selection.cursor else none)
      trials found) :
    Meets (Lawful r) (Left r) (trials.flatMap (trialSteps r.filename)) (dispatch r found) := by
  have hp := probed_trials r.filename trials
  rcases found with fault | found
  · refine meets_pure.mpr ⟨by simp [hp.state],by simp [hp.state]; decide,.aborted [] fault.message List.not_mem_nil ?_⟩
    simp [hp.events, TaskStep.event?]
  · have hnothing {found : Probe} (hf : found = .empty ∨ found = .outside)
        (hfinding : Finding r.snapshot r.selection r.mode (if r.requireInside then some r.selection.cursor else none)
          trials (.ok found)) :
        Meets (Lawful r) (Left r) (trials.flatMap (trialSteps r.filename)) (do
          Task.send (.clearMarker r.buffer)
          pure (.ok ())) := by
      rw [meets_bind, meets_send]
      refine ⟨⟨by simp [Orderly],trivial⟩,by simp [hp.state, TaskStep.stateAfter],?_,.nothing hf hfinding ?_ ?_⟩
      · simp [hp.state, TaskStep.stateAfter]
        decide
      · simp [hp.ran, TaskStep.ran?, TaskStep.outcome?]
      · simp [hp.events, TaskStep.event?]
    cases found with
    | empty => exact hnothing (.inl rfl) hfinding
    | outside => exact hnothing (.inr rfl) hfinding
    | invalid block report =>
      rw [dispatch, meets_bind]
      exact meets_reject (hp.state _) hp.events rfl
    | incomplete block =>
      rw [dispatch, meets_bind]
      exact meets_reject (hp.state _) hp.events rfl
    | exhausted block =>
      obtain ⟨hcell,hr⟩ := hfinding.exhausted
      exact (meets_runBlock hp (due_exhausted hp hcell hr)).mono (fun _ _ h => h) (fun _ _ => left_of_answered hr)
    | ready block expression =>
      have hr := hfinding.ready
      exact (meets_runBlock hp (due_ready hp hr)).mono (fun _ _ h => h) (fun _ _ => left_of_answered hr)

/-- Whatever the kernel answers, each step of a run is lawful, and the run ends in the idle state. -/
theorem meets_run (r : RunRequest) : Meets (Lawful r) (fun _ steps => Finished r steps) [] (run r) := by
  have hcompiles : Compiles (Lawful r) r.filename [] := by
    intro trials block verdict
    have hp := probed_trials r.filename trials
    exact ⟨⟨by simp [Orderly, hp.state],trivial⟩,⟨by simp [Orderly, hp.state, TaskStep.stateAfter],trivial⟩⟩
  rw [run, meets_bind]
  refine (meets_find r.requireInside hcompiles).mono (fun _ _ h => h) ?_
  rintro found _ ⟨trials,rfl,hfinding⟩
  rw [List.nil_append, meets_bind]
  refine (meets_dispatch hfinding).mono (fun _ _ h => h) ?_
  intro result steps hl
  cases result with
  | ok _ => exact meets_release hl.busy hl.legal hl.ended
  | error fault =>
    dsimp only
    rw [meets_bind, meets_send]
    exact ⟨⟨by simp [Orderly],trivial⟩,meets_release (by simpa [TaskStep.stateAfter] using hl.busy)
      (by simpa [TaskStep.stateAfter] using hl.legal) hl.ended⟩

/-! ## Runs that are under way -/

theorem trigger_eq (r : RunRequest) : trigger r = .act .tryBegin fun accepted =>
    if accepted then .act (.send (.state .probing)) fun _ => .act (.spawn r) fun _ => .done true
    else .done false := rfl

variable {steps : List TaskStep} {u : Task Unit} {waiting : Bool}

theorem lawful_of_path (hp : Path (run r) steps u waiting) {before after : List TaskStep} {step : TaskStep}
    (he : steps = before ++ step :: after) : Lawful r before step :=
  hp.allowed_step (meets_run r) he

theorem busy_of_waiting (hp : Path (run r) steps u true) : Steps.state steps .probing ≠ .idle := by
  obtain ⟨c,next,earlier,-,rfl⟩ := hp.call_of_waiting
  rw [Steps.state_append]
  exact (lawful_of_path hp rfl).1

theorem finished_of_path (hp : Path (run r) steps (.done ()) waiting) : Finished r steps := by
  have hm := hp.meetsAt (meets_run r)
  cases waiting with
  | false => exact hm
  | true => exact absurd hp.call_of_waiting (by simp)

theorem idle_iff_of_orderly
    (h : ∀ before step after, steps = before ++ step :: after → Orderly before step) :
    Steps.state steps .probing = .idle ↔ .act (.advance .idle) () ∈ steps := by
  induction steps using List.reverseRecOn with
  | nil => simp
  | append_singleton steps step ih =>
    have hstep := h steps step [] rfl
    have hiff := ih (fun before step' after he => h before step' (after ++ [step]) (by simp [he]))
    rw [Steps.state_append, List.mem_append, ← hiff]
    cases step with
    | asked call | answered call answer => simp [TaskStep.stateAfter]
    | act action answer =>
      cases action with
      | advance next =>
        have hbusy : Steps.state steps .probing ≠ .idle := hstep.1
        simp [TaskStep.stateAfter, hbusy, eq_comm]
      | tryBegin | send _ | spawn _ | lastEntered | enter _ => simp [TaskStep.stateAfter]

theorem idle_iff_of_path (hp : Path (run r) steps u waiting) :
    Steps.state steps .probing = .idle ↔ .act (.advance .idle) () ∈ steps :=
  idle_iff_of_orderly (fun _ _ _ he => (lawful_of_path hp he).1)

/-- The idle state is not reported before it is there. -/
theorem not_mem_events_of_busy (hp : Path (run r) steps u waiting) (hbusy : Steps.state steps .probing ≠ .idle) :
    .state .idle ∉ Steps.events steps := by
  intro hm
  obtain ⟨step,hstep,he⟩ := List.mem_filterMap.mp hm
  obtain ⟨before,after,rfl⟩ := List.append_of_mem hstep
  cases step with
  | asked call | answered call answer => cases he
  | act action answer =>
    cases action with
    | tryBegin | advance _ | spawn _ | lastEntered | enter _ => cases he
    | send event =>
      cases he
      have hidle : Steps.state before .probing = .idle := (lawful_of_path hp rfl).1 .idle rfl
      rw [idle_iff_of_orderly (fun _ _ _ he =>
        (lawful_of_path hp (by rw [he, List.append_assoc, List.cons_append])).1)] at hidle
      exact hbusy ((idle_iff_of_path hp).mpr (List.mem_append_left _ hidle))

end StatementPad.Job
