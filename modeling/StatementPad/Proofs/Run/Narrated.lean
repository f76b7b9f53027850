import StatementPad.Proofs.Run.Compiled
import StatementPad.Proofs.Run.SingleFlight
import StatementPad.Proofs.Run.Told

/-! # The events of a run

However the steps of several runs interleave, the events of one run come in one of six orders, from the probing
state to the idle one. Once the kernel has failed to answer, nothing is painted as finished until it brings an
outcome again.
-/
namespace StatementPad
open StatementPad.Task

namespace RunEvent

def concludes : RunEvent → Bool
  | clearMarker _ | finished .. | aborted .. => true
  | state _ | paint .. | moveCursor .. => false

end RunEvent

def TaskStep.fault? : TaskStep → Option Fault
  | answered (.compile ..) (.error fault) => some fault
  | answered .evaluate (.error fault) => some fault
  | answered .execute (.error fault) => some fault
  | answered (.executeSource ..) (.error fault) => some fault
  | answered (.setWorkingDir _) (.error fault) => some fault
  | _ => none

namespace Job
variable {r : RunRequest} {found : Except Fault Probe} {block : CodeBlock} {outcomes : List Outcome}
  {events : List RunEvent} {steps : List TaskStep}

theorem Told.finished_iff {buffer : BufferId} {lines : LineRange} (h : Told r found outcomes events) :
    .paint buffer lines .finished ∈ events ↔
      ∃ outcome, outcome.isError = false ∧ .finished buffer lines outcome ∈ events := by
  have hpaint (line : Nat) : .paint buffer lines .finished ∉ moved r line := by
    unfold moved
    split <;> simp
  have hfinished (line : Nat) (outcome : Outcome) : .finished buffer lines outcome ∉ moved r line := by
    unfold moved
    split <;> simp
  cases h with
  | nothing h | unanswered fault => simp
  | rejected h hbad => simp [hpaint, hfinished, hbad]
  | succeeded h hgood => simp [shown, hpaint, hfinished, hgood]
  | failed h hbad => simp [shown, hpaint, hfinished, hbad]
  | lost h fault => simp [shown, hpaint, hfinished]

theorem Told.concluded (h : Told r found outcomes events) : ∃ before last, events = before ++ [last] ∧
    last.concludes = true ∧ ∀ event ∈ before, event.concludes = false := by
  have hmoved (line : Nat) : ∀ event ∈ moved r line, event.concludes = false := by
    unfold moved
    split <;> simp [RunEvent.concludes]
  cases h with
  | nothing h | unanswered fault => exact ⟨[],_,rfl,rfl,by simp⟩
  | rejected h hbad =>
    refine ⟨_,_,rfl,rfl,?_⟩
    simpa [or_imp, forall_and, RunEvent.concludes] using hmoved _
  | @succeeded p block d outcome h =>
    refine ⟨shown r block ++ [.state .success, .paint r.buffer block.codeLines .finished],
      .finished r.buffer block.codeLines outcome,by simp,rfl,?_⟩
    simpa [shown, or_imp, forall_and, RunEvent.concludes] using hmoved _
  | @failed p block d outcome h =>
    refine ⟨shown r block ++ [.state .error, .paint r.buffer block.codeLines .error],
      .finished r.buffer block.codeLines outcome,by simp,rfl,?_⟩
    simpa [shown, or_imp, forall_and, RunEvent.concludes] using hmoved _
  | @lost p block d h fault =>
    refine ⟨shown r block ++ [.paint r.buffer block.codeLines .error],.aborted r.buffer fault.message,by simp,rfl,?_⟩
    simpa [shown, or_imp, forall_and, RunEvent.concludes] using hmoved _

structure Narrative (r : RunRequest) (steps : List TaskStep) (events : List RunEvent) : Prop where
  told : ∃ found told, Probes r r.requireInside steps found ∧ Told r found (Steps.outcomes steps) told ∧
    events = .state .probing :: (told ++ [.state .idle])
  buffers : ∀ event ∈ events, ∀ buffer ∈ event.buffer?, buffer = r.buffer
  /-- All lines are those of the code of the block. -/
  lines : ∀ event ∈ events, ∀ lines ∈ event.lines?, ∃ p block,
    Probes r r.requireInside steps (.ok p) ∧ p.block? = some block ∧ lines = block.codeLines
  finished : ∀ buffer lines, .paint buffer lines .finished ∈ events ↔
    ∃ outcome, outcome.isError = false ∧ .finished buffer lines outcome ∈ events
  concluded : ∃ before last, events = before ++ [last, .state .idle] ∧ last.concludes = true ∧
    ∀ event ∈ before, event.concludes = false

theorem narrative_of_path (hp : Path (run r) steps (.done ()) false) :
    Narrative r steps (.state .probing :: Steps.events steps) := by
  obtain ⟨found,probing,rest,rfl,hparted⟩ := exists_parted (bind_done _).symm hp
  obtain ⟨told,htold,he⟩ := hparted.whole
  have hprobes : Probes r r.requireInside (probing ++ rest) found := ⟨probing,rest,rfl,hparted.probe⟩
  rw [he]
  constructor
  · exact ⟨found,told,hprobes,htold,rfl⟩
  · simpa [or_imp, forall_and, RunEvent.buffer?] using htold.buffers
  · intro event hm lines hl
    have htell : event ∈ told := by
      rcases List.mem_cons.mp hm with rfl | hm
      · cases hl
      · rcases List.mem_append.mp hm with hm | hm
        · exact hm
        · obtain rfl := List.mem_singleton.mp hm
          cases hl
    obtain ⟨p,block,rfl,hb,hlines⟩ := htold.lines event htell hl
    exact ⟨p,block,hprobes,hb,hlines⟩
  · intro buffer lines
    simpa using htold.finished_iff
  · obtain ⟨before,last,rfl,hlast,hbefore⟩ := htold.concluded
    exact ⟨.state .probing :: before,last,by simp,hlast,List.forall_mem_cons.mpr ⟨rfl,hbefore⟩⟩

/-- A run paints a block as finished when the kernel has just brought an outcome that is no error. -/
theorem succeeded_of_path {u : Task Unit} {waiting : Bool} {step : TaskStep} {buffer : BufferId} {lines : LineRange}
    (hp : Path (run r) (steps ++ [step]) u waiting) (hpaint : step.event? = some (.paint buffer lines .finished)) :
    Steps.Succeeded steps ∧ Steps.state steps .probing ≠ .idle := by
  obtain ⟨more,value,hwhole⟩ := hp.completes
  obtain ⟨found,probing,rest,he,hparted⟩ := exists_parted (bind_done _).symm hwhole
  rw [List.append_assoc, List.singleton_append] at he
  obtain ⟨past,rfl,htied⟩ := hparted.tied_of_split he.symm (.inl (by simp [hpaint]))
  obtain ⟨hsucceeded,hbusy⟩ := htied.finished buffer lines hpaint
  exact ⟨hsucceeded.append,by rw [Steps.state_append]; exact hbusy _⟩

end Job

namespace System
variable {s s' : System} {h h' : List Deed} {i : Nat} {f : Flight}

/-- What flight `i` has told, whether its caller or its run. -/
def toldBy (h : List Deed) (i : Nat) : List RunEvent :=
  Steps.events ((h.filter fun d => d.flight = i).map Deed.step)

theorem toldBy_append_self {role : Role} {step : TaskStep} :
    toldBy (h ++ [⟨i,role,step⟩]) i = toldBy h i ++ step.event?.toList := by
  simp [toldBy]

theorem toldBy_append_of_ne {d : Deed} (hne : d.flight ≠ i) : toldBy (h ++ [d]) i = toldBy h i := by
  simp [toldBy, hne]

/-- A caller that has something left to do has not started its run. -/
theorem Stage.jobSteps_eq_nil {callerSteps jobSteps : List TaskStep} {step : TaskStep} {c c' : Controller}
    {t : Thread Bool} (hs : Stage f callerSteps jobSteps) (hm : f.caller.Moves c step c' t) : jobSteps = [] := by
  cases hs with
  | fresh r | refused r | claimed r | reported r => rfl
  | running hp => cases hm

/-- What a caller tells comes before what its run tells. -/
theorem Reaches.toldBy_eq (hr : Reaches s h) (i : Nat) :
    toldBy h i = Steps.events (stepsOf h i .caller) ++ Steps.events (stepsOf h i .job) := by
  induction hr with
  | start => rfl
  | @next s s' h h' hr hn ih =>
    cases hn with
    | call r | forget | read => exact ih
    | @deed _ _ _ d hd =>
      by_cases he : d.flight = i
      · cases hd with
        | caller hf hm =>
          obtain rfl := he
          have hnil := (hr.sound.stages _ _ hf).jobSteps_eq_nil hm
          rw [toldBy_append_self, ih, stepsOf_append_self, stepsOf_append_of_ne (.inr (by decide)), hnil]
          simp
        | job hf hj hm =>
          obtain rfl := he
          rw [toldBy_append_self, ih, stepsOf_append_self, stepsOf_append_of_ne (.inr (by decide))]
          simp
      · rw [toldBy_append_of_ne he, ih]
        obtain ⟨j,role,step⟩ := d
        rw [stepsOf_append_of_ne (.inl he), stepsOf_append_of_ne (.inl he)]

/-- A flight that has claimed the idle state is on the way of its run, and has told that it is probing unless that
is still to be done. -/
theorem Stage.of_claim {callerSteps jobSteps : List TaskStep} (hs : Stage f callerSteps jobSteps)
    (hc : .act .tryBegin true ∈ callerSteps) :
    (∃ u waiting, Path (Job.run f.request) jobSteps u waiting) ∧
      (Steps.events callerSteps = [.state .probing] ∨ Steps.events callerSteps = [] ∧ jobSteps = []) := by
  cases hs with
  | fresh r | refused r => simp at hc
  | claimed r => exact ⟨⟨_,_,.start⟩,.inr ⟨rfl,rfl⟩⟩
  | reported r => exact ⟨⟨_,_,.start⟩,.inl rfl⟩
  | running hp => exact ⟨⟨_,_,hp⟩,.inl rfl⟩

theorem Reaches.narrative {w : Bool} (hr : Reaches s h) (hf : s.flights[i]? = some f)
    (hj : f.job = some ⟨.done (),w⟩) : Job.Narrative f.request (stepsOf h i .job) (toldBy h i) := by
  have hstage := hr.sound.stages i f hf
  rw [hr.toldBy_eq]
  generalize stepsOf h i .caller = callerSteps at hstage ⊢
  generalize stepsOf h i .job = jobSteps at hstage ⊢
  cases hstage with
  | fresh r | refused r | claimed r | reported r => cases hj
  | @running r u _ hp =>
    cases hj
    cases w with
    | false => exact Job.narrative_of_path hp
    | true => exact absurd hp.call_of_waiting (by simp)

theorem Reaches.begun (hr : Reaches s h) (hf : s.flights[i]? = some f)
    (hc : .act .tryBegin true ∈ stepsOf h i .caller) : ∃ steps events,
      Job.Narrative f.request (stepsOf h i .job ++ steps) (toldBy h i ++ events) := by
  rw [hr.toldBy_eq]
  obtain ⟨⟨u,waiting,hp⟩,htold⟩ := (hr.sound.stages i f hf).of_claim hc
  obtain ⟨more,value,hwhole⟩ := hp.completes
  have hn := Job.narrative_of_path hwhole
  rcases htold with he | ⟨he,hnil⟩
  · refine ⟨more,Steps.events more,?_⟩
    rw [he]
    simpa using hn
  · refine ⟨more,.state .probing :: Steps.events (stepsOf h i .job ++ more),?_⟩
    rw [he, hnil]
    simpa [hnil] using hn

theorem Next.request_eq (hn : Next (s,h) (s',h')) (hf : s.flights[i]? = some f) :
    ∃ g, s'.flights[i]? = some g ∧ g.request = f.request := by
  cases hn with
  | call r => exact ⟨f,(List.getElem?_append_left (List.getElem?_eq_some_iff.mp hf).1).trans hf,rfl⟩
  | forget | read => exact ⟨f,hf,rfl⟩
  | @deed _ _ _ d hd =>
    have hi := (List.getElem?_eq_some_iff.mp hf).1
    by_cases he : d.flight = i
    · cases hd with
      | caller hf' hm | job hf' hj hm =>
        obtain rfl := he
        obtain rfl := Option.some.inj (hf'.symm.trans hf)
        exact ⟨_,List.getElem?_set_self hi,rfl⟩
    · cases hd with
      | caller _ _ | job _ _ _ => exact ⟨f,(List.getElem?_set_ne he).trans hf,rfl⟩

theorem IsRun.request_eq {run : Nat → System × List Deed} (hrun : IsRun run)
    (hf : (run 0).1.flights[i]? = some f) (n : Nat) : ∃ g, (run n).1.flights[i]? = some g ∧ g.request = f.request := by
  induction n with
  | zero => exact ⟨f,hf,rfl⟩
  | succ n ih =>
    obtain ⟨g,hg,he⟩ := ih
    obtain ⟨g',hg',he'⟩ := (hrun n).request_eq hg
    exact ⟨g',hg',he'.trans he⟩

/-- A run that was accepted comes to the end of its events. -/
theorem Fair.narrates {run : Nat → System × List Deed} (hfair : Fair run i) (hrun : IsRun run)
    (hr : Reaches (run 0).1 (run 0).2) (hf : (run 0).1.flights[i]? = some f)
    (hc : .act .tryBegin true ∈ stepsOf (run 0).2 i .caller) :
    ∃ n, Job.Narrative f.request (stepsOf (run n).2 i .job) (toldBy (run n).2 i) := by
  obtain ⟨m,g,⟨task,waiting⟩,-,hg,hj⟩ := hfair.starts hrun hr hf hc
  obtain ⟨n,g',w,-,hg',hj'⟩ := hfair.finishes hrun hr hg hj
  obtain ⟨f',hf',he⟩ := hrun.request_eq hf n
  obtain rfl := Option.some.inj (hf'.symm.trans hg')
  exact ⟨n,he ▸ (hrun.reaches hr n).narrative hg' hj'⟩

/-! ## Finished blocks -/

theorem Stage.not_paints {callerSteps jobSteps : List TaskStep} {step : TaskStep} {c c' : Controller} {t : Thread Bool}
    {buffer : BufferId} {lines : LineRange} {marker : MarkerState} (hs : Stage f callerSteps jobSteps)
    (hm : f.caller.Moves c step c' t) : step.event? ≠ some (.paint buffer lines marker) := by
  cases hs with
  | fresh r =>
    rw [Flight.call, Job.trigger_eq] at hm
    cases hm
    simp [TaskStep.event?]
  | claimed r | reported r =>
    cases hm
    simp [TaskStep.event?]
  | refused r | running hp => cases hm

/-- When a block is painted as finished, the kernel's last answer to anyone was an outcome that is no error. -/
theorem Sound.succeeded {d : Deed} {buffer : BufferId} {lines : LineRange} (hs : Sound s h) (hd : Inside s d s')
    (hpaint : d.step.event? = some (.paint buffer lines .finished)) : Steps.Succeeded (h.map Deed.step) := by
  cases hd with
  | caller hf hm => exact absurd hpaint ((hs.stages _ _ hf).not_paints hm)
  | job hf hj hm =>
    have hp := ((hs.stages _ _ hf).of_job hj).2
    obtain ⟨⟨step,outcome,hlast,ho⟩,hbusy⟩ := Job.succeeded_of_path (hp.moves hm) hpaint
    obtain ⟨earlier,he⟩ := (hs.holds_of_inFlight (hs.inFlight_of_busy hf hj hbusy)).kernelSteps
    refine ⟨step,outcome,?_,ho⟩
    rw [he, List.getLast?_append, hlast]
    rfl

theorem outcome?_of_fault {step : TaskStep} {fault : Fault} (h : step.fault? = some fault) :
    step.isKernel = true ∧ step.outcome? = none := by
  unfold TaskStep.fault? at h
  split at h <;> first | exact ⟨rfl,rfl⟩ | cases h

theorem Reaches.not_finished {before after : List Deed} {d e : Deed} {fault : Fault} {buffer : BufferId}
    {lines : LineRange} (hr : Reaches s h) (he : h = before ++ d :: after) (hfault : d.step.fault? = some fault)
    (hnone : ∀ e ∈ after, e.step.outcome? = none) (hmem : e ∈ after) :
    e.step.event? ≠ some (.paint buffer lines .finished) := by
  intro hpaint
  obtain ⟨middle,rest,rfl⟩ := List.append_of_mem hmem
  obtain ⟨s₁,s₂,hr₁,hd⟩ := hr.before (he.trans (by simp : _ = (before ++ d :: middle) ++ e :: rest))
  obtain ⟨step,outcome,hlast,ho,-⟩ := hr₁.sound.succeeded hd hpaint
  -- The last exchange with the kernel is the one that failed or a later one, and none of these brought an outcome.
  obtain ⟨hk,hnone'⟩ := outcome?_of_fault hfault
  have hstep : step ∈ (d :: middle).map Deed.step := by
    rw [List.map_append, List.filter_append, List.map_cons, List.filter_cons_of_pos hk, List.getLast?_append,
      List.getLast?_cons, Option.some_or] at hlast
    have hm := List.mem_of_getLast? (List.getLast?_cons.trans hlast)
    exact List.mem_cons.mpr ((List.mem_cons.mp hm).imp id fun hm => (List.mem_filter.mp hm).1)
  obtain ⟨d',hd',rfl⟩ := List.mem_map.mp hstep
  rcases List.mem_cons.mp hd' with rfl | hd'
  · simp [hnone'] at ho
  · simp [hnone d' (List.mem_append_left _ hd')] at ho

/-! ## The property -/

structure Narrated (s : System) (h : List Deed) : Prop where
  /-- The events of an accepted trigger whose run is over, -/
  whole : ∀ i f t, s.flights[i]? = some f → f.job = some t → t.task = .done () →
    Job.Narrative f.request (stepsOf h i .job) (toldBy h i)
  /-- of one that is under way, -/
  begun : ∀ i f, s.flights[i]? = some f → .act .tryBegin true ∈ stepsOf h i .caller → ∃ steps events,
    Job.Narrative f.request (stepsOf h i .job ++ steps) (toldBy h i ++ events)
  /-- which is over some time if the kernel answers, -/
  ends : ∀ run i f, run 0 = (s,h) → IsRun run → Fair run i → s.flights[i]? = some f →
    .act .tryBegin true ∈ stepsOf h i .caller →
    ∃ n, Job.Narrative f.request (stepsOf (run n).2 i .job) (toldBy (run n).2 i)
  /-- and of one that was refused. -/
  refused : ∀ i f, s.flights[i]? = some f → f.caller.task = .done false → toldBy h i = []
  /-- Once the kernel has failed to answer, nothing is painted as finished until it brings an outcome. -/
  lost : ∀ before d fault after, h = before ++ d :: after → d.step.fault? = some fault →
    (∀ e ∈ after, e.step.outcome? = none) →
      ∀ e ∈ after, ∀ buffer lines, e.step.event? ≠ some (.paint buffer lines .finished)

theorem events_narrated (hr : Reaches s h) : Narrated s h := by
  constructor
  · rintro i f ⟨task,w⟩ hf hj ht
    obtain rfl : task = .done () := ht
    exact hr.narrative hf hj
  · intro i f hf hc
    exact hr.begun hf hc
  · intro run i f h0 hrun hfair hf hc
    exact hfair.narrates hrun (by rw [h0]; exact hr) (by rw [h0]; exact hf) (by rw [h0]; exact hc)
  · intro i f hf hc
    obtain ⟨hcaller,hjob,-⟩ := (hr.sound.stages i f hf).refused_of_done hc
    rw [hr.toldBy_eq, hcaller, hjob]
    rfl
  · intro before d fault after he hfault hnone e hmem buffer lines
    exact hr.not_finished he hfault hnone hmem

/-- A line is evaluated, and the cursor moves on. -/
theorem events_narrated_oneLine : ∃ s h, Reaches s h ∧ toldBy h 0 = [.state .probing, .state .resolved,
    .paint 1 ⟨0,0⟩ .active, .moveCursor 1 1, .state .running, .state .success, .paint 1 ⟨0,0⟩ .finished,
    .finished 1 ⟨0,0⟩ (.success []), .state .idle] ∧ Narrated s h := by
  have hr := (Reaches.start.accept rfl oneLine).advance (i := 0) ScriptedKernel.answer
    { verdicts := [.ok .expression], outcomes := [], moves := [] } rfl rfl
  exact ⟨_,_,hr,by decide +kernel,events_narrated hr⟩

end System
end StatementPad
