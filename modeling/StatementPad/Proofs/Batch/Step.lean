import StatementPad.Batch
import StatementPad.Proofs.Run.Controller
import StatementPad.Proofs.Run.Job

/-! # One step of a batch run

A step that comes to a result has seen one run through to its end, and knows of it what the run has reported.
What the kernel was asked on the way can be recorded without any difference to the step.
-/
namespace StatementPad
variable {κ : Type} (access : KernelAccess κ)

def KernelAccess.recorded : KernelAccess (κ × List TaskStep) where
  answer := Controller.recorded access.answer
  flush k := ((access.flush k.1).1,((access.flush k.1).2,k.2))

namespace Batch
open Buffer
variable {access}

def recorded (log : List TaskStep) (b : Batch κ) : Batch (κ × List TaskStep) :=
  ⟨b.document,b.cwd,(b.kernel,log),b.printer,b.controller⟩

/-- No run is in flight, all that was reported has been read, and the document has lines. -/
structure Ready (b : Batch κ) : Prop where
  jobs : b.controller.jobs = []
  events : b.controller.events = []
  flat : ∀ l ∈ b.document.lines, '\n' ∉ l

theorem ready_ofText (id : Nat) (t : Text) (path : Option Text) (cwd : Text) (k : κ) (p : Printer) :
    Ready { document := .ofText id t path, cwd, kernel := k, printer := p } :=
  ⟨rfl,rfl,fun _ hl => Text.not_mem_of_mem_splitLines hl⟩

/-! ## Following a run -/

section Follow
variable {name : Text} {events rest : List RunEvent} {p : Printer} {step : Step}

theorem follow_error_of_not_mem (h : .state .idle ∉ events) : ∃ f, (follow name events p step).2 = .error f := by
  induction events generalizing p step with
  | nil => exact ⟨_,rfl⟩
  | cons event rest ih =>
    have hrest : .state .idle ∉ rest := fun hm => h (List.mem_cons_of_mem _ hm)
    unfold follow
    split
    · exact absurd (List.mem_cons_self ..) h
    all_goals first | exact ih hrest | exact ⟨_,rfl⟩

theorem follow_aborted {buffer : BufferId} {reason : Text} (h : .state .idle ∉ events) :
    ∃ f, (follow name (events ++ .aborted buffer reason :: rest) p step).2 = .error f := by
  induction events generalizing p step with
  | nil => exact ⟨_,rfl⟩
  | cons event rest ih =>
    have hrest : .state .idle ∉ rest := fun hm => h (List.mem_cons_of_mem _ hm)
    rw [List.cons_append]
    unfold follow
    split
    · exact absurd (List.mem_cons_self ..) h
    all_goals first | exact ih hrest | exact ⟨_,rfl⟩

theorem follow_state {s : RunState} (h : s ≠ .idle) :
    follow name (.state s :: rest) p step = follow name rest p step := by
  cases s <;> first | rfl | exact absurd rfl h

theorem follow_paint (name : Text) (rest : List RunEvent) (p : Printer) (step : Step) (buffer : BufferId)
    (lines : LineRange) (marker : MarkerState) :
    ∃ p', follow name (.paint buffer lines marker :: rest) p step = follow name rest p' step := by
  cases marker <;> exact ⟨_,rfl⟩

theorem follow_moveCursor (buffer : BufferId) (line : Nat) : follow name (.moveCursor buffer line :: rest) p step =
    follow name rest p { step with nextLine := some line } := rfl

theorem follow_finished (buffer : BufferId) (lines : LineRange) (outcome : Outcome) :
    follow name (.finished buffer lines outcome :: rest) p step =
      follow name rest (p.writeChunks outcome.chunks) { step with ran := some lines, failed := outcome.isError } :=
  rfl

/-- What a step comes to, by what its run has done. -/
inductive Came (r : RunRequest) (steps : List TaskStep) : Step → Prop where
  | nothing (hnone : NoCode r.snapshot (Probe.anchor r.snapshot r.selection) r.snapshot.length ∨
        Probe.takesCell r.snapshot r.selection r.mode = true ∧ Probe.cellRange r.snapshot r.selection r.mode = none)
      (hran : ∀ s, Steps.ran steps s = []) : Came r steps {}
  | rejected (lines : LineRange) (next? : Option Nat) : Came r steps ⟨some lines,true,next?⟩
  | ran {trials : List Probe.Trial} {block : CodeBlock} {verdict : Verdict} (outcome : Outcome)
      (hreached : Probe.Reached r.snapshot r.selection r.mode trials block verdict)
      (hran : ∀ s, Steps.ran steps s = [(block.source r.filename,outcome)]) :
      Came r steps ⟨some block.codeLines,outcome.isError,some (max r.selection.cursor (block.stop + 1))⟩

theorem came_of_follow {r : RunRequest} {steps : List TaskStep} {result : Step} (hadvance : r.advance = true)
    (hinside : r.requireInside = false) (hended : Job.Ended r steps)
    (h : (follow name (.state .probing :: Steps.events steps) p {}).2 = .ok result) : Came r steps result := by
  rw [follow_state (by decide)] at h
  cases hended with
  | nothing hfound hfinding hran hevents =>
    rw [hevents] at h
    cases h
    rw [hinside] at hfinding
    exact .nothing (hfinding.nothing hfound) hran
  | rejected block hbad hevents =>
    rw [hevents, Job.moved, if_pos hadvance] at h
    simp only [List.cons_append, List.nil_append] at h
    rw [follow_state (by decide)] at h
    obtain ⟨p',hp⟩ := follow_paint name _ p {} r.buffer block.codeLines .error
    rw [hp, follow_moveCursor, follow_finished, hbad] at h
    cases h
    exact .rejected _ _
  | @ran _ block _ s marker outcome hreached hran hs hevents =>
    rw [hevents, Job.moved, if_pos hadvance] at h
    simp only [List.cons_append, List.nil_append] at h
    rw [follow_state (by decide)] at h
    obtain ⟨p₁,hactive⟩ := follow_paint name _ p {} r.buffer block.codeLines .active
    rw [hactive, follow_moveCursor, follow_state (by decide), follow_state hs] at h
    obtain ⟨p₂,hmarker⟩ := follow_paint name _ p₁ _ r.buffer block.codeLines marker
    rw [hmarker, follow_finished] at h
    cases h
    exact .ran outcome hreached hran
  | aborted events reason hidle hevents =>
    obtain ⟨f,hf⟩ := follow_aborted hidle
    rw [hevents] at h
    exact absurd (hf.symm.trans h) (by simp)

end Follow

/-! ## The step -/

section Step
variable {mode : RunMode} {b : Batch κ}

def conclude (access : KernelAccess κ) (b : Batch κ) (settled : Controller × κ) : Batch κ × Except Failure Step :=
  let (controller, kernel) := settled
  let (events, controller) := controller.takeEvents
  let (printer, result) := follow b.document.name events b.printer {}
  let b := { b with controller, kernel, printer }
  match result with
  | .ok step => (b.printWaiting access, .ok step)
  | .error f => (b, .error f)

def claimed (access : KernelAccess κ) (mode : RunMode) (b : Batch κ) : Batch κ :=
  ({ b with controller := (b.controller.trigger (b.document.request b.cwd mode)).2 } : Batch κ).printWaiting access

theorem step_of_idle (access : KernelAccess κ) (h : b.controller.state = .idle) :
    b.step access mode = (b.claimed access mode).conclude access
      ((b.claimed access mode).controller.settle access.answer (b.claimed access mode).kernel) := by
  unfold step claimed
  rw [Controller.trigger_of_idle _ h]
  rfl

theorem recorded_conclude (access : KernelAccess κ) (c : Controller) (k : κ) (log log' : List TaskStep) :
    (b.recorded log).conclude access.recorded (c,k,log') =
      ((b.conclude access (c,k)).1.recorded log',(b.conclude access (c,k)).2) := by
  simp only [conclude, Controller.takeEvents, recorded]
  rcases follow b.document.name c.events b.printer {} with ⟨printer,_ | result⟩ <;> rfl

theorem conclude_ok {access : KernelAccess κ} {settled : Controller × κ} {result : Step}
    (h : (b.conclude access settled).2 = .ok result) :
    (b.conclude access settled).1.controller = { settled.1 with events := [] } ∧
      (b.conclude access settled).1.document = b.document ∧
      (follow b.document.name settled.1.events b.printer {}).2 = .ok result := by
  simp only [conclude, Controller.takeEvents] at h ⊢
  cases hf : (follow b.document.name settled.1.events b.printer {}).2 with
  | error f =>
    rw [hf] at h
    cases h
  | ok step =>
    rw [hf] at h
    exact ⟨rfl,rfl,h⟩

theorem claimed_controller (access : KernelAccess κ) (hb : b.Ready) (h : b.controller.state = .idle) :
    (b.claimed access mode).controller = { b.controller with
      state := .probing
      events := [.state .probing]
      jobs := [Job.run (b.document.request b.cwd mode)] } := by
  obtain ⟨hjobs,hevents,-⟩ := hb
  simp [claimed, printWaiting, Controller.trigger_of_idle _ h, hjobs, hevents]

/-- A step that comes to a result has seen its run to the end, since a run that waits for the kernel has not
reported the idle state. -/
theorem settled_of_ok {access : KernelAccess κ} {r : RunRequest} {c : Controller} {k : κ} {result : Step}
    {printer : Printer} {name : Text} (hc : c.jobs = [Job.run r]) (he : c.events = [.state .probing])
    (h : (follow name (c.settle access.answer k).1.events printer {}).2 = .ok result) :
    let steps := Controller.stepsOf access.answer (Job.run r) { c with jobs := [] } k
    (c.settle access.answer k).1.jobs = [] ∧
      (c.settle access.answer k).1.events = .state .probing :: Steps.events steps ∧ Job.Ended r steps := by
  have hp := Controller.path_advance access.answer (Job.run r) { c with jobs := [] } k
  have hevents := Controller.events_advance access.answer (Job.run r) { c with jobs := [] } k
  have hjobs := Controller.jobs_advance (fun r' hm => by
    obtain ⟨before,after,he⟩ := List.append_of_mem hm
    exact (Job.lawful_of_path hp he).1)
  have hend := Controller.advance_done_or_call access.answer (Job.run r) { c with jobs := [] } k
  rw [Controller.settle_single hc] at h ⊢
  generalize Controller.stepsOf access.answer (Job.run r) { c with jobs := [] } k = steps at hp hevents hjobs ⊢
  generalize Controller.advance access.answer (Job.run r) { c with jobs := [] } k = settled
    at hp hevents hjobs hend h ⊢
  obtain ⟨u,c',k'⟩ := settled
  replace hevents : c'.events = .state .probing :: Steps.events steps := by simpa [he] using hevents
  obtain ⟨value,rfl⟩ | ⟨call,next,rfl⟩ := hend
  · exact ⟨hjobs,hevents,(Job.finished_of_path hp).2⟩
  · -- it would have reported the idle state while it waits
    have hidle := Job.not_mem_events_of_busy hp.asked (Job.busy_of_waiting hp.asked)
    have hnot : .state .idle ∉ c'.events := by
      rw [hevents]
      simpa [TaskStep.event?] using hidle
    obtain ⟨f,hf⟩ := @follow_error_of_not_mem name _ printer {} hnot
    exact absurd (hf.symm.trans h) (by simp)

theorem step_recorded (access : KernelAccess κ) (hb : b.Ready) (log : List TaskStep) : ∃ steps,
    (b.recorded log).step access.recorded mode =
      ((b.step access mode).1.recorded (log ++ steps.filter TaskStep.isKernel),(b.step access mode).2) ∧
    ∀ result, (b.step access mode).2 = .ok result →
      (b.step access mode).1.Ready ∧ (b.step access mode).1.document = b.document ∧
      Job.Ended (b.document.request b.cwd mode) steps ∧
      ∃ p, (follow b.document.name (.state .probing :: Steps.events steps) p {}).2 = .ok result := by
  by_cases hidle : b.controller.state = .idle
  · have hc := @claimed_controller _ mode b access hb hidle
    have hclaimed : (b.recorded log).claimed access.recorded mode = (b.claimed access mode).recorded log := rfl
    have hjobs : (b.claimed access mode).controller.jobs = [Job.run (b.document.request b.cwd mode)] := by rw [hc]
    have hevents : (b.claimed access mode).controller.events = [.state .probing] := by rw [hc]
    rw [step_of_idle access hidle, step_of_idle access.recorded hidle, hclaimed]
    refine ⟨Controller.stepsOf access.answer (Job.run (b.document.request b.cwd mode))
      { (b.claimed access mode).controller with jobs := [] } (b.claimed access mode).kernel,?_,fun result h => ?_⟩
    · exact (congrArg _ (Controller.settle_recorded hjobs log)).trans (recorded_conclude access _ _ log _)
    · obtain ⟨hcontroller,hdocument,hfollow⟩ := conclude_ok h
      obtain ⟨hj,he,hended⟩ := settled_of_ok hjobs hevents hfollow
      rw [he] at hfollow
      refine ⟨⟨?_,?_,?_⟩,hdocument,hended,_,hfollow⟩
      · rw [hcontroller]
        exact hj
      · rw [hcontroller]
      · rw [hdocument]
        exact hb.flat
  · refine ⟨[],?_,?_⟩
    · simp [step, recorded, Controller.trigger_of_busy _ hidle]
    · simp [step, Controller.trigger_of_busy _ hidle]

end Step
end Batch
end StatementPad
