import StatementPad.Proofs.Batch.Progress
import StatementPad.Proofs.Cell.Partition
import StatementPad.Proofs.Run.Course

/-! # Batch runs of one cell

A batch run that is asked for a cell takes the one around the cursor. With a line alone the cursor is on that line.
With a last line as well it goes below the selection, and the cell is that of the line below, if there is one.
-/
namespace StatementPad
open Buffer StatementPad.Task

namespace Probe
variable {b : Buffer} {filename : Text} {range? : Option LineRange}

inductive OfRange (b : Buffer) (filename : Text) : Option LineRange → List TaskStep → Except Fault Probe → Prop where
  | nothing : OfRange b filename none [] (.ok .empty)
  | judged (range : LineRange) (verdict : Except Fault Verdict) : OfRange b filename (some range)
      (trialSteps filename (.ofBuffer b range.start range.stop,verdict))
      (concluded none .incomplete (.ofBuffer b range.start range.stop,verdict))

theorem meets_ofRange
    (hne : ∀ range, range? = some range → (CodeBlock.ofBuffer b range.start range.stop).isEmpty = false) :
    Meets (fun _ _ => True) (fun found steps => OfRange b filename range? steps found) []
      (find.ofRange b filename range?) := by
  cases range? with
  | none => exact meets_pure.mpr .nothing
  | some range =>
    rw [find.ofRange, ofCell, meets_bind]
    refine meets_judge (fun _ _ _ => ⟨trivial,trivial⟩) (hne range rfl) (fun verdict => ?_)
    have hjudged := @OfRange.judged b filename range verdict
    rcases verdict with fault | verdict
    · exact meets_pure.mpr hjudged
    · cases verdict <;> exact meets_pure.mpr hjudged

theorem block?_concluded {trial : Trial} {p : Probe} (h : concluded none .incomplete trial = .ok p) :
    p.block? = some trial.1 := by
  obtain ⟨block,fault | verdict⟩ := trial
  · cases h
  · cases verdict <;> cases h <;> rfl

end Probe

namespace Job
open StatementPad.Probe
variable {r : RunRequest} {e : Option BufferId} {steps : List TaskStep} {found : Except Fault Probe}
  {trials : List Trial}

theorem Passed.ofRange (h : Passed r e steps found trials) (hmode : r.mode = .cell) (hne : r.snapshot ≠ []) :
    OfRange r.snapshot r.filename (Cell.enclosing r.snapshot r.selection.cursor)
      (trials.flatMap (trialSteps r.filename)) found := by
  have hprobe := h.probe
  rw [hmode, find_of_takesCell r.requireInside (List.isEmpty_eq_false_iff.mpr hne) rfl] at hprobe
  refine hprobe.meetsAt (meets_ofRange fun range hr => ?_)
  obtain ⟨h1,h2⟩ := cellRange_some hr
  exact CodeBlock.isEmpty_ofBuffer h1 le_rfl h2

end Job

namespace Batch
open StatementPad.Probe
variable {κ : Type} {access : KernelAccess κ} {b : Batch κ} {d : Document} {n : Nat} {endLine : Option Nat}
  {r : RunRequest} {found : Except Fault Probe} {outcomes : List Outcome} {told : List RunEvent}

/-! ## What a step makes of what is told -/

inductive Closes (found : Except Fault Probe) (outcomes : List Outcome) : Except Failure Step → Prop where
  | nothing {p : Probe} (h : found = .ok p) (hp : p.block? = none) : Closes found outcomes (.ok {})
  | ran {outcome : Outcome} (lines : LineRange) (next? : Option Nat) (ho : outcomes = [outcome])
      (hgood : outcome.isError = false) (hne : ∀ p, found = .ok p → p.block? ≠ none) :
      Closes found outcomes (.ok ⟨some lines,false,next?⟩)
  | failed (lines : LineRange) (next? : Option Nat) (hbad : ∀ outcome, outcomes = [outcome] → outcome.isError = true)
      (hne : ∀ p, found = .ok p → p.block? ≠ none) : Closes found outcomes (.ok ⟨some lines,true,next?⟩)
  | broken (f : Failure) (ho : outcomes = []) (hne : ∀ p, found = .ok p → p.block? ≠ none) :
      Closes found outcomes (.error f)

theorem follow_shown {name : Text} {block : CodeBlock} {p : Printer} (hadvance : r.advance = true)
    (rest : List RunEvent) : ∃ p' next?, follow name (Job.shown r block ++ rest) p {} =
      follow name rest p' { nextLine := next? } := by
  rw [Job.shown, Job.moved, if_pos hadvance]
  simp only [List.cons_append, List.nil_append]
  rw [follow_state (by decide)]
  obtain ⟨p',hp⟩ := follow_paint name _ p {} r.buffer block.codeLines .active
  rw [hp, follow_moveCursor, follow_state (by decide)]
  exact ⟨p',_,rfl⟩

theorem block?_ne_none {p q : Probe} {block : CodeBlock} (hp : p.block? = some block)
    (h : (Except.ok p : Except Fault Probe) = .ok q) : q.block? ≠ none := by
  cases h
  rw [hp]
  simp

theorem closes_of_told {name : Text} (p : Printer) (h : Job.Told r found outcomes told)
    (hadvance : r.advance = true) :
    Closes found outcomes (follow name (.state .probing :: (told ++ [.state .idle])) p {}).2 := by
  rw [follow_state (by decide)]
  cases h with
  | nothing h => exact .nothing rfl h
  | unanswered fault => exact .broken _ rfl fun _ h => by cases h
  | @rejected _ block outcome h hbad =>
    rw [Job.moved, if_pos hadvance]
    simp only [List.cons_append, List.nil_append]
    rw [follow_state (by decide)]
    obtain ⟨p',hp⟩ := follow_paint name _ p {} r.buffer block.codeLines .error
    rw [hp, follow_moveCursor, follow_finished, hbad]
    exact .failed _ _ (by simp) fun _ => block?_ne_none (block?_of_rejected? h)
  | @succeeded _ block _ outcome h hgood =>
    obtain ⟨p',next?,hp⟩ := @follow_shown r name block p hadvance ([.state .success,
      .paint r.buffer block.codeLines .finished, .finished r.buffer block.codeLines outcome] ++ [.state .idle])
    rw [List.append_assoc, hp, List.cons_append, List.cons_append, follow_state (by decide)]
    obtain ⟨p'',hp'⟩ := follow_paint name ([.finished r.buffer block.codeLines outcome] ++ [.state .idle]) p'
      { nextLine := next? } r.buffer block.codeLines .finished
    rw [hp', List.singleton_append, follow_finished, hgood]
    exact .ran _ _ rfl hgood fun _ => block?_ne_none (block?_of_dispatched? h)
  | @failed _ block _ outcome h hbad =>
    obtain ⟨p',next?,hp⟩ := @follow_shown r name block p hadvance ([.state .error,
      .paint r.buffer block.codeLines .error, .finished r.buffer block.codeLines outcome] ++ [.state .idle])
    rw [List.append_assoc, hp, List.cons_append, List.cons_append, follow_state (by decide)]
    obtain ⟨p'',hp'⟩ := follow_paint name ([.finished r.buffer block.codeLines outcome] ++ [.state .idle]) p'
      { nextLine := next? } r.buffer block.codeLines .error
    rw [hp', List.singleton_append, follow_finished, hbad]
    exact .failed _ _ (by simpa using hbad) fun _ => block?_ne_none (block?_of_dispatched? h)
  | @lost _ block _ h fault =>
    obtain ⟨p',next?,hp⟩ := @follow_shown r name block p hadvance ([.paint r.buffer block.codeLines .error,
      .aborted r.buffer fault.message] ++ [.state .idle])
    rw [List.append_assoc, hp]
    exact .broken _ rfl fun _ => block?_ne_none (block?_of_dispatched? h)

/-! ## The step -/

section Step
variable {mode : RunMode}

theorem conclude_snd (access : KernelAccess κ) (b : Batch κ) (settled : Controller × κ) :
    (b.conclude access settled).2 = (follow b.document.name settled.1.events b.printer {}).2 := by
  simp only [conclude, Controller.takeEvents]
  cases (follow b.document.name settled.1.events b.printer {}).2 with
  | error f | ok step => rfl

def beginning (access : KernelAccess κ) (mode : RunMode) (b : Batch κ) : Controller :=
  { (b.claimed access mode).controller with jobs := [] }

/-- A step of an idle batch takes a run as far as it goes. Either the run is over and the step has followed it, or it
waits for the kernel and the step has failed. -/
theorem exists_advanced (access : KernelAccess κ) (mode : RunMode) (hb : b.Ready)
    (hidle : b.controller.state = .idle) : ∃ steps c u,
      Thread.Runs (beginning access mode b) (Job.run (b.document.request b.cwd mode)) steps c ⟨u,false⟩ ∧
      (∀ log, (b.recorded log).step access.recorded mode =
        ((b.step access mode).1.recorded (log ++ steps.filter TaskStep.isKernel),(b.step access mode).2)) ∧
      ((u = .done () ∧ ∃ p, (b.step access mode).2 =
          (follow b.document.name (.state .probing :: Steps.events steps) p {}).2) ∨
        (∃ call next, u = .call call next) ∧ (b.step access mode).1.controller.jobs ≠ [] ∧
          ∃ f, (b.step access mode).2 = .error f) := by
  have hc := @claimed_controller _ mode b access hb hidle
  have hjobs : (b.claimed access mode).controller.jobs = [Job.run (b.document.request b.cwd mode)] := by rw [hc]
  have hprobing : (beginning access mode b).events = [.state .probing] := by rw [beginning, hc]
  have hevents := Controller.events_advance access.answer (Job.run (b.document.request b.cwd mode))
    (beginning access mode b) (b.claimed access mode).kernel
  have hruns := Thread.runs_advance access.answer (Job.run (b.document.request b.cwd mode))
    (beginning access mode b) (b.claimed access mode).kernel
  have hend := Controller.advance_done_or_call access.answer (Job.run (b.document.request b.cwd mode))
    (beginning access mode b) (b.claimed access mode).kernel
  have hbeginning : ({ (b.claimed access mode).controller with jobs := [] } : Controller) =
      beginning access mode b := rfl
  rw [hprobing] at hevents
  refine ⟨_,_,_,hruns,fun log => ?_,?_⟩
  · have hclaimed : (b.recorded log).claimed access.recorded mode = (b.claimed access mode).recorded log := rfl
    rw [step_of_idle access hidle, step_of_idle access.recorded hidle, hclaimed]
    exact (congrArg _ (Controller.settle_recorded hjobs log)).trans (recorded_conclude access _ _ log _)
  · rw [step_of_idle access hidle, conclude_jobs, conclude_snd, Controller.settle_single hjobs, hbeginning]
    generalize Controller.stepsOf access.answer (Job.run (b.document.request b.cwd mode)) (beginning access mode b)
      (b.claimed access mode).kernel = steps at hevents hruns ⊢
    generalize Controller.advance access.answer (Job.run (b.document.request b.cwd mode)) (beginning access mode b)
      (b.claimed access mode).kernel = settled at hevents hruns hend ⊢
    obtain ⟨u,c,k⟩ := settled
    dsimp only at hevents hruns hend ⊢
    obtain ⟨value,rfl⟩ | ⟨call,next,rfl⟩ := hend
    · exact .inl ⟨rfl,(b.claimed access mode).printer,by rw [hevents]; rfl⟩
    · -- The run waits, so it has not reported the idle state.
      have hwaits := hruns.path.asked
      have hidle := Job.not_mem_events_of_busy hwaits (Job.busy_of_waiting hwaits)
      refine .inr ⟨⟨call,next,rfl⟩,by simp,follow_error_of_not_mem ?_⟩
      change _ ∉ c.events
      rw [hevents]
      simpa [TaskStep.event?] using hidle

/-- A run that waits would go on with the call that it waits for. -/
theorem exists_run (access : KernelAccess κ) (mode : RunMode) (hb : b.Ready) (hidle : b.controller.state = .idle) :
    ∃ steps more, Path (Job.run (b.document.request b.cwd mode)) (steps ++ more) (.done ()) false ∧
      Steps.Remember b.controller.entered (steps ++ more) ∧
      (∀ log, (b.recorded log).step access.recorded mode =
        ((b.step access mode).1.recorded (log ++ steps.filter TaskStep.isKernel),(b.step access mode).2)) ∧
      ((more = [] ∧ ∃ p, (b.step access mode).2 =
          (follow b.document.name (.state .probing :: Steps.events steps) p {}).2) ∨
        more.filter TaskStep.isKernel ≠ [] ∧ (b.step access mode).1.controller.jobs ≠ [] ∧
          ∃ f, (b.step access mode).2 = .error f) := by
  have hentered : (beginning access mode b).entered = b.controller.entered := by
    rw [beginning, claimed_controller access hb hidle]
  rw [← hentered]
  obtain ⟨steps,c,u,hruns,hrecorded,⟨rfl,hfollow⟩ | ⟨⟨call,next,rfl⟩,hjobs,hfailed⟩⟩ :=
    exists_advanced access mode hb hidle
  · refine ⟨steps,[],?_,?_,hrecorded,.inl ⟨rfl,hfollow⟩⟩
    · rw [List.append_nil]
      exact hruns.path
    · rw [List.append_nil]
      exact hruns.remember.1
  · obtain ⟨more,c',value,hwhole⟩ := (hruns.step .asked).completes
    rw [List.append_assoc] at hwhole
    exact ⟨steps,_,hwhole.path,hwhole.remember.1,hrecorded,.inr ⟨by simp [TaskStep.isKernel],hjobs,hfailed⟩⟩

/-- What a run for a cell exchanges with the kernel and what its step comes to. If the kernel leaves a call unanswered,
`more` is the rest of a run that is over. -/
structure Exchanged (r : RunRequest) (e : Option BufferId) (cell : Option LineRange)
    (stepped : Batch κ × Except Failure Step) (log more : List TaskStep) (found : Except Fault Probe)
    (compiled steps : List TaskStep) (after : Option BufferId) : Prop where
  kernel : log ++ more = steps.filter TaskStep.isKernel
  range : OfRange r.snapshot r.filename cell compiled found
  visited : Job.Visited r e compiled steps found after
  answered : more = [] → Closes found (Steps.outcomes log) stepped.2
  waits : more ≠ [] → stepped.1.controller.jobs ≠ [] ∧ ∃ f, stepped.2 = .error f

theorem exists_exchanged (access : KernelAccess κ) (hb : b.Ready) (hidle : b.controller.state = .idle)
    (hne : b.document.lines ≠ []) : ∃ log more found compiled steps after,
      (b.recorded []).step access.recorded .cell =
        ((b.step access .cell).1.recorded log,(b.step access .cell).2) ∧
      Exchanged (b.document.request b.cwd .cell) b.controller.entered
        (Cell.enclosing b.document.lines b.document.lineSelection.cursor) (b.step access .cell) log more found compiled
        steps after := by
  obtain ⟨steps,more,hpath,hremember,hrecorded,hend⟩ := exists_run access .cell hb hidle
  obtain ⟨found,trials,hpassed⟩ := Job.exists_passed hpath hremember
  obtain ⟨told,htold,hevents⟩ := hpassed.told
  refine ⟨steps.filter TaskStep.isKernel,more.filter TaskStep.isKernel,found,_,steps ++ more,_,hrecorded [],
    (List.filter_append ..).symm,hpassed.ofRange rfl hne,hpassed.visited,fun hmore => ?_,fun hmore => ?_⟩
  · obtain ⟨rfl,p,hfollow⟩ | ⟨hwaits,-⟩ := hend
    · rw [List.append_nil] at hevents htold
      rw [Steps.outcomes_filter, hfollow, hevents]
      exact closes_of_told p htold rfl
    · exact absurd hmore hwaits
  · obtain ⟨rfl,-⟩ | ⟨-,hfailed⟩ := hend
    · exact absurd rfl hmore
    · exact hfailed

end Step

/-! ## One cell -/

/-- The line of the cursor when line `n` is asked for, or the lines `n` to `m`. -/
def cursorFor (lines : Buffer) (n : Nat) : Option Nat → Nat
  | none => n - 1
  | some m => min (max n m) (lines.length - 1)

theorem exists_placed (d : Document) (endLine : Option Nat) (h1 : 1 ≤ n) (hn : n ≤ d.lines.length) :
    ∃ d' selection, place (some n) endLine d = .ok d' ∧ d'.lines = d.lines ∧
      selection.cursor = cursorFor d.lines n endLine ∧
      ∀ cwd mode, d'.request cwd mode = { d.request cwd mode with selection } := by
  have hcursor (d : Document) : d.lineSelection.cursor = d.cursor.line := by
    unfold Document.lineSelection
    split <;> rfl
  unfold place
  dsimp only [Option.getD_some]
  rw [if_neg (by omega)]
  cases endLine with
  | none =>
    refine ⟨_,(d.setCursor (n - 1) 0).lineSelection,rfl,rfl,?_,fun _ _ => rfl⟩
    rw [hcursor, cursor_setCursor (by omega), cursorFor]
  | some m =>
    refine ⟨_,(d.selectLines (n - 1) (max (m - 1) (n - 1))).lineSelection,rfl,rfl,?_,fun _ _ => rfl⟩
    rw [hcursor, cursorFor, Document.selectLines, apply_ite Position.line, Document.lastLine]
    split
    · dsimp only
      omega
    · dsimp only
      omega

def concludeOne : Batch κ × Except Failure Step → Batch κ × Except Failure Unit
  | (b, .error f) => (b, .error f)
  | (b, .ok ⟨some lines, failed, _⟩) => (b, if failed then .error (failure lines) else .ok ())
  | (b, .ok ⟨none, _, _⟩) => ({ b with printer := b.printer.notice "nothing to run" }, .ok ())

theorem runOne_eq {line : Option Nat} {mode : RunMode} (access : KernelAccess κ) (b : Batch κ)
    (h : place line endLine b.document = .ok d) :
    b.runOne access line endLine mode = concludeOne (({ b with document := d } : Batch κ).step access mode) := by
  unfold runOne
  rw [h]
  dsimp only
  rcases ({ b with document := d } : Batch κ).step access mode with ⟨b',f | ⟨_ | lines,_ | _,_ | next⟩⟩ <;> rfl

theorem concludeOne_recorded (b : Batch κ) (log : List TaskStep) (result : Except Failure Step) :
    concludeOne (b.recorded log,result) = ((concludeOne (b,result)).1.recorded log,(concludeOne (b,result)).2) := by
  rcases result with f | ⟨_ | lines,_ | _,_ | next⟩ <;> rfl

theorem concludeOne_controller (b : Batch κ) (result : Except Failure Step) :
    (concludeOne (b,result)).1.controller = b.controller := by
  rcases result with f | ⟨_ | lines,_ | _,_ | next⟩ <;> rfl

/-- Line `n`, or the lines up to the last one, are asked for, and the run is one of the cell: `log` is what the kernel
was asked and has answered, and `more` what is left if it leaves a call unanswered. -/
structure RunsCell (access : KernelAccess κ) (b : Batch κ) (n : Nat) (endLine : Option Nat) (cell : Option LineRange)
    (log more : List TaskStep) : Prop where
  recorded : (b.recorded []).runOne access.recorded (some n) endLine .cell =
    ((b.runOne access (some n) endLine .cell).1.recorded log,(b.runOne access (some n) endLine .cell).2)
  waits : more = [] ∨ (b.runOne access (some n) endLine .cell).1.controller.jobs ≠ []
  ends : Controller.Answers access.answer → (b.runOne access (some n) endLine .cell).1.controller.jobs = []
  /-- Without a cell nothing is asked, and that is reported. -/
  nothing : cell = none → log ++ more = [] ∧ (b.runOne access (some n) endLine .cell).2 = .ok () ∧
    ∃ p : Printer, (b.runOne access (some n) endLine .cell).1.printer = p.notice "nothing to run"
  /-- The cell is compiled, and run by what the kernel says to that. -/
  exchange : ∀ range, cell = some range → ∃ verdict selection steps after,
    log ++ more = steps.filter TaskStep.isKernel ∧
      Job.Visited { b.document.request b.cwd .cell with selection } b.controller.entered
        (trialSteps b.document.sourceName (.ofBuffer b.document.lines range.start range.stop,verdict)) steps
        (concluded none .incomplete (.ofBuffer b.document.lines range.start range.stop,verdict)) after
  /-- That is a success if the kernel has run it without an error. -/
  result : ∀ range, cell = some range → ((b.runOne access (some n) endLine .cell).2 = .ok () ↔
    more = [] ∧ ∃ outcome, Steps.outcomes log = [outcome] ∧ outcome.isError = false)

theorem concludeOne_closes {p : Probe} {result : Except Failure Step} (h : Closes found outcomes result)
    (hp : found = .ok p) (hnone : p.block? = none) : (concludeOne (b,result)).2 = .ok () ∧
      ∃ p : Printer, (concludeOne (b,result)).1.printer = p.notice "nothing to run" := by
  cases h with
  | nothing h _ => exact ⟨rfl,b.printer,rfl⟩
  | ran lines next? ho hgood hne | failed lines next? hbad hne | broken f ho hne => exact absurd hnone (hne p hp)

theorem concludeOne_ok_iff {result : Except Failure Step} (h : Closes found outcomes result)
    (hsome : ∀ p, found = .ok p → p.block? ≠ none) :
    (concludeOne (b,result)).2 = .ok () ↔ ∃ outcome, outcomes = [outcome] ∧ outcome.isError = false := by
  cases h with
  | nothing h hp => exact absurd hp (hsome _ h)
  | ran lines next? ho hgood hne => exact iff_of_true rfl ⟨_,ho,hgood⟩
  | failed lines next? hbad hne =>
    refine iff_of_false (fun h => by cases h) ?_
    rintro ⟨outcome,ho,hgood⟩
    simp [hbad outcome ho] at hgood
  | broken f ho hne =>
    refine iff_of_false (fun h => by cases h) ?_
    rintro ⟨outcome,ho',-⟩
    simp [ho] at ho'

section Exchanged
variable {e after : Option BufferId} {cell : Option LineRange} {stepped : Batch κ × Except Failure Step}
  {log more compiled steps : List TaskStep}

theorem Exchanged.nothing (h : Exchanged r e none stepped log more found compiled steps after) :
    log ++ more = [] ∧ (concludeOne stepped).2 = .ok () ∧
      ∃ p : Printer, (concludeOne stepped).1.printer = p.notice "nothing to run" := by
  have hrange := h.range
  have hvisited := h.visited
  have hanswered := h.answered
  cases hrange
  have hkernel : log ++ more = [] := by
    rw [h.kernel]
    cases hvisited with
    | unreached _ hkernel => exact hkernel
    | stayed hp | moved hp | lost hp => cases hp
  exact ⟨hkernel,concludeOne_closes (hanswered (List.append_eq_nil_iff.mp hkernel).2) rfl rfl⟩

theorem Exchanged.exchange {range : LineRange}
    (h : Exchanged r e (some range) stepped log more found compiled steps after) : ∃ verdict,
      Job.Visited r e (trialSteps r.filename (.ofBuffer r.snapshot range.start range.stop,verdict)) steps
        (concluded none .incomplete (.ofBuffer r.snapshot range.start range.stop,verdict)) after := by
  have hrange := h.range
  have hvisited := h.visited
  cases hrange with
  | judged range verdict => exact ⟨verdict,hvisited⟩

theorem Exchanged.ok_iff {range : LineRange}
    (h : Exchanged r e (some range) stepped log more found compiled steps after) : (concludeOne stepped).2 = .ok () ↔
      more = [] ∧ ∃ outcome, Steps.outcomes log = [outcome] ∧ outcome.isError = false := by
  have hblock : ∀ p, found = .ok p → p.block? ≠ none := by
    have hrange := h.range
    cases hrange
    intro p hp
    rw [block?_concluded hp]
    exact Option.some_ne_none _
  by_cases hmore : more = []
  · rw [concludeOne_ok_iff (h.answered hmore) hblock]
    exact (and_iff_right hmore).symm
  · obtain ⟨-,f,hf⟩ := h.waits hmore
    obtain ⟨b',result⟩ := stepped
    obtain rfl : result = .error f := hf
    exact iff_of_false (fun h => by cases h) fun h => hmore h.1

end Exchanged

theorem exists_runsCell (access : KernelAccess κ) (endLine : Option Nat) (hb : b.Ready)
    (hidle : b.controller.state = .idle) (h1 : 1 ≤ n) (hn : n ≤ b.document.lines.length) :
    ∃ log more, RunsCell access b n endLine
      (Cell.enclosing b.document.lines (cursorFor b.document.lines n endLine)) log more := by
  obtain ⟨d,selection,hplace,hlines,hcursor,hrequest⟩ := exists_placed b.document endLine h1 hn
  have hb' : ({ b with document := d } : Batch κ).Ready := ⟨hb.jobs,hb.events,hlines ▸ hb.flat⟩
  obtain ⟨log,more,found,compiled,steps,after,hrecorded,hstep⟩ :=
    exists_exchanged access hb' hidle (hlines ▸ List.ne_nil_of_length_pos (h1.trans hn))
  have hselection : d.lineSelection = selection := congrArg RunRequest.selection (hrequest b.cwd .cell)
  have hrun := @runOne_eq _ d endLine (some n) .cell access b hplace
  have hrun' := @runOne_eq _ d endLine (some n) .cell access.recorded (b.recorded []) hplace
  simp only [hrequest, hlines, hselection, hcursor] at hstep
  refine ⟨log,more,?_⟩
  constructor
  · rw [hrun, hrun']
    exact (congrArg concludeOne hrecorded).trans (concludeOne_recorded ..)
  · rw [hrun, concludeOne_controller]
    exact or_iff_not_imp_left.mpr fun hmore => (hstep.waits hmore).1
  · intro ha
    rw [hrun, concludeOne_controller]
    exact jobs_step ha hb'
  · intro hcell
    rw [hcell] at hstep
    rw [hrun]
    exact hstep.nothing
  · intro range hcell
    rw [hcell] at hstep
    obtain ⟨verdict,hvisited⟩ := hstep.exchange
    exact ⟨verdict,selection,steps,after,hstep.kernel,hvisited⟩
  · intro range hcell
    rw [hcell] at hstep
    rw [hrun]
    exact hstep.ok_iff

/-! ## Which cell it is -/

def asking (b : Batch κ) (range : LineRange) : TaskStep :=
  .asked (.compile range.start b.document.sourceName (CodeBlock.ofBuffer b.document.lines range.start range.stop).text)

theorem asking_inj {line line' : Nat} {range range' : LineRange} (h : asking b range = asking b range')
    (hcell : Cell.enclosing b.document.lines line = some range)
    (hcell' : Cell.enclosing b.document.lines line' = some range') : range = range' := by
  obtain ⟨start,stop⟩ := range
  obtain ⟨start',stop'⟩ := range'
  obtain ⟨hle,-,hblank⟩ := Cell.enclosing_some hcell
  obtain ⟨hle',-,hblank'⟩ := Cell.enclosing_some hcell'
  injection h with hcall
  injection hcall with hstart _ htext
  dsimp only at hstart htext hle hle' hblank hblank'
  subst hstart
  rw [CodeBlock.stop_eq_of_text_eq hle hle' hblank hblank' htext]

namespace RunsCell
variable {cell cell' : Option LineRange} {log log' more more' : List TaskStep}

theorem head?_log (h : RunsCell access b n endLine cell log more) (hmore : more = []) :
    log.head? = cell.map (asking b) := by
  cases cell with
  | none =>
    rw [(List.append_eq_nil_iff.mp (h.nothing rfl).1).1]
    rfl
  | some range =>
    obtain ⟨verdict,selection,steps,after,hkernel,hvisited⟩ := h.exchange range rfl
    obtain ⟨rest,hrest⟩ := hvisited.kernel_prefix
    rw [hmore, List.append_nil, ← hrest] at hkernel
    rw [hkernel]
    rfl

/-- There is one record only of what the kernel is asked. -/
theorem log_unique (h : RunsCell access b n endLine cell log more) (h' : RunsCell access b n endLine cell' log' more') :
    log = log' := by
  have heq := h.recorded.symm.trans h'.recorded
  exact congrArg (fun run : Batch (κ × List TaskStep) × Except Failure Unit => run.1.kernel.2) heq

theorem cell_unique {line line' : Nat} (hover : (b.runOne access (some n) endLine .cell).1.controller.jobs = [])
    (h : RunsCell access b n endLine (Cell.enclosing b.document.lines line) log more)
    (h' : RunsCell access b n endLine (Cell.enclosing b.document.lines line') log' more') :
    Cell.enclosing b.document.lines line = Cell.enclosing b.document.lines line' := by
  have hasked : (Cell.enclosing b.document.lines line).map (asking b) =
      (Cell.enclosing b.document.lines line').map (asking b) := by
    rw [← h.head?_log (h.waits.resolve_right (absurd hover)), h.log_unique h',
      h'.head?_log (h'.waits.resolve_right (absurd hover))]
  cases hcell : Cell.enclosing b.document.lines line with
  | none =>
    rw [hcell, Option.map_none] at hasked
    exact (Option.map_eq_none_iff.mp hasked.symm).symm
  | some range =>
    rw [hcell, Option.map_some] at hasked
    obtain ⟨range',hcell',heq⟩ := Option.map_eq_some_iff.mp hasked.symm
    rw [hcell', asking_inj heq hcell' hcell]

end RunsCell

theorem le_cursorFor (hn : n ≤ b.document.lines.length) : n - 1 ≤ cursorFor b.document.lines n endLine := by
  cases endLine with
  | none => exact le_rfl
  | some m =>
    simp only [cursorFor]
    omega

theorem cursorFor_lt (h1 : 1 ≤ n) (hn : n ≤ b.document.lines.length) :
    cursorFor b.document.lines n endLine < b.document.lines.length := by
  cases endLine with
  | none | some m =>
    simp only [cursorFor]
    omega

/-- A batch run of one cell takes that of the cursor. It is the cell around line `n` exactly if no marker parts the
line from the cursor, or else if both cells are blank. -/
theorem runOne_cell (access : KernelAccess κ) (endLine : Option Nat) (hb : b.Ready)
    (hidle : b.controller.state = .idle) (h1 : 1 ≤ n) (hn : n ≤ b.document.lines.length) :
    let lines := b.document.lines
    let cursor := cursorFor lines n endLine
    (∃ log more, RunsCell access b n endLine (Cell.enclosing lines cursor) log more) ∧
      ((b.runOne access (some n) endLine .cell).1.controller.jobs = [] →
        ((∃ log more, RunsCell access b n endLine (Cell.enclosing lines (n - 1)) log more) ↔
          ¬ Cell.Parted lines (n - 1) cursor ∨
            Cell.enclosing lines (n - 1) = none ∧ Cell.enclosing lines cursor = none)) := by
  intro lines cursor
  have hruns := exists_runsCell access endLine hb hidle h1 hn
  refine ⟨hruns,fun hover => ?_⟩
  rw [← Cell.enclosing_eq_iff (le_cursorFor hn) (cursorFor_lt h1 hn)]
  obtain ⟨log,more,hcursor⟩ := hruns
  constructor
  · rintro ⟨log',more',hline⟩
    exact hline.cell_unique hover hcursor
  · intro heq
    rw [heq]
    exact ⟨log,more,hcursor⟩

/-- The cursor is on the blank line below the selection, which belongs to the cell. -/
theorem runOne_cell_blankBelow :
    let b := opened "x = 1\ny = 2\n\n#%%\nz = 3\n" [.ok .statements]
    b.controller.state = .idle ∧ 1 ≤ b.document.lines.length ∧
      ∃ log more, RunsCell scripted b 1 (some 2) (Cell.enclosing b.document.lines 0) log more := by
  have hready : (opened "x = 1\ny = 2\n\n#%%\nz = 3\n" [.ok .statements]).Ready := ready_ofText ..
  have hcell := runOne_cell scripted (some 2) hready rfl (le_refl 1) (by decide)
  refine ⟨rfl,by decide,(hcell.2 rfl).mpr (.inl ?_)⟩
  rintro ⟨marker,h1,h2,hmarker⟩
  obtain rfl | rfl : marker = 1 ∨ marker = 2 := by
    change 0 < marker at h1
    change marker ≤ 2 at h2
    omega
  · cases hmarker
  · cases hmarker

/-- The selection ends above a marker, and what is run is the cell below that. -/
theorem runOne_nextCell :
    let b := opened "x = 1\n#%%\ny = 2\n" [.ok .statements]
    b.Ready ∧ b.controller.state = .idle ∧ 1 ≤ b.document.lines.length ∧
      ¬ ∃ log more, RunsCell scripted b 1 (some 1) (Cell.enclosing b.document.lines 0) log more := by
  refine ⟨ready_ofText ..,rfl,by decide,?_⟩
  rintro ⟨log,more,h⟩
  obtain rfl : _ = log :=
    congrArg (fun run : Batch (ScriptedKernel × List TaskStep) × Except Failure Unit => run.1.kernel.2) h.recorded
  have hasked := h.head?_log (h.waits.resolve_right (absurd rfl))
  -- The first request is for line 2, and the cell around line 0 begins on line 0.
  injection hasked with hasked
  injection hasked with hcall
  injection hcall with hstart
  cases hstart

end Batch
end StatementPad
