import StatementPad.Proofs.Run.Undisturbed
import StatementPad.Run.Scripted

/-! # What runs is what compiled

The source that a run calls the kernel to run is the block that the run shows, and the kernel holds it because
the same run has had it compiled. Source that never compiled is run as it stands, and only if nothing but its
end was missing.
-/
namespace StatementPad.System
open StatementPad.Task
variable {s s' : System} {h : List Deed} {i : Nat} {f : Flight}

def held (h : List Deed) : Slot := Steps.slot (h.map Deed.step) {}

/-- Each deed was done by a thread of a system that came up before. -/
theorem Reaches.before {before after : List Deed} {d : Deed} (hr : Reaches s h) (he : h = before ++ d :: after) :
    ∃ s₁ s₂, Reaches s₁ before ∧ Inside s₁ d s₂ := by
  induction hr generalizing after with
  | start => simp at he
  | @next s s' h h' hr hn ih =>
    cases hn with
    | @deed _ _ _ d' hd =>
      obtain ⟨rfl,rfl,-⟩ | ⟨after,he,-⟩ := snoc_eq_append_cons he
      · exact ⟨s,s',hr,hd⟩
      · exact ih he
    | call r | forget | read => exact ih he

theorem stepsOf_filter (h : List Deed) (i : Nat) (role : Role) :
    (stepsOf h i role).filter TaskStep.isKernel =
      ((kernelDeeds h).filter fun d => d.flight = i ∧ d.role = role).map Deed.step := by
  rw [stepsOf, kernelDeeds, List.filter_map, List.filter_comm]
  rfl

/-- What the kernel has heard last is what the holder has told it. -/
theorem Holds.kernelSteps (hh : Holds s h i) : ∃ earlier, (h.map Deed.step).filter TaskStep.isKernel =
    earlier ++ (stepsOf h i .job).filter TaskStep.isKernel := by
  obtain ⟨earlier,later,hk,hear,hlat⟩ := hh.kernel
  have hown : (kernelDeeds h).filter (fun d => d.flight = i ∧ d.role = .job) = later := by
    rw [hk, List.filter_append, List.filter_eq_nil_iff.mpr (fun d hd => by simp [hear d hd]), List.nil_append,
      List.filter_eq_self.mpr (fun d hd => by simpa using hlat d hd)]
  have hall : (h.map Deed.step).filter TaskStep.isKernel = (kernelDeeds h).map Deed.step := by
    rw [List.filter_map]
    rfl
  exact ⟨earlier.map Deed.step,by rw [hall, stepsOf_filter, hown, hk, List.map_append]⟩

/-- The kernel holds what the steps of the holder make of what it held before. -/
theorem Holds.held_eq (hh : Holds s h i) : ∃ base, held h = Steps.slot (stepsOf h i .job) base := by
  obtain ⟨earlier,he⟩ := hh.kernelSteps
  refine ⟨Steps.slot earlier {},?_⟩
  rw [held, ← Steps.slot_filter, he, Steps.slot_append, Steps.slot_filter]

/-- The compiled block that run `i` shows and calls the kernel to run after the deeds `before`. -/
structure Ready (r : RunRequest) (before : List Deed) (i : Nat) (block : CodeBlock) (verdict : Verdict) : Prop where
  judged : Job.Judged r (stepsOf before i .job) block verdict
  /-- Whatever the kernel held before the run, the run itself has had the block compiled. -/
  own : ∀ base, (Steps.slot (stepsOf before i .job) base).compiled = some (block.source r.filename)
  held : (held before).compiled = some (block.source r.filename)

structure RunsCompiled (s : System) (h : List Deed) : Prop where
  once : ∀ i, (Steps.runs (stepsOf h i .job)).length ≤ 1
  evaluate : ∀ i f before after, s.flights[i]? = some f → h = before ++ ⟨i,.job,.asked .evaluate⟩ :: after →
    ∃ block, Ready f.request before i block .expression
  execute : ∀ i f before after, s.flights[i]? = some f → h = before ++ ⟨i,.job,.asked .execute⟩ :: after →
    ∃ block, Ready f.request before i block .statements
  executeSource : ∀ i f before after offset filename source, s.flights[i]? = some f →
    h = before ++ ⟨i,.job,.asked (.executeSource offset filename source)⟩ :: after →
    ∃ block, Job.Judged f.request (stepsOf before i .job) block .incomplete ∧
      block.source f.request.filename = ⟨offset,filename,source⟩ ∧
      ∀ v ∈ Steps.verdicts (stepsOf before i .job), v = .ok .incomplete
  /-- Nothing is run after a verdict that forbids it. -/
  forbidden : ∀ i f before after step, s.flights[i]? = some f → h = before ++ ⟨i,.job,step⟩ :: after →
    step.run? ≠ none → ∀ v ∈ Steps.verdicts (stepsOf before i .job),
      (∀ fault, v ≠ .error fault) ∧ (∀ report, v ≠ .ok (.syntaxError report)) ∧
        (v = .ok .incomplete → Probe.takesCell f.request.snapshot f.request.selection f.request.mode = false)
  callers : ∀ i f, s.flights[i]? = some f → Steps.runs (stepsOf h i .caller) = []

theorem stepsOf_cons_self (before after : List Deed) (role : Role) (step : TaskStep) :
    stepsOf (before ++ ⟨i,role,step⟩ :: after) i role = stepsOf before i role ++ step :: stepsOf after i role := by
  simp [stepsOf]

theorem Sound.lawful_of_mem {before after : List Deed} {step : TaskStep} (hs : Sound s h)
    (hf : s.flights[i]? = some f) (he : h = before ++ ⟨i,.job,step⟩ :: after) :
    Job.Lawful f.request (stepsOf before i .job) step := by
  have hstage := hs.stages i f hf
  generalize stepsOf h i .caller = callerSteps at hstage
  rw [he, stepsOf_cons_self] at hstage
  generalize hj : stepsOf before i .job ++ step :: stepsOf after i .job = jobSteps at hstage
  cases hstage with
  | fresh r | refused r | claimed r | reported r => simp at hj
  | running hp => exact Job.lawful_of_path hp hj.symm

theorem Reaches.ready {before after : List Deed} {step : TaskStep} {block : CodeBlock} {verdict : Verdict}
    {r : RunRequest} (hr : Reaches s h) (he : h = before ++ ⟨i,.job,step⟩ :: after) (hk : step.isKernel = true)
    (hj : Job.Judged r (stepsOf before i .job) block verdict)
    (hown : ∀ base, (Steps.slot (stepsOf before i .job) base).compiled = some (block.source r.filename)) :
    Ready r before i block verdict := by
  refine ⟨hj,hown,?_⟩
  obtain ⟨s₁,s₂,hr₁,hd⟩ := hr.before he
  have hh := hr₁.sound.holds_of_inFlight (hr₁.sound.kernel_inside hd hk).2
  obtain ⟨base,hbase⟩ := hh.held_eq
  rw [hbase, hown]

theorem runs_length_le_of_lawful {r : RunRequest} {steps : List TaskStep}
    (h : ∀ before step after, steps = before ++ step :: after → Job.Lawful r before step) :
    (Steps.runs steps).length ≤ 1 := by
  induction steps using List.reverseRecOn with
  | nil => simp
  | append_singleton steps step ih =>
    have hstep := (h steps step [] rfl).2
    have ih := ih (fun before step' after he => h before step' (after ++ [step]) (by simp [he]))
    rw [Steps.runs_append, List.length_append]
    by_cases hrun : step.run? = none
    · simpa [hrun] using ih
    · obtain ⟨block,verdict,hj,-⟩ := hstep.judged hrun
      rw [hj.first]
      cases hr : step.run? <;> simp [hr]

theorem Sound.runs_length_le (hs : Sound s h) (i : Nat) : (Steps.runs (stepsOf h i .job)).length ≤ 1 := by
  rcases eq_or_ne (stepsOf h i .job) [] with hnil | hne
  · simp [hnil]
  · obtain ⟨f,t,hf,hp⟩ := hs.path_of_ne_nil hne
    exact runs_length_le_of_lawful (fun _ _ _ he => Job.lawful_of_path hp he)

theorem Sound.runs_caller (hs : Sound s h) (hf : s.flights[i]? = some f) : Steps.runs (stepsOf h i .caller) = [] := by
  have hstage := hs.stages i f hf
  generalize stepsOf h i .caller = callerSteps at hstage ⊢
  generalize stepsOf h i .job = jobSteps at hstage
  cases hstage with
  | fresh r | refused r | claimed r | reported r | running hp => rfl

theorem runs_compiled (hr : Reaches s h) : RunsCompiled s h := by
  have hs := hr.sound
  refine ⟨hs.runs_length_le,?_,?_,?_,?_,fun i f hf => hs.runs_caller hf⟩
  · intro i f before after hf he
    obtain ⟨block,hj,hown⟩ := (hs.lawful_of_mem hf he).2
    exact ⟨block,hr.ready he rfl hj hown⟩
  · intro i f before after hf he
    obtain ⟨block,hj,hown⟩ := (hs.lawful_of_mem hf he).2
    exact ⟨block,hr.ready he rfl hj hown⟩
  · intro i f before after offset filename source hf he
    obtain ⟨block,hj,-,hsource⟩ := (hs.lawful_of_mem hf he).2
    refine ⟨block,hj,hsource,fun v hv => ?_⟩
    exact (hj.verdict_eq hv).elim id And.left
  · intro i f before after step hf he hrun v hv
    obtain ⟨block,verdict,hj,hreport,hcell⟩ := (hs.lawful_of_mem hf he).2.judged hrun
    rcases hj.verdict_eq hv with rfl | ⟨rfl,hgrown⟩
    · exact ⟨by simp,fun report => by simpa using hreport report,fun he => hcell (by simpa using he)⟩
    · exact ⟨by simp,by simp,fun _ => hgrown⟩

/-- A line that compiles to an expression is evaluated. -/
theorem runs_compiled_oneLine : ∃ s h, Reaches s h ∧ Steps.runs (stepsOf h 0 .job) = [.evaluate] ∧
    RunsCompiled s h := by
  have hr := (Reaches.start.accept rfl oneLine).advance (i := 0) ScriptedKernel.answer
    { verdicts := [.ok .expression], outcomes := [], moves := [] } rfl rfl
  exact ⟨_,_,hr,rfl,runs_compiled hr⟩

end StatementPad.System
