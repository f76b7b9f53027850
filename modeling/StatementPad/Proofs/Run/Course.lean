import StatementPad.Proofs.Run.Called
import StatementPad.Proofs.Run.SingleFlight
import StatementPad.Run.Scripted

/-! # Runs one after the other

On one controller one run follows the other, and between two of them the directory may be forgotten. The buffer that is
remembered is the one of the last run that came to run its block since then, so a run that is given a directory goes
there unless that run was one of the same buffer.
-/
namespace StatementPad
open StatementPad.Task
variable {α : Type} {c c' c₁ : Controller} {t : Task α} {u : Thread α} {steps : List TaskStep} {r : RunRequest}

/-! ## One run at a time -/

inductive Thread.Runs (c : Controller) (t : Task α) : List TaskStep → Controller → Thread α → Prop where
  | start : Runs c t [] c ⟨t,false⟩
  | step {steps : List TaskStep} {step : TaskStep} {c' c'' : Controller} {u v : Thread α} (h : Runs c t steps c' u)
      (hm : u.Moves c' step c'' v) : Runs c t (steps ++ [step]) c'' v
  | read {steps : List TaskStep} {c' : Controller} {u : Thread α} (h : Runs c t steps c' u) :
      Runs c t steps c'.takeEvents.2 u
  | refused {steps : List TaskStep} {c' c'' : Controller} {u : Thread α} (h : Runs c t steps c' u) (r : RunRequest)
      (hr : c'.trigger r = (false,c'')) : Runs c t steps c'' u

theorem Controller.of_refused (h : c.trigger r = (false,c')) : c' = c := by
  by_cases hidle : c.state = .idle
  · rw [Controller.trigger_of_idle r hidle] at h
    cases (Prod.mk.inj h).1
  · rw [Controller.trigger_of_busy r hidle] at h
    exact (Prod.mk.inj h).2.symm

theorem Controller.of_accepted (h : c.trigger r = (true,c')) : c' = { c with
    state := .probing
    events := c.events ++ [.state .probing]
    jobs := c.jobs ++ [Job.run r] } := by
  by_cases hidle : c.state = .idle
  · rw [Controller.trigger_of_idle r hidle] at h
    exact (Prod.mk.inj h).2.symm
  · rw [Controller.trigger_of_busy r hidle] at h
    cases (Prod.mk.inj h).1

theorem Thread.Runs.path (h : Thread.Runs c t steps c' u) : Path t steps u.task u.waiting := by
  induction h with
  | start => exact .start
  | step _ hm ih => exact ih.moves hm
  | read _ ih | refused _ _ _ ih => exact ih

theorem Thread.Moves.entered {v : Thread α} {step : TaskStep} (h : u.Moves c step c' v) :
    (∀ answer, step = .act .lastEntered answer → answer = c.entered) ∧
      c'.entered = step.enteredAfter c.entered := by
  cases h with
  | @act action next =>
    refine ⟨fun answer he => ?_,by cases action <;> rfl⟩
    cases action <;> cases he
    rfl
  | asked | answered answer =>
    refine ⟨?_,rfl⟩
    intro _ he
    cases he

/-- A run is told the buffer that the controller remembers. -/
theorem Thread.Runs.remember (h : Thread.Runs c t steps c' u) :
    Steps.Remember c.entered steps ∧ c'.entered = Steps.entered steps c.entered := by
  induction h with
  | start => exact ⟨trivial,rfl⟩
  | step _ hm ih =>
    obtain ⟨hanswer,hafter⟩ := hm.entered
    rw [ih.2] at hanswer hafter
    exact ⟨Steps.remember_append.mpr ⟨ih.1,hanswer,trivial⟩,by rw [hafter, Steps.entered_append]; rfl⟩
  | read _ ih => exact ih
  | refused _ _ hr ih => exact Controller.of_refused hr ▸ ih

theorem Thread.Moves.quiet {v : Thread α} {step : TaskStep} (h : u.Moves c step c' v)
    (hclaim : ∀ answer, step ≠ .act .tryBegin answer) (hspawn : ∀ r answer, step ≠ .act (.spawn r) answer) :
    c'.state = step.stateAfter c.state ∧ c'.jobs = c.jobs := by
  cases h with
  | @act action next =>
    cases action with
    | tryBegin => exact absurd rfl (hclaim _)
    | spawn r => exact absurd rfl (hspawn r _)
    | advance next | send event | lastEntered | enter buffer => exact ⟨rfl,rfl⟩
  | asked | answered answer => exact ⟨rfl,rfl⟩

/-- A run neither claims the state nor starts another run. -/
theorem Thread.Runs.quiet {u : Thread Unit} (h : Thread.Runs c (Job.run r) steps c' u) :
    c'.state = Steps.state steps c.state ∧ c'.jobs = c.jobs := by
  induction h with
  | start => exact ⟨rfl,rfl⟩
  | @step steps step _ _ _ _ h hm ih =>
    have horderly : Job.Orderly steps step := (Job.lawful_of_path (h.path.moves hm) rfl).1
    have hquiet := hm.quiet (fun answer he => by rw [he] at horderly; exact horderly)
      (fun r answer he => by rw [he] at horderly; exact horderly)
    rw [Steps.state_append, hquiet.1, hquiet.2, ih.1]
    exact ⟨rfl,ih.2⟩
  | read _ ih => exact ih
  | refused _ _ hr ih => exact Controller.of_refused hr ▸ ih

/-- A run that is under way comes to its end if its calls are answered. -/
theorem Thread.Runs.completes {task : Task α} {waiting : Bool} (h : Thread.Runs c t steps c' ⟨task,waiting⟩) :
    ∃ more c'' value, Thread.Runs c t (steps ++ more) c'' ⟨.done value,false⟩ := by
  induction task generalizing steps c' waiting with
  | done value =>
    cases waiting with
    | false => exact ⟨[],c',value,by rwa [List.append_nil]⟩
    | true => exact absurd h.path.call_of_waiting (by simp)
  | act action next ih =>
    cases waiting with
    | false =>
      obtain ⟨more,c'',value,hm⟩ := ih _ (h.step .act)
      exact ⟨_,c'',value,List.append_assoc .. ▸ hm⟩
    | true => exact absurd h.path.call_of_waiting (by simp)
  | call call next ih =>
    obtain ⟨answer⟩ : Nonempty call.Answer := inferInstance
    have hanswer {steps : List TaskStep} {c' : Controller} (h : Thread.Runs c t steps c' ⟨.call call next,true⟩) :
        ∃ more c'' value, Thread.Runs c t (steps ++ more) c'' ⟨.done value,false⟩ := by
      obtain ⟨more,c'',value,hm⟩ := ih answer (h.step (.answered answer))
      exact ⟨_,c'',value,List.append_assoc .. ▸ hm⟩
    cases waiting with
    | true => exact hanswer h
    | false =>
      obtain ⟨more,c'',value,hm⟩ := hanswer (h.step .asked)
      exact ⟨_,c'',value,List.append_assoc .. ▸ hm⟩

/-- A controller that takes a task as far as it goes takes the steps of its thread. -/
theorem Thread.runs_advance {κ : Type} (answer : Controller.Kernel κ) (t : Task α) (c : Controller) (k : κ) :
    Thread.Runs c t (Controller.stepsOf answer t c k) (Controller.advance answer t c k).2.1
      ⟨(Controller.advance answer t c k).1,false⟩ := by
  suffices h : ∀ (c₀ : Controller) (t₀ : Task α) (past : List TaskStep), Thread.Runs c₀ t₀ past c ⟨t,false⟩ →
      Thread.Runs c₀ t₀ (past ++ Controller.stepsOf answer t c k) (Controller.advance answer t c k).2.1
        ⟨(Controller.advance answer t c k).1,false⟩ from h c t [] .start
  induction t generalizing c k with
  | done value =>
    intro c₀ t₀ past h
    simpa [Controller.stepsOf, Controller.advance] using h
  | act action next ih =>
    intro c₀ t₀ past h
    have hrest := ih (c.perform action).1 (c.perform action).2 k c₀ t₀ _ (h.step .act)
    rwa [List.append_assoc] at hrest
  | call call next ih =>
    intro c₀ t₀ past h
    unfold Controller.stepsOf Controller.advance
    cases ha : answer call k with
    | mk reply k =>
      cases reply with
      | none => simpa using h
      | some reply =>
        have hrest := ih reply c k c₀ t₀ _ ((h.step .asked).step (.answered reply))
        simpa using hrest

/-! ## Courses -/

inductive Occasion where
  | run (r : RunRequest) (steps : List TaskStep)
  | forget

/-- The controllers that runs, one after the other, and what happens between them lead to. -/
inductive Course : List Occasion → Controller → Prop where
  | start : Course [] {}
  | read {occasions : List Occasion} {c : Controller} (h : Course occasions c) : Course occasions c.takeEvents.2
  | forget {occasions : List Occasion} {c : Controller} (h : Course occasions c) :
      Course (occasions ++ [.forget]) c.forgetWorkingDir
  | run {occasions : List Occasion} {c c₁ c₂ : Controller} {r : RunRequest} {job : Task Unit} {steps : List TaskStep}
      (h : Course occasions c) (htrigger : c.trigger r = (true,c₁)) (hjob : c₁.jobs = [job])
      (hruns : Thread.Runs { c₁ with jobs := [] } job steps c₂ ⟨.done (),false⟩) :
      Course (occasions ++ [.run r steps]) c₂

/-- A run that has called the kernel to run its block has entered its buffer. -/
def Occasion.enteredAfter (e : Option BufferId) : Occasion → Option BufferId
  | run r steps => if Steps.runs steps = [] then e else some r.buffer
  | forget => none

def enteredLast (occasions : List Occasion) : Option BufferId := occasions.foldl Occasion.enteredAfter none

variable {occasions : List Occasion} {e : Option BufferId} {job : Task Unit}

theorem enteredLast_concat (occasions : List Occasion) (o : Occasion) :
    enteredLast (occasions ++ [o]) = o.enteredAfter (enteredLast occasions) := by
  rw [enteredLast, List.foldl_append]
  rfl

theorem job_of_accepted (htrigger : c.trigger r = (true,c₁)) (hjob : c₁.jobs = [job]) : job = Job.run r := by
  rw [Controller.of_accepted htrigger] at hjob
  have hjobs : c.jobs ++ [Job.run r] = [] ++ [job] := hjob
  exact (List.singleton_inj.mp (List.append_inj' hjobs rfl).2).symm

/-- After each run another one can follow. -/
theorem Course.idle (h : Course occasions c) : c.state = .idle ∧ c.jobs = [] := by
  induction h with
  | start => exact ⟨rfl,rfl⟩
  | read _ ih | forget _ ih => exact ih
  | run h htrigger hjob hruns ih =>
    obtain rfl := job_of_accepted htrigger hjob
    obtain ⟨hstate,hjobs⟩ := hruns.quiet
    rw [Controller.of_accepted htrigger] at hstate
    exact ⟨hstate.trans (Job.finished_of_path hruns.path).1,hjobs⟩

theorem Job.Visits.after_eq {after : Option BufferId} (h : Visits r e steps after) :
    after = if Steps.runs steps = [] then e else some r.buffer := by
  obtain ⟨found,trials,-,-,hvisited⟩ := h
  have hcompiled := (probed_trials r.filename trials).runs
  have hcall (block : CodeBlock) (d : Dispatch) (result : Except Fault Outcome) :
      Steps.runs [.asked (d.kernelCall r.filename block), d.answered r.filename block result] ≠ [] := by
    cases d <;> simp [Dispatch.kernelCall, TaskStep.run?]
  rw [← Steps.runs_filter steps]
  cases hvisited with
  | unreached hfound hkernel => rw [hkernel, if_pos hcompiled]
  | stayed hp he result hkernel =>
    rw [hkernel, Steps.runs_append, hcompiled, List.nil_append, if_neg (hcall _ _ result)]
  | moved hp he hdir hreply result hkernel =>
    rw [hkernel, Steps.runs_append, hcompiled, List.nil_append, if_neg]
    simpa [TaskStep.run?] using hcall _ _ result
  | lost hp he hdir hfatal hkernel hevents =>
    rw [hkernel, Steps.runs_append, hcompiled, if_pos]
    rfl

theorem Thread.Runs.visits {c₂ : Controller} (htrigger : c.trigger r = (true,c₁)) (hjob : c₁.jobs = [job])
    (hruns : Thread.Runs { c₁ with jobs := [] } job steps c₂ ⟨.done (),false⟩) :
    Job.Visits r c.entered steps c₂.entered := by
  obtain rfl := job_of_accepted htrigger hjob
  obtain ⟨hremember,hentered⟩ := hruns.remember
  rw [Controller.of_accepted htrigger] at hremember hentered
  rw [hentered]
  exact Job.visits_of_path hruns.path hremember

theorem Course.entered_eq (h : Course occasions c) : c.entered = enteredLast occasions := by
  induction h with
  | start => rfl
  | read _ ih => exact ih
  | forget _ ih => rw [enteredLast_concat]; rfl
  | run h htrigger hjob hruns ih =>
    rw [enteredLast_concat, (hruns.visits htrigger hjob).after_eq, ih]
    rfl

/-- Each run goes to its directory, or does not, by what came before it, and is remembered accordingly. A run that is
under way is the beginning of such a run. -/
theorem course_visits (h : Course occasions c) : c.entered = enteredLast occasions ∧
    (∀ before r steps after, occasions = before ++ .run r steps :: after →
      Job.Visits r (enteredLast before) steps (enteredLast (before ++ [.run r steps]))) ∧
    ∀ r c₁ job steps c₂ u, c.trigger r = (true,c₁) → c₁.jobs = [job] →
      Thread.Runs { c₁ with jobs := [] } job steps c₂ u →
        ∃ more after, Job.Visits r (enteredLast occasions) (steps ++ more) after := by
  refine ⟨h.entered_eq,?_,?_⟩
  · induction h with
    | start => intro before r steps after he; simp at he
    | read _ ih => exact ih
    | forget _ ih =>
      intro before r steps after he
      rcases snoc_eq_append_cons he with ⟨-,he,-⟩ | ⟨after',he,-⟩
      · cases he
      · exact ih before r steps after' he
    | run h htrigger hjob hruns ih =>
      intro before r' steps' after he
      rcases snoc_eq_append_cons he with ⟨rfl,he,-⟩ | ⟨after',he,-⟩
      · cases he
        have hv := hruns.visits htrigger hjob
        rw [hv.after_eq, h.entered_eq] at hv
        rw [enteredLast_concat]
        exact hv
      · exact ih before r' steps' after' he
  · rintro r c₁ job steps c₂ ⟨task,waiting⟩ htrigger hjob hruns
    obtain ⟨more,c₃,value,hwhole⟩ := hruns.completes
    exact ⟨more,c₃.entered,h.entered_eq ▸ hwhole.visits htrigger hjob⟩

/-- A run that is taken to its end goes on with a course. -/
theorem Course.advance {κ : Type} (h : Course occasions c) (answer : Controller.Kernel κ) (k : κ) (r : RunRequest)
    {claimed : Controller} (hclaimed : claimed = { c with
      state := .probing
      events := c.events ++ [.state .probing] })
    (hdone : (Controller.advance answer (Job.run r) claimed k).1 = .done ()) :
    Course (occasions ++ [.run r (Controller.stepsOf answer (Job.run r) claimed k)])
      (Controller.advance answer (Job.run r) claimed k).2.1 := by
  obtain ⟨hidle,hjobs⟩ := h.idle
  have hruns := Thread.runs_advance answer (Job.run r) claimed k
  rw [hdone] at hruns
  refine h.run (Controller.trigger_of_idle r hidle) (by rw [hjobs]; rfl) ?_
  subst hclaimed
  rw [← hjobs]
  exact hruns

def homed : RunRequest :=
  { buffer := 1, filename := "a.py", workingDir := some "/a", snapshot := ["1 + 1"], selection := .atLine 0,
    mode := .block }

/-- The kernel takes too long to go to the directory; the next run in the same buffer does not ask again. -/
theorem course_visits_twoRuns : ∃ first second c, Course [.run homed first,.run homed second] c ∧
    Steps.calls first = [.compile 0 "a.py" "1 + 1",.setWorkingDir "/a",.evaluate] ∧
    Steps.calls second = [.compile 0 "a.py" "1 + 1",.evaluate] ∧ Job.Visits homed (some 1) second (some 1) := by
  have h₁ := Course.start.advance ScriptedKernel.answer
    { verdicts := [.ok .expression], outcomes := [], moves := [.error (.timeout 0)] } homed rfl rfl
  have h₂ := h₁.advance ScriptedKernel.answer
    { verdicts := [.ok .expression], outcomes := [], moves := [] } homed rfl rfl
  exact ⟨_,_,_,h₂,rfl,rfl,(course_visits h₂).2.1 [_] homed _ [] rfl⟩

end StatementPad
