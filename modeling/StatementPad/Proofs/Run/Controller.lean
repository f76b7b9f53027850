import StatementPad.Run.Controller
import StatementPad.Proofs.Run.Job

/-! # Tasks that are taken as far as they go

A controller that takes a task to its end, or to a call that is not answered, takes the steps of a path of it.
A kernel can keep a record of its calls without any difference to its callers.
-/
namespace StatementPad.Controller
variable {κ α : Type} {answer : Kernel κ} {t : Task α} {c : Controller} {k : κ}

theorem perform_tryBegin_idle (h : c.state = .idle) :
    c.perform .tryBegin = (true,{ c with state := .probing }) := by
  simp [perform, RunState.begin, RunState.isIdle, h]

theorem perform_tryBegin_busy (h : c.state ≠ .idle) : c.perform .tryBegin = (false,c) := by
  simp [perform, RunState.begin, RunState.isIdle, h]

def stepsOf (answer : Kernel κ) : Task α → Controller → κ → List TaskStep
  | .done _, _, _ => []
  | .act action next, c, k =>
    .act action (c.perform action).1 :: stepsOf answer (next (c.perform action).1) (c.perform action).2 k
  | .call call next, c, k =>
    match answer call k with
    | (none, _) => []
    | (some reply, k) => .asked call :: .answered call reply :: stepsOf answer (next reply) c k

theorem path_advance (answer : Kernel κ) (t : Task α) (c : Controller) (k : κ) :
    Task.Path t (stepsOf answer t c k) (advance answer t c k).1 false := by
  suffices h : ∀ (u : Task α) (past : List TaskStep), Task.Path u past t false →
      Task.Path u (past ++ stepsOf answer t c k) (advance answer t c k).1 false from h t [] .start
  induction t generalizing c k with
  | done value =>
    intro u past hp
    simpa [stepsOf, advance] using hp
  | act action next ih =>
    intro u past hp
    have h := ih (c.perform action).1 (c.perform action).2 k u _ (hp.act _)
    rwa [List.append_assoc] at h
  | call call next ih =>
    intro u past hp
    unfold stepsOf advance
    cases ha : answer call k with
    | mk reply k =>
      cases reply with
      | none => simpa using hp
      | some reply =>
        have h := ih reply c k u _ (hp.asked.answered reply)
        simpa using h

theorem advance_done_or_call (answer : Kernel κ) (t : Task α) (c : Controller) (k : κ) :
    (∃ value, (advance answer t c k).1 = .done value) ∨ ∃ call next, (advance answer t c k).1 = .call call next := by
  induction t generalizing c k with
  | done value => exact .inl ⟨value,rfl⟩
  | act action next ih => exact ih _ _ _
  | call call next ih =>
    unfold advance
    cases ha : answer call k with
    | mk reply k =>
      cases reply with
      | none => exact .inr ⟨call,next,rfl⟩
      | some reply => exact ih reply c k

theorem events_perform (action : SharedAction) (c : Controller) :
    (c.perform action).2.events = c.events ++ (TaskStep.act action (c.perform action).1).event?.toList := by
  cases action <;> simp [perform, TaskStep.event?]

theorem events_advance (answer : Kernel κ) (t : Task α) (c : Controller) (k : κ) :
    (advance answer t c k).2.1.events = c.events ++ Steps.events (stepsOf answer t c k) := by
  induction t generalizing c k with
  | done value => simp [advance, stepsOf]
  | act action next ih =>
    rw [stepsOf, Steps.events_cons, ← List.append_assoc, ← events_perform]
    exact ih _ _ _
  | call call next ih =>
    unfold advance stepsOf
    cases ha : answer call k with
    | mk reply k =>
      cases reply with
      | none => simp
      | some reply => simpa [TaskStep.event?] using ih reply c k

theorem jobs_advance (h : ∀ r, .act (.spawn r) () ∉ stepsOf answer t c k) :
    (advance answer t c k).2.1.jobs = c.jobs := by
  induction t generalizing c k with
  | done value => rfl
  | act action next ih =>
    have hjobs : (c.perform action).2.jobs = c.jobs := by
      cases action with
      | spawn r => exact absurd (List.mem_cons_self ..) (h r)
      | tryBegin | advance _ | send _ | lastEntered | enter _ => rfl
    rw [← hjobs]
    exact ih _ (fun r hr => h r (List.mem_cons_of_mem _ hr))
  | call call next ih =>
    unfold advance
    unfold stepsOf at h
    cases ha : answer call k with
    | mk reply k =>
      rw [ha] at h
      cases reply with
      | none => rfl
      | some reply => exact ih reply (fun r hr => h r (by simp [hr]))

theorem trigger_of_idle {c : Controller} (r : RunRequest) (h : c.state = .idle) :
    c.trigger r = (true,{ c with
      state := .probing
      events := c.events ++ [.state .probing]
      jobs := c.jobs ++ [Job.run r] }) := by
  simp only [trigger, Job.trigger_eq, advance, perform_tryBegin_idle h]
  rfl

theorem trigger_of_busy {c : Controller} (r : RunRequest) (h : c.state ≠ .idle) : c.trigger r = (false,c) := by
  simp only [trigger, Job.trigger_eq, advance, perform_tryBegin_busy h]
  rfl

/-- A single run in flight is taken as far as it goes, and stays in flight if it waits. -/
theorem settle_single {job : Task Unit} (h : c.jobs = [job]) :
    settle answer c k = match advance answer job { c with jobs := [] } k with
      | (.done (), c, k) => (c,k)
      | (job, c, k) => ({ c with jobs := c.jobs ++ [job] },k) := by
  rw [settle, h]
  rfl

/-! ## Recorded calls -/

/-- A kernel that keeps a record of the calls that it has answered. -/
def recorded (answer : Kernel κ) : Kernel (κ × List TaskStep) := fun call (k, log) =>
  match answer call k with
  | (none, k) => (none, (k, log))
  | (some reply, k) => (some reply, (k, log ++ [.asked call, .answered call reply]))

theorem advance_recorded (answer : Kernel κ) (t : Task α) (c : Controller) (k : κ) (log : List TaskStep) :
    advance (recorded answer) t c (k,log) = ((advance answer t c k).1, (advance answer t c k).2.1,
      (advance answer t c k).2.2, log ++ (stepsOf answer t c k).filter TaskStep.isKernel) := by
  induction t generalizing c k log with
  | done value => simp [advance, stepsOf]
  | act action next ih =>
    rw [stepsOf, List.filter_cons_of_neg (by simp [TaskStep.isKernel])]
    exact ih _ _ _ _
  | call call next ih =>
    unfold advance stepsOf
    cases ha : answer call k with
    | mk reply k =>
      cases reply with
      | none => simp [recorded, ha]
      | some reply =>
        have hlog : (TaskStep.asked call :: .answered call reply :: stepsOf answer (next reply) c k).filter
            TaskStep.isKernel = .asked call :: .answered call reply ::
              (stepsOf answer (next reply) c k).filter TaskStep.isKernel := rfl
        simp [recorded, ha, ih, hlog]

theorem settle_recorded {job : Task Unit} (h : c.jobs = [job]) (log : List TaskStep) :
    settle (recorded answer) c (k,log) = ((settle answer c k).1, (settle answer c k).2,
      log ++ (stepsOf answer job { c with jobs := [] } k).filter TaskStep.isKernel) := by
  rw [settle_single h, settle_single h, advance_recorded]
  rcases advance answer job { c with jobs := [] } k with ⟨_ | _ | _,c',k'⟩ <;> rfl

end StatementPad.Controller
