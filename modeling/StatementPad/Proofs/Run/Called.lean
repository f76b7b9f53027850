import StatementPad.Proofs.Run.Controller
import StatementPad.Proofs.Run.Told

/-! # What a run calls the kernel for

A run has source compiled until its probe is over. Then it goes to its directory, unless its buffer was entered last,
and calls the kernel once to run the block. A run that loses the kernel on the way to its directory runs nothing.
-/
namespace StatementPad
open StatementPad.Task

namespace TaskStep

def call? : TaskStep → Option KernelCall
  | asked c => some c
  | act .. | answered .. => none

/-- The buffer that has been entered last. -/
def enteredAfter (e : Option BufferId) : TaskStep → Option BufferId
  | act (.enter buffer) _ => some buffer
  | _ => e

def reports : TaskStep → Bool
  | act (.advance _) _ | act (.send _) _ => true
  | _ => false

end TaskStep

namespace Steps
variable {steps more : List TaskStep} {e : Option BufferId}

def calls (steps : List TaskStep) : List KernelCall := steps.filterMap TaskStep.call?

def entered (steps : List TaskStep) (e : Option BufferId) : Option BufferId := steps.foldl TaskStep.enteredAfter e

/-- Whoever asks for the buffer that has been entered last is told it, `e` at first. -/
def Remember : Option BufferId → List TaskStep → Prop
  | _, [] => True
  | e, step :: steps => (∀ answer, step = .act .lastEntered answer → answer = e) ∧ Remember (step.enteredAfter e) steps

@[simp] theorem entered_append (e : Option BufferId) : entered (steps ++ more) e = entered more (entered steps e) :=
  List.foldl_append

@[simp] theorem remember_append : Remember e (steps ++ more) ↔ Remember e steps ∧ Remember (entered steps e) more := by
  induction steps generalizing e with
  | nil => exact (and_iff_right trivial).symm
  | cons step steps ih => simp only [List.cons_append, Remember, ih, and_assoc]; rfl

theorem entered_reports (h : ∀ step ∈ steps, step.reports = true) : entered steps e = e := by
  induction steps with
  | nil => rfl
  | cons step steps ih =>
    obtain ⟨hstep,hsteps⟩ := List.forall_mem_cons.mp h
    cases step with
    | asked call | answered call answer => cases hstep
    | act action answer =>
      cases action with
      | advance next | send event => exact ih hsteps
      | tryBegin | spawn r | lastEntered | enter buffer => cases hstep

theorem kernel_reports (h : ∀ step ∈ steps, step.reports = true) : steps.filter TaskStep.isKernel = [] := by
  refine List.filter_eq_nil_iff.mpr fun step hstep => ?_
  have hr := h step hstep
  cases step with
  | act action answer => simp [TaskStep.isKernel]
  | asked call | answered call answer => cases hr

/-- What is read off the exchanges with the kernel is not changed by leaving out the rest. -/
theorem filterMap_kernel {β : Type} {f : TaskStep → Option β} (hf : ∀ action answer, f (.act action answer) = none)
    (steps : List TaskStep) : (steps.filter TaskStep.isKernel).filterMap f = steps.filterMap f := by
  rw [List.filterMap_filter]
  refine List.filterMap_congr fun step _ => ?_
  cases step with
  | act action answer => exact (hf action answer).symm
  | asked call | answered call answer => rfl

theorem runs_filter (steps : List TaskStep) : runs (steps.filter TaskStep.isKernel) = runs steps :=
  filterMap_kernel (fun _ _ => rfl) steps

theorem outcomes_filter (steps : List TaskStep) : outcomes (steps.filter TaskStep.isKernel) = outcomes steps :=
  filterMap_kernel (fun _ _ => rfl) steps

end Steps

namespace Job
open StatementPad.Probe
variable {r : RunRequest} {e : Option BufferId} {past steps : List TaskStep} {p : Probe} {block : CodeBlock}
  {d : Dispatch}

/-! ## To the directory -/

/-- The steps on the way to the directory of a buffer when `e` was entered last, and what they come to. -/
inductive Entering (r : RunRequest) : Option BufferId → List TaskStep → Except Fault Unit → Prop where
  | already : Entering r (some r.buffer) [.act .lastEntered (some r.buffer)] (.ok ())
  | nowhere {e : Option BufferId} (he : e ≠ some r.buffer) (hdir : r.workingDir = none) :
      Entering r e [.act .lastEntered e, .act (.enter r.buffer) ()] (.ok ())
  | moved {e : Option BufferId} {dir : Text} {reply : Except Fault Unit} (he : e ≠ some r.buffer)
      (hdir : r.workingDir = some dir) (hreply : ∀ fault, reply = .error fault → fault.isFatal = false) :
      Entering r e [.act .lastEntered e, .asked (.setWorkingDir dir), .answered (.setWorkingDir dir) reply,
        .act (.enter r.buffer) ()] (.ok ())
  | lost {e : Option BufferId} {dir : Text} {fault : Fault} (he : e ≠ some r.buffer)
      (hdir : r.workingDir = some dir) (hfatal : fault.isFatal = true) :
      Entering r e [.act .lastEntered e, .asked (.setWorkingDir dir),
        .answered (.setWorkingDir dir) (.error fault)] (.error fault)

theorem meets_enterBuffer_entering : Meets (fun _ _ => True) (fun result steps => ∃ e moves, steps = past ++ moves ∧
    Entering r e moves result) past (enterBuffer r) := by
  simp only [enterBuffer, enterBuffer.enter, meets_bind, meets_lastEntered, true_and]
  intro e
  split
  next he =>
    subst he
    exact ⟨_,_,rfl,.already⟩
  next he =>
    split
    next hdir =>
      simp only [meets_bind, meets_enter, true_and]
      exact ⟨_,_,List.append_assoc ..,.nowhere he hdir⟩
    next dir hdir =>
      simp only [meets_bind, meets_setWorkingDir, true_and, List.append_assoc, List.cons_append, List.nil_append]
      intro reply
      rcases reply with fault | _
      · dsimp only
        split
        next hfatal => exact ⟨_,_,rfl,.lost he hdir hfatal⟩
        next hfatal =>
          simp only [meets_bind, meets_enter, true_and]
          refine ⟨_,_,List.append_assoc ..,.moved he hdir ?_⟩
          intro fault' he'
          cases he'
          simpa using hfatal
      · simp only [meets_bind, meets_enter, true_and]
        exact ⟨_,_,List.append_assoc ..,.moved he hdir (by simp)⟩

/-! ## What follows the probe -/

def abandoned (r : RunRequest) (block : CodeBlock) (fault : Fault) : List TaskStep :=
  [.act (.send (.paint r.buffer block.codeLines .error)) (), .act (.send (.aborted r.buffer fault.message)) ()] ++
    stateSteps .idle

inductive Concluded (r : RunRequest) : Except Fault Probe → List TaskStep → Prop where
  | unreached {found : Except Fault Probe} {steps : List TaskStep} (hfound : ∀ p, found = .ok p → p.dispatched? = none)
      (hsteps : ∀ step ∈ steps, step.reports = true) : Concluded r found steps
  | ran {p : Probe} {block : CodeBlock} {d : Dispatch} {e : Option BufferId} {lead moves rest : List TaskStep}
      (hp : p.dispatched? = some (block,d)) (hlead : ∀ step ∈ lead, step.reports = true)
      (hmoves : Entering r e moves (.ok ())) (result : Except Fault Outcome)
      (hrest : ∀ step ∈ rest, step.reports = true) : Concluded r (.ok p) (lead ++ moves ++
        [.asked (d.kernelCall r.filename block), d.answered r.filename block result] ++ rest)
  | lost {p : Probe} {block : CodeBlock} {d : Dispatch} {e : Option BufferId} {lead moves : List TaskStep}
      {fault : Fault} (hp : p.dispatched? = some (block,d)) (hlead : ∀ step ∈ lead, step.reports = true)
      (hmoves : Entering r e moves (.error fault)) : Concluded r (.ok p) (lead ++ moves ++ abandoned r block fault)

def Dispatched (r : RunRequest) (found : Except Fault Probe) (result : Except Fault Unit) (steps : List TaskStep) :
    Prop :=
  Concluded r found <| match result with
    | .ok () => steps ++ stateSteps .idle
    | .error fault => steps ++ [.act (.send (.aborted r.buffer fault.message)) ()] ++ stateSteps .idle

theorem meets_runBlock_called (hp : p.dispatched? = some (block,d)) :
    Meets (fun _ _ => True) (Dispatched r (.ok p)) [] (runBlock r block d) := by
  simp only [runBlock, meets_bind, meets_setState, meets_send, true_and]
  refine meets_moveCursor trivial ?_
  refine (?_ : ∀ lead, (∀ step ∈ lead, step.reports = true) → Meets _ _ lead (enterBuffer r)) _ ?_
  · intro lead hlead
    refine meets_enterBuffer_entering.mono (fun _ _ h => h) ?_
    rintro entering _ ⟨e,moves,rfl,hmoves⟩
    cases entering with
    | error fault =>
      simp only [runBlock.abandon, meets_bind, meets_send, meets_pure, true_and]
      have hlost := Concluded.lost hp hlead hmoves
      simpa [Dispatched, abandoned] using hlost
    | ok _ =>
      simp only [meets_bind, meets_call, true_and]
      intro result
      have hran (rest : List TaskStep) (hrest : ∀ step ∈ rest, step.reports = true) :=
        Concluded.ran hp hlead hmoves result hrest
      cases result with
      | error fault =>
        simp only [runBlock.abandon, meets_bind, meets_send, meets_pure, true_and]
        simpa [Dispatched, abandoned] using hran (abandoned r block fault) (by simp [abandoned, TaskStep.reports])
      | ok outcome =>
        simp only [meets_bind, meets_setState, meets_send, meets_pure, true_and]
        have hreported := hran (stateSteps (if outcome.isError then .error else .success) ++
          [.act (.send (.paint r.buffer block.codeLines (if outcome.isError then .error else .finished))) (),
            .act (.send (.finished r.buffer block.codeLines outcome)) ()] ++ stateSteps .idle)
          (by simp [TaskStep.reports])
        simpa [Dispatched] using hreported
  · simp [or_imp, forall_and, TaskStep.reports]

theorem meets_reject_called {outcome : Outcome} (hp : p.dispatched? = none) :
    Meets (fun _ _ => True) (fun _ steps => Dispatched r (.ok p) (.ok ()) steps) [] (reject r block outcome) := by
  simp only [reject, meets_bind, meets_setState, meets_send, true_and]
  refine meets_moveCursor trivial ?_
  refine .unreached (by simp [hp]) ?_
  simp [or_imp, forall_and, TaskStep.reports]

theorem meets_dispatch_called (found : Except Fault Probe) :
    Meets (fun _ _ => True) (Dispatched r found) [] (dispatch r found) := by
  rcases found with fault | p
  · exact .unreached (by simp) (by simp [TaskStep.reports])
  · cases p with
    | empty | outside =>
      rw [dispatch, meets_bind, meets_send]
      exact ⟨trivial,.unreached (by simp [dispatched?]) (by simp [TaskStep.reports])⟩
    | invalid block report | incomplete block =>
      rw [dispatch, meets_bind]
      exact meets_reject_called rfl
    | exhausted block | ready block expression => exact meets_runBlock_called rfl

theorem meets_conclude_called (found : Except Fault Probe) :
    Meets (fun _ _ => True) (fun _ steps => Concluded r found steps) [] (conclude r found) := by
  rw [conclude, meets_bind]
  refine (meets_dispatch_called found).mono (fun _ _ h => h) ?_
  intro result steps h
  cases result with
  | ok _ => exact meets_setState.mpr ⟨trivial,trivial,h⟩
  | error fault =>
    simp only [meets_bind, meets_send, meets_setState, true_and]
    exact h

/-! ## The whole run -/

/-- The exchanges of a run with the kernel when `e` was entered last: those of its probe, then those for the directory
and the block. At the end the buffer `after` is the one that was entered last. -/
inductive Visited (r : RunRequest) (e : Option BufferId) (compiled steps : List TaskStep) :
    Except Fault Probe → Option BufferId → Prop where
  /-- There is no block to run. -/
  | unreached {found : Except Fault Probe} (hfound : ∀ p, found = .ok p → p.dispatched? = none)
      (hkernel : steps.filter TaskStep.isKernel = compiled) : Visited r e compiled steps found e
  /-- There is nowhere to go. -/
  | stayed {p : Probe} {block : CodeBlock} {d : Dispatch} (hp : p.dispatched? = some (block,d))
      (he : e = some r.buffer ∨ r.workingDir = none) (result : Except Fault Outcome)
      (hkernel : steps.filter TaskStep.isKernel = compiled ++
        [.asked (d.kernelCall r.filename block), d.answered r.filename block result]) :
      Visited r e compiled steps (.ok p) (some r.buffer)
  | moved {p : Probe} {block : CodeBlock} {d : Dispatch} {dir : Text} {reply : Except Fault Unit}
      (hp : p.dispatched? = some (block,d)) (he : e ≠ some r.buffer) (hdir : r.workingDir = some dir)
      (hreply : ∀ fault, reply = .error fault → fault.isFatal = false) (result : Except Fault Outcome)
      (hkernel : steps.filter TaskStep.isKernel = compiled ++
        [.asked (.setWorkingDir dir), .answered (.setWorkingDir dir) reply,
          .asked (d.kernelCall r.filename block), d.answered r.filename block result]) :
      Visited r e compiled steps (.ok p) (some r.buffer)
  /-- The kernel is lost on the way, and the block does not run. -/
  | lost {p : Probe} {block : CodeBlock} {d : Dispatch} {dir : Text} {fault : Fault}
      (hp : p.dispatched? = some (block,d)) (he : e ≠ some r.buffer) (hdir : r.workingDir = some dir)
      (hfatal : fault.isFatal = true)
      (hkernel : steps.filter TaskStep.isKernel = compiled ++
        [.asked (.setWorkingDir dir), .answered (.setWorkingDir dir) (.error fault)])
      (hevents : ∃ told, Steps.events steps = told ++
        [.paint r.buffer block.codeLines .error, .aborted r.buffer fault.message, .state .idle]) :
      Visited r e compiled steps (.ok p) e

theorem Visited.kernel_prefix {compiled : List TaskStep} {found : Except Fault Probe} {after : Option BufferId}
    (h : Visited r e compiled steps found after) : compiled <+: steps.filter TaskStep.isKernel := by
  cases h with
  | unreached _ hkernel => exact hkernel ▸ List.prefix_refl compiled
  | stayed _ _ _ hkernel | moved _ _ _ _ _ hkernel | lost _ _ _ _ hkernel => exact hkernel ▸ List.prefix_append ..

def Visits (r : RunRequest) (e : Option BufferId) (steps : List TaskStep) (after : Option BufferId) : Prop :=
  ∃ found trials, Probes r r.requireInside steps found ∧ Finding r.snapshot r.selection r.mode
    (if r.requireInside then some r.selection.cursor else none) trials found ∧
      Visited r e (trials.flatMap (trialSteps r.filename)) steps found after

theorem kernel_trials (filename : Text) (trials : List Trial) :
    (trials.flatMap (trialSteps filename)).filter TaskStep.isKernel = trials.flatMap (trialSteps filename) := by
  rw [List.filter_eq_self]
  intro step hstep
  obtain ⟨trial,-,hstep⟩ := List.mem_flatMap.mp hstep
  simp only [trialSteps, List.mem_cons, List.not_mem_nil, or_false] at hstep
  rcases hstep with rfl | rfl <;> rfl

theorem entered_trials (filename : Text) (trials : List Trial) :
    Steps.entered (trials.flatMap (trialSteps filename)) e = e := by
  induction trials with
  | nil => rfl
  | cons trial trials ih =>
    rw [List.flatMap_cons, Steps.entered_append]
    exact ih

theorem Dispatch.kernel_answered (filename : Text) (block : CodeBlock) (d : Dispatch) (result : Except Fault Outcome) :
    [TaskStep.asked (d.kernelCall filename block), d.answered filename block result].filter TaskStep.isKernel =
        [.asked (d.kernelCall filename block), d.answered filename block result] ∧
      Steps.entered [.asked (d.kernelCall filename block), d.answered filename block result] e = e := by
  cases d <;> exact ⟨rfl,rfl⟩

/-- The buffer that is remembered is the one that was entered last. -/
theorem Entering.remembered {e' : Option BufferId} {moves : List TaskStep} {result : Except Fault Unit}
    (h : Entering r e' moves result) (hr : Steps.Remember e moves) : e' = e := by
  cases h <;> exact hr.1 _ rfl

theorem visited_of_concluded {found : Except Fault Probe} {probing rest : List TaskStep} (h : Concluded r found rest)
    (hkernel : probing.filter TaskStep.isKernel = probing) (hentered : Steps.entered probing e = e)
    (hr : Steps.Remember e (probing ++ rest)) :
    Visited r e probing (probing ++ rest) found (Steps.entered (probing ++ rest) e) := by
  rw [Steps.entered_append, hentered]
  cases h with
  | unreached hfound hsteps =>
    rw [Steps.entered_reports hsteps]
    exact .unreached hfound (by rw [List.filter_append, hkernel, Steps.kernel_reports hsteps, List.append_nil])
  | @ran p block d e' lead moves rest hp hlead hmoves result hrest =>
    simp only [Steps.remember_append, hentered, Steps.entered_reports hlead] at hr
    obtain rfl := hmoves.remembered hr.2.1.1.2
    obtain ⟨hcall,hstays⟩ := d.kernel_answered (e := Steps.entered moves e') r.filename block result
    simp only [Steps.entered_append, Steps.entered_reports hlead, Steps.entered_reports hrest, hstays]
    have hall {middle : List TaskStep} (hmiddle : moves.filter TaskStep.isKernel = middle) :
        (probing ++ (lead ++ moves ++ [.asked (d.kernelCall r.filename block), d.answered r.filename block result] ++
          rest)).filter TaskStep.isKernel =
        probing ++ (middle ++ [.asked (d.kernelCall r.filename block), d.answered r.filename block result]) := by
      simp only [List.filter_append, hkernel, hmiddle, hcall, Steps.kernel_reports hlead, Steps.kernel_reports hrest,
        List.nil_append, List.append_nil]
    cases hmoves with
    | already => exact .stayed hp (.inl rfl) result (hall rfl)
    | nowhere he hdir => exact .stayed hp (.inr hdir) result (hall rfl)
    | moved he hdir hreply => exact .moved hp he hdir hreply result (hall rfl)
  | @lost p block d e' lead moves fault hp hlead hmoves =>
    simp only [Steps.remember_append, hentered, Steps.entered_reports hlead] at hr
    obtain rfl := hmoves.remembered hr.2.1.2
    cases hmoves with
    | lost he hdir hfatal =>
      simp only [Steps.entered_append, Steps.entered_reports hlead]
      refine .lost hp he hdir hfatal ?_ ⟨Steps.events (probing ++ lead),?_⟩
      · simp only [List.filter_append, hkernel, Steps.kernel_reports hlead, List.nil_append]
        rfl
      · simp [abandoned, TaskStep.event?]

structure Passed (r : RunRequest) (e : Option BufferId) (steps : List TaskStep) (found : Except Fault Probe)
    (trials : List Trial) : Prop where
  probe : Path (find r.snapshot r.filename r.selection r.mode r.requireInside)
    (trials.flatMap (trialSteps r.filename)) (.done found) false
  rest : ∃ rest, steps = trials.flatMap (trialSteps r.filename) ++ rest
  finding : Finding r.snapshot r.selection r.mode (if r.requireInside then some r.selection.cursor else none) trials
    found
  visited : Visited r e (trials.flatMap (trialSteps r.filename)) steps found (Steps.entered steps e)
  told : ∃ told, Told r found (Steps.outcomes steps) told ∧ Steps.events steps = told ++ [.state .idle]

theorem exists_passed (hp : Path (run r) steps (.done ()) false) (hr : Steps.Remember e steps) :
    ∃ found trials, Passed r e steps found trials := by
  rw [run_eq] at hp
  obtain ⟨found,probing,rest,rfl,hprobe,hrest⟩ := hp.done_bind
  have hc : Compiles (fun _ _ => True) r.filename [] := fun _ _ _ => ⟨trivial,trivial⟩
  obtain ⟨trials,hsteps,hfinding⟩ : Finds _ _ _ _ _ _ found probing :=
    hprobe.meetsAt (meets_find r.requireInside hc)
  obtain rfl : probing = trials.flatMap (trialSteps r.filename) := hsteps
  obtain ⟨told,htold,hevents⟩ := hrest.meetsAt (meets_conclude r found)
  refine ⟨found,trials,hprobe,⟨rest,rfl⟩,hfinding,?_,told,?_,?_⟩
  · exact visited_of_concluded (hrest.meetsAt (meets_conclude_called found)) (kernel_trials r.filename trials)
      (entered_trials r.filename trials) hr
  · rwa [Steps.outcomes_append, outcomes_trials, List.nil_append]
  · rw [Steps.events_append, (probed_trials r.filename trials).events, hevents, List.nil_append]

theorem visits_of_path (hp : Path (run r) steps (.done ()) false) (hr : Steps.Remember e steps) :
    Visits r e steps (Steps.entered steps e) := by
  obtain ⟨found,trials,h⟩ := exists_passed hp hr
  obtain ⟨rest,hsteps⟩ := h.rest
  exact ⟨found,trials,⟨_,rest,hsteps,h.probe⟩,h.finding,h.visited⟩

end Job
end StatementPad
