import StatementPad.Proofs.Run.Controller
import StatementPad.Proofs.Run.Job

/-! # Runs that share a controller

Any number of callers trigger runs, and their steps and the steps of the runs come in any order. A deed is a
step together with who takes it. The controller is idle exactly if no run is in flight, and as long as one is,
only that run changes the state or calls the kernel.
-/
namespace StatementPad
open StatementPad.Task

structure Thread (α : Type) where
  task : Task α
  /-- The kernel has been called and has not answered yet. -/
  waiting : Bool := false

inductive Thread.Moves {α : Type} (c : Controller) : Thread α → TaskStep → Controller → Thread α → Prop where
  | act {action : SharedAction} {next : action.Answer → Task α} :
      Moves c ⟨.act action next,false⟩ (.act action (c.perform action).1) (c.perform action).2
        ⟨next (c.perform action).1,false⟩
  | asked {call : KernelCall} {next : call.Answer → Task α} :
      Moves c ⟨.call call next,false⟩ (.asked call) c ⟨.call call next,true⟩
  | answered {call : KernelCall} {next : call.Answer → Task α} (answer : call.Answer) :
      Moves c ⟨.call call next,true⟩ (.answered call answer) c ⟨next answer,false⟩

theorem Task.Path.moves {α : Type} {t : Task α} {steps : List TaskStep} {u v : Thread α} {step : TaskStep}
    {c c' : Controller} (hp : Path t steps u.task u.waiting) (hm : u.Moves c step c' v) :
    Path t (steps ++ [step]) v.task v.waiting := by
  cases hm with
  | act => exact hp.act _
  | asked => exact hp.asked
  | answered answer => exact hp.answered answer

structure Flight where
  request : RunRequest
  caller : Thread Bool
  job : Option (Thread Unit) := none

def Flight.call (r : RunRequest) : Flight := ⟨r, ⟨Job.trigger r, false⟩, none⟩

structure System where
  controller : Controller := {}
  flights : List Flight := []

inductive Role where
  | caller
  | job
  deriving DecidableEq, Repr

structure Deed where
  flight : Nat
  role : Role
  step : TaskStep

namespace System

/-- One thread takes one step. A run that a caller has spawned becomes a thread of its own. -/
inductive Inside : System → Deed → System → Prop where
  | caller {s : System} {i : Nat} {f : Flight} {step : TaskStep} {c : Controller} {t : Thread Bool}
      (hf : s.flights[i]? = some f) (hm : f.caller.Moves s.controller step c t) :
      Inside s ⟨i,.caller,step⟩
        ⟨{ c with jobs := [] },
          s.flights.set i { f with caller := t, job := f.job.or (c.jobs.head?.map fun task => ⟨task,false⟩) }⟩
  | job {s : System} {i : Nat} {f : Flight} {t t' : Thread Unit} {step : TaskStep} {c : Controller}
      (hf : s.flights[i]? = some f) (hj : f.job = some t) (hm : t.Moves s.controller step c t') :
      Inside s ⟨i,.job,step⟩ ⟨c,s.flights.set i { f with job := some t' }⟩

/-- What can happen next, with the deeds so far: a thread takes a step, someone calls, the interpreter is
started again, or someone reads the events. -/
inductive Next : System × List Deed → System × List Deed → Prop where
  | deed {s s' : System} {h : List Deed} {d : Deed} (hd : Inside s d s') : Next (s,h) (s',h ++ [d])
  | call {s : System} {h : List Deed} (r : RunRequest) : Next (s,h) ({ s with flights := s.flights ++ [.call r] },h)
  | forget {s : System} {h : List Deed} : Next (s,h) ({ s with controller := s.controller.forgetWorkingDir },h)
  | read {s : System} {h : List Deed} : Next (s,h) ({ s with controller := s.controller.takeEvents.2 },h)

inductive Reaches : System → List Deed → Prop where
  | start : Reaches {} []
  | next {s s' : System} {h h' : List Deed} (hr : Reaches s h) (hn : Next (s,h) (s',h')) : Reaches s' h'

def stepsOf (h : List Deed) (i : Nat) (role : Role) : List TaskStep :=
  (h.filter fun d => d.flight = i ∧ d.role = role).map Deed.step

/-- A run is in flight from its claim to its return to the idle state. -/
def InFlight (h : List Deed) (i : Nat) : Prop :=
  .act .tryBegin true ∈ stepsOf h i .caller ∧ .act (.advance .idle) () ∉ stepsOf h i .job

def kernelDeeds (h : List Deed) : List Deed := h.filter fun d => d.step.isKernel

section History
variable {h : List Deed} {i j : Nat} {role role' : Role} {step : TaskStep}

@[simp] theorem stepsOf_append_self : stepsOf (h ++ [⟨i,role,step⟩]) i role = stepsOf h i role ++ [step] := by
  simp [stepsOf]

theorem stepsOf_append_of_ne (hne : i ≠ j ∨ role ≠ role') :
    stepsOf (h ++ [⟨i,role,step⟩]) j role' = stepsOf h j role' := by
  have hd : ¬(i = j ∧ role = role') := fun he => hne.elim (· he.1) (· he.2)
  simp [stepsOf, hd]

theorem kernelDeeds_append : kernelDeeds (h ++ [⟨i,role,step⟩]) =
    kernelDeeds h ++ if step.isKernel then [⟨i,role,step⟩] else [] := by
  cases hk : step.isKernel <;> simp [kernelDeeds, hk]

theorem inFlight_append_of_ne (hne : i ≠ j) : InFlight (h ++ [⟨i,role,step⟩]) j ↔ InFlight h j := by
  rw [InFlight, InFlight, stepsOf_append_of_ne (.inl hne), stepsOf_append_of_ne (.inl hne)]

theorem inFlight_append (hclaim : step ≠ .act .tryBegin true) (hreturn : step ≠ .act (.advance .idle) ()) :
    InFlight (h ++ [⟨i,role,step⟩]) j ↔ InFlight h j := by
  rcases eq_or_ne i j with rfl | hne
  · cases role with
    | caller =>
      rw [InFlight, InFlight, stepsOf_append_self, stepsOf_append_of_ne (.inr (by decide)), List.mem_append,
        List.mem_singleton, or_iff_left hclaim.symm]
    | job =>
      rw [InFlight, InFlight, stepsOf_append_self, stepsOf_append_of_ne (.inr (by decide)), List.mem_append,
        List.mem_singleton, or_iff_left hreturn.symm]
  · exact inFlight_append_of_ne hne

end History

/-! ## The invariant -/

/-- How far a flight has come, and the steps that have brought it there. -/
inductive Stage : Flight → List TaskStep → List TaskStep → Prop where
  | fresh (r : RunRequest) : Stage (.call r) [] []
  | refused (r : RunRequest) : Stage ⟨r,⟨.done false,false⟩,none⟩ [.act .tryBegin false] []
  | claimed (r : RunRequest) :
      Stage ⟨r,⟨.act (.send (.state .probing)) fun _ => .act (.spawn r) fun _ => .done true,false⟩,none⟩
        [.act .tryBegin true] []
  | reported (r : RunRequest) :
      Stage ⟨r,⟨.act (.spawn r) fun _ => .done true,false⟩,none⟩
        [.act .tryBegin true, .act (.send (.state .probing)) ()] []
  | running {r : RunRequest} {u : Thread Unit} {steps : List TaskStep}
      (hp : Path (Job.run r) steps u.task u.waiting) :
      Stage ⟨r,⟨.done true,false⟩,some u⟩
        [.act .tryBegin true, .act (.send (.state .probing)) (), .act (.spawn r) ()] steps

/-- The state and the kernel are those of run `i`. -/
structure Holds (s : System) (h : List Deed) (i : Nat) : Prop where
  inFlight : InFlight h i
  only : ∀ j, InFlight h j → j = i
  state : s.controller.state = Steps.state (stepsOf h i .job) .probing
  /-- Since its first call no other run has called the kernel. -/
  kernel : ∃ earlier later, kernelDeeds h = earlier ++ later ∧ (∀ d ∈ earlier, d.flight ≠ i) ∧
    ∀ d ∈ later, d.flight = i ∧ d.role = .job

structure Sound (s : System) (h : List Deed) : Prop where
  jobs : s.controller.jobs = []
  stages : ∀ i f, s.flights[i]? = some f → Stage f (stepsOf h i .caller) (stepsOf h i .job)
  known : ∀ d ∈ h, d.flight < s.flights.length
  held : (s.controller.state = .idle ∧ ∀ i, ¬ InFlight h i) ∨ ∃ i, Holds s h i

theorem Stage.state_idle_iff {f : Flight} {callerSteps jobSteps : List TaskStep} (hs : Stage f callerSteps jobSteps) :
    Steps.state jobSteps .probing = .idle ↔ .act (.advance .idle) () ∈ jobSteps := by
  cases hs with
  | fresh r | refused r | claimed r | reported r => simp
  | running hp => exact Job.idle_iff_of_path hp

/-- A run starts when its caller is done, and its steps are a path of it. -/
theorem Stage.of_job {f : Flight} {callerSteps jobSteps : List TaskStep} {t : Thread Unit}
    (hs : Stage f callerSteps jobSteps) (hj : f.job = some t) :
    f.caller = ⟨.done true,false⟩ ∧ Path (Job.run f.request) jobSteps t.task t.waiting := by
  cases hs with
  | fresh r | refused r | claimed r | reported r => cases hj
  | running hp =>
    cases hj
    exact ⟨rfl,hp⟩

section Sound
variable {s s' : System} {h : List Deed} {i : Nat} {f : Flight}

theorem stepsOf_eq_nil (hk : ∀ d ∈ h, d.flight ≠ i) (role : Role) : stepsOf h i role = [] := by
  rw [stepsOf, List.map_eq_nil_iff, List.filter_eq_nil_iff]
  intro d hd
  simp [hk d hd]

theorem Sound.inFlight_of_busy {t : Thread Unit} (hs : Sound s h) (hf : s.flights[i]? = some f)
    (hj : f.job = some t) (hbusy : Steps.state (stepsOf h i .job) .probing ≠ .idle) : InFlight h i := by
  have hstage := hs.stages i f hf
  rw [Ne, hstage.state_idle_iff] at hbusy
  refine ⟨?_,hbusy⟩
  generalize stepsOf h i .caller = callerSteps at hstage ⊢
  generalize stepsOf h i .job = jobSteps at hstage
  cases hstage with
  | fresh r | refused r | claimed r | reported r => cases hj
  | running hp => simp

theorem Sound.start : Sound {} [] where
  jobs := rfl
  stages i f hf := by simp at hf
  known d hd := by simp at hd
  held := .inl ⟨rfl,fun i hi => by simp [InFlight, stepsOf] at hi⟩

theorem Sound.busy_of_inFlight (hs : Sound s h) (hf : s.flights[i]? = some f) (hi : InFlight h i) :
    Steps.state (stepsOf h i .job) .probing ≠ .idle := by
  rw [Ne, (hs.stages i f hf).state_idle_iff]
  exact hi.2

theorem Sound.controller_eq (hs : Sound s h) : { s.controller with jobs := [] } = s.controller := by
  obtain ⟨⟨state,entered,events,jobs⟩,flights⟩ := s
  obtain rfl : jobs = [] := hs.jobs
  rfl

theorem Sound.flight_of_step {role : Role} {step : TaskStep} (hs : Sound s h) (hstep : step ∈ stepsOf h i role) :
    ∃ f, s.flights[i]? = some f := by
  obtain ⟨d,hd,-⟩ := List.mem_map.mp hstep
  obtain ⟨hmem,hdi⟩ := List.mem_filter.mp hd
  obtain rfl : d.flight = i := (of_decide_eq_true hdi).1
  exact ⟨_,List.getElem?_eq_getElem (hs.known d hmem)⟩

theorem Holds.busy (hs : Sound s h) (hh : Holds s h i) : s.controller.state ≠ .idle := by
  obtain ⟨f,hf⟩ := hs.flight_of_step hh.inFlight.1
  rw [hh.state]
  exact hs.busy_of_inFlight hf hh.inFlight

theorem Sound.holds_of_inFlight (hs : Sound s h) (hi : InFlight h i) : Holds s h i := by
  rcases hs.held with ⟨-,hnone⟩ | ⟨j,hj⟩
  · exact absurd hi (hnone i)
  · rw [hj.only i hi]
    exact hj

/-- A step that is no claim and leaves the state alone changes nothing, if only the holder calls the kernel. -/
theorem Sound.held_quiet {role : Role} {step : TaskStep} (hs : Sound s h) (hclaim : step ≠ .act .tryBegin true)
    (hsame : ∀ s, step.stateAfter s = s) (hkernel : step.isKernel = true → role = .job ∧ InFlight h i)
    (hstate : s'.controller.state = s.controller.state) :
    (s'.controller.state = .idle ∧ ∀ j, ¬ InFlight (h ++ [⟨i,role,step⟩]) j) ∨
      ∃ j, Holds s' (h ++ [⟨i,role,step⟩]) j := by
  have hflight (j : Nat) : InFlight (h ++ [⟨i,role,step⟩]) j ↔ InFlight h j :=
    inFlight_append hclaim (fun he => by cases he ▸ hsame .probing)
  rcases hs.held with ⟨hidle,hnone⟩ | ⟨j,hj⟩
  · exact .inl ⟨hstate.trans hidle,fun k hk => hnone k ((hflight k).mp hk)⟩
  · refine .inr ⟨j,(hflight j).mpr hj.inFlight,fun k hk => hj.only k ((hflight k).mp hk),?_,?_⟩
    · rw [hstate, hj.state]
      by_cases he : i = j ∧ role = .job
      · obtain ⟨rfl,rfl⟩ := he
        rw [stepsOf_append_self, Steps.state_append]
        exact (hsame _).symm
      · rw [stepsOf_append_of_ne (by tauto)]
    · obtain ⟨earlier,later,he,hear,hlat⟩ := hj.kernel
      rw [kernelDeeds_append, he, List.append_assoc]
      refine ⟨earlier,_,rfl,hear,fun d hd => ?_⟩
      rcases List.mem_append.mp hd with hd | hd
      · exact hlat d hd
      · split at hd
        next hk =>
          obtain rfl := List.mem_singleton.mp hd
          exact ⟨hj.only i (hkernel hk).2,(hkernel hk).1⟩
        next => cases hd

theorem Sound.known_append {role : Role} {step : TaskStep} (hs : Sound s h) (hf : s.flights[i]? = some f)
    (g : Flight) : ∀ d ∈ h ++ [⟨i,role,step⟩], d.flight < (s.flights.set i g).length := by
  intro d hd
  rw [List.length_set]
  rcases List.mem_append.mp hd with hd | hd
  · exact hs.known d hd
  · obtain rfl := List.mem_singleton.mp hd
    exact (List.getElem?_eq_some_iff.mp hf).1

theorem Sound.stages_append {role : Role} {step : TaskStep} {g : Flight} (hs : Sound s h)
    (hg : Stage g (stepsOf (h ++ [⟨i,role,step⟩]) i .caller) (stepsOf (h ++ [⟨i,role,step⟩]) i .job)) :
    ∀ j f', (s.flights.set i g)[j]? = some f' →
      Stage f' (stepsOf (h ++ [⟨i,role,step⟩]) j .caller) (stepsOf (h ++ [⟨i,role,step⟩]) j .job) := by
  intro j f' hf'
  rcases eq_or_ne i j with rfl | hne
  · rw [List.getElem?_set_self'] at hf'
    obtain ⟨_,-,rfl⟩ := Option.map_eq_some_iff.mp hf'
    exact hg
  · rw [List.getElem?_set_ne hne] at hf'
    rw [stepsOf_append_of_ne (.inl hne), stepsOf_append_of_ne (.inl hne)]
    exact hs.stages j f' hf'

theorem Sound.held_claim (hs : Sound s h) (hidle : s.controller.state = .idle)
    (hc : stepsOf h i .caller = []) (hj : stepsOf h i .job = []) (hstate : s'.controller.state = .probing) :
    Holds s' (h ++ [⟨i,.caller,.act .tryBegin true⟩]) i := by
  have hnone : ∀ j, ¬ InFlight h j := by
    rcases hs.held with ⟨-,hnone⟩ | ⟨j,hj⟩
    · exact hnone
    · exact absurd hidle (hj.busy hs)
  have hjob : stepsOf (h ++ [⟨i,.caller,.act .tryBegin true⟩]) i .job = [] := by
    rw [stepsOf_append_of_ne (.inr (by decide)), hj]
  refine ⟨⟨by simp,by simp [hjob]⟩,?_,by rw [hstate, hjob]; rfl,kernelDeeds h,[],?_,?_,by simp⟩
  · intro j hj
    by_contra hne
    exact hnone j ((inFlight_append_of_ne (Ne.symm hne)).mp hj)
  · simp [kernelDeeds_append, TaskStep.isKernel]
  · intro d hd hdi
    have hmem : d.step ∈ stepsOf h i d.role :=
      List.mem_map.mpr ⟨d,List.mem_filter.mpr ⟨(List.mem_filter.mp hd).1,by simp [hdi]⟩,rfl⟩
    cases hr : d.role with
    | caller => simp [hr, hc] at hmem
    | job => simp [hr, hj] at hmem

theorem Stage.caller {callerSteps jobSteps : List TaskStep} {step : TaskStep} {c c' : Controller} {t : Thread Bool}
    (hs : Stage f callerSteps jobSteps) (hjobs : c.jobs = []) (hm : f.caller.Moves c step c' t) :
    Stage { f with caller := t, job := f.job.or (c'.jobs.head?.map fun task => ⟨task,false⟩) }
      (callerSteps ++ [step]) jobSteps := by
  cases hs with
  | fresh r =>
    rw [Flight.call, Job.trigger_eq] at hm
    cases hm
    by_cases hidle : c.state = .idle
    · rw [Controller.perform_tryBegin_idle hidle]
      dsimp only
      rw [hjobs]
      exact .claimed r
    · rw [Controller.perform_tryBegin_busy hidle]
      dsimp only
      rw [hjobs]
      exact .refused r
  | refused r => cases hm
  | claimed r =>
    cases hm
    simp only [Controller.perform, hjobs]
    exact .reported r
  | reported r =>
    cases hm
    simp only [Controller.perform, hjobs]
    exact .running .start
  | running hp => cases hm

theorem Sound.held_caller {step : TaskStep} {c : Controller} {t : Thread Bool} (hs : Sound s h)
    (hf : s.flights[i]? = some f) (hm : f.caller.Moves s.controller step c t)
    (hstate : s'.controller.state = c.state) :
    (s'.controller.state = .idle ∧ ∀ j, ¬ InFlight (h ++ [⟨i,.caller,step⟩]) j) ∨
      ∃ j, Holds s' (h ++ [⟨i,.caller,step⟩]) j := by
  have hstage := hs.stages i f hf
  generalize hc : stepsOf h i .caller = callerSteps at hstage
  generalize hj : stepsOf h i .job = jobSteps at hstage
  cases hstage with
  | fresh r =>
    rw [Flight.call, Job.trigger_eq] at hm
    cases hm
    by_cases hidle : s.controller.state = .idle
    · rw [Controller.perform_tryBegin_idle hidle] at hstate ⊢
      exact .inr ⟨i,hs.held_claim hidle hc hj hstate⟩
    · rw [Controller.perform_tryBegin_busy hidle] at hstate ⊢
      have hclaim : TaskStep.act .tryBegin false ≠ .act .tryBegin true := by simp
      exact hs.held_quiet hclaim (fun _ => rfl) (fun hk => by cases hk) hstate
  | refused r => cases hm
  | claimed r | reported r =>
    cases hm
    exact hs.held_quiet (by simp) (fun _ => rfl) (by simp [TaskStep.isKernel]) hstate
  | running hp => cases hm

theorem Sound.caller {step : TaskStep} {c : Controller} {t : Thread Bool} (hs : Sound s h)
    (hf : s.flights[i]? = some f) (hm : f.caller.Moves s.controller step c t) :
    Sound ⟨{ c with jobs := [] },
      s.flights.set i { f with caller := t, job := f.job.or (c.jobs.head?.map fun task => ⟨task,false⟩) }⟩
      (h ++ [⟨i,.caller,step⟩]) := by
  have hstage := (hs.stages i f hf).caller hs.jobs hm
  refine ⟨rfl,hs.stages_append ?_,hs.known_append hf _,hs.held_caller hf hm rfl⟩
  rwa [stepsOf_append_self, stepsOf_append_of_ne (.inr (by decide))]

/-- A lawful step of a run changes the state as it says and starts no other run. -/
theorem moves_of_orderly {t t' : Thread Unit} {step : TaskStep} {c c' : Controller} {past : List TaskStep}
    (hm : t.Moves c step c' t') (ho : Job.Orderly past step) :
    c'.jobs = c.jobs ∧ c'.state = step.stateAfter c.state := by
  cases hm with
  | @act action next => cases action <;> first | exact ⟨rfl,rfl⟩ | exact ho.elim
  | asked | answered answer => exact ⟨rfl,rfl⟩

theorem Sound.held_advance {next : RunState} (hs : Sound s h) (hi : InFlight h i)
    (hstate : s'.controller.state = next) :
    (s'.controller.state = .idle ∧ ∀ j, ¬ InFlight (h ++ [⟨i,.job,.act (.advance next) ()⟩]) j) ∨
      ∃ j, Holds s' (h ++ [⟨i,.job,.act (.advance next) ()⟩]) j := by
  have hh := hs.holds_of_inFlight hi
  by_cases he : next = .idle
  · subst he
    refine .inl ⟨hstate,fun j hj => ?_⟩
    rcases eq_or_ne i j with rfl | hne
    · exact hj.2 (by simp)
    · exact hne (hh.only j ((inFlight_append_of_ne hne).mp hj)).symm
  · have hflight (j : Nat) : InFlight (h ++ [⟨i,.job,.act (.advance next) ()⟩]) j ↔ InFlight h j :=
      inFlight_append (by simp) (by simpa using he)
    refine .inr ⟨i,(hflight i).mpr hi,fun j hj => hh.only j ((hflight j).mp hj),?_,?_⟩
    · rw [hstate, stepsOf_append_self, Steps.state_append]
      rfl
    · simpa [kernelDeeds_append, TaskStep.isKernel] using hh.kernel

theorem Sound.job {step : TaskStep} {c : Controller} {t t' : Thread Unit} (hs : Sound s h)
    (hf : s.flights[i]? = some f) (hj : f.job = some t) (hm : t.Moves s.controller step c t') :
    Sound ⟨c,s.flights.set i { f with job := some t' }⟩ (h ++ [⟨i,.job,step⟩]) := by
  have hstage := hs.stages i f hf
  have hcaller : stepsOf (h ++ [⟨i,.job,step⟩]) i .caller = stepsOf h i .caller :=
    stepsOf_append_of_ne (.inr (by decide))
  generalize hc : stepsOf h i .caller = callerSteps at hstage hcaller
  generalize hjs : stepsOf h i .job = jobSteps at hstage
  cases hstage with
  | fresh r | refused r | claimed r | reported r => cases hj
  | @running r u _ hp =>
    cases hj
    have hp' := hp.moves hm
    have ho : Job.Orderly jobSteps step := (Job.lawful_of_path hp' rfl).1
    obtain ⟨hjobs,hstate⟩ := moves_of_orderly hm ho
    have hbusy (hne : Steps.state jobSteps .probing ≠ .idle) : InFlight h i := by
      refine ⟨by simp [hc],?_⟩
      rw [hjs, ← Job.idle_iff_of_path hp]
      exact hne
    refine ⟨hjobs.trans hs.jobs,hs.stages_append ?_,hs.known_append hf _,?_⟩
    · rw [hcaller, stepsOf_append_self, hjs]
      exact .running hp'
    · cases step with
      | asked call | answered call answer =>
        exact hs.held_quiet (by simp) (fun _ => rfl) (fun _ => ⟨rfl,hbusy ho⟩) hstate
      | act action answer =>
        cases action with
        | advance next => exact hs.held_advance (hbusy ho.1) hstate
        | tryBegin | spawn _ => exact ho.elim
        | send _ | lastEntered | enter _ =>
          exact hs.held_quiet (by simp) (fun _ => rfl) (fun hk => by cases hk) hstate

theorem Sound.next {h' : List Deed} (hs : Sound s h) (hn : Next (s,h) (s',h')) : Sound s' h' := by
  cases hn with
  | deed hd =>
    cases hd with
    | caller hf hm => exact hs.caller hf hm
    | job hf hj hm => exact hs.job hf hj hm
  | call r =>
    refine ⟨hs.jobs,fun i f hf => ?_,fun d hd => ?_,?_⟩
    · rcases Nat.lt_or_ge i s.flights.length with hlt | hge
      · rw [List.getElem?_append_left hlt] at hf
        exact hs.stages i f hf
      · rw [List.getElem?_append_right hge, List.getElem?_singleton] at hf
        split at hf
        next =>
          cases hf
          rw [stepsOf_eq_nil, stepsOf_eq_nil]
          · exact .fresh r
          all_goals exact fun d hd => Nat.ne_of_lt ((hs.known d hd).trans_le hge)
        next => cases hf
    · simpa using (hs.known d hd).trans (Nat.lt_succ_self _)
    · exact hs.held.imp id fun ⟨i,hi⟩ => ⟨i,hi.inFlight,hi.only,hi.state,hi.kernel⟩
  | forget | read =>
    exact ⟨hs.jobs,hs.stages,hs.known,hs.held.imp id fun ⟨i,hi⟩ => ⟨i,hi.inFlight,hi.only,hi.state,hi.kernel⟩⟩

theorem Reaches.sound (hr : Reaches s h) : Sound s h := by
  induction hr with
  | start => exact .start
  | next _ hn ih => exact ih.next hn

theorem Sound.path_of_ne_nil (hs : Sound s h) (hne : stepsOf h i .job ≠ []) :
    ∃ (f : Flight) (t : Thread Unit), s.flights[i]? = some f ∧
      Path (Job.run f.request) (stepsOf h i .job) t.task t.waiting := by
  obtain ⟨step,hstep⟩ := List.exists_mem_of_ne_nil _ hne
  obtain ⟨f,hf⟩ := hs.flight_of_step hstep
  have hstage := hs.stages i f hf
  generalize stepsOf h i .caller = callerSteps at hstage
  generalize stepsOf h i .job = jobSteps at hstage hne
  cases hstage with
  | fresh r | refused r | claimed r | reported r => exact absurd rfl hne
  | running hp => exact ⟨_,_,hf,hp⟩

/-- A step of a run is lawful, and the run is in flight unless it has become idle before. -/
theorem Sound.lawful {step : TaskStep} (hs : Sound s h) (hd : Inside s ⟨i,.job,step⟩ s') :
    ∃ f, s.flights[i]? = some f ∧ Job.Lawful f.request (stepsOf h i .job) step ∧
      (Steps.state (stepsOf h i .job) .probing ≠ .idle → InFlight h i) := by
  cases hd with
  | @job _ f t t' _ c hf hj hm =>
    have hstage := hs.stages i f hf
    have hp := (hstage.of_job hj).2
    exact ⟨f,hf,Job.lawful_of_path (hp.moves hm) rfl,fun hbusy => hs.inFlight_of_busy hf hj hbusy⟩

theorem Stage.caller_act {callerSteps jobSteps : List TaskStep} {step : TaskStep} {c c' : Controller}
    {t : Thread Bool} (hs : Stage f callerSteps jobSteps) (hm : f.caller.Moves c step c' t) :
    step.isKernel = false := by
  cases hs with
  | fresh r =>
    rw [Flight.call, Job.trigger_eq] at hm
    cases hm
    rfl
  | claimed r | reported r =>
    cases hm
    rfl
  | refused r | running hp => cases hm

/-- Only the run in flight calls the kernel. -/
theorem Sound.kernel_inside {d : Deed} (hs : Sound s h) (hd : Inside s d s') (hk : d.step.isKernel = true) :
    d.role = .job ∧ InFlight h d.flight := by
  obtain ⟨i,role,step⟩ := d
  cases role with
  | job =>
    obtain ⟨f,-,hlawful,hbusy⟩ := hs.lawful hd
    refine ⟨rfl,hbusy ?_⟩
    cases step with
    | act action answer => cases hk
    | asked call | answered call answer => exact hlawful.1
  | caller =>
    cases hd with
    | caller hf hm => simp [(hs.stages i _ hf).caller_act hm] at hk

end Sound
end System
end StatementPad
