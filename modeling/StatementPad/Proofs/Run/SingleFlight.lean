import StatementPad.Proofs.Run.Undisturbed

/-! # One run at a time

Of all runs that were triggered at most one is in flight, whoever triggered them and however their steps
interleave. A run that is in flight comes back to the idle state, whatever the kernel answers, as long as it
answers.
-/
namespace StatementPad.System
open StatementPad.Task
variable {s s' : System} {h h' : List Deed} {i : Nat} {f : Flight}

/-- No deed of another run stands between two deeds of one run. -/
def Apart (deeds : List Deed) : Prop :=
  ∀ d₁ d₂ d₃, [d₁,d₂,d₃].Sublist deeds → d₁.flight = d₃.flight → d₂.flight = d₁.flight

/-! ## Fair runs of the system -/

def IsRun (run : Nat → System × List Deed) : Prop := ∀ n, Next (run n) (run (n + 1))

def Unfinished (f : Flight) : Prop :=
  (∀ accepted, f.caller.task ≠ .done accepted) ∨ ∃ t, f.job = some t ∧ t.task ≠ .done ()

/-- As long as flight `i` has something left to do, it goes on some time: its threads are scheduled, and its
calls to the kernel return. -/
def Fair (run : Nat → System × List Deed) (i : Nat) : Prop :=
  ∀ n f, (run n).1.flights[i]? = some f → Unfinished f →
    ∃ m, n ≤ m ∧ ∃ d, d.flight = i ∧ (run (m + 1)).2 = (run m).2 ++ [d]

theorem Next.inside {d : Deed} (hn : Next (s,h) (s',h')) (he : h' = h ++ [d]) : Inside s d s' := by
  cases hn with
  | deed hd =>
    obtain rfl := List.singleton_inj.mp (List.append_cancel_left he)
    exact hd
  | call r | forget | read => simp at he

/-- A flight stays as it is until it does something. -/
theorem Next.flight_eq (hn : Next (s,h) (s',h')) (hf : s.flights[i]? = some f) :
    s'.flights[i]? = some f ∨ ∃ d, d.flight = i ∧ Inside s d s' := by
  cases hn with
  | @deed _ _ _ d hd =>
    by_cases he : d.flight = i
    · exact .inr ⟨d,he,hd⟩
    · left
      cases hd with
      | caller _ _ | job _ _ _ => exact (List.getElem?_set_ne he).trans hf
  | call r => exact .inl ((List.getElem?_append_left (List.getElem?_eq_some_iff.mp hf).1).trans hf)
  | forget | read => exact .inl hf

theorem Next.reaches {p q : System × List Deed} (hn : Next p q) (hr : Reaches p.1 p.2) : Reaches q.1 q.2 := hr.next hn

section Fair
variable {run : Nat → System × List Deed}

theorem IsRun.reaches (hrun : IsRun run) (hr : Reaches (run 0).1 (run 0).2) (n : Nat) :
    Reaches (run n).1 (run n).2 := by
  induction n with
  | zero => exact hr
  | succ n ih => exact (hrun n).reaches ih

/-- A flight that has something left to do is found by its next step as it is now. -/
theorem Fair.inside (hfair : Fair run i) (hrun : IsRun run) {n : Nat} (hf : (run n).1.flights[i]? = some f)
    (hu : Unfinished f) : ∃ m, n ≤ m ∧ (run m).1.flights[i]? = some f ∧
      ∃ d, d.flight = i ∧ Inside (run m).1 d (run (m + 1)).1 := by
  obtain ⟨m,hm,d,hd,he⟩ := hfair n f hf hu
  obtain ⟨k,rfl⟩ := Nat.exists_eq_add_of_le hm
  clear hm
  induction k generalizing n with
  | zero => exact ⟨n,le_rfl,hf,d,hd,(hrun n).inside he⟩
  | succ k ih =>
    rcases (hrun n).flight_eq hf with hf' | ⟨d',hd'⟩
    · obtain ⟨m,hm,hrest⟩ := ih hf' (by rwa [show n + 1 + k = n + (k + 1) by omega])
      exact ⟨m,by omega,hrest⟩
    · exact ⟨n,le_rfl,hf,d',hd'⟩

theorem Fair.moves (hfair : Fair run i) (hrun : IsRun run) (hr : Reaches (run 0).1 (run 0).2) {n : Nat}
    {t : Thread Unit} (hf : (run n).1.flights[i]? = some f) (hj : f.job = some t) (ht : t.task ≠ .done ()) :
    ∃ m g t' step c, n ≤ m ∧ t.Moves (run m).1.controller step c t' ∧ (run (m + 1)).1.flights[i]? = some g ∧
      g.job = some t' := by
  obtain ⟨m,hm,hfm,d,hd,hin⟩ := hfair.inside hrun hf (.inr ⟨t,hj,ht⟩)
  have hs := (hrun.reaches hr m).sound
  generalize hq : (run (m + 1)).1 = q at hin
  cases hin with
  | @caller i' f' step c t' hf' hmove =>
    obtain rfl := hd
    obtain rfl := Option.some.inj (hf'.symm.trans hfm)
    rw [((hs.stages _ _ hf').of_job hj).1] at hmove
    cases hmove
  | @job i' f' u u' step c hf' hj' hmove =>
    obtain rfl := hd
    obtain rfl := Option.some.inj (hf'.symm.trans hfm)
    obtain rfl := Option.some.inj (hj'.symm.trans hj)
    refine ⟨m,{ f' with job := some u' },u',step,c,hm,hmove,?_,rfl⟩
    rw [hq]
    exact List.getElem?_set_self (List.getElem?_eq_some_iff.mp hf').1

/-- A run that has started comes to its end: each answer leaves less of it to do. -/
theorem Fair.finishes (hfair : Fair run i) (hrun : IsRun run) (hr : Reaches (run 0).1 (run 0).2)
    {task : Task Unit} {waiting : Bool} {n : Nat} (hf : (run n).1.flights[i]? = some f)
    (hj : f.job = some ⟨task,waiting⟩) :
    ∃ m g w, n ≤ m ∧ (run m).1.flights[i]? = some g ∧ g.job = some ⟨.done (),w⟩ := by
  induction task generalizing n f waiting with
  | done value => exact ⟨n,f,waiting,le_rfl,hf,hj⟩
  | act action next ih =>
    obtain ⟨m,g,t',step,c,hm,hmove,hg,hj'⟩ := hfair.moves hrun hr hf hj (by simp)
    cases hmove
    obtain ⟨m',g',w,hm',hrest⟩ := ih _ hg hj'
    exact ⟨m',g',w,by omega,hrest⟩
  | call c next ih =>
    have hanswer {n : Nat} {f : Flight} (hf : (run n).1.flights[i]? = some f)
        (hj : f.job = some ⟨.call c next,true⟩) :
        ∃ m g w, n ≤ m ∧ (run m).1.flights[i]? = some g ∧ g.job = some ⟨.done (),w⟩ := by
      obtain ⟨m,g,t',step,c,hm,hmove,hg,hj'⟩ := hfair.moves hrun hr hf hj (by simp)
      cases hmove
      obtain ⟨m',g',w,hm',hrest⟩ := ih _ hg hj'
      exact ⟨m',g',w,by omega,hrest⟩
    cases waiting with
    | true => exact hanswer hf hj
    | false =>
      obtain ⟨m,g,t',step,c,hm,hmove,hg,hj'⟩ := hfair.moves hrun hr hf hj (by simp)
      cases hmove
      obtain ⟨m',g',w,hm',hrest⟩ := hanswer hg hj'
      exact ⟨m',g',w,by omega,hrest⟩

theorem Fair.caller_moves (hfair : Fair run i) (hrun : IsRun run) {n : Nat}
    (hf : (run n).1.flights[i]? = some f) (hj : f.job = none) (ht : ∀ accepted, f.caller.task ≠ .done accepted) :
    ∃ m t step c, n ≤ m ∧ f.caller.Moves (run m).1.controller step c t ∧ (run (m + 1)).1.flights[i]? =
      some { f with caller := t, job := f.job.or (c.jobs.head?.map fun task => ⟨task,false⟩) } := by
  obtain ⟨m,hm,hfm,d,hd,hin⟩ := hfair.inside hrun hf (.inl ht)
  generalize hq : (run (m + 1)).1 = q at hin
  cases hin with
  | @caller i' f' step c t hf' hmove =>
    obtain rfl := hd
    obtain rfl := Option.some.inj (hf'.symm.trans hfm)
    refine ⟨m,t,step,c,hm,hmove,?_⟩
    rw [hq]
    exact List.getElem?_set_self (List.getElem?_eq_some_iff.mp hf').1
  | @job i' f' u u' step c hf' hj' hmove =>
    obtain rfl := hd
    obtain rfl := Option.some.inj (hf'.symm.trans hfm)
    rw [hj] at hj'
    cases hj'

theorem Fair.starts (hfair : Fair run i) (hrun : IsRun run) (hr : Reaches (run 0).1 (run 0).2) {n : Nat}
    (hf : (run n).1.flights[i]? = some f) (hclaim : .act .tryBegin true ∈ stepsOf (run n).2 i .caller) :
    ∃ m g t, n ≤ m ∧ (run m).1.flights[i]? = some g ∧ g.job = some t := by
  have hreported {n : Nat} {r : RunRequest} (hf : (run n).1.flights[i]? =
      some ⟨r,⟨.act (.spawn r) fun _ => .done true,false⟩,none⟩) :
      ∃ m g t, n ≤ m ∧ (run m).1.flights[i]? = some g ∧ g.job = some t := by
    obtain ⟨m,t,step,c,hm,hmove,hg⟩ := hfair.caller_moves hrun hf rfl (by simp)
    have hjobs := (hrun.reaches hr m).sound.jobs
    cases hmove
    refine ⟨m + 1,_,⟨Job.run r,false⟩,by omega,hg,?_⟩
    simp [Controller.perform, hjobs]
  have hstage := (hrun.reaches hr n).sound.stages i f hf
  generalize stepsOf (run n).2 i .caller = callerSteps at hstage hclaim
  generalize stepsOf (run n).2 i .job = jobSteps at hstage
  cases hstage with
  | fresh r | refused r => simp at hclaim
  | claimed r =>
    obtain ⟨m,t,step,c,hm,hmove,hg⟩ := hfair.caller_moves hrun hf rfl (by simp)
    have hjobs := (hrun.reaches hr m).sound.jobs
    cases hmove
    simp only [Controller.perform, hjobs] at hg
    obtain ⟨m',g,t,hm',hrest⟩ := hreported hg
    exact ⟨m',g,t,by omega,hrest⟩
  | reported r => exact hreported hf
  | running hp => exact ⟨n,_,_,le_rfl,hf,rfl⟩

theorem Sound.returned {w : Bool} (hs : Sound s h) (hf : s.flights[i]? = some f)
    (hj : f.job = some ⟨.done (),w⟩) : .act (.advance .idle) () ∈ stepsOf h i .job := by
  have hp := ((hs.stages i f hf).of_job hj).2
  exact (Job.idle_iff_of_path hp).mp (Job.finished_of_path hp).1

theorem Fair.returns (hfair : Fair run i) (hrun : IsRun run) (hr : Reaches (run 0).1 (run 0).2)
    (hi : InFlight (run 0).2 i) : ∃ n, .act (.advance .idle) () ∈ stepsOf (run n).2 i .job := by
  obtain ⟨f,hf⟩ := hr.sound.flight_of_step hi.1
  obtain ⟨n,g,⟨task,waiting⟩,-,hg,hj⟩ := hfair.starts hrun hr hf hi.1
  obtain ⟨m,g',w,-,hg',hj'⟩ := hfair.finishes hrun hr hg hj
  exact ⟨m,(hrun.reaches hr m).sound.returned hg' hj'⟩

end Fair

/-! ## The property -/

structure SingleFlight (s : System) (h : List Deed) : Prop where
  exclusive : ∀ i j, InFlight h i → InFlight h j → i = j
  idle_iff : s.controller.state = .idle ↔ ∀ i, ¬ InFlight h i
  /-- The calls of different runs to the kernel do not interleave, -/
  apart : Apart (kernelDeeds h)
  /-- and no run calls the kernel while another one waits for it. -/
  kernel : ∀ d s', Inside s d s' → d.step.isKernel = true → d.role = .job ∧ InFlight h d.flight
  waiting : ∀ i f t, s.flights[i]? = some f → f.job = some t → t.waiting = true → InFlight h i
  /-- A claim succeeds exactly in the idle state, and one that fails changes nothing. -/
  claim : ∀ i accepted s', Inside s ⟨i,.caller,.act .tryBegin accepted⟩ s' →
    (accepted = true ↔ s.controller.state = .idle) ∧ (accepted = false → s'.controller = s.controller)
  /-- A call that returns `false` has done nothing but claim in vain, and no run belongs to it. -/
  refused : ∀ i f, s.flights[i]? = some f → f.caller.task = .done false →
    stepsOf h i .caller = [.act .tryBegin false] ∧ stepsOf h i .job = [] ∧ f.job = none
  accepted : ∀ i f, s.flights[i]? = some f → f.caller.task = .done true → .act .tryBegin true ∈ stepsOf h i .caller
  legal : ∀ i next s', Inside s ⟨i,.job,.act (.advance next) ()⟩ s' → s.controller.state.canBecome next = true
  /-- A run that is over has returned, -/
  finished : ∀ i f t, s.flights[i]? = some f → f.job = some t → t.task = .done () →
    .act (.advance .idle) () ∈ stepsOf h i .job
  /-- and every run comes to that if the kernel answers. -/
  returns : ∀ run i, run 0 = (s,h) → IsRun run → Fair run i → InFlight h i →
    ∃ n, .act (.advance .idle) () ∈ stepsOf (run n).2 i .job

/-- A deed of the party that has done all the later ones parts no two deeds of one party. -/
theorem Apart.concat {earlier later : List Deed} {d : Deed} (ha : Apart (earlier ++ later))
    (hear : ∀ e ∈ earlier, e.flight ≠ d.flight) (hlat : ∀ e ∈ later, e.flight = d.flight) :
    Apart (earlier ++ later ++ [d]) := by
  intro d₁ d₂ d₃ hsub he
  obtain ⟨front,back,hsplit,hfront,hback⟩ := List.sublist_append_iff.mp hsub
  rcases List.sublist_singleton.mp hback with rfl | rfl
  · rw [List.append_nil] at hsplit
    exact ha d₁ d₂ d₃ (hsplit ▸ hfront) he
  -- The last one of the three is the new deed, so the first one is one of the later ones.
  · obtain ⟨rfl,hd₃⟩ := List.append_inj' (show [d₁,d₂] ++ [d₃] = front ++ [d] from hsplit) rfl
    obtain rfl := List.singleton_inj.mp hd₃
    obtain ⟨front,back,hsplit,hfront,hback⟩ := List.sublist_append_iff.mp hfront
    cases front with
    | nil =>
      obtain rfl : [d₁,d₂] = back := hsplit
      exact (hlat d₂ (hback.subset (by simp))).trans he.symm
    | cons d front =>
      obtain rfl := (List.cons.inj hsplit).1
      exact absurd he (hear d₁ (hfront.subset (by simp)))

theorem Holds.apart_append {d : Deed} (hh : Holds s h i) (ha : Apart (kernelDeeds h)) (hd : d.flight = i) :
    Apart (kernelDeeds h ++ [d]) := by
  obtain ⟨earlier,later,hk,hear,hlat⟩ := hh.kernel
  rw [hk] at ha ⊢
  subst hd
  exact ha.concat hear fun e he => (hlat e he).1

theorem Reaches.apart (hr : Reaches s h) : Apart (kernelDeeds h) := by
  induction hr with
  | start => exact fun d₁ d₂ d₃ hsub => by simp [kernelDeeds] at hsub
  | @next s s' h h' hr hn ih =>
    cases hn with
    | @deed _ _ _ d hd =>
      obtain ⟨i,role,step⟩ := d
      rw [kernelDeeds_append]
      split
      next hk =>
        have hh := hr.sound.holds_of_inFlight (hr.sound.kernel_inside hd hk).2
        exact hh.apart_append ih rfl
      next => rwa [List.append_nil]
    | call r | forget | read => exact ih

theorem Sound.idle_iff (hs : Sound s h) : s.controller.state = .idle ↔ ∀ i, ¬ InFlight h i := by
  constructor
  · intro hidle i hi
    exact (hs.holds_of_inFlight hi).busy hs hidle
  · intro hnone
    rcases hs.held with ⟨hidle,-⟩ | ⟨i,hi⟩
    · exact hidle
    · exact absurd hi.inFlight (hnone i)

theorem Sound.inFlight_of_waiting {t : Thread Unit} (hs : Sound s h) (hf : s.flights[i]? = some f)
    (hj : f.job = some t) (hw : t.waiting = true) : InFlight h i := by
  have hp := ((hs.stages i f hf).of_job hj).2
  rw [hw] at hp
  exact hs.inFlight_of_busy hf hj (Job.busy_of_waiting hp)

theorem Sound.claim {accepted : Bool} (hs : Sound s h) (hd : Inside s ⟨i,.caller,.act .tryBegin accepted⟩ s') :
    (accepted = true ↔ s.controller.state = .idle) ∧ (accepted = false → s'.controller = s.controller) := by
  generalize he : TaskStep.act .tryBegin accepted = step at hd
  cases hd with
  | @caller _ f _ c t hf hm =>
    obtain ⟨r,u,job⟩ := f
    cases hm with
    | @act action next =>
      cases he
      by_cases hidle : s.controller.state = .idle
      · rw [Controller.perform_tryBegin_idle hidle]
        exact ⟨iff_of_true rfl hidle,fun hf => by cases hf⟩
      · rw [Controller.perform_tryBegin_busy hidle]
        exact ⟨iff_of_false (by simp) hidle,fun _ => hs.controller_eq⟩
    | asked | answered answer => cases he

theorem Stage.refused_of_done {callerSteps jobSteps : List TaskStep} (hs : Stage f callerSteps jobSteps)
    (hc : f.caller.task = .done false) : callerSteps = [.act .tryBegin false] ∧ jobSteps = [] ∧ f.job = none := by
  cases hs with
  | fresh r | claimed r | reported r | running hp => cases hc
  | refused r => exact ⟨rfl,rfl,rfl⟩

theorem Stage.accepted_of_done {callerSteps jobSteps : List TaskStep} (hs : Stage f callerSteps jobSteps)
    (hc : f.caller.task = .done true) : .act .tryBegin true ∈ callerSteps := by
  cases hs with
  | fresh r | claimed r | reported r | refused r => cases hc
  | running hp => simp

theorem Sound.legal {next : RunState} (hs : Sound s h) (hd : Inside s ⟨i,.job,.act (.advance next) ()⟩ s') :
    s.controller.state.canBecome next = true := by
  obtain ⟨f,hf,hlawful,hbusy⟩ := hs.lawful hd
  rw [(hs.holds_of_inFlight (hbusy hlawful.1.1)).state]
  exact hlawful.1.2

theorem single_flight (hr : Reaches s h) : SingleFlight s h := by
  have hs := hr.sound
  refine ⟨?_,hs.idle_iff,hr.apart,fun d s' hd hk => hs.kernel_inside hd hk,?_,?_,?_,?_,?_,?_,?_⟩
  · intro i j hi hj
    exact (hs.holds_of_inFlight hj).only i hi
  · intro i f t hf hj hw
    exact hs.inFlight_of_waiting hf hj hw
  · intro i accepted s' hd
    exact hs.claim hd
  · intro i f hf hc
    exact (hs.stages i f hf).refused_of_done hc
  · intro i f hf hc
    exact (hs.stages i f hf).accepted_of_done hc
  · intro i next s' hd
    exact hs.legal hd
  · rintro i f ⟨task,w⟩ hf hj ht
    obtain rfl : task = .done () := ht
    exact hs.returned hf hj
  · intro run i h0 hrun hfair hi
    exact hfair.returns hrun (by rw [h0]; exact hr) (by rw [h0]; exact hi)

/-- The second of two calls comes while the run of the first one is in flight. -/
theorem single_flight_twoCalls : ∃ s h, Reaches s h ∧ InFlight h 0 ∧ stepsOf h 1 .caller = [.act .tryBegin false] ∧
    SingleFlight s h := by
  have hr := (Reaches.start.accept rfl oneLine).refuse (by decide) oneLine
  exact ⟨_,_,hr,⟨by simp [stepsOf],by simp [stepsOf]⟩,by simp [stepsOf],single_flight hr⟩

end StatementPad.System
