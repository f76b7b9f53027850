import StatementPad.Proofs.Run.Narrated

/-! # Events of successive runs

A run first becomes idle and then tells so, in two steps, and between them someone else can claim the idle state
and tell of it. If that never happens, the states that are told are a path of the states that a run can take, and
the events of one run come without an event of another run between them.
-/
namespace StatementPad
open StatementPad.Task

theorem RunState.idle_of_canBecome_probing {s : RunState} (h : s.canBecome .probing = true) : s = .idle := by
  cases s <;> first | rfl | cases h

namespace RunEvent

def state? : RunEvent → Option RunState
  | state s => some s
  | paint .. | clearMarker _ | moveCursor .. | finished .. | aborted .. => none

/-- The state that was told last, or `s` if none was. -/
def lastState (s : RunState) (events : List RunEvent) : RunState := events.foldl (fun s event => event.state?.getD s) s

def LegalFrom (s : RunState) (events : List RunEvent) : Prop :=
  List.IsChain (fun before after => before.canBecome after = true) (s :: events.filterMap state?)

instance (s : RunState) (events : List RunEvent) : Decidable (LegalFrom s events) :=
  inferInstanceAs (Decidable (List.IsChain _ _))

variable {s : RunState} {events more : List RunEvent}

@[simp] theorem lastState_nil : lastState s [] = s := rfl

@[simp] theorem lastState_cons (event : RunEvent) :
    lastState s (event :: events) = lastState (event.state?.getD s) events := rfl

@[simp] theorem lastState_append : lastState s (events ++ more) = lastState (lastState s events) more :=
  List.foldl_append

theorem lastState_ne_idle (hs : s ≠ .idle) (h : .state .idle ∉ events) : lastState s events ≠ .idle := by
  induction events generalizing s with
  | nil => exact hs
  | cons event events ih =>
    obtain ⟨hne,hrest⟩ := not_or.mp (mt List.mem_cons.mpr h)
    refine ih ?_ hrest
    cases event with
    | state t => exact fun ht => hne (congrArg RunEvent.state ht.symm)
    | paint | clearMarker | moveCursor | finished | aborted => exact hs

@[simp] theorem legalFrom_nil : LegalFrom s [] := .singleton s

@[simp] theorem legalFrom_cons (event : RunEvent) : LegalFrom s (event :: events) ↔
    (∀ t ∈ event.state?, s.canBecome t = true) ∧ LegalFrom (event.state?.getD s) events := by
  cases event <;> simp [LegalFrom, state?, List.filterMap_cons]

theorem legalFrom_append : LegalFrom s (events ++ more) ↔ LegalFrom s events ∧ LegalFrom (lastState s events) more := by
  induction events generalizing s with
  | nil => simp
  | cons event events ih => rw [List.cons_append, legalFrom_cons, legalFrom_cons, ih, lastState_cons, and_assoc]

/-- If the last of some events are those of one run, a cut falls among these exactly if a run is on at the cut and
no run is told to be over after it. -/
theorem lastState_busy_iff {before after first rest : List RunEvent}
    (he : before ++ after = first ++ .state .probing :: rest) (hfirst : lastState .idle first = .idle)
    (hrest : .state .idle ∉ rest) :
    lastState .idle before ≠ .idle ∧ .state .idle ∉ after ↔ first.length < before.length := by
  rcases append_eq_append_cons he with ⟨between,rfl,rfl⟩ | ⟨between,rfl,rfl⟩
  · rw [List.mem_append, not_or] at hrest
    refine iff_of_true ⟨?_,hrest.2⟩ (by simp)
    rw [lastState_append, lastState_cons]
    exact lastState_ne_idle (by simp [state?]) hrest.1
  · refine iff_of_false (fun ⟨hbusy,hnone⟩ => ?_) (by simp)
    rw [lastState_append] at hfirst
    exact lastState_ne_idle hbusy (fun hm => hnone (List.mem_append_left _ hm)) hfirst

end RunEvent

namespace Job
open StatementPad.RunEvent
variable {r : RunRequest} {found : Except Fault Probe} {outcomes : List Outcome} {told : List RunEvent}
  {steps : List TaskStep} {u : Task Unit} {waiting : Bool}

theorem legalFrom_moved (s : RunState) (r : RunRequest) (line : Nat) :
    LegalFrom s (moved r line) ∧ lastState s (moved r line) = s := by
  unfold moved
  split <;> simp [RunEvent.state?]

theorem Told.legal (h : Told r found outcomes told) : LegalFrom .probing (told ++ [.state .idle]) := by
  cases h <;> simp [shown, legalFrom_append, legalFrom_moved, RunEvent.state?, RunState.canBecome]

theorem Told.not_idle (h : Told r found outcomes told) : .state .idle ∉ told := by
  cases h <;> simp [shown, state_idle_not_mem_moved]

/-- What a run has told is the beginning of what it tells in the end. -/
theorem exists_told_of_path (hp : Path (run r) steps u waiting) : ∃ found outcomes told rest,
    Told r found outcomes told ∧ Steps.events steps ++ rest = told ++ [.state .idle] := by
  obtain ⟨more,value,hwhole⟩ := hp.completes
  obtain ⟨found,probing,rest,he,hparted⟩ := exists_parted (bind_done _).symm hwhole
  obtain ⟨told,htold,hevents⟩ := hparted.whole
  rw [← he, Steps.events_append] at hevents
  exact ⟨found,_,told,_,htold,hevents⟩

theorem legal_of_path (hp : Path (run r) steps u waiting) : LegalFrom .probing (Steps.events steps) := by
  obtain ⟨found,outcomes,told,rest,htold,he⟩ := exists_told_of_path hp
  exact (legalFrom_append.mp (he ▸ htold.legal)).1

/-- Nothing is told after the idle state. -/
theorem idle_not_mem_of_path {event : RunEvent} (hp : Path (run r) (steps ++ [.act (.send event) ()]) u waiting) :
    .state .idle ∉ Steps.events steps := by
  obtain ⟨found,outcomes,told,rest,htold,he⟩ := exists_told_of_path hp
  have hsplit : told ++ [.state .idle] = Steps.events steps ++ event :: rest := by
    rw [← he]
    simp [TaskStep.event?]
  rcases append_eq_append_cons hsplit with ⟨between,rfl,-⟩ | ⟨between,hbefore,hlast⟩
  · exact fun hm => htold.not_idle (List.mem_append_left _ hm)
  · obtain rfl : between = [] := by
      cases between with
      | nil => rfl
      | cons first between => simp at hlast
    rw [hbefore, List.append_nil]
    exact htold.not_idle

end Job

theorem Thread.Moves.events {α : Type} {c c' : Controller} {u v : Thread α} {step : TaskStep}
    (hm : u.Moves c step c' v) : c'.events = c.events ++ step.event?.toList := by
  cases hm with
  | @act action next => cases action <;> simp [Controller.perform, TaskStep.event?]
  | asked | answered answer => simp [TaskStep.event?]

namespace System
open StatementPad.RunEvent
variable {s s' : System} {h : List Deed} {i j : Nat} {f : Flight} {d : Deed} {event : RunEvent}

def told (h : List Deed) : List RunEvent := Steps.events (h.map Deed.step)

def eventDeeds (h : List Deed) : List Deed := h.filter fun d => d.step.event?.isSome

/-- What the caller of flight `i` or its run has told. -/
def toldAs (h : List Deed) (i : Nat) (role : Role) : List RunEvent := Steps.events (stepsOf h i role)

def Telling (h : List Deed) (i : Nat) : Prop :=
  .state .probing ∈ toldAs h i .caller ∧ .state .idle ∉ toldAs h i .job

instance (h : List Deed) (i : Nat) : Decidable (Telling h i) := inferInstanceAs (Decidable (_ ∧ _))

/-- Run `i` is idle again and has not told so. -/
def Owing (h : List Deed) (i : Nat) : Prop :=
  .act (.advance .idle) () ∈ stepsOf h i .job ∧ .state .idle ∉ toldAs h i .job

/-- Some caller has told that it is probing while a run owed the news that it was idle. -/
def Crossed (h : List Deed) : Prop :=
  ∃ before d after, h = before ++ d :: after ∧ d.role = .caller ∧ d.step.event? = some (.state .probing) ∧
    ∃ j, Owing before j

section History

@[simp] theorem told_append (more : List Deed) : told (h ++ more) = told h ++ told more := by simp [told]

@[simp] theorem told_singleton : told [d] = d.step.event?.toList := by simp [told]

@[simp] theorem eventDeeds_append (more : List Deed) : eventDeeds (h ++ more) = eventDeeds h ++ eventDeeds more :=
  List.filter_append ..

@[simp] theorem eventDeeds_singleton : eventDeeds [d] = if d.step.event?.isSome then [d] else [] := by
  cases he : d.step.event?.isSome <;> simp [eventDeeds, he]

theorem told_eventDeeds (h : List Deed) : told (eventDeeds h) = told h := by
  induction h using List.reverseRecOn with
  | nil => rfl
  | append_singleton h d ih =>
    rw [eventDeeds_append, eventDeeds_singleton, told_append, told_append, ih]
    cases he : d.step.event? <;> simp [he, told]

theorem map_event_eventDeeds (h : List Deed) : (eventDeeds h).map (fun d => d.step.event?) = (told h).map some := by
  induction h using List.reverseRecOn with
  | nil => rfl
  | append_singleton h d ih =>
    rw [eventDeeds_append, eventDeeds_singleton, told_append, told_singleton, List.map_append, List.map_append, ih]
    cases he : d.step.event? <;> simp [he]

theorem length_told (h : List Deed) : (told h).length = (eventDeeds h).length := by
  simpa using (congrArg List.length (map_event_eventDeeds h)).symm

theorem exists_of_told {n : Nat} (he : (told h)[n]? = some event) :
    ∃ d, (eventDeeds h)[n]? = some d ∧ d.step.event? = some event := by
  have hmap := congrArg (·[n]?) (map_event_eventDeeds h)
  simp only [List.getElem?_map, he, Option.map_some] at hmap
  exact Option.map_eq_some_iff.mp hmap

/-- What has been done before an event was told. -/
theorem exists_before_of_eventDeeds {n : Nat} (hd : (eventDeeds h)[n]? = some d) :
    ∃ before after, h = before ++ d :: after ∧ (eventDeeds before).length = n := by
  induction h using List.reverseRecOn with
  | nil => simp [eventDeeds] at hd
  | append_singleton h e ih =>
    rw [eventDeeds_append, eventDeeds_singleton] at hd
    rcases Nat.lt_or_ge n (eventDeeds h).length with hn | hn
    · rw [List.getElem?_append_left hn] at hd
      obtain ⟨before,after,rfl,hlen⟩ := ih hd
      exact ⟨before,after ++ [e],by simp,hlen⟩
    · rw [List.getElem?_append_right hn] at hd
      split at hd
      next =>
        rw [List.getElem?_singleton] at hd
        split at hd
        next hzero =>
          cases hd
          exact ⟨h,[],rfl,by omega⟩
        next => cases hd
      next => simp at hd

theorem toldAs_append {role : Role} : toldAs (h ++ [d]) j role =
    toldAs h j role ++ if d.flight = j ∧ d.role = role then d.step.event?.toList else [] := by
  obtain ⟨i,role',step⟩ := d
  dsimp only
  split
  next he =>
    obtain ⟨rfl,rfl⟩ := he
    simp [toldAs]
  next he => rw [toldAs, stepsOf_append_of_ne (by tauto), List.append_nil, toldAs]

theorem flight_ne_of_silent (hsilent : ∀ role, toldAs h i role = []) : ∀ d ∈ eventDeeds h, d.flight ≠ i := by
  intro d hd hdi
  obtain ⟨hmem,hevent⟩ := List.mem_filter.mp hd
  obtain ⟨event,hevent⟩ := Option.isSome_iff_exists.mp hevent
  have hstep : d.step ∈ stepsOf h i d.role := List.mem_map.mpr ⟨d,List.mem_filter.mpr ⟨hmem,by simp [hdi]⟩,rfl⟩
  have hin : event ∈ toldAs h i d.role := List.mem_filterMap.mpr ⟨d.step,hstep,hevent⟩
  simp [hsilent] at hin

theorem crossed_append : Crossed (h ++ [d]) ↔
    Crossed h ∨ d.role = .caller ∧ d.step.event? = some (.state .probing) ∧ ∃ j, Owing h j := by
  constructor
  · rintro ⟨before,e,after,he,hcross⟩
    obtain ⟨rfl,rfl,-⟩ | ⟨after,he,-⟩ := snoc_eq_append_cons he
    · exact .inr hcross
    · exact .inl ⟨before,e,after,he,hcross⟩
  · rintro (⟨before,e,after,rfl,hcross⟩ | hcross)
    · exact ⟨before,e,after ++ [d],by simp,hcross⟩
    · exact ⟨h,d,[],rfl,hcross⟩

theorem Crossed.append (hc : Crossed h) (more : List Deed) : Crossed (h ++ more) := by
  obtain ⟨before,e,after,rfl,hcross⟩ := hc
  exact ⟨before,e,after ++ more,by simp,hcross⟩

end History

/-! ## What a step tells -/

/-- Whatever is told goes to the end of the events that wait to be read. -/
theorem Inside.events (hd : Inside s d s') :
    s'.controller.events = s.controller.events ++ d.step.event?.toList := by
  cases hd with
  | caller hf hm | job hf hj hm => exact hm.events

/-- All that a caller tells is that it is probing, after its claim and before its run. -/
theorem Stage.of_caller_event {callerSteps jobSteps : List TaskStep} {step : TaskStep} {c c' : Controller}
    {t : Thread Bool} (hs : Stage f callerSteps jobSteps) (hm : f.caller.Moves c step c' t)
    (he : step.event? = some event) :
    event = .state .probing ∧ callerSteps = [.act .tryBegin true] ∧ jobSteps = [] := by
  cases hs with
  | fresh r =>
    rw [Flight.call, Job.trigger_eq] at hm
    cases hm
    cases he
  | claimed r =>
    cases hm
    exact ⟨(Option.some.inj he).symm,rfl,rfl⟩
  | reported r =>
    cases hm
    cases he
  | refused r | running hp => cases hm

/-- A run that has taken a step has been told of. -/
theorem Stage.told_of_job {callerSteps jobSteps : List TaskStep} (hs : Stage f callerSteps jobSteps)
    (hj : f.job.isSome ∨ jobSteps ≠ []) : Steps.events callerSteps = [.state .probing] := by
  cases hs with
  | fresh r | refused r | claimed r | reported r => simp [Flight.call] at hj
  | running hp => rfl

theorem Sound.telling_of_owing (hs : Sound s h) (ho : Owing h j) : Telling h j := by
  have hne := List.ne_nil_of_mem ho.1
  obtain ⟨f,-,hf,-⟩ := hs.path_of_ne_nil hne
  exact ⟨by simp [toldAs, (hs.stages j f hf).told_of_job (.inr hne)],ho.2⟩

/-- A caller that has told of its run has claimed the idle state, and told nothing else. -/
theorem Sound.claimed_of_told (hs : Sound s h) (ht : .state .probing ∈ toldAs h j .caller) :
    .act .tryBegin true ∈ stepsOf h j .caller ∧ toldAs h j .caller = [.state .probing] := by
  obtain ⟨step,hstep,-⟩ := List.mem_filterMap.mp ht
  obtain ⟨f,hf⟩ := hs.flight_of_step hstep
  have hstage := hs.stages j f hf
  rw [toldAs] at ht ⊢
  generalize stepsOf h j .caller = callerSteps at hstage ht ⊢
  generalize stepsOf h j .job = jobSteps at hstage
  cases hstage with
  | fresh r | refused r | claimed r => simp [TaskStep.event?] at ht
  | reported r | running hp => exact ⟨by simp,rfl⟩

theorem Sound.inFlight_of_telling (hs : Sound s h) (ht : Telling h j) (hpaid : ¬ Owing h j) : InFlight h j :=
  ⟨(hs.claimed_of_told ht.1).1,fun hreturn => hpaid ⟨hreturn,ht.2⟩⟩

/-- As long as a run is in flight, it has not told that it is idle. -/
theorem Sound.not_told_idle (hs : Sound s h) (hi : InFlight h i) : .state .idle ∉ toldAs h i .job := by
  by_cases hne : stepsOf h i .job = []
  · simp [toldAs, hne]
  · obtain ⟨f,t,-,hp⟩ := hs.path_of_ne_nil hne
    exact Job.not_mem_events_of_busy hp fun hidle => hi.2 ((Job.idle_iff_of_path hp).mp hidle)

/-! ## The invariant -/

structure Speaks (h : List Deed) (i : Nat) : Prop where
  telling : Telling h i
  only : ∀ j, Telling h j → j = i
  last : lastState .idle (told h) = lastState .probing (toldAs h i .job)
  /-- Since its first event no other run has told anything. -/
  recent : ∃ earlier later, eventDeeds h = earlier ++ later ∧ (∀ d ∈ earlier, d.flight ≠ i) ∧
    ∀ d ∈ later, d.flight = i

structure InOrder (h : List Deed) : Prop where
  legal : LegalFrom .idle (told h)
  uncrossed : ¬ Crossed h
  apart : Apart (eventDeeds h)
  held : (lastState .idle (told h) = .idle ∧ ∀ i, ¬ Telling h i) ∨ ∃ i, Speaks h i

namespace InOrder

theorem start : InOrder [] where
  legal := legalFrom_nil
  uncrossed := by simp [Crossed]
  apart d₁ d₂ d₃ hsub := by simp [eventDeeds] at hsub
  held := .inl ⟨rfl,fun i hi => by simp [Telling, toldAs, stepsOf] at hi⟩

theorem speaks (ho : InOrder h) (hi : Telling h i) : Speaks h i := by
  rcases ho.held with ⟨-,hnone⟩ | ⟨j,hj⟩
  · exact absurd hi (hnone i)
  · rwa [hj.only i hi]

theorem lastState_idle_iff (ho : InOrder h) : lastState .idle (told h) = .idle ↔ ∀ i, ¬ Telling h i := by
  constructor
  · intro hidle i hi
    have hs := ho.speaks hi
    rw [hs.last] at hidle
    exact lastState_ne_idle (by decide) hs.telling.2 hidle
  · intro hnone
    rcases ho.held with ⟨hidle,-⟩ | ⟨i,hi⟩
    · exact hidle
    · exact absurd hi.telling (hnone i)

/-- A deed that tells nothing changes nothing. -/
theorem quiet (ho : InOrder h) (he : d.step.event? = none) : InOrder (h ++ [d]) := by
  have htold : told (h ++ [d]) = told h := by simp [he]
  have hdeeds : eventDeeds (h ++ [d]) = eventDeeds h := by simp [he]
  have has (j : Nat) (role : Role) : toldAs (h ++ [d]) j role = toldAs h j role := by simp [toldAs_append, he]
  have htelling (j : Nat) : Telling (h ++ [d]) j ↔ Telling h j := by rw [Telling, Telling, has, has]
  refine ⟨htold ▸ ho.legal,?_,hdeeds ▸ ho.apart,?_⟩
  · simpa [crossed_append, he] using ho.uncrossed
  · rcases ho.held with ⟨hidle,hnone⟩ | ⟨i,hi⟩
    · exact .inl ⟨by rw [htold, hidle],fun i hi => hnone i ((htelling i).mp hi)⟩
    · refine .inr ⟨i,(htelling i).mpr hi.telling,fun j hj => hi.only j ((htelling j).mp hj),?_,?_⟩
      · rw [htold, has, hi.last]
      · rw [hdeeds]
        exact hi.recent

/-- A caller that tells that it is probing speaks from then on, if no other run owes anything. -/
theorem caller {step : TaskStep} {c : Controller} {t : Thread Bool} (ho : InOrder h) (hs : Sound s h)
    (hf : s.flights[i]? = some f) (hm : f.caller.Moves s.controller step c t) (he : step.event? = some event)
    (hpaid : ∀ j, ¬ Owing h j) : InOrder (h ++ [⟨i,.caller,step⟩]) := by
  obtain ⟨rfl,hcaller,hjob⟩ := (hs.stages i f hf).of_caller_event hm he
  have hflight : InFlight h i := ⟨by simp [hcaller],by simp [hjob]⟩
  have hsilent (role : Role) : toldAs h i role = [] := by
    cases role <;> simp [toldAs, hcaller, hjob, TaskStep.event?]
  -- Whoever has told of itself owes nothing and so is in flight, and only this run is.
  have hnone (j : Nat) : ¬ Telling h j := by
    intro hj
    obtain rfl := (hs.holds_of_inFlight hflight).only j (hs.inFlight_of_telling hj (hpaid j))
    simp [Telling, hsilent] at hj
  have hidle : lastState .idle (told h) = .idle := ho.lastState_idle_iff.mpr hnone
  have hearlier := flight_ne_of_silent hsilent
  have htold : told (h ++ [⟨i,.caller,step⟩]) = told h ++ [.state .probing] := by simp [he]
  have hdeeds : eventDeeds (h ++ [⟨i,.caller,step⟩]) = eventDeeds h ++ [⟨i,.caller,step⟩] := by
    simp [he]
  refine ⟨?_,?_,?_,.inr ⟨i,⟨?_,?_⟩,?_,?_,?_⟩⟩
  · rw [htold, legalFrom_append, hidle]
    exact ⟨ho.legal,by simp [RunEvent.state?, RunState.canBecome]⟩
  · rw [crossed_append, not_or]
    exact ⟨ho.uncrossed,fun h => hpaid _ h.2.2.choose_spec⟩
  · rw [hdeeds]
    have ha : Apart (eventDeeds h ++ []) := by simpa using ho.apart
    simpa using ha.concat hearlier (by simp)
  · simp [toldAs_append, he]
  · simp [toldAs_append, hsilent]
  · intro j hj
    by_contra hne
    refine hnone j ?_
    simpa [Telling, toldAs_append, Ne.symm hne] using hj
  · rw [htold, toldAs_append, hsilent]
    simp [RunEvent.state?]
  · exact ⟨eventDeeds h,_,hdeeds,hearlier,by simp⟩

/-- A run that tells something is the one that speaks. -/
theorem speaks_of_job {step : TaskStep} {c : Controller} {t t' : Thread Unit} (ho : InOrder h) (hs : Sound s h)
    (hf : s.flights[i]? = some f) (hj : f.job = some t) (hm : t.Moves s.controller step c t')
    (he : step.event? = some event) : Speaks h i := by
  have hstage := hs.stages i f hf
  have hp := (hstage.of_job hj).2.moves hm
  refine ho.speaks ⟨by simp [toldAs, hstage.told_of_job (.inl (by simp [hj]))],?_⟩
  cases hm with
  | @act action next =>
    cases action with
    | send event => exact Job.idle_not_mem_of_path hp
    | tryBegin | advance _ | spawn _ | lastEntered | enter _ => cases he
  | asked | answered answer => cases he

theorem job {step : TaskStep} {c : Controller} {t t' : Thread Unit} (ho : InOrder h) (hs : Sound s h)
    (hf : s.flights[i]? = some f) (hj : f.job = some t) (hm : t.Moves s.controller step c t')
    (he : step.event? = some event) : InOrder (h ++ [⟨i,.job,step⟩]) := by
  have hp := ((hs.stages i f hf).of_job hj).2.moves hm
  have hspeaks := ho.speaks_of_job hs hf hj hm he
  have htold : told (h ++ [⟨i,.job,step⟩]) = told h ++ [event] := by simp [he]
  have hdeeds : eventDeeds (h ++ [⟨i,.job,step⟩]) = eventDeeds h ++ [⟨i,.job,step⟩] := by
    simp [he]
  have hcaller (j : Nat) : toldAs (h ++ [⟨i,.job,step⟩]) j .caller = toldAs h j .caller := by simp [toldAs_append]
  have hjob : toldAs (h ++ [⟨i,.job,step⟩]) i .job = toldAs h i .job ++ [event] := by simp [toldAs_append, he]
  have hother {j : Nat} (hne : j ≠ i) : Telling (h ++ [⟨i,.job,step⟩]) j ↔ Telling h j := by
    simp [Telling, toldAs_append, Ne.symm hne]
  obtain ⟨earlier,later,hsplit,hear,hlat⟩ := hspeaks.recent
  have hlegal : LegalFrom .probing (toldAs h i .job ++ [event]) := by
    simpa [toldAs, he] using Job.legal_of_path hp
  refine ⟨?_,?_,?_,?_⟩
  · rw [htold, legalFrom_append, hspeaks.last]
    exact ⟨ho.legal,(legalFrom_append.mp hlegal).2⟩
  · simpa [crossed_append] using ho.uncrossed
  · rw [hdeeds, hsplit]
    exact (hsplit ▸ ho.apart).concat hear hlat
  · by_cases hidle : event = .state .idle
    · subst hidle
      refine .inl ⟨by simp [htold, RunEvent.state?],fun j hj => ?_⟩
      rcases eq_or_ne j i with rfl | hne
      · simp [Telling, hjob] at hj
      · exact hne (hspeaks.only j ((hother hne).mp hj))
    · refine .inr ⟨i,⟨?_,?_⟩,fun j hj => ?_,?_,earlier,later ++ [⟨i,.job,step⟩],?_,hear,?_⟩
      · rw [hcaller]
        exact hspeaks.telling.1
      · simpa [hjob, hspeaks.telling.2, eq_comm] using hidle
      · by_contra hne
        exact hne (hspeaks.only j ((hother hne).mp hj))
      · rw [htold, hjob, lastState_append, lastState_append, hspeaks.last]
      · rw [hdeeds, hsplit, List.append_assoc]
      · simpa [or_imp, forall_and] using hlat

end InOrder

/-- What is told stays a path exactly until it is told across. -/
theorem Reaches.inOrder_or (hr : Reaches s h) : InOrder h ∨ Crossed h ∧ ¬ LegalFrom .idle (told h) := by
  induction hr with
  | start => exact .inl .start
  | @next s s' h h' hr hn ih =>
    cases hn with
    | call r | forget | read => exact ih
    | @deed _ _ _ d hd =>
      rcases ih with ho | ⟨hcrossed,hlegal⟩
      · by_cases hcross : d.role = .caller ∧ d.step.event? = some (.state .probing) ∧ ∃ j, Owing h j
        · refine .inr ⟨crossed_append.mpr (.inr hcross),fun hlegal => ?_⟩
          obtain ⟨-,he,j,hj⟩ := hcross
          -- The run that owes the news is still the one that speaks, so the last state told is not the idle one.
          have hbusy := mt ho.lastState_idle_iff.mp fun hnone => hnone j (hr.sound.telling_of_owing hj)
          rw [told_append, told_singleton, he, legalFrom_append] at hlegal
          have hnext : (lastState .idle (told h)).canBecome .probing = true := by
            simpa [RunEvent.state?] using hlegal.2
          exact hbusy (RunState.idle_of_canBecome_probing hnext)
        · left
          cases he : d.step.event? with
          | none => exact ho.quiet he
          | some event =>
            cases hd with
            | job hf hj hm => exact ho.job hr.sound hf hj hm he
            | caller hf hm =>
              obtain ⟨rfl,-⟩ := (hr.sound.stages _ _ hf).of_caller_event hm he
              exact ho.caller hr.sound hf hm he fun j hj => hcross ⟨rfl,he,j,hj⟩
      · refine .inr ⟨crossed_append.mpr (.inl hcrossed),fun h => hlegal ?_⟩
        rw [told_append, legalFrom_append] at h
        exact h.1

theorem Reaches.inOrder_iff (hr : Reaches s h) : InOrder h ↔ ¬ Crossed h := by
  refine ⟨InOrder.uncrossed,fun hn => ?_⟩
  exact hr.inOrder_or.resolve_right fun h => hn h.1

/-- What flight `i` has told comes last in what has been told, and before that someone told that all was idle. -/
theorem Speaks.split (hp : Speaks h i) (ho : InOrder h) (hr : Reaches s h) : ∃ earlier later,
    eventDeeds h = earlier ++ later ∧ (∀ d ∈ earlier, d.flight ≠ i) ∧ (∀ d ∈ later, d.flight = i) ∧
      lastState .idle (told earlier) = .idle ∧ told later = .state .probing :: toldAs h i .job := by
  obtain ⟨earlier,later,hsplit,hear,hlat⟩ := hp.recent
  have hlater : told later = toldBy h i := by
    have hfilter : (eventDeeds h).filter (fun d => d.flight = i) = later := by
      rw [hsplit, List.filter_append, List.filter_eq_nil_iff.mpr (by simpa using hear),
        List.filter_eq_self.mpr (by simpa using hlat), List.nil_append]
    rw [← hfilter, eventDeeds, List.filter_comm]
    exact told_eventDeeds _
  have htold : told later = .state .probing :: toldAs h i .job := by
    rw [hlater, hr.toldBy_eq]
    exact congrArg (· ++ _) (hr.sound.claimed_of_told hp.telling.1).2
  refine ⟨earlier,later,hsplit,hear,hlat,RunState.idle_of_canBecome_probing ?_,htold⟩
  have hlegal := ho.legal
  have hall : told h = told earlier ++ told later := by
    rw [← told_eventDeeds, hsplit, told_append]
  rw [hall, legalFrom_append, htold, legalFrom_cons] at hlegal
  exact hlegal.2.1 .probing rfl

/-! ## The property -/

structure Reported (s : System) (h : List Deed) : Prop where
  /-- Events are read in the order in which they are told. -/
  channel : ∀ d s', Inside s d s' → s'.controller.events = s.controller.events ++ d.step.event?.toList
  legal_iff : LegalFrom .idle (told h) ↔ ¬ Crossed h
  apart : ¬ Crossed h → Apart (eventDeeds h)
  /-- Who has read all events takes the controller for idle exactly between two runs, -/
  idle_iff : ¬ Crossed h → (lastState .idle (told h) = .idle ↔ ∀ i, ¬ Telling h i)
  /-- and then no run in flight has told anything yet. -/
  silent : ¬ Crossed h → lastState .idle (told h) = .idle → ∀ i, InFlight h i → toldBy h i = []

theorem Sound.toldAs_of_inFlight (hs : Sound s h) (hi : InFlight h i) (hn : .state .probing ∉ toldAs h i .caller) :
    toldAs h i .caller = [] ∧ toldAs h i .job = [] := by
  obtain ⟨f,hf⟩ := hs.flight_of_step hi.1
  rcases ((hs.stages i f hf).of_claim hi.1).2 with htold | ⟨htold,hnil⟩
  · simp [toldAs, htold] at hn
  · exact ⟨htold,by simp [toldAs, hnil]⟩

theorem events_reported (hr : Reaches s h) : Reported s h := by
  have hor := hr.inOrder_or
  refine ⟨fun d s' => Inside.events,?_,?_,?_,?_⟩
  · exact ⟨fun hlegal hcrossed => hor.elim (fun ho => ho.uncrossed hcrossed) (fun hn => hn.2 hlegal),
      fun hn => (hr.inOrder_iff.mpr hn).legal⟩
  · exact fun hn => (hr.inOrder_iff.mpr hn).apart
  · exact fun hn => (hr.inOrder_iff.mpr hn).lastState_idle_iff
  · intro hn hidle i hi
    have hnone := (hr.inOrder_iff.mpr hn).lastState_idle_iff.mp hidle i
    have htold := hr.sound.toldAs_of_inFlight hi fun hm => hnone ⟨hm,hr.sound.not_told_idle hi⟩
    rw [hr.toldBy_eq]
    exact List.append_eq_nil_iff.mpr htold

def blank : RunRequest :=
  { buffer := 1, filename := "a.py", workingDir := none, snapshot := [[]], selection := .atLine 0, mode := .block }

theorem run_blank : Job.run blank = .act (.send (.clearMarker 1)) fun _ => .act (.advance .idle) fun _ =>
    .act (.send (.state .idle)) fun _ => .done () := rfl

/-- Two runs, one after the other. -/
theorem events_reported_twoRuns : ∃ s h, Reaches s h ∧ told h = [.state .probing, .clearMarker 1, .state .idle,
    .state .probing, .clearMarker 1, .state .idle] ∧ ¬ Crossed h ∧ Reported s h := by
  have hfirst := (Reaches.start.accept rfl blank).advance (i := 0) (fun _ (_ : Unit) => (none,())) () rfl rfl
  have hr := (hfirst.accept rfl blank).advance (i := 1) (fun _ (_ : Unit) => (none,())) () rfl rfl
  exact ⟨_,_,hr,by decide +kernel,(events_reported hr).legal_iff.mp (by decide +kernel),events_reported hr⟩

/-- The second run is claimed and told of before the first one tells that it is idle. -/
theorem events_cross : ∃ s h, Reaches s h ∧
    told h = [.state .probing, .clearMarker 1, .state .probing, .state .idle] ∧ ¬ LegalFrom .idle (told h) ∧
    ¬ Apart (eventDeeds h) ∧ lastState .idle (told h) = .idle ∧ InFlight h 1 ∧ Telling h 1 := by
  have hfirst := Reaches.start.accept rfl blank
  rw [run_blank] at hfirst
  have hreturned := (hfirst.next (.deed (.job (i := 0) rfl rfl .act))).next (.deed (.job (i := 0) rfl rfl .act))
  have hr := (hreturned.accept rfl blank).next (.deed (.job (i := 0) rfl rfl .act))
  refine ⟨_,_,hr,rfl,by decide +kernel,fun hapart => ?_,rfl,⟨by simp [stepsOf],by simp [stepsOf]⟩,by decide +kernel⟩
  have hbetween := hapart ⟨0,.caller,.act (.send (.state .probing)) ()⟩ ⟨1,.caller,.act (.send (.state .probing)) ()⟩
    ⟨0,.job,.act (.send (.state .idle)) ()⟩ (.cons_cons _ (.cons _ (.cons_cons _ (.cons_cons _ .slnil)))) rfl
  cases hbetween

end System
end StatementPad
