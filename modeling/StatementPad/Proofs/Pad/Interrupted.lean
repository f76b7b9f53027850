import StatementPad.Proofs.Run.Crossed
import StatementPad.Pad

/-! # Aborts that a restart has caused

Keys, the events of runs and the ends of restarts reach the pad one at a time, each kind in its own order. When a
restart is asked for, the pad only knows the state that was told last, so an abort is put down to the restart if
the pad had heard of the run by then, and to the interpreter if it had not.
-/
namespace StatementPad
open StatementPad.Task StatementPad.RunEvent

namespace Pad
variable {p p' : Pad} {event : RunEvent}

/-- What the pad knows of runs and of the interpreter is the same. -/
structure Quiet (p p' : Pad) : Prop where
  runState : p'.runState = p.runState
  runInterrupted : p'.runInterrupted = p.runInterrupted
  kernelAlive : p'.kernelAlive = p.kernelAlive

/-- An event other than a state or an abort leaves what the pad knows of runs alone. -/
theorem runState_apply (p : Pad) (event : RunEvent) : (p.apply event).runState = event.state?.getD p.runState := by
  cases event with
  | state s | paint buffer lines state | clearMarker buffer | finished buffer lines outcome => rfl
  | moveCursor buffer line =>
    rw [apply, updateBuffer]
    split
    · rfl
    · split <;> rfl
  | aborted buffer reason =>
    rw [apply]
    split <;> rfl

theorem runInterrupted_apply (p : Pad) (event : RunEvent) :
    (p.apply event).runInterrupted = true ↔ p.runInterrupted = true ∧ event ≠ .state .idle := by
  cases event with
  | state s => cases s <;> simp [apply, RunState.isIdle]
  | paint buffer lines state | clearMarker buffer | finished buffer lines outcome => simp [apply, scrollToEnd]
  | moveCursor buffer line =>
    rw [apply, updateBuffer]
    split
    · simp
    · split <;> simp
  | aborted buffer reason =>
    rw [apply]
    split <;> simp [report, scrollToEnd]

theorem quiet_restarted (p : Pad) (problem : Option Text) :
    (p.restarted problem).runState = p.runState ∧ (p.restarted problem).runInterrupted = p.runInterrupted := by
  cases problem <;> exact ⟨rfl,rfl⟩

end Pad

/-! ## The loop -/

structure Loop where
  system : System := {}
  pad : Pad
  queue : List RunEvent := []
  /-- The restarts that have been asked for and are not over yet. -/
  restarts : Nat := 0

inductive Happening where
  | did (d : Deed)
  | took (event : RunEvent)
  | asked
  | heard (problem : Option Text)

namespace Happening

def deed? : Happening → Option Deed
  | did d => some d
  | took _ | asked | heard _ => none

def event? : Happening → Option RunEvent
  | took event => some event
  | did _ | asked | heard _ => none

end Happening

namespace Loop
open StatementPad.System

/-- What can happen next. Whatever else the user does is quiet. -/
inductive Turn : Loop × List Happening → Loop × List Happening → Prop where
  | deed {l : Loop} {past : List Happening} {s : System} {d : Deed} (hd : Inside l.system d s) :
      Turn (l,past) ({ l with system := s },past ++ [.did d])
  | call {l : Loop} {past : List Happening} (r : RunRequest) :
      Turn (l,past) ({ l with system := { l.system with flights := l.system.flights ++ [.call r] } },past)
  | forward {l : Loop} {past : List Happening} : Turn (l,past)
      ({ l with system := { l.system with controller := l.system.controller.takeEvents.2 }
                queue := l.queue ++ l.system.controller.takeEvents.1 },past)
  | take {l : Loop} {past : List Happening} {event : RunEvent} {rest : List RunEvent} (hq : l.queue = event :: rest) :
      Turn (l,past) ({ l with pad := l.pad.apply event, queue := rest },past ++ [.took event])
  | ask {l : Loop} {past : List Happening} :
      Turn (l,past) ({ l with pad := l.pad.restarting, restarts := l.restarts + 1 },past ++ [.asked])
  | hear {l : Loop} {past : List Happening} (problem : Option Text) (hr : 0 < l.restarts) : Turn (l,past)
      ({ l with system := { l.system with controller := l.system.controller.forgetWorkingDir }
                pad := l.pad.restarted problem, restarts := l.restarts - 1 },past ++ [.heard problem])
  | quiet {l : Loop} {past : List Happening} {p : Pad} (hq : l.pad.Quiet p) : Turn (l,past) ({ l with pad := p },past)

inductive Reaches : Loop → List Happening → Prop where
  | start {p : Pad} (hidle : p.runState = .idle) (hcalm : p.runInterrupted = false) : Reaches { pad := p } []
  | next {l l' : Loop} {past past' : List Happening} (hr : Reaches l past) (ht : Turn (l,past) (l',past')) :
      Reaches l' past'

theorem Reaches.does {l : Loop} {past : List Happening} {deeds : List Deed} {s : System} (hr : Reaches l past) (hd : Does l.system deeds s) :
    Reaches { l with system := s } (past ++ deeds.map .did) := by
  generalize hs : l.system = first at hd
  induction hd generalizing l past with
  | nothing =>
    obtain rfl := hs
    rwa [List.map_nil, List.append_nil]
  | @deed _ s' _ d rest hd _ ih =>
    have hrest := ih (l := { l with system := s' }) (hr.next (.deed (hs ▸ hd))) rfl
    rwa [List.append_assoc, List.singleton_append] at hrest

def deeds (past : List Happening) : List Deed := past.filterMap Happening.deed?

def taken (past : List Happening) : List RunEvent := past.filterMap Happening.event?

/-- A restart was asked for when the pad took a run to be under way, and it has not heard since that it is idle. -/
def Excused (past : List Happening) : Prop :=
  ∃ before after, past = before ++ .asked :: after ∧ lastState .idle (taken before) ≠ .idle ∧
    .state .idle ∉ taken after

/-- The event that the pad takes over next is one of flight `i`. -/
def Comes (past : List Happening) (i : Nat) (event : RunEvent) : Prop :=
  ∃ d, (eventDeeds (deeds past))[(taken past).length]? = some d ∧ d.flight = i ∧ d.step.event? = some event

/-- After `before` the pad had taken over an event of flight `i`. -/
def Known (past before : List Happening) (i : Nat) : Prop :=
  ∃ d ∈ (eventDeeds (deeds past)).take (taken before).length, d.flight = i

section History
variable {past more : List Happening} {happening : Happening}

@[simp] theorem deeds_nil : deeds [] = [] := rfl
@[simp] theorem deeds_append : deeds (past ++ more) = deeds past ++ deeds more := List.filterMap_append
@[simp] theorem deeds_cons : deeds (happening :: past) = happening.deed?.toList ++ deeds past := by
  cases happening <;> rfl

@[simp] theorem taken_nil : taken [] = [] := rfl
@[simp] theorem taken_append : taken (past ++ more) = taken past ++ taken more := List.filterMap_append
@[simp] theorem taken_cons : taken (happening :: past) = happening.event?.toList ++ taken past := by
  cases happening <;> rfl

theorem excused_append : Excused (past ++ [happening]) ↔
    (Excused past ∧ .state .idle ∉ taken [happening]) ∨ happening = .asked ∧ lastState .idle (taken past) ≠ .idle := by
  constructor
  · rintro ⟨before,after,he,hbusy,hafter⟩
    obtain ⟨rfl,rfl,-⟩ | ⟨after',hpast,rfl⟩ := snoc_eq_append_cons he
    · exact .inr ⟨rfl,hbusy⟩
    · rw [taken_append, List.mem_append, not_or] at hafter
      exact .inl ⟨⟨before,after',hpast,hbusy,hafter.1⟩,hafter.2⟩
  · rintro (⟨⟨before,after,rfl,hbusy,hafter⟩,hnew⟩ | ⟨rfl,hbusy⟩)
    · refine ⟨before,after ++ [happening],by simp,hbusy,?_⟩
      rw [taken_append, List.mem_append, not_or]
      exact ⟨hafter,hnew⟩
    · exact ⟨past,[],rfl,hbusy,by simp⟩

theorem Excused.busy (h : Excused past) : lastState .idle (taken past) ≠ .idle := by
  obtain ⟨before,after,rfl,hbusy,hafter⟩ := h
  have htaken : taken (before ++ .asked :: after) = taken before ++ taken after := by simp [Happening.event?]
  rw [htaken, lastState_append]
  exact lastState_ne_idle hbusy hafter

theorem not_excused_of_idle {before after : List Happening} (he : past = before ++ .took (.state .idle) :: after)
    (hnone : .asked ∉ after) : ¬ Excused past := by
  subst he
  induction after using List.reverseRecOn with
  | nil => simp [excused_append, Happening.event?]
  | append_singleton after happening ih =>
    rw [List.mem_append, not_or, List.mem_singleton] at hnone
    rw [← List.cons_append, ← List.append_assoc, excused_append]
    rintro (⟨h,-⟩ | ⟨rfl,-⟩)
    · exact ih hnone.1 h
    · exact hnone.2 rfl

end History

structure Sound (l : Loop) (past : List Happening) : Prop where
  system : System.Reaches l.system (deeds past)
  sent : told (deeds past) = taken past ++ l.queue ++ l.system.controller.events
  runState : l.pad.runState = lastState .idle (taken past)
  runInterrupted : l.pad.runInterrupted = true ↔ Excused past

section Sound
variable {l l' : Loop} {past past' : List Happening} {i : Nat} {event : RunEvent}

theorem Sound.next (hs : Sound l past) (ht : Turn (l,past) (l',past')) : Sound l' past' := by
  cases ht with
  | @deed _ _ s d hd =>
    have hdeeds : deeds (past ++ [.did d]) = deeds past ++ [d] := by simp [Happening.deed?]
    have htaken : taken (past ++ [.did d]) = taken past := by simp [Happening.event?]
    refine ⟨?_,?_,?_,?_⟩
    · rw [hdeeds]
      exact hs.system.next (.deed hd)
    · rw [hdeeds, htaken, told_append, told_singleton, hs.sent, hd.events, List.append_assoc]
    · rw [htaken]
      exact hs.runState
    · rw [excused_append]
      simpa [Happening.event?] using hs.runInterrupted
  | call r => exact ⟨hs.system.next (.call r),hs.sent,hs.runState,hs.runInterrupted⟩
  | forward =>
    refine ⟨hs.system.next .read,?_,hs.runState,hs.runInterrupted⟩
    rw [hs.sent]
    simp [Controller.takeEvents]
  | @take _ _ event rest hq =>
    have hdeeds : deeds (past ++ [.took event]) = deeds past := by simp [Happening.deed?]
    have htaken : taken (past ++ [.took event]) = taken past ++ [event] := by simp [Happening.event?]
    refine ⟨hdeeds ▸ hs.system,?_,?_,?_⟩
    · rw [hdeeds, htaken, hs.sent, hq]
      simp
    · rw [htaken, lastState_append, ← hs.runState]
      exact Pad.runState_apply l.pad event
    · rw [Pad.runInterrupted_apply, hs.runInterrupted, excused_append]
      simp [Happening.event?, eq_comm]
  | ask =>
    have hdeeds : deeds (past ++ [.asked]) = deeds past := by simp [Happening.deed?]
    have htaken : taken (past ++ [.asked]) = taken past := by simp [Happening.event?]
    refine ⟨hdeeds ▸ hs.system,?_,?_,?_⟩
    · rw [hdeeds, htaken]
      exact hs.sent
    · rw [htaken]
      exact hs.runState
    · have hrunning : l.pad.isRunning = true ↔ lastState .idle (taken past) ≠ .idle := by
        simp [Pad.isRunning, RunState.isIdle, hs.runState]
      rw [excused_append, Pad.restarting, hrunning]
      exact ⟨fun h => .inr ⟨rfl,h⟩,fun h => h.elim (fun h => h.1.busy) And.right⟩
  | hear problem hr =>
    have hdeeds : deeds (past ++ [.heard problem]) = deeds past := by simp [Happening.deed?]
    have htaken : taken (past ++ [.heard problem]) = taken past := by simp [Happening.event?]
    obtain ⟨hstate,hinterrupted⟩ := Pad.quiet_restarted l.pad problem
    refine ⟨?_,?_,?_,?_⟩
    · rw [hdeeds]
      exact hs.system.next .forget
    · rw [hdeeds, htaken]
      exact hs.sent
    · rw [htaken, hstate]
      exact hs.runState
    · rw [hinterrupted, excused_append]
      simpa [Happening.event?] using hs.runInterrupted
  | quiet hq => exact ⟨hs.system,hs.sent,hq.runState.trans hs.runState,hq.runInterrupted ▸ hs.runInterrupted⟩

theorem Reaches.sound (hr : Reaches l past) : Sound l past := by
  induction hr with
  | start hidle hcalm =>
    refine ⟨.start,rfl,hidle,?_⟩
    simp [hcalm, Excused]
  | next _ ht ih => exact ih.next ht

/-- What stands first in the queue is an event of some flight. -/
theorem Sound.exists_comes {rest : List RunEvent} (hs : Sound l past) (hq : l.queue = event :: rest) :
    ∃ i, Comes past i event := by
  have hnext : (told (deeds past))[(taken past).length]? = some event := by
    rw [hs.sent, hq]
    simp
  obtain ⟨d,hd,he⟩ := exists_of_told hnext
  exact ⟨d.flight,d,hd,rfl,he⟩

/-- When the abort of a run comes next, the pad has taken over the events of that run last, and before them none
but those of runs that were over. -/
theorem Sound.taken_split {buffer : BufferId} {reason : Text} (hs : Sound l past) (hn : ¬ Crossed (deeds past))
    (hc : Comes past i (.aborted buffer reason)) : ∃ first rest, taken past = first ++ .state .probing :: rest ∧
      lastState .idle first = .idle ∧ .state .idle ∉ rest ∧ ∀ before after, past = before ++ after →
        (Known past before i ↔ first.length < (taken before).length) := by
  obtain ⟨d,hget,rfl,he⟩ := hc
  obtain ⟨earlyDeeds,lateDeeds,hdeeds,hlen⟩ := exists_before_of_eventDeeds hget
  -- All that the pad has taken over was told before the abort, and the run that told of it spoke then.
  obtain ⟨s₁,s₂,hr,hd⟩ := hs.system.before hdeeds
  have ho : InOrder earlyDeeds := hr.inOrder_iff.mpr fun hcross => hn (hdeeds ▸ hcross.append _)
  have htaken : told earlyDeeds = taken past := by
    have hsent := hs.sent
    rw [hdeeds, told_append, List.append_assoc] at hsent
    exact (List.append_inj hsent (by rw [length_told, hlen])).1
  have hspeaks : Speaks earlyDeeds d.flight := by
    cases hd with
    | caller hf hm => cases ((hr.sound.stages _ _ hf).of_caller_event hm he).1
    | job hf hj hm => exact ho.speaks_of_job hr.sound hf hj hm he
  obtain ⟨earlier,later,hsplit,hear,hlat,hidle,hlater⟩ := hspeaks.split ho hr
  refine ⟨told earlier,toldAs earlyDeeds d.flight .job,?_,hidle,hspeaks.telling.2,fun before after hpast => ?_⟩
  · rw [← htaken, ← told_eventDeeds, hsplit, told_append, hlater]
  · have hle : (taken before).length ≤ (eventDeeds earlyDeeds).length := by
      rw [hlen, hpast, taken_append, List.length_append]
      omega
    have htake : (eventDeeds (deeds past)).take (taken before).length =
        (earlier ++ later).take (taken before).length := by
      rw [hdeeds, eventDeeds_append, List.take_append_of_le_length hle, hsplit]
    have hlength : (told earlier).length = earlier.length := by
      rw [length_told, eventDeeds, List.filter_eq_self.mpr]
      exact fun e hm => (List.mem_filter.mp (hsplit ▸ List.mem_append_left _ hm : e ∈ eventDeeds earlyDeeds)).2
    rw [Known, htake, hlength, List.take_append]
    constructor
    · rintro ⟨e,hm,hflight⟩
      by_contra hlt
      rw [Nat.sub_eq_zero_of_le (Nat.le_of_not_lt hlt), List.take_zero, List.append_nil] at hm
      exact hear e (List.mem_of_mem_take hm) hflight
    · intro hlt
      obtain ⟨n,hn⟩ := Nat.exists_eq_add_one_of_ne_zero (Nat.sub_ne_zero_of_lt hlt)
      cases later with
      | nil => cases hlater
      | cons e later => exact ⟨e,by simp [hn],hlat e (List.mem_cons_self ..)⟩

/-- An abort is put down to a restart exactly if the pad knew of the run when a restart was asked for. -/
theorem Sound.excused_iff {buffer : BufferId} {reason : Text} (hs : Sound l past) (hn : ¬ Crossed (deeds past))
    (hc : Comes past i (.aborted buffer reason)) :
    Excused past ↔ ∃ before after, past = before ++ .asked :: after ∧ Known past before i := by
  obtain ⟨first,rest,htaken,hfirst,hrest,hknown⟩ := hs.taken_split hn hc
  refine exists_congr fun before => exists_congr fun after => and_congr_right fun hpast => ?_
  have hsplit : taken before ++ taken after = first ++ .state .probing :: rest := by
    rw [← htaken, hpast]
    simp [Happening.event?]
  rw [hknown before _ hpast]
  exact lastState_busy_iff hsplit hfirst hrest

end Sound

/-! ## The property -/

structure Interrupted (l : Loop) (past : List Happening) : Prop where
  /-- An abort that is put down to a restart leaves a notice and nothing else, -/
  excused : Excused past → ∀ buffer reason,
    l.pad.apply (.aborted buffer reason) = l.pad.report "--- run interrupted by restart ---\n" ∧
      (l.pad.apply (.aborted buffer reason)).kernelAlive = l.pad.kernelAlive
  /-- and any other one is taken for the end of the interpreter. -/
  real : ¬ Excused past → ∀ buffer reason,
    l.pad.apply (.aborted buffer reason) = { l.pad with kernelAlive := false, status := "Python stopped" }.report
      ("Python is not responding (" ++ reason ++ "). Press Ctrl+R to restart.\n")
  comes : ∀ event rest, l.queue = event :: rest → ∃ i, Comes past i event
  /-- The first happens to a run if the pad knew of it when a restart was asked for, and only then. -/
  known : ¬ Crossed (deeds past) → ∀ i buffer reason, Comes past i (.aborted buffer reason) →
    (Excused past ↔ ∃ before after, past = before ++ .asked :: after ∧ Known past before i)
  /-- Once the pad has heard that all is idle, the next abort is a real one. -/
  again : ∀ before after, past = before ++ .took (.state .idle) :: after → .asked ∉ after → ¬ Excused past

theorem aborts_interrupted {l : Loop} {past : List Happening} (hr : Reaches l past) : Interrupted l past := by
  have hs := hr.sound
  refine ⟨fun hexcused buffer reason => ?_,fun hreal buffer reason => ?_,fun event rest => hs.exists_comes,?_,?_⟩
  · rw [Pad.apply, if_pos (hs.runInterrupted.mpr hexcused)]
    exact ⟨rfl,rfl⟩
  · rw [Pad.apply, if_neg (mt hs.runInterrupted.mp hreal)]
  · intro hn i buffer reason
    exact hs.excused_iff hn
  · intro before after
    exact not_excused_of_idle

/-- The kernel is lost while it compiles the only line of the document. -/
theorem run_oneLine : ∃ next, Job.run oneLine = .call (.compile 0 "a.py" "1 + 1") next ∧ ∀ fault,
    next (.error fault) = .act (.send (.aborted 1 fault.message)) fun _ => .act (.advance .idle) fun _ =>
      .act (.send (.state .idle)) fun _ => .done () :=
  ⟨_,rfl,fun _ => rfl⟩

/-- A restart is asked for once the pad knows of the run, and the run loses its interpreter. -/
theorem aborts_interrupted_known : ∃ l past before after, Reaches l past ∧ past = before ++ .asked :: after ∧
    InFlight (deeds before) 0 ∧ Known past before 0 ∧ Comes past 0 (.aborted 1 Fault.noAnswer.message) ∧
    l.pad.kernelAlive = true ∧ (l.pad.apply (.aborted 1 Fault.noAnswer.message)).kernelAlive = true ∧
    Interrupted l past := by
  obtain ⟨next,hrun,hlost⟩ := run_oneLine
  have hcall := (Reaches.start (p := Pad.ofDocuments [] 10) rfl rfl).next (.call oneLine)
  have hspawned := hcall.does (@does_accept [] _ rfl rfl oneLine)
  have hknown := (hspawned.next .forward).next (.take rfl)
  have hwaiting := (hknown.next .ask).next
    (.deed (.job (i := 0) rfl (congrArg (fun task => some (Thread.mk task false)) hrun) .asked))
  have hanswered := (hwaiting.next (.hear none (Nat.zero_lt_succ _))).next
    (.deed (.job (i := 0) rfl rfl (.answered (Except.error Fault.noAnswer))))
  have hr := (hanswered.next
    (.deed (.job (i := 0) rfl (congrArg (fun task => some (Thread.mk task false)) (hlost _)) .act))).next .forward
  refine ⟨_,_,[_,_,_,_],_,hr,rfl,⟨?_,?_⟩,⟨_,List.mem_cons_self ..,rfl⟩,⟨_,rfl,rfl,rfl⟩,rfl,rfl,aborts_interrupted hr⟩
  · exact List.mem_cons_self ..
  · exact List.not_mem_nil

/-- The same with the two keys pressed at once: the pad does not know of the run yet when the restart is asked for,
and the interpreter that was started again is reported as dead. -/
theorem abort_reported_dead : ∃ l past before after, Reaches l past ∧ past = before ++ .asked :: after ∧
    InFlight (deeds before) 0 ∧ .heard none ∈ after ∧ ¬ Known past before 0 ∧
    Comes past 0 (.aborted 1 Fault.noAnswer.message) ∧ l.pad.kernelAlive = true ∧
    (l.pad.apply (.aborted 1 Fault.noAnswer.message)).kernelAlive = false := by
  obtain ⟨next,hrun,hlost⟩ := run_oneLine
  have hcall := (Reaches.start (p := Pad.ofDocuments [] 10) rfl rfl).next (.call oneLine)
  have hspawned := hcall.does (@does_accept [] _ rfl rfl oneLine)
  have hknown := ((hspawned.next .ask).next .forward).next (.take rfl)
  have hwaiting := hknown.next
    (.deed (.job (i := 0) rfl (congrArg (fun task => some (Thread.mk task false)) hrun) .asked))
  have hanswered := (hwaiting.next (.hear none (Nat.zero_lt_succ _))).next
    (.deed (.job (i := 0) rfl rfl (.answered (Except.error Fault.noAnswer))))
  have hr := (hanswered.next
    (.deed (.job (i := 0) rfl (congrArg (fun task => some (Thread.mk task false)) (hlost _)) .act))).next .forward
  refine ⟨_,_,[_,_,_],_,hr,rfl,⟨?_,?_⟩,?_,?_,⟨_,rfl,rfl,rfl⟩,rfl,rfl⟩
  · exact List.mem_cons_self ..
  · exact List.not_mem_nil
  · simp
  · rintro ⟨d,hd,-⟩
    exact List.not_mem_nil hd

end Loop
end StatementPad
