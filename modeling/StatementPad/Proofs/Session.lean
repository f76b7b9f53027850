import StatementPad.Program
import StatementPad.Proofs.Pad.Interrupted

/-! # Sessions as loops

A key, the mouse, a text that is pasted or a tick of the timer is quiet, starts a run or asks for a restart. Then the
session lets the run in flight go on as far as it can, and shows what it has reported. All of these are turns of a
loop, so the pad of a session is always the pad of a loop that comes up.
-/
namespace StatementPad
open StatementPad.Task

/-! ## What is quiet -/

namespace Pad

theorem Quiet.refl (p : Pad) : Quiet p p := ⟨rfl,rfl,rfl⟩

theorem quiet_activate (p : Pad) (n : Nat) : Quiet p (p.activate n) := by
  unfold activate
  split
  · exact .refl p
  · split
    · exact .refl p
    · exact ⟨rfl,rfl,rfl⟩

theorem quiet_openDocument (p : Pad) (d : Document) : Quiet p (p.openDocument d) := by
  unfold openDocument
  split
  · exact quiet_activate p _
  · obtain ⟨h1,h2,h3⟩ := quiet_activate { p with after := p.after ++ [d] } p.documents.length
    exact ⟨h1,h2,h3⟩

theorem quiet_editMaybe (p : Pad) (f : Document → Document × Option EditEvent) : Quiet p (p.editMaybe f) := by
  unfold editMaybe
  split <;> exact ⟨rfl,rfl,rfl⟩

theorem quiet_click (p : Pad) (column row : UInt16) : Quiet p (p.click column row) := by
  unfold click
  split <;> exact ⟨rfl,rfl,rfl⟩

theorem quiet_showOutput (p : Pad) (chunks : List Chunk) : Quiet p (p.showOutput chunks) := by
  unfold showOutput
  split <;> exact ⟨rfl,rfl,rfl⟩

theorem quiet_draw (p : Pad) (width height : UInt16) : Quiet p (p.draw width height).2 := by
  simp only [draw, followCursor]
  split
  · exact ⟨rfl,rfl,rfl⟩
  · split <;> exact ⟨rfl,rfl,rfl⟩

end Pad

/-! ## Turns in a row -/

namespace Loop
variable {l : Loop} {past : List Happening}

theorem Reaches.takeAll {events : List RunEvent} (hr : Reaches l past) (hq : l.queue = events) :
    ∃ past', Reaches { l with pad := events.foldl Pad.apply l.pad, queue := [] } past' := by
  induction events generalizing l past with
  | nil =>
    obtain ⟨system,pad,queue,restarts⟩ := l
    obtain rfl : queue = [] := hq
    exact ⟨past,hr⟩
  | cons event rest ih => exact ih (hr.next (.take hq)) rfl

/-- The events that have been told are shown. -/
theorem Reaches.deliver (hr : Reaches l past) (hq : l.queue = []) : ∃ past', Reaches { l with
    system := { l.system with controller := l.system.controller.takeEvents.2 }
    pad := l.system.controller.events.foldl Pad.apply l.pad } past' := by
  obtain ⟨past',hr'⟩ := (hr.next .forward).takeAll rfl
  rw [hq, List.nil_append] at hr'
  exact ⟨past',hq ▸ hr'⟩

end Loop

/-! ## Sessions -/

namespace Session
open StatementPad.Pad
variable {σ : Type} {interpreter : Interpreter σ} {s s' : Session σ} {l : Loop} {past : List Happening}

/-- What is done at once is quiet, starts a run, or asks for a restart. -/
inductive Acts (s s' : Session σ) : Prop where
  | quiet (hpad : s.pad.Quiet s'.pad) (hcontroller : s'.controller = s.controller) (hrestarts : s'.restarts = s.restarts)
  | call (r : RunRequest) (hidle : s.controller.state = .idle) (hpad : s'.pad = s.pad)
      (hcontroller : s'.controller = (s.controller.trigger r).2) (hrestarts : s'.restarts = s.restarts)
  | ask (fault : Option Fault) (hpad : s'.pad = s.pad.restarting) (hcontroller : s'.controller = s.controller)
      (hrestarts : s'.restarts = s.restarts ++ [fault])

theorem acts_say (status : Text) : s.Acts (s.say status) := .quiet ⟨rfl,rfl,rfl⟩ rfl rfl

theorem acts_trigger (r : RunRequest) : s.Acts (s.trigger r) := by
  unfold trigger
  split
  · by_cases hidle : s.controller.state = .idle
    · have h : s.Acts { s with controller := (s.controller.trigger r).2 } := .call r hidle rfl rfl rfl
      rw [Controller.trigger_of_idle r hidle] at h ⊢
      exact h
    · rw [Controller.trigger_of_busy r hidle]
      exact acts_say _
  · exact acts_say _

theorem acts_save : s.Acts s.save := by
  unfold save
  split <;> exact .quiet ⟨rfl,rfl,rfl⟩ rfl rfl

theorem acts_logSnippet (now : Instant) : s.Acts (s.logSnippet now) := by
  unfold logSnippet
  split
  · exact .quiet ⟨rfl,rfl,rfl⟩ rfl rfl
  · dsimp only
    split
    · obtain ⟨h1,h2,h3⟩ := quiet_openDocument s.pad.takeId.2 _
      exact .quiet ⟨h1,h2,h3⟩ rfl rfl
    · exact .quiet ⟨rfl,rfl,rfl⟩ rfl rfl

theorem acts_control (now : Instant) (c : Char) : s.Acts (s.control interpreter now c).2 := by
  unfold control
  split
  · exact .quiet (.refl _) rfl rfl
  · refine .quiet ?_ rfl rfl
    simp only [askQuit]
    split <;> exact ⟨rfl,rfl,rfl⟩
  · exact .ask _ rfl rfl rfl
  · exact .quiet ⟨rfl,rfl,rfl⟩ rfl rfl
  · split
    · exact .quiet ⟨rfl,rfl,rfl⟩ rfl rfl
    · exact acts_say _
  · exact acts_save
  · exact acts_logSnippet now
  · exact .quiet (quiet_activate s.pad _) rfl rfl
  · exact .quiet (.refl _) rfl rfl

theorem acts_press (now : Instant) (key : Key) : s.Acts (s.press interpreter now key).2 := by
  unfold press
  split
  · exact .quiet ⟨rfl,rfl,rfl⟩ rfl rfl
  · cases key with
    | control c => exact acts_control now c
    | function n =>
      simp only [function]
      split
      · exact .quiet ⟨rfl,rfl,rfl⟩ rfl rfl
      · exact acts_trigger _
      · exact acts_trigger _
      · exact acts_trigger _
      · exact .quiet (.refl _) rfl rfl
    | backspace | delete => exact .quiet (quiet_editMaybe s.pad _) rfl rfl
    | typed _ | move _ _ | enter | tab | pageUp | pageDown => exact .quiet ⟨rfl,rfl,rfl⟩ rfl rfl
    | unknown => exact .quiet (.refl _) rfl rfl

theorem acts_mouse (column row : UInt16) (action : MouseAction) : s.Acts (s.mouse column row action) := by
  cases action with
  | scrollUp | scrollDown => exact .quiet ⟨rfl,rfl,rfl⟩ rfl rfl
  | pressLeft => exact .quiet (quiet_click s.pad column row) rfl rfl
  | pressMiddle =>
    simp only [mouse]
    split
    · exact acts_trigger _
    · exact .quiet (.refl _) rfl rfl
  | other => exact .quiet (.refl _) rfl rfl

theorem acts_paste (t : Text) : s.Acts (s.paste t) := .quiet ⟨rfl,rfl,rfl⟩ rfl rfl

theorem acts_draw (width height : UInt16) : s.Acts (s.withPad fun p => (p.draw width height).2) :=
  .quiet (quiet_draw s.pad width height) rfl rfl

theorem acts_tick : s.Acts (s.tick interpreter) := by
  unfold tick
  split
  · exact .quiet (quiet_showOutput s.pad _) rfl rfl
  · exact .quiet (.refl _) rfl rfl

/-! ## The loop of a session -/

/-- The loop has the pad of the session, and its run in flight stands where the session has left it. -/
structure Mirrors (s : Session σ) (l : Loop) : Prop where
  pad : l.pad = s.pad
  queue : l.queue = []
  controller : l.system.controller = { s.controller with jobs := [] }
  restarts : l.restarts = s.restarts.length
  jobs : s.controller.jobs = [] ∨ s.controller.state ≠ .idle ∧ ∃ (i : Nat) (f : Flight) (task : Task Unit),
    s.controller.jobs = [task] ∧ l.system.flights[i]? = some f ∧ f.job = some ⟨task,false⟩

theorem Acts.mirrored (h : s.Acts s') (hr : Loop.Reaches l past) (hm : s.Mirrors l) :
    ∃ l' past', Loop.Reaches l' past' ∧ s'.Mirrors l' := by
  cases h with
  | quiet hpad hcontroller hrestarts =>
    refine ⟨_,_,hr.next (.quiet (hm.pad ▸ hpad)),rfl,hm.queue,?_,?_,?_⟩
    · rw [hcontroller]
      exact hm.controller
    · rw [hrestarts]
      exact hm.restarts
    · rw [hcontroller]
      exact hm.jobs
  | call r hidle hpad hcontroller hrestarts =>
    have hcall := (hr.next (.call r)).does
      (System.does_accept hr.sound.system.sound.jobs (by rw [hm.controller]; exact hidle) r)
    have hnone : s.controller.jobs = [] := hm.jobs.resolve_right fun h => h.1 hidle
    rw [Controller.trigger_of_idle r hidle] at hcontroller
    refine ⟨_,_,hcall,hm.pad.trans hpad.symm,hm.queue,?_,?_,.inr ⟨?_,_,_,Job.run r,?_,List.getElem?_concat_length,rfl⟩⟩
    · rw [hcontroller]
      dsimp only
      rw [hm.controller]
    · rw [hrestarts]
      exact hm.restarts
    · rw [hcontroller]
      exact fun h => nomatch h
    · rw [hcontroller, hnone]
      rfl
  | ask fault hpad hcontroller hrestarts =>
    refine ⟨_,_,hr.next .ask,?_,hm.queue,?_,?_,?_⟩
    · rw [hpad, hm.pad]
    · rw [hcontroller]
      exact hm.controller
    · rw [hrestarts, List.length_append, List.length_singleton, hm.restarts]
    · rw [hcontroller]
      exact hm.jobs

/-- A run that is left because its call is not answered is not over. -/
theorem busy_of_call {i : Nat} {f : Flight} {call : KernelCall} {next : call.Answer → Task Unit}
    (hr : Loop.Reaches l past) (hf : l.system.flights[i]? = some f) (hj : f.job = some ⟨.call call next,false⟩) :
    l.system.controller.state ≠ .idle := by
  have hasked := hr.next (.deed (.job hf hj .asked))
  have hs := hasked.sound.system.sound
  have hset := List.getElem?_set_self (a := { f with job := some ⟨.call call next,true⟩ })
    (List.getElem?_eq_some_iff.mp hf).1
  intro hidle
  exact (hs.holds_of_inFlight (hs.inFlight_of_waiting hset rfl rfl)).busy hs hidle

theorem Mirrors.run (hm : s.Mirrors l) (hr : Loop.Reaches l past) {κ : Type} (answer : Controller.Kernel κ) (k : κ) :
    ∃ l' past', Loop.Reaches l' past' ∧
      ({ s with controller := (s.controller.settle answer k).1 } : Session σ).Mirrors l' := by
  rcases hm.jobs with hnone | ⟨-,i,f,task,hjobs,hf,hj⟩
  · refine ⟨l,past,hr,hm.pad,hm.queue,?_,hm.restarts,.inl ?_⟩
    · rw [hm.controller, Controller.settle, hnone]
      rfl
    · rw [Controller.settle, hnone]
      rfl
  · have hr' := hr.does (System.does_advance answer k hf hj)
    rw [hm.controller] at hr'
    have hnone := hr'.sound.system.sound.jobs
    have hset (g : Flight) : (l.system.flights.set i g)[i]? = some g :=
      List.getElem?_set_self (List.getElem?_eq_some_iff.mp hf).1
    rw [Controller.settle_single hjobs]
    have hend := Controller.advance_done_or_call answer task { s.controller with jobs := [] } k
    generalize Controller.advance answer task { s.controller with jobs := [] } k = left at hr' hnone hend
    obtain ⟨task',c,k'⟩ := left
    have hsame : c = { c with jobs := [] } := by rw [← hnone]
    rcases hend with ⟨value,rfl⟩ | ⟨call,next,rfl⟩
    · exact ⟨_,_,hr',hm.pad,hm.queue,hsame,hm.restarts,.inl hnone⟩
    · have hbusy := busy_of_call hr' (hset _) rfl
      refine ⟨_,_,hr',hm.pad,hm.queue,hsame,hm.restarts,.inr ⟨hbusy,_,_,_,?_,hset _,rfl⟩⟩
      change c.jobs ++ _ = _
      rw [show c.jobs = [] from hnone]
      rfl

theorem Mirrors.deliver (hm : s.Mirrors l) (hr : Loop.Reaches l past) :
    ∃ l' past', Loop.Reaches l' past' ∧ s.deliver.Mirrors l' := by
  obtain ⟨past',hr'⟩ := hr.deliver hm.queue
  refine ⟨_,past',hr',?_,hm.queue,?_,hm.restarts,hm.jobs⟩
  · rw [hm.pad, hm.controller]
    rfl
  · rw [hm.controller]
    rfl

theorem Mirrors.report {faults : List (Option Fault)} (hm : ({ s with restarts := faults } : Session σ).Mirrors l)
    (hr : Loop.Reaches l past) : ∃ l' past', Loop.Reaches l' past' ∧
      ({ faults.foldl reportRestart s with restarts := [] } : Session σ).Mirrors l' := by
  induction faults generalizing s l past with
  | nil => exact ⟨l,past,hr,hm⟩
  | cons fault rest ih =>
    have hlength : l.restarts = rest.length + 1 := hm.restarts
    have hheard := hr.next (.hear (fault.map Fault.message) (by rw [hlength]; exact Nat.succ_pos _))
    refine ih (s := s.reportRestart fault) (l := { l with
      system := { l.system with controller := l.system.controller.forgetWorkingDir }
      pad := l.pad.restarted (fault.map Fault.message), restarts := l.restarts - 1 })
      ⟨?_,hm.queue,?_,?_,hm.jobs⟩ hheard
    · rw [hm.pad]
      rfl
    · rw [hm.controller]
      rfl
    · rw [hlength]
      rfl

theorem Mirrors.settle (hm : s.Mirrors l) (hr : Loop.Reaches l past) :
    ∃ l' past', Loop.Reaches l' past' ∧ (s.settle interpreter).Mirrors l' := by
  obtain ⟨l₁,past₁,hr₁,hm₁⟩ := hm.run hr (Connection.kernel interpreter) s.connection
  obtain ⟨l₂,past₂,hr₂,hm₂⟩ := hm₁.deliver hr₁
  exact Mirrors.report (s := ({ s with
    controller := (s.controller.settle (Connection.kernel interpreter) s.connection).1
    connection := (s.controller.settle (Connection.kernel interpreter) s.connection).2 } : Session σ).deliver)
    ⟨hm₂.pad,hm₂.queue,hm₂.controller,hm₂.restarts,hm₂.jobs⟩ hr₂

/-- What can happen to a session next. -/
inductive Step (interpreter : Interpreter σ) : Session σ → Session σ → Prop where
  | press (s : Session σ) (now : Instant) (key : Key) : Step interpreter s (s.press interpreter now key).2
  | mouse (s : Session σ) (column row : UInt16) (action : MouseAction) :
      Step interpreter s (s.mouse column row action)
  | paste (s : Session σ) (t : Text) : Step interpreter s (s.paste t)
  | tick (s : Session σ) : Step interpreter s (s.tick interpreter)
  | draw (s : Session σ) (width height : UInt16) :
      Step interpreter s (s.withPad fun p => (p.draw width height).2)
  | settle (s : Session σ) : Step interpreter s (s.settle interpreter)

/-- The sessions that come up from one that the program opens. -/
inductive Reaches (interpreter : Interpreter σ) : Session σ → Prop where
  | start {s : Session σ} {w : Surroundings} {c : CommandLine} {worker : σ}
      (h : (Program.openSession interpreter w c worker).1 = .ok s) : Reaches interpreter s
  | next {s s' : Session σ} (hr : Reaches interpreter s) (hs : Step interpreter s s') : Reaches interpreter s'

theorem Step.mirrored (h : Step interpreter s s') (hr : Loop.Reaches l past) (hm : s.Mirrors l) :
    ∃ l' past', Loop.Reaches l' past' ∧ s'.Mirrors l' := by
  cases h with
  | press now key => exact (acts_press now key).mirrored hr hm
  | mouse column row action => exact (acts_mouse column row action).mirrored hr hm
  | paste t => exact (acts_paste t).mirrored hr hm
  | tick => exact acts_tick.mirrored hr hm
  | draw width height => exact (acts_draw width height).mirrored hr hm
  | settle => exact hm.settle hr

theorem mirrors_openSession {w : Surroundings} {c : CommandLine} {worker : σ}
    (h : (Program.openSession interpreter w c worker).1 = .ok s) :
    Loop.Reaches { pad := s.pad } [] ∧ s.Mirrors { pad := s.pad } := by
  have hcalm (documents : List Document) (n : Nat) :
      (Pad.ofDocuments documents n).runState = .idle ∧ (Pad.ofDocuments documents n).runInterrupted = false := by
    cases documents <;> exact ⟨rfl,rfl⟩
  unfold Program.openSession at h
  dsimp only at h
  split at h
  · cases h
  · split at h
    · cases h
    · split at h
      · cases h
      · obtain rfl := Except.ok.inj h
        exact ⟨.start (hcalm _ _).1 (hcalm _ _).2,rfl,rfl,rfl,rfl,.inl rfl⟩

/-- Every session that comes up has the pad of a loop that comes up, with the same runs and restarts. -/
theorem Reaches.mirrored (h : Reaches interpreter s) : ∃ l past, Loop.Reaches l past ∧ s.Mirrors l := by
  induction h with
  | start h => exact ⟨_,_,mirrors_openSession h⟩
  | next _ hs ih =>
    obtain ⟨l,past,hr,hm⟩ := ih
    exact hs.mirrored hr hm

end Session
end StatementPad
