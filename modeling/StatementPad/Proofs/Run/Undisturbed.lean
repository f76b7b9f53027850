import StatementPad.Proofs.Run.System

/-! # Runs that nothing interferes with

One schedule is to take a caller to its end at once, and then its run as far as it goes. This is what a
controller does when it is asked to trigger a run and to settle.
-/
namespace StatementPad.System
open StatementPad.Task
variable {s s' : System} {h deeds : List Deed} {i : Nat}

/-- Some deeds in a row, with nothing between them. -/
inductive Does : System → List Deed → System → Prop where
  | nothing {s : System} : Does s [] s
  | deed {s s' s'' : System} {d : Deed} {rest : List Deed} (hd : Inside s d s') (hrest : Does s' rest s'') :
      Does s (d :: rest) s''

theorem Reaches.does (hr : Reaches s h) (hd : Does s deeds s') : Reaches s' (h ++ deeds) := by
  induction hd generalizing h with
  | nothing => rwa [List.append_nil]
  | @deed s s' s'' d rest hd _ ih =>
    have hrest := ih (hr.next (.deed hd))
    rwa [List.append_assoc, List.singleton_append] at hrest

/-! ## A caller -/

theorem inside_last {c : Controller} {flights : List Flight} {r : RunRequest} {job : Option (Thread Unit)}
    {action : SharedAction} {next : action.Answer → Task Bool} :
    Inside ⟨c,flights ++ [⟨r,⟨.act action next,false⟩,job⟩]⟩
      ⟨flights.length,.caller,.act action (c.perform action).1⟩
      ⟨{ (c.perform action).2 with jobs := [] },flights ++ [⟨r,⟨next (c.perform action).1,false⟩,
        job.or ((c.perform action).2.jobs.head?.map fun task => ⟨task,false⟩)⟩]⟩ := by
  let f : Flight := ⟨r,⟨.act action next,false⟩,job⟩
  have hf : (flights ++ [f])[flights.length]? = some f := by simp
  have hd : Inside ⟨c,flights ++ [f]⟩ _ _ := .caller hf .act
  simpa using hd

/-- A call in the idle state starts its run. -/
theorem does_accept {flights : List Flight} {c : Controller} (hjobs : c.jobs = []) (hidle : c.state = .idle)
    (r : RunRequest) :
    Does ⟨c,flights ++ [.call r]⟩
      [⟨flights.length,.caller,.act .tryBegin true⟩,
        ⟨flights.length,.caller,.act (.send (.state .probing)) ()⟩,
        ⟨flights.length,.caller,.act (.spawn r) ()⟩]
      ⟨{ c with state := .probing, events := c.events ++ [.state .probing] },
        flights ++ [⟨r,⟨.done true,false⟩,some ⟨Job.run r,false⟩⟩]⟩ := by
  obtain ⟨state,entered,events,jobs⟩ := c
  obtain rfl : state = .idle := hidle
  obtain rfl : jobs = [] := hjobs
  exact .deed inside_last (.deed inside_last (.deed inside_last .nothing))

/-- A call while a run is in flight is refused. -/
theorem does_refuse {flights : List Flight} {c : Controller} (hjobs : c.jobs = []) (hbusy : c.state ≠ .idle)
    (r : RunRequest) :
    Does ⟨c,flights ++ [.call r]⟩ [⟨flights.length,.caller,.act .tryBegin false⟩]
      ⟨c,flights ++ [⟨r,⟨.done false,false⟩,none⟩]⟩ := by
  have hclaim : Inside ⟨c,flights ++ [.call r]⟩ _ _ := inside_last
  rw [Controller.perform_tryBegin_busy hbusy] at hclaim
  obtain ⟨state,entered,events,jobs⟩ := c
  obtain rfl : jobs = [] := hjobs
  exact .deed hclaim .nothing

theorem Reaches.accept (hr : Reaches s h) (hidle : s.controller.state = .idle) (r : RunRequest) :
    Reaches ⟨{ s.controller with state := .probing, events := s.controller.events ++ [.state .probing] },
      s.flights ++ [⟨r,⟨.done true,false⟩,some ⟨Job.run r,false⟩⟩]⟩
      (h ++ [⟨s.flights.length,.caller,.act .tryBegin true⟩,
        ⟨s.flights.length,.caller,.act (.send (.state .probing)) ()⟩,
        ⟨s.flights.length,.caller,.act (.spawn r) ()⟩]) :=
  (hr.next (.call r)).does (does_accept hr.sound.jobs hidle r)

theorem Reaches.refuse (hr : Reaches s h) (hbusy : s.controller.state ≠ .idle) (r : RunRequest) :
    Reaches ⟨s.controller,s.flights ++ [⟨r,⟨.done false,false⟩,none⟩]⟩
      (h ++ [⟨s.flights.length,.caller,.act .tryBegin false⟩]) :=
  (hr.next (.call r)).does (does_refuse hr.sound.jobs hbusy r)

/-! ## A run -/

theorem set_flight {flights : List Flight} {f : Flight} {t : Thread Unit} (hf : flights[i]? = some f)
    (hj : f.job = some t) : flights.set i { f with job := some t } = flights := by
  obtain ⟨hi,rfl⟩ := List.getElem?_eq_some_iff.mp hf
  rw [← hj]
  exact List.set_getElem_self hi

/-- A run is taken as far as it goes, whatever the kernel is. -/
theorem does_advance {κ : Type} {f : Flight} {t : Task Unit} (answer : Controller.Kernel κ) (k : κ)
    (hf : s.flights[i]? = some f) (hj : f.job = some ⟨t,false⟩) :
    Does s ((Controller.stepsOf answer t s.controller k).map fun step => ⟨i,.job,step⟩)
      ⟨(Controller.advance answer t s.controller k).2.1,
        s.flights.set i { f with job := some ⟨(Controller.advance answer t s.controller k).1,false⟩ }⟩ := by
  have hi : i < s.flights.length := (List.getElem?_eq_some_iff.mp hf).1
  induction t generalizing s f k with
  | done value =>
    rw [Controller.advance, set_flight hf hj]
    exact .nothing
  | act action next ih =>
    have hset := List.getElem?_set_self (a := { f with job := some ⟨next (s.controller.perform action).1,false⟩ }) hi
    have hrest := ih _ (s := ⟨(s.controller.perform action).2,_⟩) k hset rfl (by simpa using hi)
    rw [List.set_set] at hrest
    exact .deed (.job hf hj .act) hrest
  | call c next ih =>
    unfold Controller.advance Controller.stepsOf
    cases ha : answer c k with
    | mk reply k =>
      cases reply with
      | none =>
        dsimp only
        rw [set_flight hf hj]
        exact .nothing
      | some reply =>
        have hasked := List.getElem?_set_self (a := { f with job := some ⟨.call c next,true⟩ }) hi
        have hanswered := List.getElem?_set_self (a := { f with job := some ⟨next reply,false⟩ }) hi
        have hrest := ih reply (s := ⟨s.controller,_⟩) k hanswered rfl (by simpa using hi)
        have hdeed : Inside ⟨s.controller,_⟩ _ _ := .job hasked rfl (.answered reply)
        rw [List.set_set] at hdeed hrest
        exact .deed (.job hf hj .asked) (.deed hdeed hrest)

theorem Reaches.advance {κ : Type} {f : Flight} {t : Task Unit} (answer : Controller.Kernel κ) (k : κ)
    (hr : Reaches s h) (hf : s.flights[i]? = some f) (hj : f.job = some ⟨t,false⟩) :
    Reaches ⟨(Controller.advance answer t s.controller k).2.1,
        s.flights.set i { f with job := some ⟨(Controller.advance answer t s.controller k).1,false⟩ }⟩
      (h ++ (Controller.stepsOf answer t s.controller k).map fun step => ⟨i,.job,step⟩) :=
  hr.does (does_advance answer k hf hj)

def oneLine : RunRequest :=
  { buffer := 1, filename := "a.py", workingDir := none, snapshot := ["1 + 1"], selection := .atLine 0,
    mode := .block }

end StatementPad.System
