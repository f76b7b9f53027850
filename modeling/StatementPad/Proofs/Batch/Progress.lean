import StatementPad.Proofs.Batch
import StatementPad.Proofs.Run.Told

/-! # Progress of batch runs

Whenever a block is run, the cursor moves below the line on which the run was triggered, and below the first line
of the block's code. So the loop over the blocks of a document triggers one run for each line at most, and would
do the same if it did not look whether the cursor has moved down.
-/
namespace StatementPad
open Buffer StatementPad.Task

namespace Job
open StatementPad.Probe
variable {r : RunRequest} {steps : List TaskStep} {found : Except Fault Probe} {outcomes : List Outcome}
  {events : List RunEvent} {c : Nat}

/-- Once a block is reported as found, it is on its way to the kernel, and the cursor moves below it if it moves. -/
theorem Told.of_resolved (h : Told r found outcomes events) (hres : .state .resolved ∈ events) :
    ∃ p block d, found = .ok p ∧ p.dispatched? = some (block,d) ∧ ∀ buffer line, .moveCursor buffer line ∈ events →
      line = max r.selection.cursor (block.stop + 1) := by
  have hmoved {buffer : BufferId} {line target : Nat} (hm : .moveCursor buffer line ∈ moved r target) :
      line = target := by
    unfold moved at hm
    split at hm
    · exact (RunEvent.moveCursor.inj (List.mem_singleton.mp hm)).2
    · cases hm
  have hnot (target : Nat) : .state .resolved ∉ moved r target := by
    unfold moved
    split <;> simp
  cases h with
  | nothing h | unanswered fault => simp at hres
  | rejected h hbad => simp [hnot] at hres
  | @succeeded p block d _ h | @failed p block d _ h | @lost p block d h =>
    refine ⟨p,block,d,rfl,h,fun buffer line hm => ?_⟩
    exact hmoved (by simpa [shown] using hm)

theorem exists_reached {b : Buffer} {selection : LineSelection} {mode : RunMode} {inside : Option Nat}
    {trials : List Trial} {p : Probe} {block : CodeBlock} {d : Dispatch}
    (h : Finding b selection mode inside trials (.ok p)) (hd : p.dispatched? = some (block,d)) :
    ∃ verdict, Reached b selection mode trials block verdict := by
  cases p with
  | empty | outside | invalid _ _ | incomplete _ => cases hd
  | exhausted block' =>
    cases hd
    exact ⟨_,h.exhausted.2⟩
  | ready block' expression =>
    cases hd
    exact ⟨_,h.ready⟩

/-- If a block is run, the cursor moves below its own line and below the first line of the code. -/
theorem moves_down {d : Document} {u : Task Unit} {waiting : Bool} (hflat : ∀ l ∈ d.lines, '\n' ∉ l)
    (hsnapshot : r.snapshot = d.lines) (hselection : r.selection = .atLine c) (hmode : r.mode = .block)
    (hc : c < d.lines.length) (hp : Path (run r) steps u waiting) (hres : .state .resolved ∈ Steps.events steps)
    {buffer : BufferId} {line : Nat} (hmove : .moveCursor buffer line ∈ Steps.events steps) :
    c < line ∧ ∀ event ∈ Steps.events steps, ∀ lines ∈ event.lines?, lines.start < line := by
  obtain ⟨found,probing,rest,outcomes,told,hparted,htold,hsub⟩ := told_of_path hp
  obtain ⟨p,block,dispatch,rfl,hd,hline⟩ := htold.of_resolved ((hsub _ hres).resolve_right (by simp))
  obtain ⟨trials,-,hfinding⟩ := hparted.finding
  obtain ⟨verdict,hreached⟩ := exists_reached hfinding hd
  rw [hsnapshot, hselection, hmode] at hreached
  have hdown := Batch.le_stop_of_reached hreached hc
  have hbelow : block.codeLines.start ≤ block.stop := by
    rw [hreached.snapshot]
    exact CodeBlock.start_codeLines_le hflat hreached.le
  have hstop : line = max r.selection.cursor (block.stop + 1) :=
    hline buffer line ((hsub _ hmove).resolve_right (by simp))
  constructor
  · omega
  · intro event hm lines hl
    have htell : event ∈ told := (hsub event hm).resolve_right fun h => by subst h; cases hl
    obtain ⟨p',block',hp',hb',rfl⟩ := htold.lines event htell hl
    obtain rfl := Except.ok.inj hp'
    obtain rfl := Option.some.inj (hb'.symm.trans (block?_of_dispatched? hd))
    omega

end Job

namespace Controller
variable {κ α : Type} {answer : Kernel κ}

def Answers (answer : Kernel κ) : Prop := ∀ call k, (answer call k).1 ≠ none

theorem advance_done (ha : Answers answer) (t : Task α) (c : Controller) (k : κ) :
    ∃ value, (advance answer t c k).1 = .done value := by
  induction t generalizing c k with
  | done value => exact ⟨value,rfl⟩
  | act action next ih => exact ih _ _ _
  | call call next ih =>
    unfold advance
    cases hreply : answer call k with
    | mk reply k' =>
      cases reply with
      | none => exact absurd (congrArg Prod.fst hreply) (ha call k)
      | some reply => exact ih reply c k'

theorem jobs_settle (ha : Answers answer) {r : RunRequest} {c : Controller} (h : c.jobs = [Job.run r]) (k : κ) :
    (c.settle answer k).1.jobs = [] := by
  obtain ⟨value,hdone⟩ := advance_done ha (Job.run r) { c with jobs := [] } k
  have hp := path_advance answer (Job.run r) { c with jobs := [] } k
  have hjobs : (advance answer (Job.run r) { c with jobs := [] } k).2.1.jobs = ([] : List (Task Unit)) :=
    jobs_advance fun r' hm => by
      obtain ⟨before,after,he⟩ := List.append_of_mem hm
      exact (Job.lawful_of_path hp he).1
  rw [settle_single h]
  generalize advance answer (Job.run r) { c with jobs := [] } k = settled at hdone hjobs ⊢
  obtain ⟨u,c',k'⟩ := settled
  obtain rfl : u = .done value := hdone
  exact hjobs

end Controller

namespace Batch
variable {κ : Type} {access : KernelAccess κ} {b b' : Batch κ} {d : Document} {c n : Nat}

inductive Concludes (lines : Buffer) : Except Failure Step → Except Failure Unit → Prop where
  | broken (f : Failure) : Concludes lines (.error f) (.error f)
  | nothing (failed : Bool) (next? : Option Nat) : Concludes lines (.ok ⟨none,failed,next?⟩) (.ok ())
  | failed (ran : LineRange) (next? : Option Nat) : Concludes lines (.ok ⟨some ran,true,next?⟩) (.error (failure ran))
  | bottom (ran : LineRange) (next : Nat) (h : lines.length ≤ next) :
      Concludes lines (.ok ⟨some ran,false,some next⟩) (.ok ())

/-- The loop over the blocks of a document, with the lines on which its runs are triggered: it goes on for as long
as there is a next line, wherever that is. -/
inductive Loops (access : KernelAccess κ) : Batch κ → List Nat → Batch κ → Except Failure Unit → Prop where
  | stops {b b' : Batch κ} {stepped : Except Failure Step} {result : Except Failure Unit}
      (h : b.step access .block = (b',stepped)) (hresult : Concludes b'.document.lines stepped result) :
      Loops access b [b.document.cursor.line] b' result
  | goesOn {b b' last : Batch κ} {ran : LineRange} {next : Nat} {triggers : List Nat} {result : Except Failure Unit}
      (h : b.step access .block = (b',.ok ⟨some ran,false,some next⟩)) (hin : next < b'.document.lines.length)
      (hrest : Loops access { b' with document := b'.document.setCursor next 0 } triggers last result) :
      Loops access b (b.document.cursor.line :: triggers) last result

/-- A step that has run a block without an error leaves the cursor to go further down. -/
theorem next_of_came {cwd : Text} {steps : List TaskStep} {ran : LineRange} {next? : Option Nat}
    (hflat : ∀ l ∈ d.lines, '\n' ∉ l) (hc : c < d.lines.length)
    (h : Came ((d.setCursor c 0).request cwd .block) steps ⟨some ran,false,next?⟩) :
    ∃ next, next? = some next ∧ c < next ∧ ran.start < next := by
  rw [request_eq hc] at h
  generalize hs : (⟨some ran,false,next?⟩ : Step) = step at h
  cases h with
  | nothing hnone hran => cases hs
  | rejected lines next?' => cases hs
  | @ran _ block _ outcome hreached hran =>
    simp only [Step.mk.injEq, Option.some.injEq] at hs
    obtain ⟨rfl,-,rfl⟩ := hs
    have hdown := le_stop_of_reached hreached hc
    have hbelow : block.codeLines.start ≤ block.stop := by
      rw [hreached.snapshot]
      exact CodeBlock.start_codeLines_le hflat hreached.le
    exact ⟨_,rfl,by omega,by omega⟩

theorem came_of_step (access : KernelAccess κ) (hb : b.Ready) (hd : b.document = d.setCursor c 0) {step : Step}
    (h : b.step access .block = (b',.ok step)) : b'.Ready ∧ b'.document = d.setCursor c 0 ∧
      ∃ steps, Came ((d.setCursor c 0).request b.cwd .block) steps step := by
  obtain ⟨steps,-,hok⟩ := @step_recorded _ .block b access hb []
  rw [h] at hok
  obtain ⟨hb',hdocument,hended,p,hfollow⟩ := hok step rfl
  have hcame := came_of_follow rfl rfl hended hfollow
  rw [hd] at hdocument hcame
  exact ⟨hb',hdocument,steps,hcame⟩

/-- The loop that counts at most `n` steps and looks at the cursor is the one that does not, and its runs are
triggered further and further down. -/
def Descends (access : KernelAccess κ) (lines : Buffer) (c n : Nat) (b : Batch κ) : Prop :=
  ∃ triggers last result, Loops access b triggers last result ∧ advanceAtMost access n b = (last,some result) ∧
    triggers.Pairwise (· < ·) ∧ (∀ l ∈ triggers, c ≤ l ∧ l < lines.length) ∧ triggers.length ≤ lines.length - c

theorem descends_of_stops {lines : Buffer} {stepped : Except Failure Step} {result : Except Failure Unit}
    (hc : c < lines.length) (hline : b.document.cursor.line = c) (h : b.step access .block = (b',stepped))
    (hresult : Concludes b'.document.lines stepped result)
    (hproceed : proceed (b',stepped) = (b',.finished result)) : Descends access lines c (n + 1) b := by
  refine ⟨_,b',result,.stops h hresult,?_,List.pairwise_singleton ..,?_,?_⟩
  · rw [advanceAtMost, advance_eq, h, hproceed]
  · simpa [hline] using hc
  · rw [List.length_singleton]
    omega

theorem descends_of_goesOn {lines : Buffer} {ran : LineRange} {next : Nat} (hc : c < lines.length)
    (hline : b.document.cursor.line = c) (h : b.step access .block = (b',.ok ⟨some ran,false,some next⟩))
    (hlines : b'.document.lines = lines) (hdown : c < next) (hguard : ran.start < next) (hin : next < lines.length)
    (hrest : Descends access lines next n { b' with document := b'.document.setCursor next 0 }) :
    Descends access lines c (n + 1) b := by
  obtain ⟨triggers,last,result,hloops,hcount,hsorted,hbelow,hlength⟩ := hrest
  refine ⟨_,last,result,.goesOn h (hlines ▸ hin) hloops,?_,?_,?_,?_⟩
  · rw [advanceAtMost, advance_eq, h, proceed, hlines, if_pos ⟨hin,hguard⟩]
    exact hcount
  · rw [hline]
    exact List.pairwise_cons.mpr ⟨fun l hl => hdown.trans_le (hbelow l hl).1,hsorted⟩
  · rw [hline]
    refine List.forall_mem_cons.mpr ⟨⟨le_rfl,hc⟩,fun l hl => ?_⟩
    exact ⟨hdown.le.trans (hbelow l hl).1,(hbelow l hl).2⟩
  · rw [List.length_cons]
    omega

/-- The lines below the cursor are enough steps for what is left to run. -/
theorem descends_of_ready (access : KernelAccess κ) (hb : b.Ready) (hd : b.document = d.setCursor c 0)
    (hc : c < d.lines.length) (hn : d.lines.length ≤ c + n) : Descends access d.lines c n b := by
  induction n generalizing b c with
  | zero => omega
  | succ n ih =>
    have hline : b.document.cursor.line = c := by rw [hd, cursor_setCursor hc]
    cases h : b.step access .block with
    | mk b' stepped =>
      rcases stepped with f | ⟨_ | ran,_ | _,next?⟩
      · exact descends_of_stops hc hline h (.broken f) rfl
      · exact descends_of_stops hc hline h (.nothing false next?) rfl
      · exact descends_of_stops hc hline h (.nothing true next?) rfl
      -- The only case that goes on: the next line is further down, so that one step less is enough for what is below.
      · obtain ⟨hb',hdocument,steps,hcame⟩ := came_of_step access hb hd h
        have hlines : b'.document.lines = d.lines := by rw [hdocument]; rfl
        obtain ⟨next,rfl,hdown,hguard⟩ := next_of_came (hlines ▸ hb'.flat) hc hcame
        by_cases hin : next < d.lines.length
        · refine descends_of_goesOn hc hline h hlines hdown hguard hin ?_
          exact ih ⟨hb'.jobs,hb'.events,hb'.flat⟩ (by simp [hdocument]; rfl) hin (by omega)
        · refine descends_of_stops hc hline h (.bottom ran next (by rw [hlines]; omega)) ?_
          rw [proceed, hlines, if_neg fun h => hin h.1]
      · exact descends_of_stops hc hline h (.failed ran next?) rfl

theorem conclude_jobs (access : KernelAccess κ) (b : Batch κ) (settled : Controller × κ) :
    (b.conclude access settled).1.controller.jobs = settled.1.jobs := by
  simp only [conclude, Controller.takeEvents]
  cases (follow b.document.name settled.1.events b.printer {}).2 with
  | error f | ok step => rfl

theorem jobs_step {mode : RunMode} (ha : Controller.Answers access.answer) (hb : b.Ready) :
    (b.step access mode).1.controller.jobs = [] := by
  by_cases hidle : b.controller.state = .idle
  · have hclaimed : (b.claimed access mode).controller.jobs = [Job.run (b.document.request b.cwd mode)] := by
      rw [claimed_controller access hb hidle]
    rw [step_of_idle access hidle, conclude_jobs]
    exact Controller.jobs_settle ha hclaimed _
  · simp [step, Controller.trigger_of_busy _ hidle, hb.jobs]

/-- If each call returns, the loop leaves no run behind that waits. -/
theorem Loops.jobs {triggers : List Nat} {result : Except Failure Unit} (ha : Controller.Answers access.answer)
    (hb : b.Ready) (h : Loops access b triggers b' result) : b'.controller.jobs = [] := by
  induction h with
  | @stops b b' _ _ h =>
    have hjobs := @jobs_step _ access b .block ha hb
    rwa [h] at hjobs
  | @goesOn b b' _ _ _ _ _ h _ _ ih =>
    obtain ⟨steps,-,hok⟩ := @step_recorded _ .block b access hb []
    rw [h] at hok
    obtain ⟨hb',-⟩ := hok _ rfl
    exact ih ⟨hb'.jobs,hb'.events,hb'.flat⟩

def obliging : KernelAccess Unit where
  answer
    | .compile .., _ => (some (.ok .statements),())
    | .evaluate, _ => (some (.ok (.success [])),())
    | .execute, _ => (some (.ok (.success [])),())
    | .executeSource .., _ => (some (.ok (.success [])),())
    | .setWorkingDir _, _ => (some (.ok ()),())
  flush k := ([],k)

structure Progresses (access : KernelAccess κ) (b : Batch κ) : Prop where
  /-- A run moves the cursor below its line and below the first line of the block that it shows. -/
  down : ∀ r c steps u waiting, r.snapshot = b.document.lines → r.selection = .atLine c → r.mode = .block →
    c < b.document.lines.length → Path (Job.run r) steps u waiting → .state .resolved ∈ Steps.events steps →
      ∀ buffer line, .moveCursor buffer line ∈ Steps.events steps → c < line ∧
        ∀ buffer lines marker, .paint buffer lines marker ∈ Steps.events steps → lines.start < line
  /-- The loop ends, with one run for each line at most. -/
  loops : ∃ triggers last result,
    Loops access { b with document := b.document.setCursor 0 0 } triggers last result ∧
      b.runAll access = (last,result) ∧ triggers.Pairwise (· < ·) ∧ triggers.length ≤ b.document.lines.length ∧
      (∀ l ∈ triggers, l < b.document.lines.length) ∧ last.controller.jobs = []

theorem runAll_progresses (hb : b.Ready) (hlines : b.document.lines ≠ [])
    (ha : Controller.Answers access.answer) : Progresses access b := by
  constructor
  · intro r c steps u waiting hsnapshot hselection hmode hc hp hres buffer line hmove
    obtain ⟨hdown,hbelow⟩ := Job.moves_down hb.flat hsnapshot hselection hmode hc hp hres hmove
    exact ⟨hdown,fun buffer lines marker hm => hbelow _ hm lines rfl⟩
  · have htop : ({ b with document := b.document.setCursor 0 0 } : Batch κ).Ready := ⟨hb.jobs,hb.events,hb.flat⟩
    obtain ⟨triggers,last,result,hloops,hcount,hsorted,hbelow,hlength⟩ :=
      descends_of_ready access htop rfl (List.length_pos_iff.mpr hlines) (Nat.zero_add _).ge
    refine ⟨triggers,last,result,hloops,?_,hsorted,hlength,fun l hl => (hbelow l hl).2,hloops.jobs ha htop⟩
    unfold runAll
    dsimp only
    rw [show (b.document.setCursor 0 0).lines.length = b.document.lines.length from rfl, hcount]
    rfl

/-- Three lines, of which the second and the third are a cell. -/
theorem runAll_progresses_cell :
    let b : Batch Unit := { document := .ofText 1 "x = 1\n#%%\ny = 2" (some "a.py"), cwd := "/", kernel := (),
                            printer := { color := false } }
    (b.runAll obliging).2 = .ok () ∧ Progresses obliging b :=
  ⟨rfl,runAll_progresses (ready_ofText ..) (by decide) fun call k => by cases call <;> simp [obliging]⟩

end Batch
end StatementPad
