import StatementPad.Proofs.Batch.Step
import StatementPad.Run.Scripted

/-! # Batch runs of whole documents

A batch run that ends well has run every code line, one block below the other, with one exception: on a marker
whose cell is blank it stops, as if nothing were left.
-/
namespace StatementPad.Batch
open Buffer
variable {κ : Type} {access : KernelAccess κ} {b : Batch κ} {d : Document} {log more : List TaskStep} {c l : Nat}

/-- A block or a cell around the line was run and did not end in an error. -/
def Executed (d : Document) (log : List TaskStep) (l : Nat) : Prop :=
  ∃ start stop outcome, start ≤ l ∧ l ≤ stop ∧ outcome.isError = false ∧
    ((CodeBlock.ofBuffer d.lines start stop).source d.sourceName,outcome) ∈ Steps.ran log {}

/-- On the line is a marker whose cell is blank, and there is code below it. -/
structure Stalled (lines : Buffer) (c : Nat) : Prop where
  marker : Cell.isMarkerAt lines c = true
  blank : Cell.body lines c = none
  left : ∃ l, c ≤ l ∧ (classAt lines l).isCode = true

def RanThrough (d : Document) (c : Nat) (log : List TaskStep) : Prop :=
  ∀ l, (classAt d.lines l).isCode = true → (Executed d log l ↔ ¬ (Stalled d.lines c ∧ c ≤ l))

/-- The code above the cursor has been executed, and nothing below it. -/
structure Covered (d : Document) (log : List TaskStep) (c : Nat) : Prop where
  above : ∀ l, l < c → (classAt d.lines l).isCode = true → Executed d log l
  below : ∀ entry ∈ Steps.ran log {}, ∃ start stop, start ≤ stop ∧ stop < c ∧
    entry.1 = (CodeBlock.ofBuffer d.lines start stop).source d.sourceName

theorem Executed.append (h : Executed d log l) (more : List TaskStep) : Executed d (log ++ more) l := by
  obtain ⟨start,stop,outcome,h1,h2,hok,hmem⟩ := h
  refine ⟨start,stop,outcome,h1,h2,hok,?_⟩
  rw [Steps.ran_append]
  exact List.mem_append_left _ hmem

theorem Covered.start (d : Document) : Covered d [] 0 :=
  ⟨fun l hl => absurd hl (Nat.not_lt_zero l),fun _ h => by simp at h⟩

/-- What ran above the cursor differs from every block that reaches a code line below it. -/
theorem Covered.not_executed (h : Covered d log c) (hl : c ≤ l) (hcode : (classAt d.lines l).isCode = true) :
    ¬ Executed d log l := by
  rintro ⟨start,stop,outcome,h1,h2,-,hmem⟩
  obtain ⟨start',stop',hle,hlt,he⟩ := h.below _ hmem
  simp only [CodeBlock.source, Source.mk.injEq, true_and] at he
  obtain ⟨hstart,htext⟩ := he
  obtain rfl : start = start' := hstart
  have hlonger := CodeBlock.length_text_lt hle (hlt.trans_le hl) h2 hcode
  rw [htext] at hlonger
  exact lt_irrefl _ hlonger

theorem Covered.nothing {steps : List TaskStep} (h : Covered d log c) (hran : ∀ s, Steps.ran steps s = []) :
    Covered d (log ++ steps.filter TaskStep.isKernel) c := by
  refine ⟨fun l hl hcode => (h.above l hl hcode).append _,?_⟩
  rw [Steps.ran_append, Steps.ran_filter, hran, List.append_nil]
  exact h.below

theorem Covered.ran {steps : List TaskStep} {block : CodeBlock} {outcome : Outcome} (h : Covered d log c)
    (hblock : block = .ofBuffer d.lines block.start block.stop) (hle : block.start ≤ block.stop)
    (hstart : ∀ l, c ≤ l → (classAt d.lines l).isCode = true → block.start ≤ l)
    (hran : ∀ s, Steps.ran steps s = [(block.source d.sourceName,outcome)]) (hok : outcome.isError = false) :
    Covered d (log ++ steps.filter TaskStep.isKernel) (max c (block.stop + 1)) := by
  have hlog : Steps.ran (log ++ steps.filter TaskStep.isKernel) {} =
      Steps.ran log {} ++ [(block.source d.sourceName,outcome)] := by
    rw [Steps.ran_append, Steps.ran_filter, hran]
  constructor
  · intro l hl hcode
    rcases Nat.lt_or_ge l c with hc | hc
    · exact (h.above l hc hcode).append _
    · refine ⟨block.start,block.stop,outcome,hstart l hc hcode,by omega,hok,?_⟩
      rw [hlog, ← hblock]
      exact List.mem_append_right _ (List.mem_singleton_self _)
  · intro entry hentry
    rw [hlog, List.mem_append, List.mem_singleton] at hentry
    rcases hentry with hentry | rfl
    · obtain ⟨start,stop,h1,h2,he⟩ := h.below entry hentry
      exact ⟨start,stop,h1,by omega,he⟩
    · exact ⟨block.start,block.stop,hle,by omega,by rw [← hblock]⟩

/-! ## The loop -/

theorem cursor_setCursor (hc : c < d.lines.length) : (d.setCursor c 0).cursor.line = c := by
  simp only [Document.setCursor, Document.clamp, Document.lastLine]
  omega

theorem request_eq (hc : c < d.lines.length) (cwd : Text) :
    (d.setCursor c 0).request cwd .block =
      { buffer := d.id, filename := d.sourceName, workingDir := d.workingDir cwd, snapshot := d.lines,
        selection := .atLine c, mode := .block } := by
  have hcursor := cursor_setCursor hc
  have hselection : (d.setCursor c 0).selection = none := rfl
  simp only [Document.request, Document.lineSelection, hselection, hcursor]
  rfl

section Reached
variable {trials : List Probe.Trial} {block : CodeBlock} {verdict : Verdict}

/-- All code from the cursor on stands at or below the start of the block. -/
theorem start_le_of_reached (hr : Probe.Reached d.lines (.atLine c) .block trials block verdict) (hl : c ≤ l)
    (hcode : (classAt d.lines l).isCode = true) : block.start ≤ l := by
  cases hcell : Probe.takesCell d.lines (.atLine c) .block with
  | true =>
    obtain ⟨hstart,-⟩ : block.start = c + 1 ∧ _ := Cell.below_some (hr.cell hcell)
    have hmarker : (classAt d.lines c).isCode = false := Cell.not_isCode_of_marker hcell
    have hne : l ≠ c := fun he => by simp [he, hmarker] at hcode
    omega
  | false => exact (hr.grown hcell).2 l ((Nat.min_le_left _ _).trans hl) hcode

theorem le_stop_of_reached (hr : Probe.Reached d.lines (.atLine c) .block trials block verdict)
    (hc : c < d.lines.length) : c ≤ block.stop := by
  cases hcell : Probe.takesCell d.lines (.atLine c) .block with
  | true =>
    obtain ⟨-,hle,-⟩ : _ ∧ c + 1 ≤ block.stop ∧ _ := Cell.below_some (hr.cell hcell)
    omega
  | false =>
    have hle : min c (d.lines.length - 1) ≤ block.stop := (hr.grown hcell).1
    omega

theorem not_stalled_of_reached (hr : Probe.Reached d.lines (.atLine c) .block trials block verdict) :
    ¬ Stalled d.lines c := by
  intro hs
  have hbody : Cell.body d.lines c = some _ := hr.cell hs.marker
  rw [hs.blank] at hbody
  cases hbody

end Reached

theorem Covered.ranThrough (h : Covered d log c)
    (hnone : ∀ l, c ≤ l → (classAt d.lines l).isCode = true → Stalled d.lines c) : RanThrough d c log := by
  intro l hcode
  rcases Nat.lt_or_ge l c with hl | hl
  · exact ⟨fun _ hs => absurd hs.2 (Nat.not_le_of_lt hl),fun _ => h.above l hl hcode⟩
  · exact ⟨fun he => absurd he (h.not_executed hl hcode),fun hs => absurd ⟨hnone l hl hcode,hl⟩ hs⟩

def proceed : Batch κ × Except Failure Step → Batch κ × Progress
  | (b, .error f) => (b, .finished (.error f))
  | (b, .ok ⟨none, _, _⟩) => (b, .finished (.ok ()))
  | (b, .ok ⟨some lines, true, _⟩) => (b, .finished (.error (failure lines)))
  | (b, .ok ⟨some _, false, none⟩) => (b, .finished (.ok ()))
  | (b, .ok ⟨some lines, false, some next⟩) =>
    if next < b.document.lines.length ∧ lines.start < next then
      ({ b with document := b.document.setCursor next 0 }, .goOn)
    else (b, .finished (.ok ()))

theorem advance_eq (access : KernelAccess κ) (b : Batch κ) : b.advance access = proceed (b.step access .block) := by
  unfold advance
  rcases b.step access .block with ⟨b',f | ⟨_ | lines,_ | _,_ | next⟩⟩ <;> rfl

theorem proceed_recorded (b : Batch κ) (log : List TaskStep) (result : Except Failure Step) :
    proceed (b.recorded log,result) = ((proceed (b,result)).1.recorded log,(proceed (b,result)).2) := by
  rcases result with f | ⟨_ | lines,_ | _,_ | next⟩
  case ok.some.false.some =>
    have hlines : (b.recorded log).document.lines = b.document.lines := rfl
    rw [proceed, proceed, hlines]
    split <;> rfl
  all_goals rfl

def Kept (d : Document) (c : Nat) (log : List TaskStep) : Batch κ × Progress → Prop
  | (b, .goOn) => b.Ready ∧ ∃ next, c < next ∧ next < d.lines.length ∧ b.document = d.setCursor next 0 ∧
    Covered d log next
  | (b, .finished result) => result = .ok () → b.document = d.setCursor c 0 ∧ RanThrough d c log

theorem kept_proceed {cwd : Text} {steps : List TaskStep} {result : Step} (hc : c < d.lines.length)
    (hb : b.Ready) (hd : b.document = d.setCursor c 0) (hcov : Covered d log c)
    (h : Came ((d.setCursor c 0).request cwd .block) steps result) :
    Kept d c (log ++ steps.filter TaskStep.isKernel) (proceed (b,.ok result)) := by
  have hlines : b.document.lines = d.lines := by rw [hd]; rfl
  rw [request_eq hc] at h
  cases h with
  | nothing hnone hran =>
    refine fun _ => ⟨hd,(hcov.nothing hran).ranThrough fun l hl hcode => ?_⟩
    rcases hnone with hnone | ⟨hcell,hrange⟩
    · exact absurd hcode (hnone.not_isCode ((Nat.min_le_left _ _).trans hl) (lt_length_of_isCode hcode))
    · exact ⟨hcell,hrange,l,hl,hcode⟩
  | rejected lines next? => exact fun h => by cases h
  | @ran _ block _ outcome hreached hran =>
    cases hbad : outcome.isError with
    | true => exact fun h => by cases h
    | false =>
      have hnext := hcov.ran hreached.snapshot hreached.le (fun _ => start_le_of_reached hreached) hran hbad
      have hdown := le_stop_of_reached hreached hc
      have hbelow : block.codeLines.start ≤ block.stop := by
        rw [hreached.snapshot]
        exact CodeBlock.start_codeLines_le (hlines ▸ hb.flat) hreached.le
      change Kept d c _ (proceed (b,.ok ⟨_,false,some (max c (block.stop + 1))⟩))
      rw [proceed, hlines]
      split
      next hin => exact ⟨⟨hb.jobs,hb.events,hb.flat⟩,_,by omega,hin.1,by simp [hd]; rfl,hnext⟩
      next hout =>
        refine fun _ => ⟨hd,fun l hcode => ⟨fun _ hs => not_stalled_of_reached hreached hs.1,fun _ => ?_⟩⟩
        have hl := lt_length_of_isCode hcode
        exact hnext.above l (by omega) hcode

theorem advance_recorded (access : KernelAccess κ) (hb : b.Ready) (hd : b.document = d.setCursor c 0)
    (hc : c < d.lines.length) (hcov : Covered d log c) : ∃ more,
    (b.recorded log).advance access.recorded =
      ((b.advance access).1.recorded (log ++ more),(b.advance access).2) ∧
    Kept d c (log ++ more) (b.advance access) := by
  obtain ⟨steps,hrec,hok⟩ := @step_recorded _ .block b access hb log
  refine ⟨steps.filter TaskStep.isKernel,?_⟩
  rw [advance_eq, advance_eq, hrec, proceed_recorded]
  generalize b.step access .block = stepped at hok ⊢
  refine ⟨rfl,?_⟩
  obtain ⟨b',f | result⟩ := stepped
  · exact fun h => by cases h
  · obtain ⟨hb',hdocument,hended,p,hfollow⟩ := hok result rfl
    have hcame := came_of_follow rfl rfl hended hfollow
    rw [hd] at hcame hdocument
    exact kept_proceed hc hb' hdocument hcov hcame

/-- The cursor goes down with every block, so that there are no more of them than lines. -/
theorem advanceAtMost_recorded {n : Nat} (access : KernelAccess κ) (hb : b.Ready)
    (hd : b.document = d.setCursor c 0) (hc : c < d.lines.length) (hn : d.lines.length ≤ c + n)
    (hcov : Covered d log c) : ∃ more,
    advanceAtMost access.recorded n (b.recorded log) =
      ((advanceAtMost access n b).1.recorded (log ++ more),(advanceAtMost access n b).2) ∧
    ∃ result, (advanceAtMost access n b).2 = some result ∧
      (result = .ok () → RanThrough d (advanceAtMost access n b).1.document.cursor.line (log ++ more)) := by
  induction n generalizing b log c with
  | zero => omega
  | succ n ih =>
    obtain ⟨more,hrec,hkept⟩ := advance_recorded access hb hd hc hcov
    unfold advanceAtMost
    rw [hrec]
    generalize b.advance access = advanced at hkept ⊢
    obtain ⟨b',result | _⟩ := advanced
    · refine ⟨more,rfl,result,rfl,fun h => ?_⟩
      obtain ⟨hlast,hran⟩ := hkept h
      rw [hlast, cursor_setCursor hc]
      exact hran
    · obtain ⟨hb',next,hlt,hin,hd',hcov'⟩ := hkept
      obtain ⟨rest,hrest,hresult⟩ := ih hb' hd' hin (by omega) hcov'
      exact ⟨more ++ rest,by rw [← List.append_assoc]; exact hrest,by rw [← List.append_assoc]; exact hresult⟩

theorem RanThrough.all_iff (h : RanThrough d c log) :
    (∀ l, (classAt d.lines l).isCode = true → Executed d log l) ↔ ¬ Stalled d.lines c := by
  constructor
  · intro hall hs
    obtain ⟨l,hl,hcode⟩ := hs.left
    exact (h l hcode).mp (hall l hcode) ⟨hs,hl⟩
  · exact fun hs l hcode => (h l hcode).mpr fun hl => hs hl.1

theorem runAll_recorded (access : KernelAccess κ) (hb : b.Ready) : ∃ log,
    (b.recorded []).runAll access.recorded = ((b.runAll access).1.recorded log,(b.runAll access).2) ∧
    ((b.runAll access).2 = .ok () → RanThrough b.document (b.runAll access).1.document.cursor.line log) := by
  let top : Batch κ := { b with document := b.document.setCursor 0 0 }
  have hrun : b.runAll access = ((advanceAtMost access b.document.lines.length top).1,
      (advanceAtMost access b.document.lines.length top).2.getD (.ok ())) := rfl
  have hrun' : (b.recorded []).runAll access.recorded =
      ((advanceAtMost access.recorded b.document.lines.length (top.recorded [])).1,
        (advanceAtMost access.recorded b.document.lines.length (top.recorded [])).2.getD (.ok ())) := rfl
  have hcov := Covered.start b.document
  rw [hrun, hrun']
  rcases Nat.eq_zero_or_pos b.document.lines.length with hempty | hpos
  · rw [hempty]
    refine ⟨[],rfl,fun _ l hcode => ?_⟩
    have hl := lt_length_of_isCode hcode
    omega
  · obtain ⟨log,hrec,result,hresult,hok⟩ := advanceAtMost_recorded (b := top) access ⟨hb.jobs,hb.events,hb.flat⟩ rfl
      hpos (Nat.zero_add _).ge hcov
    rw [List.nil_append] at hrec hok
    rw [hrec, hresult]
    exact ⟨log,rfl,hok⟩

def scripted : KernelAccess ScriptedKernel := ⟨ScriptedKernel.answer,fun k => ([],k)⟩

def opened (t : Text) (verdicts : List (Except Fault Verdict)) : Batch ScriptedKernel :=
  { document := .ofText 1 t (some "a.py"), cwd := "/", kernel := { verdicts, outcomes := [], moves := [] },
    printer := { color := false } }

/-- A batch run that ends well has executed every code line, unless it stops on a marker whose cell is blank:
then exactly the code below that marker has not been executed. -/
theorem runAll_complete (hb : b.Ready) (h : (b.runAll access).2 = .ok ()) : ∃ log,
    (b.recorded []).runAll access.recorded = ((b.runAll access).1.recorded log,.ok ()) ∧
    RanThrough b.document (b.runAll access).1.document.cursor.line log ∧
    ((∀ l, (classAt b.document.lines l).isCode = true → Executed b.document log l) ↔
      ¬ Stalled b.document.lines (b.runAll access).1.document.cursor.line) := by
  obtain ⟨log,hrec,hok⟩ := runAll_recorded access hb
  have hran := hok h
  rw [h] at hrec
  exact ⟨log,hrec,hran,hran.all_iff⟩

/-- A statement and a cell below it are both executed. -/
theorem runAll_complete_statementAndCell :
    let b := opened "x = 1\n#%%\ny = 2\n" [.ok .statements, .ok .statements]
    (b.runAll scripted).2 = .ok () ∧ ∃ log,
      (b.recorded []).runAll scripted.recorded = ((b.runAll scripted).1.recorded log,.ok ()) ∧
      RanThrough b.document (b.runAll scripted).1.document.cursor.line log ∧
      ((∀ l, (classAt b.document.lines l).isCode = true → Executed b.document log l) ↔
        ¬ Stalled b.document.lines (b.runAll scripted).1.document.cursor.line) :=
  ⟨rfl,runAll_complete (ready_ofText ..) rfl⟩

/-- Of two markers with nothing between them, the first one ends the run, and what is below the second one is
never executed. -/
theorem runAll_emptyCell :
    let b := opened "#%%\n#%%\nx = 1\n" [.ok .statements]
    b.Ready ∧ (b.runAll scripted).2 = .ok () ∧ (classAt b.document.lines 2).isCode = true ∧
      ¬ Executed b.document ((b.recorded []).runAll scripted.recorded).1.kernel.2 2 := by
  refine ⟨ready_ofText ..,rfl,rfl,?_⟩
  rintro ⟨start,stop,outcome,-,-,-,hmem⟩
  exact List.not_mem_nil hmem

end StatementPad.Batch
