import StatementPad.Pad
import StatementPad.Proofs.Document.WellFormed
import StatementPad.Proofs.Marker
import StatementPad.Proofs.Run.Controller
import StatementPad.Proofs.Run.Painted
import StatementPad.Run.Scripted

/-! # What the marker of a run stands beside

A run paints the lines that its block had in the snapshot, while the block goes with the edits made since. So
the marker stands beside the block for as long as the edits have left it where it was.
-/
namespace StatementPad
open Buffer Document Text.Decimal

namespace Buffer

theorem linesIn_append {b : Buffer} {r : LineRange} (hr : r.Within b) (back : List Text) :
    linesIn (b ++ back) r = linesIn b r := by
  have h := EditEvent.linesIn_above (e := ⟨b.length,0,0⟩) hr.lt hr back
  rwa [List.take_length] at h

end Buffer

namespace Pad
variable {p : Pad} {event : RunEvent}

theorem lines_appendLines (n : Nat) (d : Document) : ∃ back, (appendLines n d).lines = d.lines ++ back := by
  induction n generalizing d with
  | zero => exact ⟨[],(List.append_nil _).symm⟩
  | succ n ih =>
    obtain ⟨back,h⟩ := ih d.appendEmptyLine.1
    exact ⟨[] :: back,by rw [appendLines, h]; simp [appendEmptyLine]⟩

theorem id_appendLines (n : Nat) (d : Document) : (appendLines n d).id = d.id := by
  induction n generalizing d with
  | zero => rfl
  | succ n ih => rw [appendLines, ih]; rfl

/-- An event gives the shown document at most some empty lines at its end. -/
theorem shown_apply (p : Pad) (event : RunEvent) : (p.apply event).shown.id = p.shown.id ∧
    ∃ back, (p.apply event).shown.lines = p.shown.lines ++ back := by
  have hsame : p.shown.id = p.shown.id ∧ ∃ back, p.shown.lines = p.shown.lines ++ back :=
    ⟨rfl,[],(List.append_nil _).symm⟩
  cases event with
  | state s | paint buffer lines state | clearMarker buffer | finished buffer lines outcome => exact hsame
  | aborted buffer reason =>
    rw [apply]
    split <;> exact hsame
  | moveCursor buffer line =>
    rw [apply, updateBuffer]
    split
    · exact hsame
    · split
      · exact ⟨id_appendLines _ _,lines_appendLines _ _⟩
      · exact hsame

theorem markers_apply (hpaint : ∀ buffer lines state, event ≠ .paint buffer lines state)
    (hclear : ∀ buffer, event ≠ .clearMarker buffer) : (p.apply event).markers = p.markers := by
  cases event with
  | state s | finished buffer lines outcome => rfl
  | paint buffer lines state => exact absurd rfl (hpaint buffer lines state)
  | clearMarker buffer => exact absurd rfl (hclear buffer)
  | moveCursor buffer line =>
    rw [apply, updateBuffer]
    split
    · rfl
    · split <;> rfl
  | aborted buffer reason =>
    rw [apply]
    split <;> rfl

/-- The pads that come up from `start` on while events are taken over and the shown document is edited. No edit
touches the lines that were `lines` at first; they have come to be `place`. -/
inductive Amid (start : Pad) (lines : LineRange) : List RunEvent → LineRange → Pad → Prop where
  | start : Amid start lines [] lines start
  | event {events : List RunEvent} {place : LineRange} {p : Pad} (event : RunEvent)
      (h : Amid start lines events place p) : Amid start lines (events ++ [event]) place (p.apply event)
  | edit {events : List RunEvent} {place : LineRange} {p : Pad} {d : Document} {event : EditEvent} (e : Edit)
      (h : Amid start lines events place p) (he : e.apply p.shown = (d,some event))
      (hfree : ¬ event.Touches place) (hfit : d.lines.length ≤ wordBound) :
      Amid start lines events (event.moved place) ({ p with shown := d }.edited event)
  | quiet {events : List RunEvent} {place : LineRange} {p p' : Pad} (h : Amid start lines events place p)
      (hid : p'.shown.id = p.shown.id) (hlines : p'.shown.lines = p.shown.lines) (hmarkers : p'.markers = p.markers) :
      Amid start lines events place p'

namespace Amid
variable {start : Pad} {lines place : LineRange} {events : List RunEvent}

theorem append (h : Amid start lines events place p) (more : List RunEvent) :
    Amid start lines (events ++ more) place (more.foldl apply p) := by
  induction more generalizing events p with
  | nil => simpa using h
  | cons event more ih => simpa using ih (h.event event)

/-- Lines that no edit touches are kept, wherever they have come to be. -/
theorem keeps (h : Amid start lines events place p) (hw : lines.Within start.shown.lines) :
    p.shown.id = start.shown.id ∧ place.Within p.shown.lines ∧
      linesIn p.shown.lines place = linesIn start.shown.lines lines := by
  induction h with
  | start => exact ⟨rfl,hw,rfl⟩
  | @event events place p event h ih =>
    obtain ⟨hid,back,hback⟩ := shown_apply p event
    obtain ⟨hpid,⟨hle,hlt⟩,hlines⟩ := ih
    rw [hid, hback, linesIn_append ⟨hle,hlt⟩]
    exact ⟨hpid,⟨hle,by rw [List.length_append]; omega⟩,hlines⟩
  | edit e h he hfree hfit ih =>
    obtain ⟨hpid,hwithin,hlines⟩ := ih
    obtain ⟨hmoved,hkept⟩ := (reports_of_apply he).keeps hwithin hfree
    exact ⟨(id_of_apply he).trans hpid,hmoved,hkept.trans hlines⟩
  | quiet h hid hlines hmarkers ih =>
    rw [hid, hlines]
    exact ih

/-- A marker that stands beside the lines goes with them until something is painted or cleared. -/
theorem marked {state : MarkerState} (h : Amid start lines events place p) (hw : lines.Within start.shown.lines)
    (hm : start.markers.get? start.shown.id = some ⟨lines,state⟩)
    (hpaint : ∀ buffer lines state, .paint buffer lines state ∉ events)
    (hclear : ∀ buffer, .clearMarker buffer ∉ events) : p.markers.get? p.shown.id = some ⟨place,state⟩ := by
  induction h with
  | start => exact hm
  | @event events place p event h ih =>
    simp only [List.mem_append, List.mem_singleton, not_or] at hpaint hclear
    rw [(shown_apply p event).1, markers_apply (fun _ _ _ he => (hpaint _ _ _).2 he.symm)
      (fun _ he => (hclear _).2 he.symm)]
    exact ih (fun _ _ _ => (hpaint _ _ _).1) (fun _ => (hclear _).1)
  | @edit events place p d event e h he hfree hfit ih =>
    have hid : d.id = p.shown.id := id_of_apply he
    change (p.markers.onEdit d.id event _).get? d.id = _
    rw [MarkerBook.get?_onEdit, hid, ih hpaint hclear, Option.bind_some]
    exact Marker.afterEdit_of_free _ (h.keeps hw).2.1 (reports_of_apply he) hfree hfit
  | quiet h hid hlines hmarkers ih =>
    rw [hid, hmarkers]
    exact ih hpaint hclear

end Amid

variable {start p : Pad} {r : RunRequest} {steps : List TaskStep} {u : Task Unit} {waiting : Bool}
  {earlier later : List RunEvent} {buffer : BufferId} {lines place : LineRange} {state : MarkerState}

/-- What a run paints are the lines that its block had when the run began. By then the block may have moved on:
the marker is beside its text exactly if the same text stands where the block was, and if the block has not
moved at all it stays beside it from then on. -/
theorem run_paints_snapshot_lines (hw : start.shown.WellFormed) (hbuffer : r.buffer = start.shown.id)
    (hsnapshot : r.snapshot = start.shown.lines) (hrun : Task.Path (Job.run r) steps u waiting)
    (hevents : .state .probing :: Steps.events steps = earlier ++ .paint buffer lines state :: later)
    (hamid : Amid start lines earlier place p) :
    let painted := p.apply (.paint buffer lines state)
    painted.markers.get? start.shown.id = some ⟨lines,state⟩ ∧
    linesIn painted.shown.lines place = linesIn start.shown.lines lines ∧
    (linesIn painted.shown.lines lines = linesIn start.shown.lines lines ↔
      linesIn painted.shown.lines lines = linesIn painted.shown.lines place) ∧
    (place = lines → ∀ events place' p', events <+: later → (∀ other l s, .paint other l s ∉ events) →
      Amid painted lines events place' p' → p'.markers.get? start.shown.id = some ⟨place',state⟩ ∧
        linesIn p'.shown.lines place' = linesIn start.shown.lines lines) := by
  intro painted
  obtain ⟨before,hbefore⟩ : ∃ before, Steps.events steps = before ++ .paint buffer lines state :: later := by
    cases earlier with
    | nil => cases (List.cons.inj hevents).1
    | cons first before => exact ⟨before,(List.cons.inj hevents).2⟩
  obtain ⟨rfl,⟨block,hblock,rfl⟩,hclear⟩ := Job.paint_of_path hrun hbefore
  have hwithin : block.codeLines.Within start.shown.lines := hsnapshot ▸ hblock.within (hsnapshot ▸ hw.unbroken)
  obtain ⟨hid,hplace,hkept⟩ := hamid.keeps hwithin
  have hmarker : painted.markers.get? start.shown.id = some ⟨block.codeLines,state⟩ := by
    rw [← hbuffer]
    exact (MarkerBook.get?_paint p.markers r.buffer r.buffer block.codeLines state).trans (if_pos rfl)
  -- From here on the marker goes with the block if it stands beside it now.
  refine ⟨hmarker,hkept,by rw [show linesIn painted.shown.lines place = _ from hkept],?_⟩
  rintro rfl events place' p' hbegins hpaint hafter
  have hfollow := hafter.marked hplace (by rw [show painted.shown.id = _ from hid]; exact hmarker) hpaint
    (fun other hmem => hclear other (hbegins.subset hmem))
  obtain ⟨hid',-,hkept'⟩ := hafter.keeps hplace
  rw [hid', show painted.shown.id = _ from hid] at hfollow
  exact ⟨hfollow,hkept'.trans hkept⟩

def twoStatements : Pad := .ofDocuments [.ofText 1 "x = 1\ny = 2" none] 100

def secondLine : RunRequest :=
  { buffer := 1, filename := "a.py", workingDir := none, snapshot := Buffer.ofText "x = 1\ny = 2",
    selection := .atLine 1, mode := .block }

def untilRunning : List RunEvent :=
  [.state .probing, .state .resolved, .paint 1 ⟨1,1⟩ .active, .moveCursor 1 2, .state .running]

theorem secondLine_run : ∃ steps, Task.Path (Job.run secondLine) steps (.done ()) false ∧
    .state .probing :: Steps.events steps = (untilRunning ++ [.state .success]) ++
      .paint 1 ⟨1,1⟩ .finished :: [.finished 1 ⟨1,1⟩ (.success []), .state .idle] :=
  ⟨_,Controller.path_advance ScriptedKernel.answer (Job.run secondLine) {}
    { verdicts := [.ok .statements], outcomes := [], moves := [] },by decide +kernel⟩

def whileRunning : Pad := (untilRunning.foldl apply twoStatements).changeShown (·.setCursor 0 0)

theorem amid_whileRunning : Amid twoStatements ⟨1,1⟩ untilRunning ⟨1,1⟩ whileRunning :=
  (Amid.start.append untilRunning).quiet rfl rfl rfl

theorem above_secondLine (delta : Int) : ¬ EditEvent.Touches ⟨0,delta,0⟩ ⟨1,1⟩ := by
  rw [EditEvent.touches_iff le_rfl]
  exact fun h => absurd h.2 (Nat.not_succ_le_zero 0)

/-- A character above the block changes no line numbers. -/
theorem run_paints_charAbove : ∃ p p' : Pad, Amid twoStatements ⟨1,1⟩ (untilRunning ++ [.state .success]) ⟨1,1⟩ p ∧
    Amid (p.apply (.paint 1 ⟨1,1⟩ .finished)) ⟨1,1⟩ [.finished 1 ⟨1,1⟩ (.success []), .state .idle] ⟨1,1⟩ p' ∧
    p'.markers.get? 1 = some ⟨⟨1,1⟩,.finished⟩ ∧
    linesIn p'.shown.lines ⟨1,1⟩ = linesIn twoStatements.shown.lines ⟨1,1⟩ := by
  have he : (Edit.insertChar 'z').apply whileRunning.shown =
      (((Edit.insertChar 'z').apply whileRunning.shown).1,some ⟨0,0,0⟩) := by decide +kernel
  obtain ⟨p,hamid⟩ : ∃ p, Amid twoStatements ⟨1,1⟩ (untilRunning ++ [.state .success]) ⟨1,1⟩ p :=
    ⟨_,(amid_whileRunning.edit _ he (above_secondLine _) (by decide +kernel)).event (.state .success)⟩
  obtain ⟨steps,hrun,hevents⟩ := secondLine_run
  have hpainted : Amid (p.apply (.paint 1 ⟨1,1⟩ .finished)) ⟨1,1⟩ [] ⟨1,1⟩ _ := .start
  have hrest := hpainted.append [.finished 1 ⟨1,1⟩ (.success []), .state .idle]
  obtain ⟨-,-,-,hafter⟩ := run_paints_snapshot_lines (.ofText 1 _ none) rfl rfl hrun hevents hamid
  exact ⟨p,_,hamid,hrest,hafter rfl _ _ _ List.prefix_rfl (by simp) hrest⟩

/-- A line above the block moves it down, and the last marker goes to the line that was above it. -/
theorem run_paints_noteAbove : ∃ (steps : List TaskStep) (earlier later : List RunEvent) (place : LineRange) (p : Pad),
    twoStatements.shown.WellFormed ∧ secondLine.buffer = twoStatements.shown.id ∧
    secondLine.snapshot = twoStatements.shown.lines ∧ Task.Path (Job.run secondLine) steps (.done ()) false ∧
    .state .probing :: Steps.events steps = earlier ++ .paint 1 ⟨1,1⟩ .finished :: later ∧
    (∀ other l s, .paint other l s ∉ later) ∧ Amid twoStatements ⟨1,1⟩ earlier place p ∧
    (p.apply (.paint 1 ⟨1,1⟩ .finished)).markers.get? 1 = some ⟨⟨1,1⟩,.finished⟩ ∧
    linesIn (p.apply (.paint 1 ⟨1,1⟩ .finished)).shown.lines ⟨1,1⟩ = [("x = 1" : Text)] ∧
    linesIn twoStatements.shown.lines ⟨1,1⟩ = [("y = 2" : Text)] := by
  have he : (Edit.insertText "# note\n").apply whileRunning.shown =
      (((Edit.insertText "# note\n").apply whileRunning.shown).1,some ⟨0,1,0⟩) := by decide +kernel
  have hamid := ((amid_whileRunning.edit _ he (above_secondLine _) (by decide +kernel)).event (.state .success))
  obtain ⟨steps,hrun,hevents⟩ := secondLine_run
  exact ⟨steps,_,_,_,_,.ofText 1 _ none,rfl,rfl,hrun,hevents,by simp,hamid,by decide +kernel,by decide +kernel,
    by decide +kernel⟩

end Pad
end StatementPad
