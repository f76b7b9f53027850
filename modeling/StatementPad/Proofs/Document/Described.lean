import StatementPad.Proofs.Document.Reported
import StatementPad.Proofs.Document.WellFormed

/-! # Events describe edits

The event of an edit is worked out from the removal of the selection and from what is put in afterwards. It still tells
the whole edit: which lines gave way, by how many the document grew, and nothing if nothing was done.
-/
namespace StatementPad

/-- The event of an edit by which the document grows `delta` lines at `line` after something was removed. -/
def EditEvent.following (removed : Option EditEvent) (line : Nat) (delta : Int) : EditEvent :=
  match removed with
  | some e => ⟨min e.line line, e.delta + delta, e.removed⟩
  | none => .simple line delta

namespace Document
open Text Buffer
variable {d : Document} {result : Document × Option EditEvent} {start stop : Position}

def TellsWithin (d : Document) (result : Document × Option EditEvent) : Prop :=
  ∀ e, result.2 = some e → e.line + e.removed < d.lines.length

theorem WellFormed.placed (hw : d.WellFormed) : d.Placed := ⟨hw.cursor.line,fun p hp => (hw.anchor p hp).line⟩

theorem Replaces.tellsWithin (h : Replaces d result) (hw : d.WellFormed) : TellsWithin d result := by
  rintro event he
  cases h with
  | nothing anchor => cases he
  | put anchor pieces hle hstop =>
    obtain rfl := Option.some.inj he
    exact (Nat.add_sub_cancel' hle).trans_lt (hstop hw.placed)

theorem WellFormed.tellsWithin (hw : d.WellFormed) (e : Edit) : TellsWithin d (e.apply d) :=
  (e.replaces d).tellsWithin hw

inductive Change where
  | edit (e : Edit)
  | appendEmptyLine
  deriving DecidableEq, Repr

def Change.apply (d : Document) : Change → Document × Option EditEvent
  | edit e => e.apply d
  | appendEmptyLine => told d.appendEmptyLine

/-- The event tells which lines of `d` gave way to others, or there is none and nothing has changed. -/
structure Describes (d : Document) (result : Document × Option EditEvent) : Prop where
  reports : ∀ e, result.2 = some e → e.Reports d.lines result.1.lines
  within : TellsWithin d result
  modified : result.2 ≠ none → result.1.modified = true
  silent : result.2 = none → result.1.lines = d.lines ∧ result.1.modified = d.modified

theorem Replaces.describes (h : Replaces d result) (hw : d.WellFormed) : Describes d result := by
  refine ⟨h.tells.event,h.tellsWithin hw,?_,?_⟩
  · cases h with
    | nothing anchor => exact absurd rfl
    | put anchor pieces hle hstop => exact fun _ => rfl
  · cases h with
    | nothing anchor => exact fun _ => ⟨rfl,rfl⟩
    | put anchor pieces hle hstop =>
      intro hn
      cases hn

/-- The last line gives way to itself and an empty one. -/
theorem reports_appendEmptyLine (hne : d.lines ≠ []) :
    d.appendEmptyLine.2.Reports d.lines d.appendEmptyLine.1.lines := by
  have hlast : d.lastLine + 1 = d.lines.length := Nat.sub_add_cancel (List.length_pos_iff.mpr hne)
  refine ⟨d.lines.drop d.lastLine ++ [[]],?_,?_,by simp⟩
  · have hnothing : d.lines.drop (d.lastLine + 0 + 1) = [] := List.drop_eq_nil_of_le hlast.ge
    calc d.appendEmptyLine.1.lines
        = d.lines.take d.lastLine ++ d.lines.drop d.lastLine ++ [[]] := by rw [List.take_append_drop]; rfl
      _ = d.lines.take d.lastLine ++ (d.lines.drop d.lastLine ++ [[]]) ++ d.lines.drop (d.lastLine + 0 + 1) := by
          rw [hnothing, List.append_nil, List.append_assoc]
  · have hlength : (d.lines.drop d.lastLine ++ [[]]).length = 2 := by
      rw [List.length_append, List.length_drop, List.length_singleton]
      omega
    rw [hlength]
    rfl

theorem WellFormed.describes_appendEmptyLine (hw : d.WellFormed) : Describes d (told d.appendEmptyLine) := by
  have hlast : d.lastLine < d.lines.length := Nat.sub_lt (List.length_pos_iff.mpr hw.lines) Nat.one_pos
  refine ⟨fun e he => ?_,fun e he => ?_,fun _ => rfl,?_⟩
  · obtain rfl := Option.some.inj he
    exact reports_appendEmptyLine hw.lines
  · obtain rfl := Option.some.inj he
    exact hlast
  · intro hn
    cases hn

theorem WellFormed.describes (hw : d.WellFormed) (c : Change) : Describes d (c.apply d) := by
  cases c with
  | edit e => exact (e.replaces d).describes hw
  | appendEmptyLine => exact hw.describes_appendEmptyLine

/-! ## The selection goes first -/

/-- What is put in counts from where the cursor is once the selection is gone. -/
theorem event_replaceSelection (d : Document) (stop : Position) (pieces : List Text) (anchor : Option Position)
    (hstop : stop.line = d.bounds.2.line) : ({ d with anchor }.replace d.bounds.1 stop pieces).2 =
      .following d.deleteSelection.2 d.deleteSelection.1.cursor.line (pieces.length - 1 : Nat) := by
  cases hs : d.selection with
  | none =>
    have hb : d.bounds = (d.cursor,d.cursor) := by rw [bounds, hs]; rfl
    rw [deleteSelection, hs, replace, hstop, hb]
    simp [EditEvent.following, EditEvent.simple]
  | some ends =>
    have hb : d.bounds = ends := by rw [bounds, hs]; rfl
    rw [deleteSelection, hs, replace, hstop, hb]
    simp [EditEvent.following, replaceSelection, replace, hb, behind]
    omega

theorem event_insertText (d : Document) (t : Text) : (d.insertText t).2 =
    .following d.deleteSelection.2 d.deleteSelection.1.cursor.line (t.count '\n') := by
  have hpieces : (splitLines t).length - 1 = t.count '\n' := by
    rw [splitLines, List.length_map, breakLines, length_split, Nat.add_sub_cancel]
  rw [← hpieces]
  exact event_replaceSelection d d.bounds.2 (splitLines t) d.releaseAnchor rfl

/-! ## The property -/

structure Described (d : Document) : Prop where
  change : ∀ c : Change, Describes d (c.apply d)
  insertChar : ∀ c, c ≠ '\n' →
    (d.insertChar c).2 = .following d.deleteSelection.2 d.deleteSelection.1.cursor.line 0
  insertNewline : d.insertNewline.2 = .following d.deleteSelection.2 d.deleteSelection.1.cursor.line 1
  insertText : ∀ t : Text,
    (d.insertText t).2 = .following d.deleteSelection.2 d.deleteSelection.1.cursor.line (t.count '\n')

theorem events_describe_changes (hr : Reachable d) : Described d := by
  have hw := hr.wellFormed
  refine ⟨hw.describes,fun c hc => ?_,?_,event_insertText d⟩
  · rw [Document.insertChar, if_neg hc]
    exact event_replaceSelection d d.bounds.2 [[c]] d.releaseAnchor rfl
  · exact event_replaceSelection d _ [[],_] d.releaseAnchor rfl

/-- Three lines give way to as many: the event tells that lines went, though the document has not grown. -/
theorem events_describe_changes_pasteOver : ∃ d : Document, Reachable d ∧
    (d.insertText "x\ny\nz\n").2 = ⟨0,0,3⟩ ∧
      Describes d ((Change.edit (.insertText "x\ny\nz\n")).apply d) := by
  have hselected := (Reachable.ofText 0 "a\nb\nc\nd" none).apply (.selectLines 0 2)
  exact ⟨_,hselected,by decide +kernel,(events_describe_changes hselected).change _⟩

end Document
end StatementPad
