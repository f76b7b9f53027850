import StatementPad.Marker
import StatementPad.Proofs.Document.Reported

/-! # Markers and the lines beside them

While nothing runs a marker goes where its lines go. It is taken away only by an edit that touches one of them,
and edits of one document leave the markers of all others alone.
-/
namespace StatementPad
open Buffer Document

namespace MarkerBook
variable {book : MarkerBook} {buffer other : BufferId} {event : EditEvent} {running : Bool}

theorem get?_clear (book : MarkerBook) (buffer other : BufferId) :
    (book.clear buffer).get? other = if other = buffer then none else book.get? other := by
  rw [get?, get?, clear]
  induction book with
  | nil => simp
  | cons entry book ih =>
    obtain ⟨key,m⟩ := entry
    by_cases hkey : key = buffer
    · subst hkey
      by_cases ho : other = key
      · simpa [ho] using ih
      · simpa [ho, List.lookup_cons, beq_eq_false_iff_ne.mpr ho] using ih
    · by_cases ho : other = key
      · subst ho
        simp [hkey]
      · simpa [hkey, List.lookup_cons, beq_eq_false_iff_ne.mpr ho] using ih

theorem get?_paint (book : MarkerBook) (buffer other : BufferId) (lines : LineRange) (state : MarkerState) :
    (book.paint buffer lines state).get? other = if other = buffer then some ⟨lines,state⟩ else book.get? other := by
  rw [paint, get?, List.lookup_cons]
  by_cases ho : other = buffer
  · simp [ho]
  · have hrest := get?_clear book buffer other
    rw [if_neg ho] at hrest ⊢
    rw [beq_eq_false_iff_ne.mpr ho]
    exact hrest

theorem get?_onEdit (book : MarkerBook) (buffer : BufferId) (event : EditEvent) (running : Bool) :
    (book.onEdit buffer event running).get? buffer = (book.get? buffer).bind (Marker.afterEdit event running) := by
  rw [onEdit]
  cases hm : book.get? buffer with
  | none => simpa using hm
  | some m =>
    rw [Option.bind_some]
    cases ha : m.afterEdit event running with
    | none => simp [ha, get?_clear]
    | some m' => simp [ha, get?_paint]

theorem get?_onEdit_of_ne (book : MarkerBook) (event : EditEvent) (running : Bool) (h : other ≠ buffer) :
    (book.onEdit buffer event running).get? other = book.get? other := by
  rw [onEdit]
  split
  · rfl
  · split
    · rw [get?_paint, if_neg h]
    · rw [get?_clear, if_neg h]

end MarkerBook

namespace Marker
variable {m : Marker} {event : EditEvent} {b b' : Buffer}

theorem touchedBy_iff (hm : m.lines.start ≤ m.lines.stop) : m.touchedBy event = true ↔ event.Touches m.lines := by
  rw [EditEvent.touches_iff hm, touchedBy, Bool.and_eq_true, decide_eq_true_eq, decide_eq_true_eq]

theorem afterEdit_of_touches (hm : m.lines.start ≤ m.lines.stop) (h : event.Touches m.lines) :
    m.afterEdit event false = none := by
  rw [afterEdit, if_pos ((touchedBy_iff hm).mpr h)]
  rfl

/-- Running or not, a marker that is not touched goes with its lines. -/
theorem afterEdit_of_free (running : Bool) (hm : m.lines.Within b) (he : event.Reports b b')
    (hfree : ¬ event.Touches m.lines) (hfit : b'.length ≤ Text.Decimal.wordBound) :
    m.afterEdit event running = some { m with lines := event.moved m.lines } := by
  obtain ⟨hle,hlt⟩ := (he.keeps hm hfree).1
  rw [afterEdit, if_neg (fun h => hfree ((touchedBy_iff hm.le).mp h))]
  unfold EditEvent.moved at hle hlt ⊢
  by_cases habove : event.line < m.lines.start
  · rw [if_pos habove] at hle hlt
    dsimp only at hle hlt
    rw [if_pos habove, if_pos habove, shift, shift, Nat.min_eq_left (by omega), Nat.min_eq_left (by omega)]
  · rw [if_neg habove, if_neg habove]

/-- The marker `m'` stands beside the lines of `b'` as `m` stood beside those of `b`. -/
structure Follows (b : Buffer) (m : Marker) (b' : Buffer) (m' : Marker) : Prop where
  within : m'.lines.Within b'
  state : m'.state = m.state
  lines : linesIn b' m'.lines = linesIn b m.lines

theorem Follows.refl (hm : m.lines.Within b) : Follows b m b m := ⟨hm,rfl,rfl⟩

theorem Follows.trans {b₁ : Buffer} {m₁ m' : Marker} (h : Follows b m b₁ m₁) (h' : Follows b₁ m₁ b' m') :
    Follows b m b' m' := ⟨h'.within,h'.state.trans h.state,h'.lines.trans h.lines⟩

end Marker

open Marker Text.Decimal

/-- Documents and markers that come up while nothing runs. Between edits the cursor may go anywhere, and other
documents may be edited. A document has no more lines than a word of 64 bits can count. -/
inductive Idle (d : Document) (book : MarkerBook) : Document → MarkerBook → Prop where
  | start : Idle d book d book
  | edit {d₁ d₂ : Document} {book₁ : MarkerBook} {event : EditEvent} (e : Edit) (h : Idle d book d₁ book₁)
      (he : e.apply d₁ = (d₂,some event)) (hfit : d₂.lines.length ≤ wordBound) :
      Idle d book d₂ (book₁.onEdit d₁.id event false)
  | quiet {d₁ d₂ : Document} {book₁ : MarkerBook} (h : Idle d book d₁ book₁) (hid : d₂.id = d₁.id)
      (hlines : d₂.lines = d₁.lines) : Idle d book d₂ book₁
  | elsewhere {d₁ : Document} {book₁ : MarkerBook} {buffer : BufferId} (event : EditEvent)
      (h : Idle d book d₁ book₁) (hne : buffer ≠ d₁.id) : Idle d book d₁ (book₁.onEdit buffer event false)

def Lost (d : Document) (book : MarkerBook) (m : Marker) (d' : Document) (book' : MarkerBook) : Prop :=
  ∃ (d₁ d₂ : Document) (book₁ : MarkerBook) (m₁ : Marker) (e : Edit) (event : EditEvent),
    Idle d book d₁ book₁ ∧ book₁.get? d₁.id = some m₁ ∧ Follows d.lines m d₁.lines m₁ ∧
      e.apply d₁ = (d₂,some event) ∧ event.Touches m₁.lines ∧
      Idle d₂ (book₁.onEdit d₁.id event false) d' book'

section Edits
variable {d d' : Document} {book book' : MarkerBook} {m : Marker} {event : EditEvent} {e : Edit}

theorem id_of_apply (he : e.apply d = (d',some event)) : d'.id = d.id := by
  have hid := (e.tells d).id
  rwa [he] at hid

theorem reports_of_apply (he : e.apply d = (d',some event)) : event.Reports d.lines d'.lines := by
  have hevent := (e.tells d).event event
  rw [he] at hevent
  exact hevent rfl

/-- One edit takes a marker away or takes it along. -/
theorem gone_or_follows (he : e.apply d = (d',some event)) (hfit : d'.lines.length ≤ wordBound)
    (hm : book.get? d.id = some m) (hw : m.lines.Within d.lines) :
    ((book.onEdit d.id event false).get? d.id = none ∧ event.Touches m.lines) ∨
      ∃ m', (book.onEdit d.id event false).get? d.id = some m' ∧ Follows d.lines m d'.lines m' := by
  have hreports := reports_of_apply he
  rw [MarkerBook.get?_onEdit, hm, Option.bind_some]
  by_cases htouch : event.Touches m.lines
  · exact .inl ⟨afterEdit_of_touches hw.le htouch,htouch⟩
  · obtain ⟨hwithin,hlines⟩ := hreports.keeps hw htouch
    exact .inr ⟨_,afterEdit_of_free false hw hreports htouch hfit,hwithin,rfl,hlines⟩

/-- What was lost stays lost. -/
theorem Lost.mono {d₁ : Document} {book₁ : MarkerBook} (h : Lost d book m d₁ book₁)
    (hmore : ∀ d₀ book₀, Idle d₀ book₀ d₁ book₁ → Idle d₀ book₀ d' book') : Lost d book m d' book' := by
  obtain ⟨d₀,d₂,book₀,m₀,e,event,hidle,hm,hf,he,htouch,hrest⟩ := h
  exact ⟨d₀,d₂,book₀,m₀,e,event,hidle,hm,hf,he,htouch,hmore _ _ hrest⟩

theorem Idle.lost_or_follows (h : Idle d book d' book') (hm : book.get? d.id = some m) (hw : m.lines.Within d.lines) :
    (book'.get? d'.id = none ∧ Lost d book m d' book') ∨
      ∃ m', book'.get? d'.id = some m' ∧ Follows d.lines m d'.lines m' := by
  induction h with
  | start => exact .inr ⟨m,hm,.refl hw⟩
  | @edit d₁ d₂ book₁ event e h he hfit ih =>
    rw [id_of_apply he]
    rcases ih with ⟨hnone,hlost⟩ | ⟨m₁,hm₁,hf⟩
    -- Nothing is painted while nothing runs, so a marker that is gone does not come back.
    · refine .inl ⟨?_,hlost.mono fun _ _ hrest => .edit e hrest he hfit⟩
      rw [MarkerBook.get?_onEdit, hnone]
      rfl
    · rcases gone_or_follows he hfit hm₁ hf.within with ⟨hnone,htouch⟩ | ⟨m',hm',hf'⟩
      · exact .inl ⟨hnone,d₁,d₂,book₁,m₁,e,event,h,hm₁,hf,he,htouch,.start⟩
      · exact .inr ⟨m',hm',hf.trans hf'⟩
  | quiet h hid hlines ih =>
    rw [hid, hlines]
    exact ih.imp_left fun ⟨hnone,hlost⟩ => ⟨hnone,hlost.mono fun _ _ hrest => .quiet hrest hid hlines⟩
  | elsewhere event h hne ih =>
    rw [MarkerBook.get?_onEdit_of_ne _ event false hne.symm]
    exact ih.imp_left fun ⟨hnone,hlost⟩ => ⟨hnone,hlost.mono fun _ _ hrest => .elsewhere event hrest hne⟩

end Edits

/-- While nothing runs, one edit and any number of them take a marker away only by touching its lines, and else
leave it beside the text beside which it stood. -/
theorem edits_keep_markers (d : Document) (book : MarkerBook) :
    (∀ (e : Edit) (d' : Document) (event : EditEvent), e.apply d = (d',some event) → d'.lines.length ≤ wordBound →
      (∀ buffer, buffer ≠ d.id → (book.onEdit d.id event false).get? buffer = book.get? buffer) ∧
      ∀ m, book.get? d.id = some m → m.lines.Within d.lines →
        ((book.onEdit d.id event false).get? d.id = none ∧ event.Touches m.lines) ∨
          ∃ m', (book.onEdit d.id event false).get? d.id = some m' ∧ Follows d.lines m d'.lines m') ∧
    ∀ (d' : Document) (book' : MarkerBook), Idle d book d' book' →
      ∀ m, book.get? d.id = some m → m.lines.Within d.lines →
        (book'.get? d'.id = none ∧ Lost d book m d' book') ∨
          ∃ m', book'.get? d'.id = some m' ∧ Follows d.lines m d'.lines m' := by
  refine ⟨fun e d' event he hfit => ⟨fun buffer hne => ?_,fun m hm hw => ?_⟩,fun d' book' h m hm hw => ?_⟩
  · exact MarkerBook.get?_onEdit_of_ne book event false hne
  · exact gone_or_follows he hfit hm hw
  · exact h.lost_or_follows hm hw

/-- Two lines give way to three above a marker, and then a character goes into its line. -/
theorem edits_keep_markers_pasteAbove : ∃ (d d₁ d₂ : Document) (m m₁ : Marker) (book₁ book₂ : MarkerBook),
    m.lines.Within d.lines ∧ Idle d [(d.id,m)] d₁ book₁ ∧ Idle d [(d.id,m)] d₂ book₂ ∧
      book₁.get? d.id = some m₁ ∧ m.lines = ⟨3,3⟩ ∧ m₁.lines = ⟨4,4⟩ ∧ Follows d.lines m d₁.lines m₁ ∧
      book₂.get? d₂.id = none ∧ Lost d [(d.id,m)] m d₂ book₂ := by
  let d := (Document.ofText 1 "a\nb\nc\nd" none).selectLines 0 1
  let m : Marker := ⟨⟨3,3⟩,.finished⟩
  let d₁ := ((Edit.insertText "p\nq\nr\n").apply d).1
  let d₂ := ((Edit.insertChar 'z').apply (d₁.setCursor 4 0)).1
  let book₁ := MarkerBook.onEdit [(d.id,m)] d.id ⟨0,1,2⟩ false
  have he₁ : (Edit.insertText "p\nq\nr\n").apply d = (d₁,some ⟨0,1,2⟩) := by decide +kernel
  have he₂ : (Edit.insertChar 'z').apply (d₁.setCursor 4 0) = (d₂,some ⟨4,0,0⟩) := by decide +kernel
  have hfit₁ : d₁.lines.length ≤ wordBound := by decide +kernel
  have hfit₂ : d₂.lines.length ≤ wordBound := by decide +kernel
  have hw : m.lines.Within d.lines := ⟨by decide,by decide +kernel⟩
  have hmarker : MarkerBook.get? [(d.id,m)] d.id = some m := by decide
  have hidle₁ : Idle d [(d.id,m)] d₁ book₁ := .edit _ .start he₁ hfit₁
  have hcursor : Idle d [(d.id,m)] (d₁.setCursor 4 0) book₁ := hidle₁.quiet rfl rfl
  have hidle₂ := hcursor.edit _ he₂ hfit₂
  have hmoved : book₁.get? d.id = some ⟨⟨4,4⟩,.finished⟩ := by decide +kernel
  have hgone : (book₁.onEdit (d₁.setCursor 4 0).id ⟨4,0,0⟩ false).get? d₂.id = none := by decide +kernel
  have hkeep := edits_keep_markers d [(d.id,m)]
  refine ⟨d,d₁,d₂,m,_,book₁,_,hw,hidle₁,hidle₂,hmoved,rfl,rfl,?_,hgone,?_⟩
  · rcases (hkeep.1 _ _ _ he₁ hfit₁).2 m hmarker hw with h | ⟨m',hm',hf⟩
    · exact absurd (h.1.symm.trans hmoved) (by simp)
    · rw [Option.some.inj (hmoved.symm.trans hm')]
      exact hf
  · rcases hkeep.2 _ _ hidle₂ m hmarker hw with h | ⟨m',hm',-⟩
    · exact h.2
    · exact absurd (hgone.symm.trans hm') (by simp)

end StatementPad
