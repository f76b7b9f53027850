import StatementPad.Proofs.Document.Described
import StatementPad.Proofs.Marker

/-! # Markers while something runs

While something runs an edit leaves the marker, and one that touches it makes it active. The marker keeps its first
line then, and its last line goes by as many lines as the document grows. So it comes to stand beside other lines if
more lines went than came, either between the beginning of the edit and the marker or below the marker.
-/
namespace StatementPad
open Buffer Document Text.Decimal

theorem LineRange.mem_iff {r : LineRange} {line : Nat} : line ∈ r ↔ r.start ≤ line ∧ line ≤ r.stop := Iff.rfl

namespace EditEvent
variable {b b' : Buffer} {e : EditEvent} {r r' : LineRange} {l l' : Nat}

def added (e : EditEvent) : Int := e.removed + e.delta

/-- Where a line stands after the edit, if it is still there. -/
def place? (e : EditEvent) (l : Nat) : Option Nat :=
  if l ≤ e.line then some l
  else if e.line + e.removed < l then some (l + e.delta).toNat
  else none

/-- The lines beside which a marker on `r` stood are those beside which one on `r'` stands. The line on which the edit
began may be either. -/
structure KeepsLines (b : Buffer) (e : EditEvent) (r r' : LineRange) : Prop where
  inside : ∀ l ∈ r, l < b.length → ∀ l', e.place? l = some l' → l' ∈ r'
  outside : ∀ l, l ∉ r → l < b.length → l ≠ e.line → ∀ l', e.place? l = some l' → l' ∉ r'

/-- Of the lines beside a marker on `r` no more go than come. -/
structure Balanced (b : Buffer) (e : EditEvent) (r : LineRange) : Prop where
  /-- The edit begins in the marker, and the lines that go below the marker are made up for. -/
  below : r.start < e.line → e.line + e.removed ≤ r.stop + e.added
  /-- The edit begins above the marker, and the lines that go between are made up for. -/
  above : e.line < r.start → e.line + e.removed < r.stop → e.line + e.removed + 1 < b.length →
    r.start ≤ e.line + 1 + e.added
  /-- All of the marker goes, and one more line comes than went between, unless no line is left there. -/
  across : e.line < r.start → r.stop ≤ e.line + e.removed → r.start ≤ e.line + e.added ∨ b.length + e.delta ≤ r.start

/-- The lines that the event tells of are lines of `b`, and `b'` has as many lines as it tells. -/
structure FitsIn (e : EditEvent) (b b' : Buffer) : Prop where
  lt : e.line + e.removed < b.length
  added : 0 ≤ e.added
  length : (b'.length : Int) = b.length + e.delta

theorem Reports.fitsIn (he : e.Reports b b') (hlt : e.line + e.removed < b.length) : e.FitsIn b b' := by
  obtain ⟨inserted,rfl,hdelta,hne⟩ := he
  have hpos := List.length_pos_iff.mpr hne
  refine ⟨hlt,by rw [added]; omega,?_⟩
  rw [List.length_append, List.length_append, List.length_take_of_le (by omega), List.length_drop]
  push_cast
  omega

theorem place?_eq_some (hadded : 0 ≤ e.added) : e.place? l = some l' ↔
    l ≤ e.line ∧ l' = l ∨ e.line + e.removed < l ∧ (l' : Int) = l + e.delta := by
  rw [added] at hadded
  rw [place?]
  split
  · rw [Option.some.injEq]
    omega
  · split
    · rw [Option.some.injEq]
      omega
    · simp
      omega

/-- The lines up to that of the edit stand where they stood, those below the ones that went have moved. -/
theorem keepsLines_iff (hadded : 0 ≤ e.added) : KeepsLines b e r r' ↔
    (∀ l < b.length, l ≤ e.line → (l ∈ r → l ∈ r') ∧ (l ≠ e.line → l ∈ r' → l ∈ r)) ∧
      ∀ l < b.length, e.line + e.removed < l → ∀ l' : Nat, (l' : Int) = l + e.delta → (l' ∈ r' ↔ l ∈ r) := by
  constructor
  · rintro ⟨hinside,houtside⟩
    refine ⟨fun l hlb hl => ?_,fun l hlb hl l' hl' => ?_⟩
    · have hplace : e.place? l = some l := (place?_eq_some hadded).mpr (.inl ⟨hl,rfl⟩)
      exact ⟨fun hr => hinside l hr hlb l hplace,fun hne hr' => not_imp_not.mp (houtside l · hlb hne l hplace) hr'⟩
    · have hplace : e.place? l = some l' := (place?_eq_some hadded).mpr (.inr ⟨hl,hl'⟩)
      exact ⟨not_imp_not.mp (houtside l · hlb (by omega) l' hplace),fun hr => hinside l hr hlb l' hplace⟩
  · rintro ⟨hstays,hmoves⟩
    refine ⟨fun l hr hlb l' hl' => ?_,fun l hr hlb hne l' hl' hr' => hr ?_⟩
    · rcases (place?_eq_some hadded).mp hl' with ⟨hl,rfl⟩ | ⟨hl,hl'⟩
      · exact (hstays l' hlb hl).1 hr
      · exact (hmoves l hlb hl l' hl').mpr hr
    · rcases (place?_eq_some hadded).mp hl' with ⟨hl,rfl⟩ | ⟨hl,hl'⟩
      · exact (hstays l' hlb hl).2 hne hr'
      · exact (hmoves l hlb hl l' hl').mp hr'

end EditEvent

namespace Document

inductive Produces (d : Document) : Document → EditEvent → Prop where
  | edit {d' : Document} {event : EditEvent} (e : Edit) (he : e.apply d = (d',some event)) : Produces d d' event
  | append : Produces d d.appendEmptyLine.1 d.appendEmptyLine.2

variable {d d' : Document} {event : EditEvent}

theorem appendEmptyLine_fitsIn (hne : d.lines ≠ []) :
    d.appendEmptyLine.2.FitsIn d.lines d.appendEmptyLine.1.lines := by
  have hlast : d.lastLine < d.lines.length := Nat.sub_lt (List.length_pos_iff.mpr hne) Nat.one_pos
  exact ⟨hlast,by simp [appendEmptyLine, EditEvent.simple, EditEvent.added],by simp [appendEmptyLine, EditEvent.simple]⟩

/-- An event tells of lines that are there, and rightly how many there are afterwards. -/
theorem Produces.fitsIn (hp : Produces d d' event) (hw : d.WellFormed) : event.FitsIn d.lines d'.lines := by
  cases hp with
  | edit e he => exact (reports_of_apply he).fitsIn (hw.tellsWithin e event (by rw [he]))
  | append => exact appendEmptyLine_fitsIn hw.lines

end Document

namespace Marker
open EditEvent
variable {b b' : Buffer} {e : EditEvent} {r : LineRange} {m : Marker}

def stretched (delta : Int) (r : LineRange) : LineRange := ⟨r.start, max (shift r.stop delta) r.start⟩

def shifted (e : EditEvent) (r : LineRange) : LineRange :=
  if e.line < r.start then ⟨shift r.start e.delta, shift r.stop e.delta⟩ else r

theorem balanced_of_keepsLines (hf : e.FitsIn b b') (ht : e.Touches r) (hle : r.start ≤ r.stop)
    (h : KeepsLines b e r (stretched e.delta r)) : Balanced b e r := by
  obtain ⟨hlt,hadded,-⟩ := hf
  obtain ⟨hbegin,hend⟩ := (touches_iff hle).mp ht
  obtain ⟨hstays,hmoves⟩ := (keepsLines_iff hadded).mp h
  have hadd : e.added = e.removed + e.delta := rfl
  refine ⟨fun hin => ?_,fun habove hrest hmore => ?_,fun habove hacross => ?_⟩
  -- The line of the edit stays, so the last line of the marker is not above it.
  · obtain ⟨-,hstop⟩ := (hstays e.line (by omega) le_rfl).1 ⟨hin.le,hbegin⟩
    dsimp only [stretched, shift] at hstop
    omega
  -- The first line of the marker that is left is not above where the marker begins.
  · obtain ⟨hstart,-⟩ := (hmoves (e.line + e.removed + 1) hmore (Nat.lt_succ_self _)
      (e.line + e.removed + 1 + e.delta).toNat (by omega)).mpr ⟨by omega,by omega⟩
    dsimp only [stretched] at hstart
    omega
  -- The line that comes to stand where the marker begins would be one from below the marker.
  · by_contra hnot
    rw [not_or] at hnot
    obtain ⟨-,hstop⟩ := (hmoves (r.start - e.delta).toNat (by omega) (by omega) r.start (by omega)).mp
      ⟨le_rfl,Nat.le_max_right _ _⟩
    omega

theorem keepsLines_of_balanced (hf : e.FitsIn b b') (hfit : b'.length < wordBound) (ht : e.Touches r)
    (hle : r.start ≤ r.stop) (h : Balanced b e r) : KeepsLines b e r (stretched e.delta r) := by
  obtain ⟨hlt,hadded,hlength⟩ := hf
  obtain ⟨hbegin,hend⟩ := (touches_iff hle).mp ht
  obtain ⟨hbelow,habove,hacross⟩ := h
  have hadd : e.added = e.removed + e.delta := rfl
  refine (keepsLines_iff hadded).mpr ⟨fun l hlb hl => ?_,fun l hlb hl l' hl' => ?_⟩
  · simp only [LineRange.mem_iff, stretched, shift]
    omega
  · simp only [LineRange.mem_iff, stretched, shift]
    omega

/-- An edit that does not touch a marker keeps all lines of it and none but those. -/
theorem keepsLines_shifted (hf : e.FitsIn b b') (hfit : b'.length < wordBound) (hfree : ¬ e.Touches r)
    (hle : r.start ≤ r.stop) : KeepsLines b e r (shifted e r) := by
  obtain ⟨hlt,hadded,hlength⟩ := hf
  rw [touches_iff hle, not_and_or, Nat.not_le, Nat.not_le] at hfree
  have hadd : e.added = e.removed + e.delta := rfl
  refine (keepsLines_iff hadded).mpr ⟨fun l hlb hl => ?_,fun l hlb hl l' hl' => ?_⟩
  · rw [shifted]
    split
    next habove =>
      simp only [LineRange.mem_iff, shift]
      omega
    next => exact ⟨id,fun _ => id⟩
  · rw [shifted]
    split
    next habove =>
      simp only [LineRange.mem_iff, shift]
      omega
    next hbelow =>
      simp only [LineRange.mem_iff]
      omega

theorem afterEdit_of_touchedBy (h : m.touchedBy e = true) :
    m.afterEdit e true = some ⟨stretched e.delta m.lines,.active⟩ := by
  rw [afterEdit, if_pos h]
  rfl

theorem afterEdit_of_not_touchedBy (h : ¬ m.touchedBy e = true) (running : Bool) :
    m.afterEdit e running = some { m with lines := shifted e m.lines } := by
  rw [afterEdit, if_neg h, shifted]
  split <;> rfl

theorem stretched_le (delta : Int) (r : LineRange) : (stretched delta r).start ≤ (stretched delta r).stop :=
  Nat.le_max_right _ _

theorem shifted_le (e : EditEvent) (hle : r.start ≤ r.stop) : (shifted e r).start ≤ (shifted e r).stop := by
  rw [shifted]
  split
  · dsimp only [shift]
    omega
  · exact hle

structure Carried (d : Document) (event : EditEvent) (m : Marker) (d' : Document) (m' : Marker) : Prop where
  le : m'.lines.start ≤ m'.lines.stop
  active : event.Touches m.lines → m'.state = .active
  state : ¬ event.Touches m.lines → m'.state = m.state
  lines : KeepsLines d.lines event m.lines m'.lines ↔
    ¬ event.Touches m.lines ∨ Balanced d.lines event m.lines

theorem carried_of_touches {d d' : Document} (hf : e.FitsIn d.lines d'.lines) (hfit : d'.lines.length < wordBound)
    (hle : m.lines.start ≤ m.lines.stop) (ht : e.Touches m.lines) :
    Carried d e m d' ⟨stretched e.delta m.lines,.active⟩ where
  le := stretched_le _ _
  active _ := rfl
  state hfree := absurd ht hfree
  lines := by
    rw [or_iff_right (not_not_intro ht)]
    exact ⟨balanced_of_keepsLines hf ht hle,keepsLines_of_balanced hf hfit ht hle⟩

theorem carried_of_free {d d' : Document} (hf : e.FitsIn d.lines d'.lines) (hfit : d'.lines.length < wordBound)
    (hle : m.lines.start ≤ m.lines.stop) (hfree : ¬ e.Touches m.lines) :
    Carried d e m d' { m with lines := shifted e m.lines } where
  le := shifted_le e hle
  active ht := absurd ht hfree
  state _ := rfl
  lines := iff_of_true (keepsLines_shifted hf hfit hfree hle) (.inl hfree)

end Marker

open Marker EditEvent

/-- While something runs an edit never takes the marker away, and one that touches it makes it active. It still stands
beside the same lines if and only if it was not touched or no more of them went than came. -/
theorem running_edit_carries_marker (d d' : Document) (event : EditEvent) (book : MarkerBook) (m : Marker)
    (hr : Reachable d) (hp : Produces d d' event) (hfit : d'.lines.length < wordBound)
    (hm : book.get? d.id = some m) (hle : m.lines.start ≤ m.lines.stop) :
    ∃ m', (book.onEdit d.id event true).get? d.id = some m' ∧ Carried d event m d' m' := by
  have hf := hp.fitsIn hr.wellFormed
  rw [MarkerBook.get?_onEdit, hm, Option.bind_some]
  by_cases htouch : event.Touches m.lines
  · exact ⟨_,afterEdit_of_touchedBy ((touchedBy_iff hle).mpr htouch),carried_of_touches hf hfit hle htouch⟩
  · exact ⟨_,afterEdit_of_not_touchedBy (fun h => htouch ((touchedBy_iff hle).mp h)) true,
      carried_of_free hf hfit hle htouch⟩

/-- A line breaks in the middle of a marker. -/
theorem running_edit_carries_marker_breakLine : ∃ (d d' : Document) (m m' : Marker),
    Reachable d ∧ d.insertNewline = (d',⟨4,1,0⟩) ∧ m.lines = ⟨3,5⟩ ∧ m'.lines = ⟨3,6⟩ ∧
      MarkerBook.get? (MarkerBook.onEdit [(d.id,m)] d.id ⟨4,1,0⟩ true) d.id = some m' ∧
      KeepsLines d.lines ⟨4,1,0⟩ m.lines m'.lines ∧ m'.state = .active := by
  let d := (Document.ofText 1 "a\nb\nc\nd\ne\nf\ng" none).setCursor 4 1
  let m : Marker := ⟨⟨3,5⟩,.finished⟩
  have hr : Reachable d := (Reachable.ofText 1 _ none).apply (.setCursor 4 1)
  have he : Edit.insertNewline.apply d = (d.insertNewline.1,some ⟨4,1,0⟩) := by decide +kernel
  have hfit : d.insertNewline.1.lines.length < wordBound := by decide +kernel
  have hm : MarkerBook.get? [(d.id,m)] d.id = some m := by decide
  have htouch : EditEvent.Touches ⟨4,1,0⟩ m.lines := ⟨4,by decide,le_rfl,le_rfl⟩
  have hbalanced : Balanced d.lines ⟨4,1,0⟩ m.lines := ⟨by decide,by decide,by decide⟩
  obtain ⟨m',hm',hcarried⟩ := running_edit_carries_marker d _ _ [(d.id,m)] m hr (.edit _ he) hfit hm (by decide)
  have hmarker : MarkerBook.get? (MarkerBook.onEdit [(d.id,m)] d.id ⟨4,1,0⟩ true) d.id = some ⟨⟨3,6⟩,.active⟩ := by
    decide +kernel
  obtain rfl := Option.some.inj (hm'.symm.trans hmarker)
  exact ⟨d,d.insertNewline.1,m,_,hr,by decide +kernel,rfl,rfl,hm',hcarried.lines.mpr (.inr hbalanced),
    hcarried.active htouch⟩

/-- The last line of a marker and two below it give way to one: the marker shrinks to its first line, though the two
after that are still there. -/
theorem running_edit_drops_lines : ¬ ∀ (d d' : Document) (event : EditEvent) (book : MarkerBook) (m : Marker),
    Reachable d → Produces d d' event → book.get? d.id = some m → m.lines.start ≤ m.lines.stop →
      ∃ m', (book.onEdit d.id event true).get? d.id = some m' ∧ m'.lines.start ≤ m'.lines.stop ∧
        KeepsLines d.lines event m.lines m'.lines ∧ (event.Touches m.lines → m'.state = .active) ∧
        (¬ event.Touches m.lines → m'.state = m.state) := by
  intro h
  let d := (Document.ofText 1 "a\nb\nc\nd\ne\nf\ng\nh\ni\nj" none).selectLines 5 7
  let m : Marker := ⟨⟨3,5⟩,.active⟩
  have hr : Reachable d := (Reachable.ofText 1 _ none).apply (.selectLines 5 7)
  have he : (Edit.insertText "x").apply d = (((Edit.insertText "x").apply d).1,some ⟨5,-3,3⟩) := by decide +kernel
  obtain ⟨m',hm',-,hkeeps,-⟩ := h d _ _ [(d.id,m)] m hr (.edit _ he) (by decide) (by decide)
  have hmarker : MarkerBook.get? (MarkerBook.onEdit [(d.id,m)] d.id ⟨5,-3,3⟩ true) d.id = some ⟨⟨3,3⟩,.active⟩ := by
    decide +kernel
  obtain rfl := Option.some.inj (hm'.symm.trans hmarker)
  have hlast : 4 ∈ (⟨3,3⟩ : LineRange) := hkeeps.inside 4 (by decide) (by decide +kernel) 4 rfl
  exact absurd hlast (by decide)

end StatementPad
