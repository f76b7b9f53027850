import StatementPad.Pad.Drawing
import StatementPad.Proofs.Document.WellFormed

/-! # Where the cursor is drawn

The cursor is drawn as many columns behind the beginning of the text as the text before it takes, and a click goes as many
characters behind the beginning of the text as it is columns away from it. Columns are counted in sixteen bits; what
they would be without that bound is said in numbers.
-/
namespace StatementPad

namespace Rect
variable {r : Rect} {width height : UInt16}

structure Within (r : Rect) (width height : UInt16) : Prop where
  columns : r.x.toNat + r.width.toNat ≤ width.toNat
  rows : r.y.toNat + r.height.toNat ≤ height.toNat

theorem toNat_lessOne (n : UInt16) : (lessOne n).toNat = n.toNat - 1 := by
  unfold lessOne
  split
  next h => rw [h]; rfl
  next h =>
    have hpos : 1 ≤ n := by
      rw [UInt16.le_iff_toNat_le]
      exact Nat.one_le_iff_ne_zero.mpr fun h0 => h (UInt16.toNat_inj.mp h0)
    exact UInt16.toNat_sub_of_le n 1 hpos

theorem Within.innerRight (h : r.Within width height) : r.innerRight.toNat = r.x.toNat + (r.width.toNat - 1) := by
  have hcolumns := h.columns
  have hwidth := width.toNat_lt
  rw [Rect.innerRight, UInt16.toNat_add, toNat_lessOne, Nat.mod_eq_of_lt (by omega)]

theorem Within.innerBottom (h : r.Within width height) : r.innerBottom.toNat = r.y.toNat + (r.height.toNat - 1) := by
  have hrows := h.rows
  have hheight := height.toNat_lt
  rw [Rect.innerBottom, UInt16.toNat_add, toNat_lessOne, Nat.mod_eq_of_lt (by omega)]

theorem Within.innerTop (h : r.Within width height) (hrow : 0 < r.height.toNat) : r.innerTop.toNat = r.y.toNat + 1 := by
  have hrows := h.rows
  have hheight := height.toNat_lt
  rw [Rect.innerTop, UInt16.toNat_add, UInt16.toNat_one, Nat.mod_eq_of_lt (by omega)]

end Rect

namespace Pad
variable {p : Pad} {area : Rect} {width height : UInt16}

/-! ## The drawn pad -/

/-- The pad once its editor pane has been drawn in `area`. -/
def drawnIn (p : Pad) (area : Rect) : Pad := { p with area }.followCursor (area.height.toNat - 2)

/-- The cursor stands on a row of text in the pane. -/
def InView (p : Pad) : Prop :=
  p.top ≤ p.shown.cursor.line ∧ p.shown.cursor.line < p.top + (p.area.height.toNat - 2)

theorem drawnIn_eq (p : Pad) (area : Rect) : ∃ top, p.drawnIn area = { p with area, top } := by
  unfold drawnIn followCursor
  dsimp only
  split
  · exact ⟨_,rfl⟩
  · split <;> exact ⟨_,rfl⟩

theorem inView_drawnIn (hrow : 2 < area.height.toNat) : (p.drawnIn area).InView := by
  unfold drawnIn followCursor InView
  dsimp only
  split
  · dsimp only; omega
  · split <;> (dsimp only; omega)

@[simp] theorem shown_drawnIn (p : Pad) (area : Rect) : (p.drawnIn area).shown = p.shown := by
  obtain ⟨top,h⟩ := p.drawnIn_eq area
  rw [h]

@[simp] theorem area_drawnIn (p : Pad) (area : Rect) : (p.drawnIn area).area = area := by
  obtain ⟨top,h⟩ := p.drawnIn_eq area
  rw [h]

def editorArea (width height : UInt16) : Rect := ⟨0, 0, width, (editorHeight height.toNat).toUInt16⟩

theorem toNat_editorHeight (height : UInt16) :
    (editorHeight height.toNat).toUInt16.toNat = editorHeight height.toNat := by
  have hheight := height.toNat_lt
  rw [UInt16.toNat_ofNat', Nat.mod_eq_of_lt]
  unfold editorHeight
  omega

theorem within_editorArea (width height : UInt16) : (editorArea width height).Within width height := by
  refine ⟨(Nat.zero_add _).le,?_⟩
  dsimp only [editorArea]
  rw [toNat_editorHeight]
  unfold editorHeight
  rw [UInt16.toNat_zero]
  omega

theorem draw_eq (p : Pad) (width height : UInt16) :
    (p.draw width height).2 = p.drawnIn (editorArea width height) ∧
      (p.draw width height).1.cursor = (p.drawnIn (editorArea width height)).cursorCell := by
  have hdrawn : (p.draw width height).2 = p.drawnIn (editorArea width height) := by
    simp only [draw, drawnIn, editorArea, toNat_editorHeight]
  refine ⟨hdrawn,?_⟩
  rw [← hdrawn]
  unfold draw
  dsimp only
  split <;> rfl

/-! ## Columns without a bound -/

def beforeCursor (p : Pad) : Text := (Buffer.line p.shown.lines p.shown.cursor.line).take p.shown.cursor.column

def leftColumn (p : Pad) : Nat := p.area.x.toNat + 1 + gutterWidth p.shown

def cursorColumn (p : Pad) : Nat := p.leftColumn + Text.width p.beforeCursor

def rightColumn (p : Pad) : Nat := p.area.x.toNat + (p.area.width.toNat - 1)

theorem toNat_textLeft (p : Pad) : p.textLeft.toNat = p.leftColumn % 2 ^ 16 := by
  rw [textLeft, UInt16.toNat_add, UInt16.toNat_add, UInt16.toNat_one, UInt16.toNat_ofNat', leftColumn]
  omega

/-- Behind any number of columns of text. -/
theorem toNat_column (p : Pad) (columns : Nat) :
    (p.textLeft + columns.toUInt16).toNat = (p.leftColumn + columns) % 2 ^ 16 := by
  rw [UInt16.toNat_add, toNat_textLeft, UInt16.toNat_ofNat']
  omega

theorem column_lt_iff (ha : p.area.Within width height) (columns : Nat) :
    p.textLeft + columns.toUInt16 < p.area.innerRight ↔ (p.leftColumn + columns) % 2 ^ 16 < p.rightColumn := by
  rw [UInt16.lt_iff_toNat_lt, ha.innerRight, toNat_column, rightColumn]

theorem cursorCell_of_inView (hhelp : p.helpShown = false) (hview : p.InView) :
    p.cursorCell =
      let x := p.textLeft + (Text.width p.beforeCursor).toUInt16
      if x < p.area.innerRight then some (x,p.area.y + 1 + (p.shown.cursor.line - p.top).toUInt16) else none := by
  have hout : ¬ (p.helpShown = true ∨ p.shown.cursor.line < p.top ∨
      p.top + (p.area.height.toNat - 2) ≤ p.shown.cursor.line) := by
    obtain ⟨h1,h2⟩ := hview
    rintro (h | h | h)
    · cases hhelp.symm.trans h
    · omega
    · omega
  rw [cursorCell, if_neg hout]
  rfl

theorem inView_of_cursorCell {cell : UInt16 × UInt16} (h : p.cursorCell = some cell) :
    p.helpShown = false ∧ p.InView := by
  unfold cursorCell at h
  dsimp only at h
  split at h
  next => cases h
  next hout =>
    rw [not_or, not_or, Bool.not_eq_true] at hout
    exact ⟨hout.1,by omega,by omega⟩

/-- The column of the cursor, as far as sixteen bits tell it. -/
theorem column_cursorCell (ha : p.area.Within width height) (hhelp : p.helpShown = false) (hview : p.InView) :
    p.cursorCell.map (·.1.toNat) =
      if p.cursorColumn % 2 ^ 16 < p.rightColumn then some (p.cursorColumn % 2 ^ 16) else none := by
  have hlt := column_lt_iff ha (Text.width p.beforeCursor)
  rw [cursorCell_of_inView hhelp hview, cursorColumn]
  by_cases h : (p.leftColumn + Text.width p.beforeCursor) % 2 ^ 16 < p.rightColumn
  · rw [if_pos h, if_pos (hlt.mpr h), Option.map_some, toNat_column]
  · rw [if_neg h, if_neg (mt hlt.mp h), Option.map_none]

/-! ## Clicks on the cursor -/

theorem toNat_cursorRow (ha : p.area.Within width height) (hview : p.InView) :
    (p.area.y + 1 + (p.shown.cursor.line - p.top).toUInt16).toNat =
      p.area.y.toNat + 1 + (p.shown.cursor.line - p.top) := by
  have hrows := ha.rows
  have hheight := height.toNat_lt
  obtain ⟨h1,h2⟩ := hview
  rw [UInt16.toNat_add, UInt16.toNat_add, UInt16.toNat_one, UInt16.toNat_ofNat']
  omega

theorem lineAt_cursorRow (ha : p.area.Within width height) (hview : p.InView)
    (hline : p.shown.cursor.line < p.shown.lines.length) :
    p.lineAt (p.area.y + 1 + (p.shown.cursor.line - p.top).toUInt16) = some p.shown.cursor.line := by
  obtain ⟨h1,h2⟩ := hview
  have hrow := toNat_cursorRow ha ⟨h1,h2⟩
  have htop := ha.innerTop (by omega)
  have hle : p.area.innerTop ≤ p.area.y + 1 + (p.shown.cursor.line - p.top).toUInt16 := by
    rw [UInt16.le_iff_toNat_le]
    omega
  have hinside : ¬ (p.area.y + 1 + (p.shown.cursor.line - p.top).toUInt16 < p.area.innerTop ∨
      p.area.innerBottom ≤ p.area.y + 1 + (p.shown.cursor.line - p.top).toUInt16) := by
    rw [UInt16.lt_iff_toNat_lt, UInt16.le_iff_toNat_le, ha.innerBottom]
    omega
  have hsame : p.top + (p.area.y + 1 + (p.shown.cursor.line - p.top).toUInt16 - p.area.innerTop).toNat =
      p.shown.cursor.line := by
    rw [UInt16.toNat_sub_of_le _ _ hle]
    omega
  rw [lineAt, if_neg hinside, hsame, if_pos hline]

/-- How many columns the cell of the cursor is behind the beginning of the text, as far as sixteen bits tell it. -/
def reach (p : Pad) : Nat := p.cursorColumn % 2 ^ 16 - p.leftColumn % 2 ^ 16

theorem reach_of_lt (h : p.cursorColumn < 2 ^ 16) : p.reach = Text.width p.beforeCursor := by
  unfold cursorColumn at h
  rw [reach, cursorColumn, Nat.mod_eq_of_lt h, Nat.mod_eq_of_lt (by omega), Nat.add_sub_cancel_left]

theorem clamp_of_lt {d : Document} {line : Nat} (h : line < d.lines.length) (column : Nat) :
    d.clamp ⟨line,column⟩ = ⟨line,min column (d.lineLength line)⟩ := by
  have hline : min line d.lastLine = line := Nat.min_eq_left (Nat.le_sub_one_of_lt h)
  dsimp only [Document.clamp]
  rw [hline]

theorem click_eq (ha : p.area.Within width height) (hline : p.shown.cursor.line < p.shown.lines.length)
    {x y : UInt16} (hcell : p.cursorCell = some (x,y)) :
    p.click x y = p.changeShown (·.setCursor p.shown.cursor.line p.reach) := by
  obtain ⟨hhelp,hview⟩ := inView_of_cursorCell hcell
  rw [cursorCell_of_inView hhelp hview] at hcell
  dsimp only at hcell
  split at hcell
  next =>
    obtain ⟨rfl,rfl⟩ := Prod.mk.inj (Option.some.inj hcell)
    rw [click, lineAt_cursorRow ha hview hline, toNat_column, toNat_textLeft]
    rfl
  next => cases hcell

/-- A click on the cell where the cursor is drawn goes to the line of the cursor. It keeps the column exactly if the text
before the cursor takes as many columns as it has characters, or the cursor stands at the end of its line and the text
takes more; that is said of the columns that sixteen bits tell, which are all if they are fewer than 2^16. -/
theorem click_cursorCell {x y : UInt16} (hw : p.shown.WellFormed) (ha : area.Within width height)
    (hcell : (p.drawnIn area).cursorCell = some (x,y)) :
    let q := p.drawnIn area
    let place := p.shown.cursor
    (q.click x y).shown.cursor.line = place.line ∧
      ((q.click x y).shown.cursor = place ↔
        q.reach = place.column ∨ place.column = p.shown.lineLength place.line ∧ place.column < q.reach) ∧
      (q.cursorColumn < 2 ^ 16 → q.reach = Text.width q.beforeCursor) ∧
      (area = editorArea width height →
        (p.draw width height).2 = q ∧ (p.draw width height).1.cursor = some (x,y)) := by
  intro q place
  have hshown : q.shown = p.shown := shown_drawnIn p area
  have hplace := hw.cursor
  have hclick : (q.click x y).shown.cursor = ⟨place.line,min q.reach (p.shown.lineLength place.line)⟩ := by
    rw [click_eq (by rwa [area_drawnIn]) (by rw [hshown]; exact hplace.line) hcell]
    change q.shown.clamp ⟨q.shown.cursor.line,q.reach⟩ = _
    rw [hshown, clamp_of_lt hplace.line]
  refine ⟨by rw [hclick],?_,reach_of_lt,?_⟩
  · have hcolumn : place.column ≤ p.shown.lineLength place.line := hplace.column
    have hsame : (⟨place.line,min q.reach (p.shown.lineLength place.line)⟩ : Position) = place ↔
        min q.reach (p.shown.lineLength place.line) = place.column :=
      ⟨fun h => congrArg Position.column h,fun h => by rw [h]⟩
    rw [hclick, hsame]
    omega
  · rintro rfl
    rw [← hcell]
    exact p.draw_eq width height

def wideLetters (column : Nat) : Pad := ofDocuments [(Document.ofText 1 "日本" none).setCursor 0 column] 100

/-- Behind both letters a click goes four columns to the right of a line of two characters. -/
theorem click_cursorCell_lineEnd : (wideLetters 2).shown.WellFormed ∧
    ((wideLetters 2).draw 60 20).1.cursor = some (8,1) ∧
      (((wideLetters 2).draw 60 20).2.click 8 1).shown.cursor = (wideLetters 2).shown.cursor := by
  have hw : (wideLetters 2).shown.WellFormed :=
    Document.Reachable.wellFormed (.apply (.ofText 1 "日本" none) (.setCursor 0 2))
  have hcell : ((wideLetters 2).drawnIn (editorArea 60 20)).cursorCell = some (8,1) := by decide +kernel
  have hclick := click_cursorCell hw (within_editorArea 60 20) hcell
  obtain ⟨hdrawn,hcursor⟩ := hclick.2.2.2 rfl
  exact ⟨hw,hcursor,hdrawn ▸ hclick.2.1.mpr (by decide +kernel)⟩

/-- Between the letters a click goes two columns, and so two characters, to the right. -/
theorem click_cursorCell_wide : ¬ ∀ (p : Pad) (width height x y : UInt16), p.shown.WellFormed →
    (p.draw width height).1.cursor = some (x,y) →
      ((p.draw width height).2.click x y).shown.cursor = p.shown.cursor := by
  intro h
  have hw : (wideLetters 1).shown.WellFormed :=
    Document.Reachable.wellFormed (.apply (.ofText 1 "日本" none) (.setCursor 0 1))
  have hkept := h (wideLetters 1) 60 20 6 1 hw (by decide +kernel)
  revert hkept
  decide +kernel

end Pad
end StatementPad
