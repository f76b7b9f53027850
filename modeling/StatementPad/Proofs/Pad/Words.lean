import StatementPad.Proofs.Pad.Cursor

/-! # Screens in words

What is drawn is computed in words of sixteen bits. A console that hides less than 2^16 lines and a cursor in a column
below 2^16 are drawn as they would be without that bound; more lines or columns wrap around.
-/
namespace StatementPad.Pad
variable {p : Pad} {area : Rect} {width height : UInt16}

/-! ## The console without a bound -/

def firstShown (p : Pad) (rows : Nat) : Nat :=
  (p.console.lines.length - rows) - min p.scroll (p.console.lines.length - rows)

/-- A pane of this size shows the lines of the console from `first` on, as many as it has rows. -/
def ShowsFrom (p : Pad) (width height first : Nat) : Prop :=
  ∀ i, (p.consolePane width height).body[i]? =
    if i < height - 2 then
      (p.console.lines[first + i]?).map fun line =>
        Row.ofSpans (width - 2) [⟨line.text, if line.isError then errorStyle else {}⟩]
    else none

theorem consoleTop_eq (p : Pad) (rows : Nat) : p.consoleTop rows = p.firstShown rows % 2 ^ 16 := UInt16.toNat_ofNat'

/-- As many lines as there are rows, from one of them on, each drawn in whatever way. -/
theorem getElem?_window {α β : Type} (lines : List α) (draw : α → β) (first rows i : Nat) :
    (((lines.drop first).take rows).map draw)[i]? = if i < rows then lines[first + i]?.map draw else none := by
  rw [List.getElem?_map, List.getElem?_take, List.getElem?_drop]
  split <;> rfl

theorem showsFrom_consoleTop (p : Pad) (width height : Nat) :
    p.ShowsFrom width height (p.consoleTop (height - 2)) := fun _ => getElem?_window ..

/-- With nothing scrolled the newest line is in the pane unless the first line wraps around. -/
theorem newest_shown_iff {rows : Nat} (hscroll : p.scroll = 0) (hrows : 0 < rows) (hlines : 0 < p.console.lines.length) :
    (p.consoleTop rows ≤ p.console.lines.length - 1 ∧ p.console.lines.length - 1 < p.consoleTop rows + rows) ↔
      p.firstShown rows < 2 ^ 16 := by
  rw [consoleTop_eq, firstShown, hscroll]
  omega

/-! ## Words -/

/-- Every word that drawing the pane and its cursor, a click, and the console need is the number that it stands for. -/
structure Unwrapped (p : Pad) (rows : Nat) : Prop where
  console : p.consoleTop rows = p.firstShown rows
  gutter : (gutterWidth p.shown).toUInt16.toNat = gutterWidth p.shown
  left : p.textLeft.toNat = p.leftColumn
  before : (Text.width p.beforeCursor).toUInt16.toNat = Text.width p.beforeCursor
  column : (p.textLeft + (Text.width p.beforeCursor).toUInt16).toNat = p.cursorColumn
  above : (p.shown.cursor.line - p.top).toUInt16.toNat = p.shown.cursor.line - p.top
  row : (p.area.y + 1 + (p.shown.cursor.line - p.top).toUInt16).toNat =
    p.area.y.toNat + 1 + (p.shown.cursor.line - p.top)
  top : p.area.innerTop.toNat = p.area.y.toNat + 1
  bottom : p.area.innerBottom.toNat = p.area.y.toNat + (p.area.height.toNat - 1)
  right : p.area.innerRight.toNat = p.rightColumn

theorem words_of_column {columns : Nat} (h : p.leftColumn + columns < 2 ^ 16) :
    (gutterWidth p.shown).toUInt16.toNat = gutterWidth p.shown ∧ p.textLeft.toNat = p.leftColumn ∧
      columns.toUInt16.toNat = columns ∧ (p.textLeft + columns.toUInt16).toNat = p.leftColumn + columns := by
  have hleft : p.leftColumn = p.area.x.toNat + 1 + gutterWidth p.shown := rfl
  rw [UInt16.toNat_ofNat', UInt16.toNat_ofNat', toNat_textLeft, toNat_column]
  exact ⟨Nat.mod_eq_of_lt (by omega),Nat.mod_eq_of_lt (by omega),Nat.mod_eq_of_lt (by omega),Nat.mod_eq_of_lt h⟩

theorem unwrapped_iff (ha : p.area.Within width height) (hview : p.InView) (rows : Nat) :
    p.Unwrapped rows ↔ p.firstShown rows < 2 ^ 16 ∧ p.cursorColumn < 2 ^ 16 := by
  constructor
  · intro h
    have hconsole := h.console
    have hcolumn := h.column
    rw [consoleTop_eq] at hconsole
    rw [toNat_column, ← cursorColumn] at hcolumn
    omega
  · rintro ⟨hfirst,hcolumn⟩
    obtain ⟨hgutter,hleft,hbefore,hsum⟩ := words_of_column hcolumn
    have hrows := ha.rows
    have hheight := height.toNat_lt
    obtain ⟨h1,h2⟩ := hview
    exact {
      console := by rw [consoleTop_eq, Nat.mod_eq_of_lt hfirst]
      gutter := hgutter
      left := hleft
      before := hbefore
      column := hsum
      above := by rw [UInt16.toNat_ofNat', Nat.mod_eq_of_lt (by omega)]
      row := toNat_cursorRow ha ⟨h1,h2⟩
      top := ha.innerTop (by omega)
      bottom := ha.innerBottom
      right := ha.innerRight }

def Placed (p : Pad) : Prop :=
  p.cursorCell.map (·.1.toNat) = if p.cursorColumn < p.rightColumn then some p.cursorColumn else none

/-- The right border fits a word, so a column that does not is right of it. -/
theorem wrapped_eq_iff {column right : Nat} (hright : right < 2 ^ 16) :
    (if column % 2 ^ 16 < right then some (column % 2 ^ 16) else none) = (if column < right then some column else none) ↔
      column < 2 ^ 16 ∨ right ≤ column % 2 ^ 16 := by
  by_cases hcolumn : column < 2 ^ 16
  · rw [Nat.mod_eq_of_lt hcolumn]
    exact iff_of_true rfl (.inl hcolumn)
  · rw [if_neg (show ¬ column < right by omega)]
    by_cases hwrapped : column % 2 ^ 16 < right
    · rw [if_pos hwrapped]
      exact iff_of_false (Option.some_ne_none _) (by omega)
    · rw [if_neg hwrapped]
      exact iff_of_true rfl (.inr (Nat.le_of_not_lt hwrapped))

theorem placed_iff (ha : p.area.Within width height) (hhelp : p.helpShown = false) (hview : p.InView) :
    p.Placed ↔ p.cursorColumn < 2 ^ 16 ∨ p.rightColumn ≤ p.cursorColumn % 2 ^ 16 := by
  have hright : p.rightColumn < 2 ^ 16 := by
    rw [rightColumn, ← ha.innerRight]
    exact p.area.innerRight.toNat_lt
  rw [Placed, column_cursorCell ha hhelp hview]
  exact wrapped_eq_iff hright

/-- The console is drawn from the line that it should be drawn from exactly if that is one of the first 2^16 lines, and
then the newest line is seen at its end. The cursor is drawn where it should be exactly if its column is below 2^16, or
what is left of its column is not left of the right border. All words are the numbers they stand for exactly if both are
below 2^16. -/
theorem drawn_unbounded (p : Pad) (ha : area.Within width height) (paneWidth paneHeight : Nat) :
    let q := p.drawnIn area
    let rows := paneHeight - 2
    (q.ShowsFrom paneWidth paneHeight (q.consoleTop rows) ∧
        (q.consoleTop rows = q.firstShown rows ↔ q.firstShown rows < 2 ^ 16)) ∧
      (p.scroll = 0 → 0 < rows → 0 < p.console.lines.length →
        (q.consoleTop rows ≤ p.console.lines.length - 1 ∧ p.console.lines.length - 1 < q.consoleTop rows + rows ↔
          q.firstShown rows < 2 ^ 16)) ∧
      (p.helpShown = false → 2 < area.height.toNat →
        (q.Placed ↔ q.cursorColumn < 2 ^ 16 ∨ q.rightColumn ≤ q.cursorColumn % 2 ^ 16) ∧
          (q.Unwrapped rows ↔ q.firstShown rows < 2 ^ 16 ∧ q.cursorColumn < 2 ^ 16)) ∧
      (area = editorArea width height →
        (p.draw width height).2 = q ∧ (p.draw width height).1.cursor = q.cursorCell) := by
  intro q rows
  obtain ⟨top,hq⟩ : ∃ top, q = { p with area, top } := p.drawnIn_eq area
  have harea : q.area.Within width height := by rwa [show q.area = area from area_drawnIn p area]
  refine ⟨⟨q.showsFrom_consoleTop paneWidth paneHeight,?_⟩,fun hscroll hrows hlines => ?_,fun hhelp hrow => ?_,?_⟩
  · rw [consoleTop_eq]
    omega
  · have hnewest := newest_shown_iff (p := q) (by rw [hq]; exact hscroll) hrows (by rw [hq]; exact hlines)
    rwa [show q.console = p.console by rw [hq]] at hnewest
  · have hview : q.InView := inView_drawnIn hrow
    exact ⟨placed_iff harea (by rw [hq]; exact hhelp) hview,unwrapped_iff harea hview rows⟩
  · rintro rfl
    exact p.draw_eq width height

/-! ## Long lines -/

def letters (n : Nat) : Pad :=
  ofDocuments [{ id := 1, path := none, lines := [List.replicate n 'a'], cursor := ⟨0,n⟩ }] 100

theorem measure_letters (n : Nat) : Text.measure (List.replicate n 'a') = ((n : Int),{}) := by
  induction n with
  | zero => rfl
  | succ n ih =>
    have hletter : Text.widthInFront 'a' {} = (1,{}) := by decide
    rw [List.replicate_succ, Text.measure, ih]
    dsimp only
    rw [hletter]
    rfl

theorem cursorColumn_letters (n : Nat) (area : Rect) :
    ((letters n).drawnIn area).cursorColumn = area.x.toNat + 4 + n := by
  have hbefore : ((letters n).drawnIn area).beforeCursor = List.replicate n 'a' := by
    rw [beforeCursor, shown_drawnIn]
    exact List.take_of_length_le (List.length_replicate ..).le
  have hleft : ((letters n).drawnIn area).leftColumn = area.x.toNat + 4 := by
    have hgutter : gutterWidth (letters n).shown = 3 := by
      change (Text.Decimal.write 1).length + 2 = 3
      decide
    rw [leftColumn, shown_drawnIn, area_drawnIn, hgutter]
  rw [cursorColumn, hleft, hbefore, Text.width, measure_letters, Int.toNat_natCast]

/-- Three letters are drawn as they should be. -/
theorem drawn_unbounded_letters : (editorArea 60 20).Within 60 20 ∧
    ((letters 3).draw 60 20).2.Placed ∧ ((letters 3).draw 60 20).2.Unwrapped 5 := by
  have hdrawn := drawn_unbounded (letters 3) (within_editorArea 60 20) 60 7
  have hcolumn := cursorColumn_letters 3 (editorArea 60 20)
  have hcursor := hdrawn.2.2.1 rfl (by decide)
  rw [(hdrawn.2.2.2 rfl).1]
  exact ⟨within_editorArea 60 20,hcursor.1.mpr (.inl (by rw [hcolumn]; decide)),
    hcursor.2.mpr ⟨by decide,by rw [hcolumn]; decide⟩⟩

/-- Behind 2^16 letters the cursor is drawn as if there were none. -/
theorem drawn_unbounded_longLine : ¬ ∀ (p : Pad) (width height : UInt16), p.helpShown = false →
    2 < (editorArea width height).height.toNat → (p.draw width height).2.Placed := by
  intro h
  have hplaced := h (letters (2 ^ 16)) 60 20 rfl (by decide)
  rw [(draw_eq (letters (2 ^ 16)) 60 20).1] at hplaced
  have harea := area_drawnIn (letters (2 ^ 16)) (editorArea 60 20)
  have hwithin : ((letters (2 ^ 16)).drawnIn (editorArea 60 20)).area.Within 60 20 := by
    rw [harea]
    exact within_editorArea 60 20
  rw [placed_iff hwithin rfl (inView_drawnIn (by decide)), cursorColumn_letters, rightColumn, harea] at hplaced
  revert hplaced
  decide

end StatementPad.Pad
