import StatementPad.Proofs.Document.WellFormed

/-! # What editing does to the text

The ends of the selection, or the cursor twice, cut the text of a document in three. An edit changes the text only
there, and the cursor stands where it ends.
-/
namespace StatementPad

namespace Text

def dropReturns : Text → Text
  | [] => []
  | c :: rest => if c = '\r' ∧ (rest = [] ∨ rest.head? = some '\n') then dropReturns rest else c :: dropReturns rest

def bottomLine (t : Text) : Text := (t.reverse.takeWhile (· ≠ '\n')).reverse

/-- The indentation of its last line, and four blanks more if that ends in a colon. -/
def indentAfter (t : Text) : Text :=
  (bottomLine t).takeWhile (fun c => c = ' ' ∨ c = '\t') ++
    (if endsWith (trimEnd (bottomLine t)) ':' then "    ".toList else [])

theorem bottomLine_joinLines (front : List Text) {s : Text} (hs : '\n' ∉ s) : bottomLine (joinLines (front ++ [s])) = s := by
  have hline : ∀ c ∈ s.reverse, decide (c ≠ '\n') = true := fun c hc =>
    decide_eq_true (ne_of_mem_of_not_mem (List.mem_reverse.mp hc) hs)
  rcases eq_or_ne front [] with rfl | hf
  · have hall := List.takeWhile_eq_self_iff.mpr hline
    simp only [bottomLine, List.nil_append, joinLines_one, hall, List.reverse_reverse]
  · rw [joinLines_append hf (by simp), bottomLine, List.reverse_append, List.reverse_cons, List.append_assoc,
      joinLines_one, List.takeWhile_append_of_pos hline]
    simp

theorem topLine_joinLines {s : Text} (hs : '\n' ∉ s) (back : List Text) : topLine (joinLines (s :: back)) = s := by
  have hline : ∀ c ∈ s, decide (c ≠ '\n') = true := fun c hc => decide_eq_true (ne_of_mem_of_not_mem hc hs)
  rcases eq_or_ne back [] with rfl | hb
  · rw [joinLines_one]
    exact List.takeWhile_eq_self_iff.mpr hline
  · rw [joinLines_cons _ hb, topLine, List.takeWhile_append_of_pos hline]
    simp

theorem joinLines_head (s : Text) (back : List Text) : joinLines (s :: back) = s ++ joinLines ([] :: back) := by
  have hcut := joinLines_cut [] s [] back
  rwa [List.append_nil, List.nil_append, List.nil_append, joinLines_one] at hcut

/-- The first piece is empty if the text begins with a break or is empty. -/
theorem split_head_eq_nil {t piece : Text} {pieces : List Text} (h : split '\n' t = piece :: pieces) :
    piece = [] ↔ t = [] ∨ t.head? = some '\n' := by
  cases t with
  | nil =>
    obtain ⟨rfl,-⟩ : [] = piece ∧ [] = pieces := by simpa [split] using h
    simp
  | cons c t =>
    by_cases hc : c = '\n'
    · subst hc
      obtain ⟨rfl,-⟩ : [] = piece ∧ split '\n' t = pieces := by simpa [split] using h
      simp
    · obtain ⟨first,more,-,hsplit⟩ := split_cons '\n' hc t
      rw [hsplit] at h
      obtain ⟨rfl,-⟩ := List.cons.inj h
      simp [hc]

theorem dropReturn_cons (c : Char) {t : Text} (ht : t ≠ []) : dropReturn (c :: t) = c :: dropReturn t := by
  have hlast : endsWith (c :: t) '\r' = endsWith t '\r' := by
    rw [endsWith, endsWith, List.getLast?_cons_of_ne_nil ht]
  rw [dropReturn, dropReturn, hlast]
  split
  · rw [List.dropLast_cons_of_ne_nil ht]
  · rfl

/-- The lines of a text make up the text again, but for carriage returns. -/
theorem joinLines_splitLines (t : Text) : joinLines (splitLines t) = dropReturns t := by
  induction t with
  | nil => rfl
  | cons c t ih =>
    by_cases hc : c = '\n'
    · subst hc
      have hsplit : splitLines ('\n' :: t) = [] :: splitLines t := by simp [splitLines, breakLines, split, dropReturn, endsWith]
      rw [hsplit, joinLines_cons _ (splitLines_ne_nil t), ih]
      simp [dropReturns]
    · obtain ⟨piece,pieces,ht,hcons⟩ := split_cons '\n' hc t
      have hempty := split_head_eq_nil ht
      rw [splitLines, breakLines, ht, List.map_cons, joinLines_head] at ih
      rw [splitLines, breakLines, hcons, List.map_cons, joinLines_head, dropReturns, ← ih]
      by_cases hp : piece = []
      · subst hp
        by_cases hr : c = '\r'
        · rw [if_pos ⟨hr,hempty.mp rfl⟩, hr]
          rfl
        · rw [if_neg fun h => hr h.1]
          simp [dropReturn, endsWith, hr]
      · rw [if_neg fun h => hp (hempty.mpr h.2), dropReturn_cons c hp, List.cons_append]

end Text

namespace Document
open Text Buffer

def text (d : Document) : Text := joinLines d.lines

def front (d : Document) : Text := d.text.take (offset d.lines d.bounds.1)

def chosen (d : Document) : Text := (d.text.take (offset d.lines d.bounds.2)).drop (offset d.lines d.bounds.1)

def rest (d : Document) : Text := d.text.drop (offset d.lines d.bounds.2)

/-- The text, in two parts with the cursor between them. -/
structure Reads (d : Document) (front back : Text) : Prop where
  text : d.text = front ++ back
  cursor : offset d.lines d.cursor = front.length

structure Edits (d : Document) : Prop where
  whole : d.text = d.front ++ d.chosen ++ d.rest
  selectedText : d.selection ≠ none → d.selectedText = some d.chosen
  deleteSelection : Reads d.deleteSelection.1 d.front d.rest
  insertChar : ∀ c, c ≠ '\n' → Reads (d.insertChar c).1 (d.front ++ [c]) d.rest
  insertText : ∀ t, Reads (d.insertText t).1 (d.front ++ dropReturns t) d.rest
  insertTab : Reads d.insertTab.1 (d.front ++ "    ".toList) d.rest
  insertNewline : Reads d.insertNewline.1 (d.front ++ '\n' :: indentAfter d.front)
    (trimStart (topLine d.rest) ++ d.rest.drop (topLine d.rest).length)
  insertBreak : d.insertChar '\n' = d.insertNewline
  backspaceSelection : d.selection ≠ none → Reads d.backspace.1 d.front d.rest
  deleteSelected : d.selection ≠ none → Reads d.delete.1 d.front d.rest
  backspace : d.selection = none → Reads d.backspace.1 d.front.dropLast d.rest
  delete : d.selection = none → Reads d.delete.1 d.front d.rest.tail
  appendEmptyLine : d.appendEmptyLine.1.text = d.text ++ ['\n']

variable {d : Document} {start stop : Position}

theorem reads_replace (hs : start.In d.lines) (stop : Position) (pieces : List Text) (anchor : Option Position) :
    Reads ({ d with anchor }.replace start stop pieces).1 (before d.lines start ++ joinLines pieces)
      (after d.lines stop) :=
  ⟨joinLines_splice hs stop pieces,offset_behind hs stop pieces⟩

theorem WellFormed.front_eq (hw : d.WellFormed) : d.front = before d.lines d.bounds.1 := take_offset hw.bounds.1

theorem WellFormed.rest_eq (hw : d.WellFormed) : d.rest = after d.lines d.bounds.2 := drop_offset hw.bounds.2.1

theorem WellFormed.chosen_eq (hw : d.WellFormed) :
    d.chosen = joinLines (piecesBetween d.lines d.bounds.1 d.bounds.2) := by
  obtain ⟨hstart,hstop,hle⟩ := hw.bounds
  have hboth := joinLines_between hstart hstop hle
  rw [← before_append_after hstop.line] at hboth
  rw [chosen, text, take_offset hstop, List.append_cancel_right hboth, ← length_before hstart, List.drop_left]

theorem WellFormed.whole (hw : d.WellFormed) : d.text = d.front ++ d.chosen ++ d.rest := by
  obtain ⟨hstart,hstop,hle⟩ := hw.bounds
  rw [hw.front_eq, hw.chosen_eq, hw.rest_eq]
  exact joinLines_between hstart hstop hle

theorem WellFormed.reads_replaceSelection (hw : d.WellFormed) (pieces : List Text) :
    Reads (d.replaceSelection pieces).1 (d.front ++ joinLines pieces) d.rest := by
  rw [hw.front_eq, hw.rest_eq]
  exact reads_replace hw.bounds.1 _ pieces _

theorem bounds_of_none (hn : d.selection = none) : d.bounds = (d.cursor,d.cursor) := by
  rw [bounds, hn]
  rfl

/-- Deleting the selection when there is none leaves the text. -/
theorem WellFormed.reads_deleteSelection (hw : d.WellFormed) : Reads d.deleteSelection.1 d.front d.rest := by
  cases hs : d.selection with
  | none =>
    have hb := bounds_of_none hs
    rw [Document.deleteSelection, hs, hw.front_eq, hw.rest_eq, hb]
    exact ⟨(before_append_after hw.cursor.line).symm,(length_before hw.cursor).symm⟩
  | some ends =>
    have hreads := hw.reads_replaceSelection [[]]
    rw [Document.deleteSelection, hs]
    simpa using hreads

theorem WellFormed.reads_insertNewline (hw : d.WellFormed) : Reads d.insertNewline.1
    (d.front ++ '\n' :: indentAfter d.front) (trimStart (topLine d.rest) ++ d.rest.drop (topLine d.rest).length) := by
  have hhead : '\n' ∉ (line d.lines d.bounds.1.line).take d.bounds.1.column :=
    fun h => line_unbroken hw.unbroken _ (List.mem_of_mem_take h)
  have htail : '\n' ∉ (line d.lines d.bounds.2.line).drop d.bounds.2.column :=
    fun h => line_unbroken hw.unbroken _ (List.mem_of_mem_drop h)
  have hlast : bottomLine d.front = (line d.lines d.bounds.1.line).take d.bounds.1.column := by
    rw [hw.front_eq, before, bottomLine_joinLines _ hhead]
  have hfirst : topLine d.rest = (line d.lines d.bounds.2.line).drop d.bounds.2.column := by
    rw [hw.rest_eq, after, topLine_joinLines htail]
  have hgap : Line.isGap = fun c => decide (c = ' ' ∨ c = '\t') := by
    funext c
    rw [Bool.eq_iff_iff]
    simp [Line.isGap]
  have hbefore : before d.lines d.bounds.1 ++
      joinLines [[],indentBelow ((line d.lines d.bounds.1.line).take d.bounds.1.column)] =
      d.front ++ '\n' :: indentAfter d.front := by
    rw [← hw.front_eq, ← hlast, joinLines_cons _ (by simp), joinLines_one, List.nil_append, indentBelow, hgap]
    rfl
  have hrest : d.rest = topLine d.rest ++ joinLines ([] :: d.lines.drop (d.bounds.2.line + 1)) := by
    rw [hfirst, hw.rest_eq, after, joinLines_head]
  have hbelow := congrArg (List.drop (topLine d.rest).length) hrest
  have hback : after d.lines ⟨d.bounds.2.line,d.bounds.2.column +
      (((line d.lines d.bounds.2.line).drop d.bounds.2.column).takeWhile isBlank).length⟩ =
      trimStart (topLine d.rest) ++ d.rest.drop (topLine d.rest).length := by
    rw [after, ← List.drop_drop, ← hfirst, drop_blanks, joinLines_head, hbelow, List.drop_left]
  rw [← hbefore, ← hback]
  exact reads_replace hw.bounds.1 _ _ _

/-! ## One character -/

theorem WellFormed.offset_left (hw : d.WellFormed) :
    offset d.lines (d.destination .left) = offset d.lines d.cursor - 1 := by
  obtain ⟨hline,-⟩ := hw.cursor
  dsimp only [Document.destination]
  by_cases hc : 0 < d.cursor.column
  · rw [if_pos hc, offset, offset]
    dsimp only
    omega
  · have hzero : d.cursor.column = 0 := Nat.eq_zero_of_not_pos hc
    by_cases hl : 0 < d.cursor.line
    · have hbelow := offset_below (b := d.lines) (n := d.cursor.line - 1) (by omega)
      rw [Nat.sub_add_cancel hl] at hbelow
      have hcursor : d.cursor = ⟨d.cursor.line,0⟩ := by rw [← hzero]
      rw [if_neg hc, if_pos hl, hcursor, hbelow]
      rfl
    · have hfirst : offset d.lines d.cursor = 0 := by simp [offset, hzero, Nat.eq_zero_of_not_pos hl]
      rw [if_neg hc, if_neg hl, hfirst]

theorem offset_le {p : Position} (hp : p.In d.lines) : offset d.lines p ≤ d.text.length := by
  rw [text, ← before_append_after hp.line, List.length_append, length_before hp]
  exact Nat.le_add_right _ _

theorem WellFormed.offset_right (hw : d.WellFormed) :
    offset d.lines (d.destination .right) = min (offset d.lines d.cursor + 1) d.text.length := by
  have hle := offset_le (hw.destination .right)
  obtain ⟨hline,hcol⟩ := hw.cursor
  have hin := hw.cursor
  by_cases hc : d.cursor.column < d.lineLength d.cursor.line
  · have hdest : d.destination .right = ⟨d.cursor.line,d.cursor.column + 1⟩ := if_pos hc
    have hstep : offset d.lines (d.destination .right) = offset d.lines d.cursor + 1 := by
      rw [hdest, offset, offset, Nat.add_assoc]
    rw [← hstep, Nat.min_eq_left hle]
  · have hend : d.cursor.column = (line d.lines d.cursor.line).length := le_antisymm hcol (Nat.le_of_not_lt hc)
    by_cases hl : d.cursor.line + 1 < d.lines.length
    · have hdest : d.destination .right = ⟨d.cursor.line + 1,0⟩ := by
        rw [Document.destination, if_neg hc, if_pos hl]
      have hstep : offset d.lines (d.destination .right) = offset d.lines d.cursor + 1 := by
        rw [hdest, offset_below hline, ← hend]
      rw [← hstep, Nat.min_eq_left hle]
    · have hdest : d.destination .right = d.cursor := by rw [Document.destination, if_neg hc, if_neg hl]
      have hnothing : after d.lines d.cursor = [] := by
        rw [after, hend, List.drop_length, List.drop_eq_nil_of_le (by omega)]
        rfl
      have hall : offset d.lines d.cursor = d.text.length := by
        rw [text, ← before_append_after hline, hnothing, List.append_nil, length_before hin]
      rw [hdest, hall]
      omega

/-- Between the cursor and the other position nothing is left. -/
theorem WellFormed.reads_deleteTo (hw : d.WellFormed) {other : Position} (ho : other.In d.lines) :
    Reads (d.deleteTo other).1 (d.text.take (min (offset d.lines d.cursor) (offset d.lines other)))
      (d.text.drop (max (offset d.lines d.cursor) (offset d.lines other))) := by
  have hc := hw.cursor
  have hdelete {start : Position} (hs : start.In d.lines) (stop : Position) :
      Reads (d.clearSelection.replace start stop [[]]).1 (before d.lines start) (after d.lines stop) := by
    have hreads := reads_replace hs stop [[]] none
    rwa [joinLines_one, List.append_nil] at hreads
  rcases d.cursor.before_or other with h | rfl | h
  · have hlt := (offset_lt hc h).le
    rw [deleteTo_behind h, Nat.min_eq_left hlt, Nat.max_eq_right hlt, text, take_offset hc, drop_offset ho]
    exact hdelete hc other
  · rw [deleteTo_cursor, Nat.min_self, Nat.max_self]
    refine ⟨(List.take_append_drop _ _).symm,?_⟩
    rw [text, take_offset hc, length_before hc]
    rfl
  · have hlt := (offset_lt ho h).le
    rw [deleteTo_before h, Nat.min_eq_right hlt, Nat.max_eq_left hlt, text, take_offset ho, drop_offset hc]
    exact hdelete ho d.cursor

theorem WellFormed.reads_backspace (hw : d.WellFormed) (hn : d.selection = none) :
    Reads d.backspace.1 d.front.dropLast d.rest := by
  have hreads := hw.reads_deleteTo (hw.destination .left)
  have hb := bounds_of_none hn
  have hle := offset_le hw.cursor
  have hfront : d.front.dropLast = d.text.take (offset d.lines d.cursor - 1) := by
    rw [front, hb, List.dropLast_eq_take, List.take_take, List.length_take, Nat.min_eq_left hle]
    congr 1
    exact Nat.min_eq_left (Nat.sub_le _ _)
  rw [hw.offset_left, Nat.min_eq_right (Nat.sub_le _ _), Nat.max_eq_left (Nat.sub_le _ _)] at hreads
  rw [backspace, hn, hfront, rest, hb]
  exact hreads

theorem WellFormed.reads_delete (hw : d.WellFormed) (hn : d.selection = none) :
    Reads d.delete.1 d.front d.rest.tail := by
  have hreads := hw.reads_deleteTo (hw.destination .right)
  have hb := bounds_of_none hn
  have hle := offset_le hw.cursor
  have hrest : d.rest.tail = d.text.drop (max (offset d.lines d.cursor) (offset d.lines (d.destination .right))) := by
    rw [rest, hb, List.tail_drop, hw.offset_right]
    dsimp only
    rcases Nat.lt_or_ge (offset d.lines d.cursor) d.text.length with hlt | hge
    · congr 1
      omega
    · rw [List.drop_eq_nil_of_le (by omega), List.drop_eq_nil_of_le (by omega)]
  have hmin : min (offset d.lines d.cursor) (offset d.lines (d.destination .right)) = offset d.lines d.cursor := by
    rw [hw.offset_right]
    omega
  rw [hmin, ← hrest] at hreads
  rw [delete, hn, front, hb]
  exact hreads

/-! ## Every edit -/

theorem edits_refine_text (hr : Reachable d) : Edits d := by
  have hw := hr.wellFormed
  have hselected (hs : d.selection ≠ none) : d.selection.isSome = true := Option.isSome_iff_ne_none.mpr hs
  refine {
    whole := hw.whole
    selectedText := ?selectedText
    deleteSelection := hw.reads_deleteSelection
    insertChar := ?insertChar
    insertText := ?insertText
    insertTab := ?insertTab
    insertNewline := hw.reads_insertNewline
    insertBreak := rfl
    backspaceSelection := ?backspaceSelection
    deleteSelected := ?deleteSelected
    backspace := hw.reads_backspace
    delete := hw.reads_delete
    appendEmptyLine := ?appendEmptyLine }
  case selectedText =>
    intro hs
    cases he : d.selection with
    | none => exact absurd he hs
    | some ends =>
      rw [hw.chosen_eq, bounds, selectedText, he]
      rfl
  case insertChar =>
    intro c hc
    have hreads := hw.reads_replaceSelection [[c]]
    rw [insertChar, if_neg hc]
    simpa using hreads
  case insertText =>
    intro t
    rw [← joinLines_splitLines]
    exact hw.reads_replaceSelection (splitLines t)
  case insertTab =>
    have hreads := hw.reads_replaceSelection (splitLines indentStep)
    rwa [joinLines_splitLines] at hreads
  case backspaceSelection =>
    intro hs
    rw [backspace, if_pos (hselected hs)]
    exact hw.reads_deleteSelection
  case deleteSelected =>
    intro hs
    rw [delete, if_pos (hselected hs)]
    exact hw.reads_deleteSelection
  case appendEmptyLine =>
    rw [appendEmptyLine, text, text, joinLines_append hw.lines (by simp)]
    rfl

/-- A selection from one line into the next. -/
theorem edits_refine_text_twoLines : ∃ d, Reachable d ∧ d.front = "if ".toList ∧ d.chosen = "a:\n  b".toList ∧
    d.rest = "\nc".toList ∧ Edits d := by
  have hopen := Reachable.ofText 0 "if a:\n  b\nc" none
  have hselected := (hopen.apply (.setCursor 0 3)).apply (.move (.down 1) true)
  exact ⟨_,hselected,by decide,by decide,by decide,edits_refine_text hselected⟩

end Document
end StatementPad
