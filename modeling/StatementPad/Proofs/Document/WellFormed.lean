import StatementPad.Document.File
import StatementPad.Proofs.Document.Place

/-! # Documents that editing leads to

Whatever is done to a document, it has a line, no line of it has a break, and the cursor and the other end of the
selection are positions in it. An edit keeps that end only if nothing is selected; then it is the place where the
cursor was, and what is put in begins there.
-/
namespace StatementPad.Document
open Text Buffer

inductive Operation where
  | setCursor (line column : Nat)
  | clearSelection
  | selectLines (start stop : Nat)
  | move (m : Move) (extend : Bool)
  | insertChar (c : Char)
  | insertNewline
  | insertText (t : Text)
  | insertTab
  | backspace
  | delete
  | deleteSelection
  | appendEmptyLine
  | save (fs : Files)
  | reload (fs : Files)

/-- A file that cannot be written or read leaves the document as it is. -/
def Operation.apply (d : Document) : Operation → Document
  | setCursor line column => d.setCursor line column
  | clearSelection => d.clearSelection
  | selectLines start stop => d.selectLines start stop
  | move m extend => d.move m extend
  | insertChar c => (d.insertChar c).1
  | insertNewline => d.insertNewline.1
  | insertText t => (d.insertText t).1
  | insertTab => d.insertTab.1
  | backspace => d.backspace.1
  | delete => d.delete.1
  | deleteSelection => d.deleteSelection.1
  | appendEmptyLine => d.appendEmptyLine.1
  | save fs => ((d.save fs).map Prod.fst).toOption.getD d
  | reload fs => (d.reload fs).toOption.getD d

inductive Reachable : Document → Prop where
  | ofText (id : Nat) (t : Text) (path : Option Text) : Reachable (ofText id t path)
  | openFile {fs : Files} {id : Nat} {path : Text} {d : Document} (h : openFile fs id path = .ok d) : Reachable d
  | apply {d : Document} (h : Reachable d) (op : Operation) : Reachable (op.apply d)

structure WellFormed (d : Document) : Prop where
  lines : d.lines ≠ []
  unbroken : ∀ line ∈ d.lines, '\n' ∉ line
  cursor : d.cursor.In d.lines
  anchor : ∀ p, d.anchor = some p → p.In d.lines

variable {d : Document} {b : Buffer} {start stop : Position} {pieces : List Text}

/-! ## Positions -/

theorem clamp_in (hne : d.lines ≠ []) (p : Position) : (d.clamp p).In d.lines := by
  have hpos := List.length_pos_iff.mpr hne
  refine ⟨?_,Nat.min_le_right _ _⟩
  dsimp only [clamp, lastLine]
  omega

theorem WellFormed.selection (hw : d.WellFormed) (h : d.selection = some (start,stop)) :
    start.In d.lines ∧ stop.In d.lines ∧ start.before stop = true := by
  unfold Document.selection at h
  split at h
  next => cases h
  next anchor ha =>
    have hanchor := hw.anchor anchor ha
    split at h
    next hb =>
      obtain ⟨rfl,rfl⟩ := Prod.mk.inj (Option.some.inj h)
      exact ⟨hanchor,hw.cursor,hb⟩
    next =>
      split at h
      next hb =>
        obtain ⟨rfl,rfl⟩ := Prod.mk.inj (Option.some.inj h)
        exact ⟨hw.cursor,hanchor,hb⟩
      next => cases h

theorem WellFormed.bounds (hw : d.WellFormed) :
    d.bounds.1.In d.lines ∧ d.bounds.2.In d.lines ∧ d.bounds.1.UpTo d.bounds.2 := by
  cases hs : d.selection with
  | none =>
    rw [Document.bounds, hs]
    exact ⟨hw.cursor,hw.cursor,.refl _⟩
  | some ends =>
    obtain ⟨hstart,hstop,hb⟩ := hw.selection hs
    rw [Document.bounds, hs]
    exact ⟨hstart,hstop,.of_before hb⟩

/-- An end of the selection that is kept is the cursor. -/
theorem releaseAnchor_eq {p : Position} (h : d.releaseAnchor = some p) : p = d.cursor ∧ d.bounds.1 = d.cursor := by
  rw [releaseAnchor] at h
  split at h
  next => cases h
  next hs =>
    have hnone : d.selection = none := by simpa using hs
    refine ⟨?_,by rw [bounds, hnone]; rfl⟩
    rw [Document.selection, h] at hnone
    rcases p.before_or d.cursor with hb | hb | hb
    · simp [hb] at hnone
    · exact hb
    · simp only [hb, ↓reduceIte] at hnone
      split at hnone <;> cases hnone

theorem WellFormed.destination (hw : d.WellFormed) (m : Move) : (d.destination m).In d.lines := by
  have hc := hw.cursor
  cases m with
  | left =>
    dsimp only [Document.destination]
    split
    · exact ⟨hc.line,(Nat.sub_le _ _).trans hc.column⟩
    · split
      · exact ⟨(Nat.sub_le _ _).trans_lt hc.line,le_rfl⟩
      · exact hc
  | right =>
    dsimp only [Document.destination]
    split
    next h => exact ⟨hc.line,h⟩
    next =>
      split
      next h => exact ⟨h,Nat.zero_le _⟩
      next => exact hc
  | up rows | down rows => exact clamp_in hw.lines _
  | home => exact ⟨hc.line,Nat.zero_le _⟩
  | stop => exact ⟨hc.line,le_rfl⟩

/-! ## Splicing -/

theorem in_splice (hs : start.In b) (stop : Position) (pieces : List Text) : start.In (splice b start stop pieces) := by
  have hfront := hs.length_above
  have hhead := hs.length_head
  have hone (piece : Text) : start.In (splice b start stop [piece]) := by
    rw [splice_one]
    exact (cut_spec hfront _ _ (by simp [hhead])).1
  induction pieces using pieces_cases with
  | none =>
    rw [splice_nil]
    exact hone []
  | one piece => exact hone piece
  | several first middle last =>
    rw [splice_several, List.append_assoc, List.cons_append]
    exact (cut_spec hfront _ _ (by simp [hhead])).1

theorem line_unbroken (hb : ∀ line ∈ b, '\n' ∉ line) (n : Nat) : '\n' ∉ line b n := by
  rw [line]
  cases hn : b[n]? with
  | none => exact List.not_mem_nil
  | some l => exact hb l (List.mem_of_getElem? hn)

theorem splice_unbroken (hb : ∀ line ∈ b, '\n' ∉ line) (hp : ∀ piece ∈ pieces, '\n' ∉ piece) :
    ∀ line ∈ splice b start stop pieces, '\n' ∉ line := by
  have hhead : '\n' ∉ (line b start.line).take start.column :=
    fun h => line_unbroken hb _ (List.mem_of_mem_take h)
  have htail : '\n' ∉ (line b stop.line).drop stop.column := fun h => line_unbroken hb _ (List.mem_of_mem_drop h)
  have htake : ∀ l ∈ b.take start.line, '\n' ∉ l := fun l h => hb l (List.mem_of_mem_take h)
  have hdrop : ∀ l ∈ b.drop (stop.line + 1), '\n' ∉ l := fun l h => hb l (List.mem_of_mem_drop h)
  have hone {piece : Text} (hpiece : '\n' ∉ piece) : ∀ line ∈ splice b start stop [piece], '\n' ∉ line := by
    rw [splice_one, List.forall_mem_append, List.forall_mem_cons]
    exact ⟨htake,by simp [hhead, hpiece, htail],hdrop⟩
  induction pieces using pieces_cases with
  | none =>
    rw [splice_nil]
    exact hone List.not_mem_nil
  | one piece => exact hone (hp piece (by simp))
  | several first middle last =>
    have hlast := hp last (by simp)
    rw [splice_several, List.forall_mem_append, List.forall_mem_append, List.forall_mem_cons, List.forall_mem_cons]
    exact ⟨⟨htake,by simp [hhead, hp first],fun l hl => hp l (by simp [hl])⟩,by simp [hlast, htail],hdrop⟩

theorem WellFormed.replace (hw : d.WellFormed) (hs : start.In d.lines) (hp : ∀ piece ∈ pieces, '\n' ∉ piece)
    {anchor : Option Position} (ha : ∀ p, anchor = some p → p = start) :
    WellFormed ({ d with anchor }.replace start stop pieces).1 := by
  have hin := (splice_spec hs stop pieces).1
  refine ⟨?_,splice_unbroken hw.unbroken hp,hin,fun p h => ?_⟩
  · exact List.length_pos_iff.mp ((Nat.zero_le _).trans_lt hin.line)
  · obtain rfl := ha p h
    exact in_splice hs stop pieces

theorem WellFormed.replaceSelection (hw : d.WellFormed) (hp : ∀ piece ∈ pieces, '\n' ∉ piece) :
    WellFormed (d.replaceSelection pieces).1 := by
  refine hw.replace hw.bounds.1 hp fun p h => ?_
  obtain ⟨rfl,he⟩ := releaseAnchor_eq h
  exact he.symm

theorem indentBelow_unbroken {head : Text} (hh : '\n' ∉ head) : '\n' ∉ indentBelow head := by
  have hgap : '\n' ∉ head.takeWhile Line.isGap := fun h => hh ((List.takeWhile_prefix _).subset h)
  rw [indentBelow, List.mem_append, not_or]
  refine ⟨hgap,?_⟩
  split
  · decide
  · exact List.not_mem_nil

theorem WellFormed.insertNewline (hw : d.WellFormed) : WellFormed d.insertNewline.1 := by
  refine hw.replace hw.bounds.1 (fun piece hp => ?_) fun p h => ?_
  · rcases List.mem_cons.mp hp with rfl | hp
    · exact List.not_mem_nil
    · obtain rfl := List.mem_singleton.mp hp
      exact indentBelow_unbroken fun h => line_unbroken hw.unbroken _ (List.mem_of_mem_take h)
  · obtain ⟨rfl,he⟩ := releaseAnchor_eq h
    exact he.symm

theorem WellFormed.insertChar (hw : d.WellFormed) (c : Char) : WellFormed (d.insertChar c).1 := by
  by_cases hc : c = '\n'
  · rw [Document.insertChar, if_pos hc]
    exact hw.insertNewline
  · rw [Document.insertChar, if_neg hc]
    exact hw.replaceSelection (by simpa using Ne.symm hc)

theorem WellFormed.insertText (hw : d.WellFormed) (t : Text) : WellFormed (d.insertText t).1 :=
  hw.replaceSelection fun _ hp => not_mem_of_mem_splitLines hp

theorem WellFormed.deleteSelection (hw : d.WellFormed) : WellFormed d.deleteSelection.1 := by
  rw [Document.deleteSelection]
  split
  · exact hw
  · exact hw.replaceSelection (by simp)

theorem WellFormed.clearSelection (hw : d.WellFormed) : d.clearSelection.WellFormed :=
  ⟨hw.lines,hw.unbroken,hw.cursor,by simp [Document.clearSelection]⟩

theorem deleteTo_before {other : Position} (h : other.before d.cursor = true) : (d.deleteTo other).1 =
    { d with anchor := none, lines := splice d.lines other d.cursor [[]], cursor := other, modified := true } := by
  have hnot : d.clearSelection.cursor.before other = false := Position.before_asymm h
  have hother : other.before d.clearSelection.cursor = true := h
  simp only [Document.deleteTo, hnot, hother, Bool.false_eq_true, ↓reduceIte]
  rfl

theorem deleteTo_behind {other : Position} (h : d.cursor.before other = true) : (d.deleteTo other).1 =
    { d with anchor := none, lines := splice d.lines d.cursor other [[]], cursor := d.cursor, modified := true } := by
  have hother : d.clearSelection.cursor.before other = true := h
  simp only [Document.deleteTo, hother, ↓reduceIte]
  rfl

theorem deleteTo_cursor (d : Document) : (d.deleteTo d.cursor).1 = d.clearSelection := by
  have hnot : d.clearSelection.cursor.before d.cursor = false := by
    simp [Document.clearSelection, Position.before]
  have hnot' : d.cursor.before d.clearSelection.cursor = false := hnot
  simp only [Document.deleteTo, hnot, hnot', Bool.false_eq_true, ↓reduceIte]

theorem WellFormed.deleteTo (hw : d.WellFormed) {other : Position} (ho : other.In d.lines) :
    WellFormed (d.deleteTo other).1 := by
  dsimp only [Document.deleteTo]
  split
  · exact hw.replace hw.cursor (by simp) (by simp)
  · split
    · exact hw.replace ho (by simp) (by simp)
    · exact hw.clearSelection

theorem WellFormed.appendEmptyLine (hw : d.WellFormed) : WellFormed d.appendEmptyLine.1 := by
  have hmore {p : Position} (hp : p.In d.lines) : p.In (d.lines ++ [[]]) := by
    have hline : line (d.lines ++ [[]]) p.line = line d.lines p.line := by
      rw [line, line, List.getElem?_append_left hp.line]
    exact ⟨by rw [List.length_append]; exact Nat.lt_add_right _ hp.line,by rw [hline]; exact hp.column⟩
  refine ⟨by simp [Document.appendEmptyLine],fun l hl => ?_,hmore hw.cursor,fun p hp => hmore (hw.anchor p hp)⟩
  rcases List.mem_append.mp hl with hl | hl
  · exact hw.unbroken l hl
  · obtain rfl := List.mem_singleton.mp hl
    exact List.not_mem_nil

theorem WellFormed.selectLines (hw : d.WellFormed) (start stop : Nat) : (d.selectLines start stop).WellFormed := by
  have hlast : d.lastLine < d.lines.length := Nat.sub_lt (List.length_pos_iff.mpr hw.lines) Nat.one_pos
  refine ⟨hw.lines,hw.unbroken,?_,fun p hp => ?_⟩
  · dsimp only [Document.selectLines]
    by_cases h : min stop d.lastLine < d.lastLine
    · rw [if_pos h]
      exact ⟨(Nat.succ_le_of_lt h).trans_lt hlast,Nat.zero_le _⟩
    · rw [if_neg h]
      exact ⟨(Nat.min_le_right _ _).trans_lt hlast,le_rfl⟩
  · obtain rfl := Option.some.inj hp
    exact ⟨((Nat.min_le_right _ _).trans (Nat.min_le_right _ _)).trans_lt hlast,Nat.zero_le _⟩

theorem WellFormed.move (hw : d.WellFormed) (m : Move) (extend : Bool) : (d.move m extend).WellFormed := by
  refine ⟨hw.lines,hw.unbroken,hw.destination m,fun p hp => ?_⟩
  cases extend with
  | false => cases hp
  | true =>
    obtain rfl := Option.some.inj hp
    cases ha : d.anchor with
    | none => exact hw.cursor
    | some anchor => exact hw.anchor anchor ha

theorem WellFormed.ofText (id : Nat) (t : Text) (path : Option Text) : (Document.ofText id t path).WellFormed where
  lines := splitLines_ne_nil t
  unbroken _ hl := not_mem_of_mem_splitLines hl
  cursor := ⟨List.length_pos_iff.mpr (splitLines_ne_nil t),Nat.zero_le _⟩
  anchor := by simp [Document.ofText]

theorem openFile_eq {fs : Files} {id : Nat} {path : Text} (h : openFile fs id path = .ok d) :
    ∃ t, d = Document.ofText id t (some path) := by
  cases ht : readFile fs path with
  | error e => simp [openFile, ht, bind, Except.bind] at h
  | ok t =>
    refine ⟨t,?_⟩
    simpa [openFile, ht, bind, Except.bind, pure, Except.pure, eq_comm] using h

theorem save_eq {fs fs' : Files} {d' : Document} (h : d.save fs = .ok (d',fs')) :
    d' = { d with modified := false } := by
  rw [Document.save] at h
  split at h
  · cases h
  · split at h
    · exact (Prod.mk.inj (Except.ok.inj h)).1.symm
    · cases h

theorem reload_eq {fs : Files} {d' : Document} (h : d.reload fs = .ok d') : ∃ t, d'.lines = splitLines t ∧
    d'.anchor = none ∧ d'.cursor = d'.clamp d.cursor := by
  cases hp : d.path with
  | none => simp [Document.reload, hp] at h
  | some path =>
    cases ht : readFile fs path with
    | error e => simp [Document.reload, hp, ht, bind, Except.bind] at h
    | ok t =>
      simp only [Document.reload, hp, ht, bind, Except.bind, pure, Except.pure] at h
      obtain rfl := Except.ok.inj h
      exact ⟨t,rfl,rfl,rfl⟩

theorem WellFormed.apply (hw : d.WellFormed) (op : Operation) : (op.apply d).WellFormed := by
  cases op with
  | setCursor line column => exact ⟨hw.lines,hw.unbroken,clamp_in hw.lines _,by simp [Operation.apply, setCursor]⟩
  | clearSelection => exact hw.clearSelection
  | selectLines start stop => exact hw.selectLines start stop
  | move m extend => exact hw.move m extend
  | insertChar c => exact hw.insertChar c
  | insertNewline => exact hw.insertNewline
  | insertText t => exact hw.insertText t
  | insertTab => exact hw.insertText indentStep
  | backspace =>
    dsimp only [Operation.apply, backspace]
    split
    · exact hw.deleteSelection
    · exact hw.deleteTo (hw.destination .left)
  | delete =>
    dsimp only [Operation.apply, delete]
    split
    · exact hw.deleteSelection
    · exact hw.deleteTo (hw.destination .right)
  | deleteSelection => exact hw.deleteSelection
  | appendEmptyLine => exact hw.appendEmptyLine
  | save fs =>
    dsimp only [Operation.apply]
    cases hs : d.save fs with
    | error e => exact hw
    | ok result =>
      obtain ⟨d',fs'⟩ := result
      obtain rfl := save_eq hs
      exact ⟨hw.lines,hw.unbroken,hw.cursor,hw.anchor⟩
  | reload fs =>
    dsimp only [Operation.apply]
    cases hr : d.reload fs with
    | error e => exact hw
    | ok d' =>
      obtain ⟨t,hlines,hanchor,hcursor⟩ := reload_eq hr
      have hne : d'.lines ≠ [] := hlines ▸ splitLines_ne_nil t
      refine ⟨hne,fun l hl => not_mem_of_mem_splitLines (hlines ▸ hl),?_,fun p hp => ?_⟩
      · exact hcursor ▸ clamp_in hne d.cursor
      · rw [show (Option.getD (Except.toOption (Except.ok (ε := Failure) d')) d).anchor = none from hanchor] at hp
        cases hp

theorem Reachable.wellFormed (hr : Reachable d) : d.WellFormed := by
  induction hr with
  | ofText id t path => exact .ofText id t path
  | openFile h =>
    obtain ⟨t,rfl⟩ := openFile_eq h
    exact .ofText _ t _
  | apply _ op ih => exact ih.apply op

end StatementPad.Document
