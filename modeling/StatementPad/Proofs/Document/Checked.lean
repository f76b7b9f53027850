import StatementPad.Proofs.Document.WellFormed
import StatementPad.Proofs.Text.Cut

/-! # Edits in checked steps

An edit takes lines by their number and cuts them at a byte. Here every such step can fail: a line that is asked for
must exist, a cut must not fall into a character. On the documents that come up no step fails, and the steps come to
what the edits are defined to do.
-/
namespace StatementPad

namespace Buffer
open Text

def last? (b : Buffer) : Option Nat := if b.isEmpty then none else some (b.length - 1)

def cutLine? (b : Buffer) (p : Position) : Option (Text × Text) :=
  b[p.line]?.bind fun l => cutAt? (byteOffset l p.column) l

def insert? (n : Nat) (l : Text) (b : Buffer) : Option Buffer :=
  if n ≤ b.length then some (b.take n ++ l :: b.drop n) else none

def insertAll? : Nat → List Text → Buffer → Option Buffer
  | _, [], b => some b
  | n, l :: rest, b => (insert? n l b).bind (insertAll? (n + 1) rest)

def remove? (n : Nat) (b : Buffer) : Option (Text × Buffer) := b[n]?.map fun l => (l, b.take n ++ b.drop (n + 1))

def drain? (start stop : Nat) (b : Buffer) : Option Buffer :=
  if start ≤ stop + 1 ∧ stop < b.length then some (b.take start ++ b.drop (stop + 1)) else none

def lines? (start stop : Nat) (b : Buffer) : Option (List Text) :=
  if start ≤ stop ∧ stop ≤ b.length then some ((b.drop start).take (stop - start)) else none

def removeChar? (p : Position) (b : Buffer) : Option Buffer := do
  match ← cutLine? b p with
  | (_, []) => none
  | (head, _ :: rest) => some (b.set p.line (head ++ rest))

variable {b : Buffer} {p : Position}

theorem getElem?_line {n : Nat} (hn : n < b.length) : b[n]? = some (line b n) := by
  rw [line, List.getElem?_eq_getElem hn, Option.getD_some]

theorem cutLine?_eq (hp : p.In b) :
    cutLine? b p = some ((line b p.line).take p.column,(line b p.line).drop p.column) := by
  rw [cutLine?, getElem?_line hp.line, Option.bind_some, cutAt?_byteOffset]

theorem getElem?_middle (front : List Text) (l : Text) (back : List Text) :
    (front ++ l :: back)[front.length]? = some l := by simp

theorem set_middle (front : List Text) (l l' : Text) (back : List Text) :
    (front ++ l :: back).set front.length l' = front ++ l' :: back := by simp

theorem insertAll?_eq (front pieces back : List Text) :
    insertAll? front.length pieces (front ++ back) = some (front ++ pieces ++ back) := by
  induction pieces generalizing front with
  | nil => simp [insertAll?]
  | cons l rest ih =>
    have hinsert : (front ++ back).take front.length ++ l :: (front ++ back).drop front.length = (front ++ [l]) ++ back := by
      simp
    have hlength : front.length + 1 = (front ++ [l]).length := by simp
    rw [insertAll?, insert?, if_pos (by simp), hinsert, Option.bind_some, hlength, ih]
    simp

end Buffer

namespace Document
open Text Buffer

/-! ## The steps -/

def clampCursor (d : Document) : Document :=
  let d := { d with lines := if d.lines.isEmpty then [[]] else d.lines }
  { d with cursor := d.clamp d.cursor }

def deleteSelection? (d : Document) : Option Document :=
  match d.selection with
  | none => some d
  | some (start, stop) => do
    let last ← cutLine? d.lines stop
    let first ← cutLine? d.lines start
    let lines ← drain? (start.line + 1) stop.line (d.lines.set start.line (first.1 ++ last.2))
    some { d with anchor := none, lines, cursor := start, modified := true }

def insertNewline? (d : Document) : Option Document := do
  let d ← d.deleteSelection?
  let (head, tail) ← cutLine? d.lines d.cursor
  let indent := indentBelow head
  let lines ← insert? (d.cursor.line + 1) (indent ++ trimStart tail) (d.lines.set d.cursor.line head)
  some { d with lines, cursor := ⟨d.cursor.line + 1, indent.length⟩, modified := true }

def insertChar? (d : Document) (c : Char) : Option Document :=
  if c = '\n' then d.insertNewline?
  else do
    let d ← d.deleteSelection?
    let (head, tail) ← cutLine? d.lines d.cursor
    some { d with
      lines := d.lines.set d.cursor.line (head ++ c :: tail)
      cursor := ⟨d.cursor.line, d.cursor.column + 1⟩
      modified := true }

/-- The lines are put in one by one, and the rest of the line at the cursor goes behind the last of them. -/
def insertPieces? (d : Document) (pieces : List Text) : Option Document := do
  let (head, tail) ← cutLine? d.lines d.cursor
  let first := pieces.headD []
  if pieces.tail.isEmpty then
    some { d with
      lines := d.lines.set d.cursor.line (head ++ first ++ tail)
      cursor := ⟨d.cursor.line, d.cursor.column + first.length⟩
      modified := true }
  else
    let stop := d.cursor.line + pieces.tail.length
    let lines ← insertAll? (d.cursor.line + 1) pieces.tail (d.lines.set d.cursor.line (head ++ first))
    let last ← lines[stop]?
    some { d with lines := lines.set stop (last ++ tail), cursor := ⟨stop, last.length⟩, modified := true }

def insertText? (d : Document) (t : Text) : Option Document := do
  let d ← d.deleteSelection?
  d.insertPieces? (splitLines t)

def joinLine? (d : Document) (n : Nat) : Option Document := do
  let (next, lines) ← remove? (n + 1) d.lines
  let l ← lines[n]?
  some { d with lines := lines.set n (l ++ next), cursor := ⟨n, l.length⟩, modified := true }

def removeChar? (d : Document) (p : Position) : Option Document := do
  let lines ← Buffer.removeChar? p d.lines
  some { d with lines, cursor := p, modified := true }

def backspace? (d : Document) : Option Document :=
  if d.selection.isSome then d.deleteSelection?
  else
    let d := d.clearSelection
    if 0 < d.cursor.column then d.removeChar? ⟨d.cursor.line, d.cursor.column - 1⟩
    else if 0 < d.cursor.line then d.joinLine? (d.cursor.line - 1)
    else some d

def delete? (d : Document) : Option Document :=
  if d.selection.isSome then d.deleteSelection?
  else
    let d := d.clearSelection
    if d.cursor.column < d.lineLength d.cursor.line then d.removeChar? d.cursor
    else if d.cursor.line + 1 < d.lines.length then d.joinLine? d.cursor.line
    else some d

def appendEmptyLine? (d : Document) : Option Document :=
  (last? d.lines).map fun _ => { d with lines := d.lines ++ [[]], modified := true }

def selectLines? (d : Document) (start stop : Nat) : Option Document :=
  (last? d.lines).map fun last =>
    let stop := min stop last
    { d with
      anchor := some ⟨min start stop, 0⟩
      cursor := if stop < last then ⟨stop + 1, 0⟩ else ⟨stop, d.lineLength stop⟩ }

def move? (d : Document) (m : Move) (extend : Bool) : Option Document :=
  let d' := { d with anchor := if extend then some (d.anchor.getD d.cursor) else none }
  match m with
  | .up rows => some (clampCursor { d' with cursor := ⟨d.cursor.line - rows, d.cursor.column⟩ })
  | .down rows => (last? d.lines).map fun last =>
    clampCursor { d' with cursor := ⟨min (d.cursor.line + rows) last, d.cursor.column⟩ }
  | m => some { d' with cursor := d.destination m }

def reload? (d : Document) (fs : Files) : Option Document :=
  match d.path.map (readFile fs) with
  | some (.ok t) => some (clampCursor { d with lines := splitLines t, anchor := none, modified := false })
  | _ => some d

def Operation.attempt (d : Document) : Operation → Option Document
  | setCursor line column => some (clampCursor { d with anchor := none, cursor := ⟨line, column⟩ })
  | clearSelection => some { d with anchor := none }
  | selectLines start stop => d.selectLines? start stop
  | move m extend => d.move? m extend
  | insertChar c => d.insertChar? c
  | insertNewline => d.insertNewline?
  | insertText t => d.insertText? t
  | insertTab => d.insertText? indentStep
  | backspace => d.backspace?
  | delete => d.delete?
  | deleteSelection => d.deleteSelection?
  | appendEmptyLine => d.appendEmptyLine?
  | save fs => some (((d.save fs).map Prod.fst).toOption.getD d)
  | reload fs => d.reload? fs

def selectedText? (d : Document) : Option (Option Text) :=
  match d.selection with
  | none => some none
  | some (start, stop) =>
    if start.line = stop.line then do
      let l ← d.lines[start.line]?
      let piece ← between? (byteOffset l start.column) (byteOffset l stop.column) l
      some (some piece)
    else do
      let first ← cutLine? d.lines start
      let last ← cutLine? d.lines stop
      let middle ← lines? (start.line + 1) stop.line d.lines
      some (some (joinLines (first.2 :: (middle ++ [last.1]))))

/-- A document as it should be, on which no step of an operation fails. -/
structure Safe (d : Document) : Prop where
  wellFormed : d.WellFormed
  attempt : ∀ op : Operation, op.attempt d = some (op.apply d)
  selectedText : d.selectedText? = some d.selectedText

variable {d : Document} {b : Buffer} {start stop : Position} {pieces : List Text}

/-! ## The selection goes first -/

theorem replaceSelection_of_some (hsel : d.selection = some (start,stop)) (pieces : List Text) :
    (d.replaceSelection pieces).1 =
      { d with
        anchor := none
        lines := splice d.lines start stop pieces
        cursor := behind start pieces
        modified := true } := by
  rw [replaceSelection, releaseAnchor, bounds, hsel]
  rfl

theorem replaceSelection_of_none (hsel : d.selection = none) (pieces : List Text) :
    (d.replaceSelection pieces).1 =
      { d with
        lines := splice d.lines d.cursor d.cursor pieces
        cursor := behind d.cursor pieces
        modified := true } := by
  rw [replaceSelection, releaseAnchor, bounds, hsel]
  rfl

theorem deleteSelection_of_some (hsel : d.selection = some (start,stop)) :
    d.deleteSelection.1 =
      { d with anchor := none, lines := splice d.lines start stop [[]], cursor := start, modified := true } := by
  rw [deleteSelection, hsel]
  exact replaceSelection_of_some hsel [[]]

theorem deleteSelection_of_none (hsel : d.selection = none) : d.deleteSelection.1 = d := by
  rw [deleteSelection, hsel]

theorem selection_deleteSelection (d : Document) : d.deleteSelection.1.selection = none := by
  cases hsel : d.selection with
  | none => rwa [deleteSelection_of_none hsel]
  | some ends =>
    rw [deleteSelection_of_some hsel]
    rfl

theorem set_line (hs : start.line < b.length) (l : Text) :
    b.set start.line l = b.take start.line ++ l :: b.drop (start.line + 1) := List.set_eq_take_cons_drop l hs

theorem WellFormed.deleteSelection?_eq (hw : d.WellFormed) : d.deleteSelection? = some d.deleteSelection.1 := by
  cases hsel : d.selection with
  | none => rw [deleteSelection?, hsel, deleteSelection_of_none hsel]
  | some ends =>
    obtain ⟨start,stop⟩ := ends
    obtain ⟨hstart,hstop,hb⟩ := hw.selection hsel
    have hle : start.line ≤ stop.line := by
      rcases Position.UpTo.of_before hb with h | ⟨h,-⟩ <;> omega
    have hdrain (l : Text) : drain? (start.line + 1) stop.line (d.lines.set start.line l) =
        some (d.lines.take start.line ++ l :: d.lines.drop (stop.line + 1)) := by
      have hrest : (d.lines.set start.line l).drop (stop.line + 1) = d.lines.drop (stop.line + 1) :=
        List.drop_set_of_lt (by omega)
      have hfront : (d.lines.set start.line l).take (start.line + 1) = d.lines.take start.line ++ [l] := by
        rw [set_line hstart.line, ← List.singleton_append, ← List.append_assoc]
        exact List.take_left' (by simp [hstart.line.le])
      rw [drain?, if_pos ⟨by omega,by rw [List.length_set]; exact hstop.line⟩, hrest, hfront]
      simp
    rw [deleteSelection?, hsel, deleteSelection_of_some hsel, splice_one]
    simp [cutLine?_eq hstart, cutLine?_eq hstop, hdrain]

theorem splice_delete (b : Buffer) (start stop : Position) : splice b start stop [[]] = b.take start.line ++
    ((line b start.line).take start.column ++ (line b stop.line).drop stop.column) :: b.drop (stop.line + 1) := by
  rw [splice_one, List.append_nil]

theorem line_splice_delete (hs : start.In b) (stop : Position) : line (splice b start stop [[]]) start.line =
    (line b start.line).take start.column ++ (line b stop.line).drop stop.column := by
  rw [splice_delete, line]
  simp [hs.line.le]

/-- What stands between two positions may go before something is put in its place. -/
theorem splice_splice (hs : start.In b) (stop : Position) (n : Nat) (pieces : List Text) :
    splice (splice b start stop [[]]) start ⟨start.line,start.column + n⟩ pieces =
      splice b start ⟨stop.line,stop.column + n⟩ pieces := by
  have hfront := hs.length_above
  have hhead := hs.length_head
  have htake : (splice b start stop [[]]).take start.line = b.take start.line := by
    rw [splice_delete, List.take_left' hfront]
  have hdrop : (splice b start stop [[]]).drop (start.line + 1) = b.drop (stop.line + 1) := by
    rw [splice_delete]
    simp [List.drop_append, hs.line.le]
  have hline := line_splice_delete hs stop
  have htail : ((line b start.line).take start.column ++ (line b stop.line).drop stop.column).drop
      (start.column + n) = (line b stop.line).drop (stop.column + n) := by
    rw [← List.drop_drop, ← List.drop_drop, List.drop_left' hhead]
  generalize splice b start stop [[]] = rest at htake hdrop hline
  unfold splice
  dsimp only
  rw [htake, hline, hdrop, htail, List.take_left' hhead]

/-- An edit of a selection is the edit without one, once the selection is deleted. -/
theorem WellFormed.replaceSelection_deleted (hw : d.WellFormed) (pieces : List Text) :
    (d.deleteSelection.1.replaceSelection pieces).1 = (d.replaceSelection pieces).1 := by
  cases hsel : d.selection with
  | none => rw [deleteSelection_of_none hsel]
  | some ends =>
    obtain ⟨start,stop⟩ := ends
    have hsplice : splice (splice d.lines start stop [[]]) start start pieces = splice d.lines start stop pieces :=
      splice_splice (hw.selection hsel).1 stop 0 pieces
    rw [replaceSelection_of_some hsel, deleteSelection_of_some hsel, ← hsplice]
    rfl

theorem insertNewline_fst (hb : d.bounds = (start,stop)) : d.insertNewline.1 =
    { d with
      anchor := d.releaseAnchor
      lines := splice d.lines start ⟨stop.line,stop.column +
        (((line d.lines stop.line).drop stop.column).takeWhile isBlank).length⟩
        [[],indentBelow ((line d.lines start.line).take start.column)]
      cursor := ⟨start.line + 1,(indentBelow ((line d.lines start.line).take start.column)).length⟩
      modified := true } := by
  rw [insertNewline, hb]
  rfl

theorem WellFormed.insertNewline_deleted (hw : d.WellFormed) :
    d.deleteSelection.1.insertNewline.1 = d.insertNewline.1 := by
  cases hsel : d.selection with
  | none => rw [deleteSelection_of_none hsel]
  | some ends =>
    obtain ⟨start,stop⟩ := ends
    have hstart := (hw.selection hsel).1
    have hhead := hstart.length_head
    have hbounds : d.bounds = (start,stop) := by rw [Document.bounds, hsel]; rfl
    have hrelease : d.releaseAnchor = none := by rw [releaseAnchor, hsel]; rfl
    have hdeleted : d.deleteSelection.1.bounds = (start,start) := by rw [deleteSelection_of_some hsel]; rfl
    rw [insertNewline_fst hbounds, insertNewline_fst hdeleted, hrelease, ← splice_splice hstart,
      deleteSelection_of_some hsel]
    dsimp only
    rw [line_splice_delete hstart, List.take_left' hhead, List.drop_left' hhead]
    rfl

/-! ## One step after the other -/

theorem insertPieces?_eq (hc : d.cursor.In d.lines) (hne : pieces ≠ []) : d.insertPieces? pieces =
    some { d with
      lines := splice d.lines d.cursor d.cursor pieces
      cursor := behind d.cursor pieces
      modified := true } := by
  rw [insertPieces?, cutLine?_eq hc]
  induction pieces using pieces_cases with
  | none => exact absurd rfl hne
  | one piece =>
    rw [splice_one, ← set_line hc.line]
    rfl
  | several first middle last =>
    have hfront := hc.length_above
    generalize hhead : (line d.lines d.cursor.line).take d.cursor.column = head
    generalize htail : (line d.lines d.cursor.line).drop d.cursor.column = tail
    have hlines : d.lines.set d.cursor.line (head ++ first) =
        (d.lines.take d.cursor.line ++ [head ++ first]) ++ d.lines.drop (d.cursor.line + 1) := by
      rw [set_line hc.line, List.append_assoc, List.singleton_append]
    have hinsert := insertAll?_eq (d.lines.take d.cursor.line ++ [head ++ first]) (middle ++ [last])
      (d.lines.drop (d.cursor.line + 1))
    rw [List.length_append, hfront, List.length_singleton, ← hlines] at hinsert
    have hall : d.lines.take d.cursor.line ++ [head ++ first] ++ (middle ++ [last]) ++ d.lines.drop (d.cursor.line + 1) =
        (d.lines.take d.cursor.line ++ (head ++ first) :: middle) ++ last :: d.lines.drop (d.cursor.line + 1) := by
      simp
    have hlength : d.cursor.line + (middle ++ [last]).length =
        (d.lines.take d.cursor.line ++ (head ++ first) :: middle).length := by
      simp [hc.line.le]
    have hmore : (middle ++ [last]).isEmpty = false := by simp
    rw [splice_several, behind_several, hhead, htail]
    simp only [bind, Option.bind_some, List.tail_cons, List.headD_cons, hinsert, hall, hlength, hmore,
      Bool.false_eq_true, ↓reduceIte, getElem?_middle, set_middle]
    rw [← hlength, List.length_append, List.length_singleton, Nat.add_assoc]

theorem removeChar?_eq {p : Position} (hl : p.line < d.lines.length) (hc : p.column < (line d.lines p.line).length) :
    d.removeChar? p = some { d with
      lines := splice d.lines p ⟨p.line,p.column + 1⟩ [[]]
      cursor := p
      modified := true } := by
  have hcut := cutLine?_eq (b := d.lines) (p := p) ⟨hl,hc.le⟩
  rw [List.drop_eq_getElem_cons hc] at hcut
  rw [splice_delete, ← set_line hl, Document.removeChar?, Buffer.removeChar?, hcut]
  rfl

theorem joinLine?_eq {n : Nat} (hn : n + 1 < d.lines.length) : d.joinLine? n = some { d with
    lines := splice d.lines ⟨n,(line d.lines n).length⟩ ⟨n + 1,0⟩ [[]]
    cursor := ⟨n,(line d.lines n).length⟩
    modified := true } := by
  have hlt : n < d.lines.length := Nat.lt_of_succ_lt hn
  have hfront : (d.lines.take n).length = n := List.length_take_of_le hlt.le
  have hrest : d.lines.take (n + 1) ++ d.lines.drop (n + 1 + 1) =
      d.lines.take n ++ line d.lines n :: d.lines.drop (n + 1 + 1) := by
    rw [List.take_add_one, getElem?_line hlt, Option.toList_some, List.append_assoc, List.singleton_append]
  have hget := getElem?_middle (d.lines.take n) (line d.lines n) (d.lines.drop (n + 1 + 1))
  have hset := set_middle (d.lines.take n) (line d.lines n) (line d.lines n ++ line d.lines (n + 1))
    (d.lines.drop (n + 1 + 1))
  rw [hfront] at hget hset
  have htake : (line d.lines n).take (line d.lines n).length = line d.lines n := List.take_length
  rw [splice_delete, joinLine?, remove?, getElem?_line hn, Option.map_some, hrest]
  simp only [bind, Option.bind_some, hget, hset, htake, List.drop_zero]

theorem WellFormed.backspace?_eq (hw : d.WellFormed) : d.backspace? = some d.backspace.1 := by
  obtain ⟨hl,hc⟩ := hw.cursor
  cases hsel : d.selection with
  | some ends => rw [backspace?, Document.backspace, hsel]; exact hw.deleteSelection?_eq
  | none =>
    have hsteps : d.backspace? = if 0 < d.cursor.column then d.clearSelection.removeChar? ⟨d.cursor.line,d.cursor.column - 1⟩
        else if 0 < d.cursor.line then d.clearSelection.joinLine? (d.cursor.line - 1) else some d.clearSelection := by
      rw [backspace?, hsel]
      rfl
    have hdelete : d.backspace.1 = (d.deleteTo (d.destination .left)).1 := by rw [Document.backspace, hsel]; rfl
    rw [hsteps, hdelete]
    by_cases hpos : 0 < d.cursor.column
    · have hdest : d.destination .left = ⟨d.cursor.line,d.cursor.column - 1⟩ := if_pos hpos
      have hbefore : Position.before ⟨d.cursor.line,d.cursor.column - 1⟩ d.cursor = true := by
        simp only [Position.before, beq_self_eq_true, Bool.true_and, Bool.or_eq_true, decide_eq_true_eq]
        exact .inr (Nat.sub_lt hpos Nat.one_pos)
      have hremove := removeChar?_eq (d := d.clearSelection) (p := ⟨d.cursor.line,d.cursor.column - 1⟩) hl
        ((Nat.sub_lt hpos Nat.one_pos).trans_le hc)
      dsimp only at hremove
      rw [Nat.sub_add_cancel hpos] at hremove
      rw [hdest, deleteTo_before hbefore, if_pos hpos, hremove]
      rfl
    · have hzero : d.cursor.column = 0 := Nat.eq_zero_of_not_pos hpos
      have hcursor : d.cursor = ⟨d.cursor.line,0⟩ := by rw [← hzero]
      rw [if_neg hpos]
      by_cases hline : 0 < d.cursor.line
      · have hdest : d.destination .left = ⟨d.cursor.line - 1,(line d.lines (d.cursor.line - 1)).length⟩ :=
          (if_neg hpos).trans (if_pos hline)
        have hbefore : Position.before ⟨d.cursor.line - 1,(line d.lines (d.cursor.line - 1)).length⟩ d.cursor = true := by
          simp only [Position.before, Bool.or_eq_true, decide_eq_true_eq]
          exact .inl (Nat.sub_lt hline Nat.one_pos)
        have hjoin := joinLine?_eq (d := d.clearSelection) (n := d.cursor.line - 1)
          (by rw [Nat.sub_add_cancel hline]; exact hl)
        rw [Nat.sub_add_cancel hline, ← hcursor] at hjoin
        rw [hdest, deleteTo_before hbefore, if_pos hline, hjoin]
        rfl
      · have hdest : d.destination .left = d.cursor := (if_neg hpos).trans (if_neg hline)
        rw [if_neg hline, hdest, deleteTo_cursor]

theorem WellFormed.delete?_eq (hw : d.WellFormed) : d.delete? = some d.delete.1 := by
  obtain ⟨hl,hc⟩ := hw.cursor
  cases hsel : d.selection with
  | some ends => rw [delete?, Document.delete, hsel]; exact hw.deleteSelection?_eq
  | none =>
    have hsteps : d.delete? = if d.cursor.column < d.lineLength d.cursor.line then d.clearSelection.removeChar? d.cursor
        else if d.cursor.line + 1 < d.lines.length then d.clearSelection.joinLine? d.cursor.line
        else some d.clearSelection := by
      rw [delete?, hsel]
      rfl
    have hdelete : d.delete.1 = (d.deleteTo (d.destination .right)).1 := by rw [Document.delete, hsel]; rfl
    rw [hsteps, hdelete]
    by_cases hlt : d.cursor.column < d.lineLength d.cursor.line
    · have hdest : d.destination .right = ⟨d.cursor.line,d.cursor.column + 1⟩ := if_pos hlt
      have hbehind : d.cursor.before ⟨d.cursor.line,d.cursor.column + 1⟩ = true := by simp [Position.before]
      have hremove := removeChar?_eq (d := d.clearSelection) (p := d.cursor) hl hlt
      rw [hdest, deleteTo_behind hbehind, if_pos hlt, hremove]
      rfl
    · have hend : (line d.lines d.cursor.line).length = d.cursor.column := le_antisymm (Nat.le_of_not_lt hlt) hc
      rw [if_neg hlt]
      by_cases hline : d.cursor.line + 1 < d.lines.length
      · have hdest : d.destination .right = ⟨d.cursor.line + 1,0⟩ := (if_neg hlt).trans (if_pos hline)
        have hbehind : d.cursor.before ⟨d.cursor.line + 1,0⟩ = true := by simp [Position.before]
        have hjoin := joinLine?_eq (d := d.clearSelection) (n := d.cursor.line) hline
        have hlength : (line d.clearSelection.lines d.cursor.line).length = d.cursor.column := hend
        rw [hlength] at hjoin
        rw [hdest, deleteTo_behind hbehind, if_pos hline, hjoin]
        rfl
      · have hdest : d.destination .right = d.cursor := (if_neg hlt).trans (if_neg hline)
        rw [if_neg hline, hdest, deleteTo_cursor]

theorem WellFormed.insertNewline?_eq (hw : d.WellFormed) : d.insertNewline? = some d.insertNewline.1 := by
  have hw' := hw.deleteSelection
  rw [Document.insertNewline?, hw.deleteSelection?_eq, ← hw.insertNewline_deleted]
  have hsel := selection_deleteSelection d
  generalize d.deleteSelection.1 = d at hw' hsel
  have hc := hw'.cursor
  have hbounds : d.bounds = (d.cursor,d.cursor) := by rw [Document.bounds, hsel]; rfl
  have hrelease : d.releaseAnchor = d.anchor := by rw [releaseAnchor, hsel]; rfl
  have hsplice := splice_several d.lines d.cursor ⟨d.cursor.line,d.cursor.column +
    (((line d.lines d.cursor.line).drop d.cursor.column).takeWhile isBlank).length⟩ []
    (indentBelow ((line d.lines d.cursor.line).take d.cursor.column)) []
  dsimp only at hsplice
  rw [← List.drop_drop, drop_blanks, List.append_nil, List.nil_append] at hsplice
  have hinsert (head l : Text) : insert? (d.cursor.line + 1) l (d.lines.set d.cursor.line head) =
      some ((d.lines.take d.cursor.line ++ [head]) ++ l :: d.lines.drop (d.cursor.line + 1)) := by
    have hset : d.lines.set d.cursor.line head =
        (d.lines.take d.cursor.line ++ [head]) ++ d.lines.drop (d.cursor.line + 1) := by
      rw [set_line hc.line, List.append_assoc, List.singleton_append]
    have hlength : (d.lines.take d.cursor.line ++ [head]).length = d.cursor.line + 1 := by simp [hc.line.le]
    rw [insert?, if_pos (by rw [List.length_set]; exact hc.line), hset, List.take_left' hlength,
      List.drop_left' hlength]
  rw [insertNewline_fst hbounds, hrelease, hsplice]
  simp only [bind, Option.bind_some, cutLine?_eq hc, hinsert]

theorem WellFormed.insertPieces?_eq (hw : d.WellFormed) (hne : pieces ≠ []) :
    d.deleteSelection?.bind (·.insertPieces? pieces) = some (d.replaceSelection pieces).1 := by
  have hsel := selection_deleteSelection d
  rw [hw.deleteSelection?_eq, Option.bind_some, Document.insertPieces?_eq hw.deleteSelection.cursor hne,
    ← hw.replaceSelection_deleted, replaceSelection_of_none hsel]

theorem WellFormed.insertChar?_eq (hw : d.WellFormed) (c : Char) : d.insertChar? c = some (d.insertChar c).1 := by
  by_cases hc : c = '\n'
  · rw [Document.insertChar?, Document.insertChar, if_pos hc, if_pos hc]
    exact hw.insertNewline?_eq
  · have hsel := selection_deleteSelection d
    have hcursor := hw.deleteSelection.cursor
    rw [Document.insertChar?, Document.insertChar, if_neg hc, if_neg hc, hw.deleteSelection?_eq,
      ← hw.replaceSelection_deleted, replaceSelection_of_none hsel, splice_one, ← set_line hcursor.line]
    simp [cutLine?_eq hcursor, behind]

theorem WellFormed.insertText?_eq (hw : d.WellFormed) (t : Text) : d.insertText? t = some (d.insertText t).1 :=
  hw.insertPieces?_eq (splitLines_ne_nil t)

/-! ## Every operation -/

theorem last?_eq (hne : d.lines ≠ []) : last? d.lines = some d.lastLine := by
  rw [last?, List.isEmpty_eq_false_iff.mpr hne]
  rfl

theorem clampCursor_eq (d : Document) (hne : d.lines ≠ []) :
    d.clampCursor = { d with cursor := d.clamp d.cursor } := by
  rw [clampCursor, List.isEmpty_eq_false_iff.mpr hne]
  rfl

theorem reload?_eq (d : Document) (fs : Files) : d.reload? fs = some ((Operation.reload fs).apply d) := by
  rw [reload?, Operation.apply, reload]
  cases hp : d.path with
  | none => rfl
  | some path =>
    cases ht : readFile fs path with
    | error e => simp [ht, bind, Except.bind, Except.toOption]
    | ok t =>
      simp only [ht, Option.map_some]
      rw [clampCursor_eq _ (splitLines_ne_nil t)]
      rfl

theorem WellFormed.attempt_eq (hw : d.WellFormed) (op : Operation) : op.attempt d = some (op.apply d) := by
  cases op with
  | setCursor line column =>
    rw [Operation.attempt, clampCursor_eq]
    · rfl
    · exact hw.lines
  | clearSelection | save fs => rfl
  | selectLines start stop =>
    rw [Operation.attempt, selectLines?, last?_eq hw.lines]
    rfl
  | move m extend =>
    cases m with
    | left | right | home | stop => rfl
    | up rows =>
      simp only [Operation.attempt, move?]
      rw [clampCursor_eq]
      · rfl
      · exact hw.lines
    | down rows =>
      simp only [Operation.attempt, move?]
      rw [last?_eq hw.lines, Option.map_some, clampCursor_eq]
      · rfl
      · exact hw.lines
  | insertChar c => exact hw.insertChar?_eq c
  | insertNewline => exact hw.insertNewline?_eq
  | insertText t => exact hw.insertText?_eq t
  | insertTab => exact hw.insertText?_eq indentStep
  | backspace => exact hw.backspace?_eq
  | delete => exact hw.delete?_eq
  | deleteSelection => exact hw.deleteSelection?_eq
  | appendEmptyLine =>
    rw [Operation.attempt, appendEmptyLine?, last?_eq hw.lines]
    rfl
  | reload fs => exact reload?_eq d fs

theorem WellFormed.selectedText?_eq (hw : d.WellFormed) : d.selectedText? = some d.selectedText := by
  cases hsel : d.selection with
  | none => rw [selectedText?, Document.selectedText, hsel]; rfl
  | some ends =>
    obtain ⟨start,stop⟩ := ends
    obtain ⟨hstart,hstop,hb⟩ := hw.selection hsel
    rw [selectedText?, Document.selectedText, hsel]
    rcases Position.UpTo.of_before hb with hlt | ⟨hl,hc⟩
    · have hlines : lines? (start.line + 1) stop.line d.lines =
          some ((d.lines.drop (start.line + 1)).take (stop.line - (start.line + 1))) :=
        if_pos ⟨hlt,hstop.line.le⟩
      simp [hlt.ne, cutLine?_eq hstart, cutLine?_eq hstop, hlines, piecesBetween]
    · have hpiece := between?_byteOffset (line d.lines start.line) hc
      have hline : d.lines[start.line]? = some (line d.lines start.line) := getElem?_line hstart.line
      dsimp only
      rw [if_pos hl, Option.map_some, piecesBetween, if_pos hl, joinLines_one, hline]
      simp only [bind, Option.bind_some, hpiece]

/-- Whatever was done before, the next operation finds all the lines and cuts that it needs. -/
theorem operations_safe (hr : Reachable d) : Safe d :=
  ⟨hr.wellFormed,hr.wellFormed.attempt_eq,hr.wellFormed.selectedText?_eq⟩

/-- Two lines go in where a selection ends behind a character of two bytes. -/
theorem operations_safe_wideCharacters : ∃ d, Reachable d ∧ d.selectedText = some "ä\nü".toList ∧
    ((Operation.insertText "é\r\nx".toList).attempt d).map Document.lines = some ["aé".toList,"xö".toList] ∧ Safe d := by
  have hopen := Reachable.ofText 0 "aä\nüö" none
  have hselected := (hopen.apply (.setCursor 0 1)).apply (.move (.down 1) true)
  exact ⟨_,hselected,by decide,by decide,operations_safe hselected⟩

end Document
end StatementPad
