import StatementPad.Proofs.Document.Place

/-! # What edits report

An edit puts other lines in the place of those that its event tells of. All lines above them are as they were,
and the lines below have moved by as many lines as the buffer grew.
-/
namespace StatementPad
open Buffer

structure LineRange.Within (r : LineRange) (b : Buffer) : Prop where
  le : r.start ≤ r.stop
  lt : r.stop < b.length

def Buffer.linesIn (b : Buffer) (r : LineRange) : List Text := slice b r.start r.stop

namespace EditEvent
variable {b b' : Buffer} {e : EditEvent} {r : LineRange}

/-- From the line of the event on, one line and those that it calls removed gave way to `inserted`. -/
def Reports (e : EditEvent) (b b' : Buffer) : Prop :=
  ∃ inserted : List Text, b' = b.take e.line ++ inserted ++ b.drop (e.line + e.removed + 1) ∧
    e.delta = inserted.length - 1 - e.removed ∧ inserted ≠ []

def Touches (e : EditEvent) (r : LineRange) : Prop := ∃ l ∈ r, e.line ≤ l ∧ l ≤ e.line + e.removed

/-- Where the lines of a range stand after an edit that touches none of them. -/
def moved (e : EditEvent) (r : LineRange) : LineRange :=
  if e.line < r.start then ⟨(r.start + e.delta).toNat, (r.stop + e.delta).toNat⟩ else r

theorem touches_iff (hr : r.start ≤ r.stop) :
    e.Touches r ↔ e.line ≤ r.stop ∧ r.start ≤ e.line + e.removed := by
  constructor
  · rintro ⟨l,⟨h1,h2⟩,h3,h4⟩
    exact ⟨h3.trans h2,h1.trans h4⟩
  · rintro ⟨h1,h2⟩
    exact ⟨max e.line r.start,⟨by omega,by omega⟩,by omega,by omega⟩

theorem slice_eq_drop (b : Buffer) (start stop : Nat) : slice b start stop = (b.take (stop + 1)).drop start := by
  rw [slice, List.drop_take]

theorem linesIn_above (h : r.stop < e.line) (hr : r.Within b) (back : List Text) :
    linesIn (b.take e.line ++ back) r = linesIn b r := by
  have hlt := hr.lt
  rw [linesIn, linesIn, slice_eq_drop, slice_eq_drop, List.take_append_of_le_length (by rw [List.length_take]; omega),
    List.take_take, Nat.min_eq_left (by omega)]

theorem linesIn_below {n : Nat} (h : n ≤ r.start) (hr : r.start ≤ r.stop) (front : List Text) :
    linesIn (front ++ b.drop n) ⟨r.start - n + front.length, r.stop - n + front.length⟩ = linesIn b r := by
  have hdrop : (front ++ b.drop n).drop (r.start - n + front.length) = b.drop r.start := by
    rw [Nat.add_comm, List.drop_append, List.drop_eq_nil_of_le (Nat.le_add_right _ _), List.drop_drop]
    simp [Nat.add_sub_cancel' h]
  dsimp only [linesIn, slice]
  rw [hdrop]
  congr 1
  omega

/-- Lines that an edit does not touch are kept, wherever they stand afterwards. -/
theorem Reports.keeps (he : e.Reports b b') (hr : r.Within b) (hfree : ¬ e.Touches r) :
    (e.moved r).Within b' ∧ linesIn b' (e.moved r) = linesIn b r := by
  obtain ⟨inserted,rfl,hdelta,hne⟩ := he
  obtain ⟨hle,hlt⟩ := hr
  have hpos := List.length_pos_iff.mpr hne
  rw [touches_iff hle, not_and_or, Nat.not_le, Nat.not_le] at hfree
  by_cases habove : e.line < r.start
  · have hfree : e.line + e.removed < r.start := by omega
    have hfront : (b.take e.line ++ inserted).length = e.line + inserted.length := by
      rw [List.length_append, List.length_take_of_le (by omega)]
    have hmoved : e.moved r = ⟨r.start - (e.line + e.removed + 1) + (b.take e.line ++ inserted).length,
        r.stop - (e.line + e.removed + 1) + (b.take e.line ++ inserted).length⟩ := by
      rw [moved, if_pos habove, hfront, LineRange.mk.injEq]
      omega
    rw [hmoved]
    refine ⟨⟨by dsimp only; omega,?_⟩,linesIn_below hfree hle _⟩
    dsimp only
    rw [@List.length_append _ _ (b.drop _), List.length_drop]
    omega
  · have hfree : r.stop < e.line := by omega
    rw [moved, if_neg habove, List.append_assoc]
    refine ⟨⟨hle,?_⟩,linesIn_above hfree ⟨hle,hlt⟩ _⟩
    rw [List.length_append, List.length_take]
    omega

end EditEvent

namespace Document

inductive Edit where
  | insertChar (c : Char)
  | insertNewline
  | insertText (t : Text)
  | insertTab
  | backspace
  | delete
  | deleteSelection
  deriving DecidableEq, Repr

def told (result : Document × EditEvent) : Document × Option EditEvent := (result.1, some result.2)

def Edit.apply (d : Document) : Edit → Document × Option EditEvent
  | insertChar c => told (d.insertChar c)
  | insertNewline => told d.insertNewline
  | insertText t => told (d.insertText t)
  | insertTab => told d.insertTab
  | backspace => d.backspace
  | delete => d.delete
  | deleteSelection => d.deleteSelection

variable {d d' : Document} {start stop : Position} {event : EditEvent}

structure Tells (d : Document) (result : Document × Option EditEvent) : Prop where
  id : result.1.id = d.id
  silent : result.2 = none → result.1.lines = d.lines
  event : ∀ e, result.2 = some e → e.Reports d.lines result.1.lines

theorem length_inserted (head tail : Text) (pieces : List Text) :
    (match pieces with
      | [] => [head ++ tail]
      | [piece] => [head ++ piece ++ tail]
      | first :: rest => (head ++ first) :: (rest.dropLast ++ [rest.getLastD [] ++ tail])).length =
      pieces.length - 1 + 1 := by
  match pieces with
  | [] | [_] => rfl
  | first :: second :: more => simp

theorem reports_replace (d : Document) (pieces : List Text) (h : start.line ≤ stop.line) :
    (d.replace start stop pieces).2.Reports d.lines (d.replace start stop pieces).1.lines := by
  have hlength := length_inserted ((line d.lines start.line).take start.column)
    ((line d.lines stop.line).drop stop.column) pieces
  refine ⟨_,?_,?_,List.ne_nil_of_length_eq_add_one hlength⟩
  · have hdrop : d.lines.drop (stop.line + 1) = d.lines.drop (start.line + (stop.line - start.line) + 1) := by
      rw [Nat.add_sub_cancel' h]
    exact congrArg (d.lines.take start.line ++ _ ++ ·) hdrop
  · rw [hlength, replace]
    push_cast
    omega

def Placed (d : Document) : Prop :=
  d.cursor.line < d.lines.length ∧ ∀ p, d.anchor = some p → p.line < d.lines.length

/-- An edit leaves the lines, or puts pieces in the place of what stands between two positions. -/
inductive Replaces (d : Document) : Document × Option EditEvent → Prop where
  | nothing (anchor : Option Position) : Replaces d ({ d with anchor },none)
  | put (anchor : Option Position) {start stop : Position} (pieces : List Text) (hle : start.line ≤ stop.line)
      (hstop : d.Placed → stop.line < d.lines.length) :
      Replaces d (told ({ d with anchor }.replace start stop pieces))

theorem line_le_of_before {p q : Position} (h : p.before q = true) : p.line ≤ q.line := by
  rcases Position.UpTo.of_before h with h | h
  · exact h.le
  · exact h.1.le

theorem bounds_line_le (d : Document) : d.bounds.1.line ≤ d.bounds.2.line := by
  rw [bounds, selection]
  split
  · exact le_rfl
  · split
    next h => exact line_le_of_before h
    next =>
      split
      next h => exact line_le_of_before h
      next => exact le_rfl

theorem Placed.bounds (hp : d.Placed) : d.bounds.2.line < d.lines.length := by
  obtain ⟨hcursor,hanchor⟩ := hp
  rw [Document.bounds, Document.selection]
  split
  · exact hcursor
  next anchor ha =>
    split
    · exact hcursor
    · split
      · exact hanchor anchor ha
      · exact hcursor

theorem replaces_replaceSelection (d : Document) (pieces : List Text) : Replaces d (told (d.replaceSelection pieces)) :=
  .put _ pieces d.bounds_line_le Placed.bounds

theorem replaces_insertNewline (d : Document) : Replaces d (told d.insertNewline) :=
  .put d.releaseAnchor _ (show _ ≤ (⟨d.bounds.2.line,_⟩ : Position).line from d.bounds_line_le) Placed.bounds

theorem replaces_deleteSelection (d : Document) : Replaces d d.deleteSelection := by
  rw [deleteSelection]
  split
  · exact .nothing d.anchor
  · exact replaces_replaceSelection d [[]]

theorem replaces_deleteTo {other : Position} (ho : d.Placed → other.line < d.lines.length) :
    Replaces d (d.deleteTo other) := by
  rw [deleteTo]
  split
  next h => exact .put none [[]] (line_le_of_before h) ho
  next =>
    split
    next h => exact .put none [[]] (line_le_of_before h) And.left
    next => exact .nothing none

theorem Placed.left (hp : d.Placed) : (d.destination .left).line < d.lines.length := by
  obtain ⟨hcursor,-⟩ := hp
  dsimp only [destination]
  split
  · exact hcursor
  · split
    · exact (Nat.sub_le _ _).trans_lt hcursor
    · exact hcursor

theorem Placed.right (hp : d.Placed) : (d.destination .right).line < d.lines.length := by
  obtain ⟨hcursor,-⟩ := hp
  dsimp only [destination]
  split
  · exact hcursor
  · split
    next h => exact h
    next => exact hcursor

theorem Edit.replaces (d : Document) (e : Edit) : Replaces d (e.apply d) := by
  cases e with
  | insertChar c =>
    dsimp only [apply]
    by_cases hc : c = '\n'
    · rw [Document.insertChar, if_pos hc]
      exact replaces_insertNewline d
    · rw [Document.insertChar, if_neg hc]
      exact replaces_replaceSelection d [[c]]
  | insertNewline => exact replaces_insertNewline d
  | insertText t => exact replaces_replaceSelection d (Text.splitLines t)
  | insertTab => exact replaces_replaceSelection d (Text.splitLines indentStep)
  | backspace =>
    dsimp only [apply, Document.backspace]
    split
    · exact replaces_deleteSelection d
    · exact replaces_deleteTo Placed.left
  | delete =>
    dsimp only [apply, Document.delete]
    split
    · exact replaces_deleteSelection d
    · exact replaces_deleteTo Placed.right
  | deleteSelection => exact replaces_deleteSelection d

theorem Replaces.tells {result : Document × Option EditEvent} (h : Replaces d result) : Tells d result := by
  cases h with
  | nothing anchor => exact ⟨rfl,fun _ => rfl,fun event he => by cases he⟩
  | put anchor pieces hle hstop =>
    refine ⟨rfl,?_,fun event he => ?_⟩
    · intro hn
      cases hn
    · obtain rfl := Option.some.inj he
      exact reports_replace { d with anchor } pieces hle

/-- Whatever is done, the event tells which lines it was done to. -/
theorem Edit.tells (d : Document) (e : Edit) : Tells d (e.apply d) := (e.replaces d).tells

end Document
end StatementPad
