import Mathlib.Algebra.GroupWithZero.Nat
import Mathlib.Data.List.TakeDrop
import StatementPad.Document
import StatementPad.Proofs.Text.Joined

/-! # Positions as places in a text

A position in a buffer is a place in the text that its lines make up: so many characters stand before it, a line
break counting as one. To splice pieces into a buffer is to put their text between two such places.
-/
namespace StatementPad

namespace Text

@[simp] theorem joinLines_one (s : Text) : joinLines [s] = s := List.intercalate_singleton

/-- A text may be cut anywhere within one of its lines. -/
theorem joinLines_cut (front : List Text) (s t : Text) (back : List Text) :
    joinLines (front ++ (s ++ t) :: back) = joinLines (front ++ [s]) ++ joinLines (t :: back) := by
  have hline : joinLines ((s ++ t) :: back) = s ++ joinLines (t :: back) := by
    rcases eq_or_ne back [] with rfl | hb
    · simp
    · rw [joinLines_cons _ hb, joinLines_cons _ hb, List.append_assoc]
  rcases eq_or_ne front [] with rfl | hf
  · rw [List.nil_append, List.nil_append, hline, joinLines_one]
  · rw [joinLines_append hf (by simp), joinLines_append hf (by simp), hline]
    simp

theorem length_joinLines_concat (front : List Text) (s : Text) :
    (joinLines (front ++ [s])).length = (front.map fun line => line.length + 1).sum + s.length := by
  induction front with
  | nil => simp
  | cons line front ih =>
    rw [List.cons_append, joinLines_cons _ (by simp), List.length_append, List.length_cons, ih, List.map_cons,
      List.sum_cons]
    omega

theorem drop_blanks (t : Text) : t.drop (t.takeWhile isBlank).length = trimStart t := by
  have hdrop : (t.takeWhile isBlank ++ t.dropWhile isBlank).drop (t.takeWhile isBlank).length = trimStart t :=
    List.drop_left
  rwa [List.takeWhile_append_dropWhile] at hdrop

end Text

structure Position.In (p : Position) (b : Buffer) : Prop where
  line : p.line < b.length
  column : p.column ≤ (Buffer.line b p.line).length

theorem Position.In.length_above {p : Position} {b : Buffer} (hp : p.In b) : (b.take p.line).length = p.line :=
  List.length_take_of_le hp.line.le

theorem Position.In.length_head {p : Position} {b : Buffer} (hp : p.In b) :
    ((Buffer.line b p.line).take p.column).length = p.column := List.length_take_of_le hp.column

def Position.UpTo (p q : Position) : Prop := p.line < q.line ∨ p.line = q.line ∧ p.column ≤ q.column

theorem Position.before_or (p q : Position) : p.before q = true ∨ p = q ∨ q.before p = true := by
  obtain ⟨l,c⟩ := p
  obtain ⟨l',c'⟩ := q
  simp only [before, Bool.or_eq_true, decide_eq_true_eq, Bool.and_eq_true, beq_iff_eq, Position.mk.injEq]
  omega

theorem Position.UpTo.of_before {p q : Position} (h : p.before q = true) : p.UpTo q := by
  simp only [before, Bool.or_eq_true, decide_eq_true_eq, Bool.and_eq_true, beq_iff_eq] at h
  exact h.imp_right fun ⟨hl,hc⟩ => ⟨hl,hc.le⟩

theorem Position.before_asymm {p q : Position} (h : p.before q = true) : q.before p = false := by
  simp only [before, Bool.or_eq_true, Bool.or_eq_false_iff, decide_eq_true_eq, decide_eq_false_iff_not, Bool.and_eq_true,
    Bool.and_eq_false_iff, beq_iff_eq, beq_eq_false_iff_ne] at h ⊢
  omega

theorem Position.UpTo.refl (p : Position) : p.UpTo p := .inr ⟨rfl,le_rfl⟩

namespace Buffer
open Text

def offset (b : Buffer) (p : Position) : Nat := ((b.take p.line).map fun line => line.length + 1).sum + p.column

def before (b : Buffer) (p : Position) : Text := joinLines (b.take p.line ++ [(line b p.line).take p.column])

def after (b : Buffer) (p : Position) : Text := joinLines ((line b p.line).drop p.column :: b.drop (p.line + 1))

variable {b : Buffer} {p q : Position}

theorem take_line_drop {n : Nat} (hn : n < b.length) : b.take n ++ line b n :: b.drop (n + 1) = b := by
  rw [line, List.getElem?_eq_getElem hn, Option.getD_some, List.getElem_cons_drop, List.take_append_drop]

theorem before_append_after (hp : p.line < b.length) : before b p ++ after b p = joinLines b := by
  rw [before, after, ← joinLines_cut, List.take_append_drop, take_line_drop hp]

theorem length_before (hp : p.In b) : (before b p).length = offset b p := by
  rw [before, length_joinLines_concat, hp.length_head, offset]

theorem take_offset (hp : p.In b) : (joinLines b).take (offset b p) = before b p := by
  rw [← before_append_after hp.line, ← length_before hp, List.take_left]

theorem drop_offset (hp : p.In b) : (joinLines b).drop (offset b p) = after b p := by
  rw [← before_append_after hp.line, ← length_before hp, List.drop_left]

/-- The break at the end of a line counts as one character. -/
theorem offset_below {n : Nat} (hn : n < b.length) : offset b ⟨n + 1,0⟩ = offset b ⟨n,(line b n).length⟩ + 1 := by
  have htake : b.take (n + 1) = b.take n ++ [line b n] := by
    rw [line, List.getElem?_eq_getElem hn, Option.getD_some, List.take_append_getElem]
  simp only [offset, htake, List.map_append, List.sum_append, List.map_cons, List.map_nil, List.sum_singleton]
  omega

theorem cut_spec {front : List Text} (hl : front.length = p.line) (l : Text) (back : List Text)
    (hc : p.column ≤ l.length) :
    p.In (front ++ l :: back) ∧ before (front ++ l :: back) p = joinLines (front ++ [l.take p.column]) ∧
      after (front ++ l :: back) p = joinLines (l.drop p.column :: back) := by
  have hline : line (front ++ l :: back) p.line = l := by simp [line, ← hl]
  refine ⟨⟨?_,by rwa [hline]⟩,?_,?_⟩
  · rw [List.length_append, List.length_cons]
    omega
  · rw [before, hline, ← hl, List.take_left]
  · have hdrop : (front ++ l :: back).drop (p.line + 1) = back := by simp [← hl, List.drop_append]
    rw [after, hline, hdrop]

theorem offset_lt (hp : p.In b) (h : p.before q = true) : offset b p < offset b q := by
  rw [Position.before, Bool.or_eq_true, Bool.and_eq_true] at h
  rcases h with h | ⟨hl,hc⟩
  · have hline := of_decide_eq_true h
    have hlt := hp.line
    have hcol := hp.column
    have hsplit : b.take q.line = b.take p.line ++ line b p.line :: (b.take q.line).drop (p.line + 1) := by
      have hcut := take_line_drop (b := b.take q.line) (n := p.line) (by rw [List.length_take]; omega)
      rw [List.take_take, Nat.min_eq_left hline.le] at hcut
      have hsame : line (b.take q.line) p.line = line b p.line := by rw [line, line, List.getElem?_take_of_lt hline]
      rw [hsame] at hcut
      exact hcut.symm
    rw [offset, offset, hsplit, List.map_append, List.sum_append, List.map_cons, List.sum_cons]
    omega
  · have hline : p.line = q.line := by simpa using hl
    have hcol : p.column < q.column := of_decide_eq_true hc
    rw [offset, offset, hline]
    omega

end Buffer

namespace Document
open Text Buffer

variable {b : Buffer} {start stop : Position} {pieces : List Text}

@[elab_as_elim] theorem pieces_cases {motive : List Text → Prop} (none : motive []) (one : ∀ piece, motive [piece])
    (several : ∀ first middle last, motive (first :: (middle ++ [last]))) (pieces : List Text) : motive pieces := by
  match pieces with
  | [] => exact none
  | [piece] => exact one piece
  | first :: second :: more =>
    rw [← List.dropLast_append_getLast (List.cons_ne_nil second more)]
    exact several _ _ _

theorem splice_nil : splice b start stop [] = splice b start stop [[]] := by
  simp [splice]

theorem splice_one (piece : Text) : splice b start stop [piece] = b.take start.line ++
    (((line b start.line).take start.column ++ piece) ++ (line b stop.line).drop stop.column) ::
      b.drop (stop.line + 1) := by
  simp [splice]

theorem splice_several (b : Buffer) (start stop : Position) (first last : Text) (middle : List Text) :
    splice b start stop (first :: (middle ++ [last])) = (b.take start.line ++
      ((line b start.line).take start.column ++ first) :: middle) ++
        (last ++ (line b stop.line).drop stop.column) :: b.drop (stop.line + 1) := by
  cases middle with
  | nil => simp [splice]
  | cons second middle =>
    have hlast : (second :: (middle ++ [last])).getLastD [] = last := by
      rw [← List.cons_append, List.getLastD_concat]
    have hinit : (second :: (middle ++ [last])).dropLast = second :: middle := by
      rw [← List.cons_append, List.dropLast_concat]
    simp only [List.cons_append, splice, hlast, hinit, List.append_assoc, List.nil_append]

theorem behind_several (first last : Text) (middle : List Text) :
    behind start (first :: (middle ++ [last])) = ⟨start.line + middle.length + 1,last.length⟩ := by
  cases middle with
  | nil => simp [behind]
  | cons second middle =>
    have hlast : (second :: (middle ++ [last])).getLastD [] = last := by
      rw [← List.cons_append, List.getLastD_concat]
    simp only [List.cons_append, behind, hlast, List.length_cons, List.length_append, List.length_nil, Nat.add_assoc]

/-- What is put in begins at its place and is followed by what stood behind the other end. -/
theorem splice_spec (hs : start.In b) (stop : Position) (pieces : List Text) :
    (behind start pieces).In (splice b start stop pieces) ∧
      before (splice b start stop pieces) (behind start pieces) = before b start ++ joinLines pieces ∧
      after (splice b start stop pieces) (behind start pieces) = after b stop := by
  have hfront := hs.length_above
  have hhead := hs.length_head
  have hone (piece : Text) : (behind start [piece]).In (splice b start stop [piece]) ∧
      before (splice b start stop [piece]) (behind start [piece]) = before b start ++ piece ∧
      after (splice b start stop [piece]) (behind start [piece]) = after b stop := by
    have hlength : start.column + piece.length = ((line b start.line).take start.column ++ piece).length := by
      rw [List.length_append, hhead]
    obtain ⟨hin,hbefore,hafter⟩ := cut_spec (p := behind start [piece]) hfront
      (((line b start.line).take start.column ++ piece) ++ (line b stop.line).drop stop.column)
      (b.drop (stop.line + 1)) (by simp [behind, hhead])
    rw [splice_one]
    refine ⟨hin,?_,?_⟩
    · rw [hbefore, behind, hlength, List.take_left, joinLines_cut, before, joinLines_one]
    · rw [hafter, behind, hlength, List.drop_left, after]
  induction pieces using pieces_cases with
  | none =>
    have hnone := hone []
    rw [splice_nil]
    simpa [behind, joinLines] using hnone
  | one piece => simpa using hone piece
  | several first middle last =>
    rw [splice_several, behind_several]
    have hfirst : (b.take start.line ++ ((line b start.line).take start.column ++ first) :: middle).length =
        start.line + middle.length + 1 := by
      rw [List.length_append, hfront, List.length_cons, Nat.add_assoc]
    obtain ⟨hin,hbefore,hafter⟩ := cut_spec (p := ⟨start.line + middle.length + 1,last.length⟩) hfirst
      (last ++ (line b stop.line).drop stop.column) (b.drop (stop.line + 1))
      (by rw [List.length_append]; exact Nat.le_add_right _ _)
    refine ⟨hin,?_,?_⟩
    · rw [hbefore, List.take_left, List.append_assoc, List.cons_append, joinLines_cut, before]
    · rw [hafter, List.drop_left, after]

theorem joinLines_splice (hs : start.In b) (stop : Position) (pieces : List Text) :
    joinLines (splice b start stop pieces) = before b start ++ joinLines pieces ++ after b stop := by
  obtain ⟨hin,hbefore,hafter⟩ := splice_spec hs stop pieces
  rw [← before_append_after hin.line, hbefore, hafter]

theorem offset_behind (hs : start.In b) (stop : Position) (pieces : List Text) :
    offset (splice b start stop pieces) (behind start pieces) = (before b start ++ joinLines pieces).length := by
  obtain ⟨hin,hbefore,-⟩ := splice_spec hs stop pieces
  rw [← length_before hin, hbefore]

/-- What is put back where it stood changes nothing. -/
theorem splice_piecesBetween (hs : start.In b) (ht : stop.In b) (h : start.UpTo stop) :
    splice b start stop (piecesBetween b start stop) = b := by
  rcases h with h | ⟨hl,hc⟩
  · rw [piecesBetween, if_neg h.ne, splice_several, List.take_append_drop, List.take_append_drop]
    have hstop : start.line + 1 + (stop.line - (start.line + 1)) = stop.line := by omega
    have hrest := take_line_drop (b := b.drop (start.line + 1)) (n := stop.line - (start.line + 1))
      (by have hlt := ht.line; rw [List.length_drop]; omega)
    have hline : line (b.drop (start.line + 1)) (stop.line - (start.line + 1)) = line b stop.line := by
      rw [line, line, List.getElem?_drop, hstop]
    rw [hline, List.drop_drop, ← Nat.add_assoc, hstop] at hrest
    rw [List.append_assoc, List.cons_append, hrest, take_line_drop hs.line]
  · have hpiece : (line b start.line).take start.column ++
        ((line b start.line).take stop.column).drop start.column = (line b start.line).take stop.column := by
      have htake := List.take_append_drop start.column ((line b start.line).take stop.column)
      rwa [List.take_take, Nat.min_eq_left hc] at htake
    rw [piecesBetween, if_pos hl, splice_one, hpiece, ← hl, List.take_append_drop, take_line_drop hs.line]

theorem joinLines_between (hs : start.In b) (ht : stop.In b) (h : start.UpTo stop) :
    joinLines b = before b start ++ joinLines (piecesBetween b start stop) ++ after b stop := by
  have htext := joinLines_splice hs stop (piecesBetween b start stop)
  rwa [splice_piecesBetween hs ht h] at htext

end Document
end StatementPad
