import Mathlib.Data.List.TakeDrop
import StatementPad.Text

/-! # Texts cut at a byte

A text can be cut before and behind each of its characters, and nowhere else.
-/
namespace StatementPad.Text

/-- The text before a byte and from it on, if the byte is not within a character or past the end. -/
def cutAt? : Nat → Text → Option (Text × Text)
  | 0, t => some ([], t)
  | _ + 1, [] => none
  | n + 1, c :: rest =>
    if utf8Width c ≤ n + 1 then (cutAt? (n + 1 - utf8Width c) rest).map fun cut => (c :: cut.1, cut.2) else none

def between? (start stop : Nat) (t : Text) : Option Text :=
  if start ≤ stop then do
    let cut ← cutAt? stop t
    let inner ← cutAt? start cut.1
    some inner.2
  else none

/-- The text cut back to `n` bytes if that is not within a character. A text that is no longer stays. -/
def truncate? (n : Nat) (t : Text) : Option Text :=
  if utf8Length t ≤ n then some t else (cutAt? n t).map Prod.fst

/-- A column is never within a character. -/
theorem cutAt?_byteOffset (t : Text) (n : Nat) : cutAt? (byteOffset t n) t = some (t.take n,t.drop n) := by
  induction t generalizing n with
  | nil => simp [byteOffset, utf8Length, cutAt?]
  | cons c rest ih =>
    cases n with
    | zero => simp [byteOffset, utf8Length, cutAt?]
    | succ n =>
      have hwidth := utf8Width_pos c
      obtain ⟨m,hm⟩ : ∃ m, byteOffset (c :: rest) (n + 1) = m + 1 :=
        Nat.exists_eq_succ_of_ne_zero (by simp [byteOffset, utf8Length]; omega)
      have hsum : m + 1 = utf8Width c + byteOffset rest n := by
        rw [← hm]
        simp [byteOffset, utf8Length]
      rw [hm, cutAt?, if_pos (by omega), hsum, Nat.add_sub_cancel_left, ih]
      rfl

theorem truncate?_append (s t : Text) : truncate? (utf8Length s) (s ++ t) = some s := by
  unfold truncate?
  split
  next h =>
    have ht : t = [] := by
      by_contra hne
      have hpos := utf8Length_pos hne
      rw [utf8Length_append] at h
      omega
    rw [ht, List.append_nil]
  next =>
    have hcolumn : utf8Length s = byteOffset (s ++ t) s.length := by rw [byteOffset, List.take_left' rfl]
    rw [hcolumn, cutAt?_byteOffset, List.take_left' rfl]
    rfl

theorem byteOffset_mono (t : Text) {m n : Nat} (h : m ≤ n) : byteOffset t m ≤ byteOffset t n := by
  induction t generalizing m n with
  | nil => simp [byteOffset]
  | cons c rest ih =>
    cases m with
    | zero => simp [byteOffset, utf8Length]
    | succ m =>
      obtain ⟨n,rfl⟩ := Nat.exists_eq_succ_of_ne_zero (Nat.ne_of_gt (Nat.lt_of_lt_of_le (Nat.succ_pos m) h))
      exact Nat.add_le_add_left (ih (Nat.le_of_succ_le_succ h)) _

theorem between?_byteOffset (t : Text) {m n : Nat} (h : m ≤ n) :
    between? (byteOffset t m) (byteOffset t n) t = some ((t.take n).drop m) := by
  have hsame : byteOffset t m = byteOffset (t.take n) m := by
    rw [byteOffset, byteOffset, List.take_take, Nat.min_eq_left h]
  rw [between?, if_pos (byteOffset_mono t h), cutAt?_byteOffset, hsame]
  simp [cutAt?_byteOffset]

end StatementPad.Text
