import StatementPad.Proofs.Console

/-! # Consoles without their oldest lines

When there are too many lines the oldest ones go, and what a full console keeps is `Behind` what it had. What is left is
a console again: its mark is the shifted mark, and what it had grown to has grown from what is left of it.
-/
namespace StatementPad.Console
variable {c c' : Console} {n : Nat}

def without (n : Nat) (c : Console) : Console :=
  { c with lines := c.lines.drop n, isOpen := c.isOpen && decide (n < c.lines.length) }

theorem opened_without (n : Nat) (c : Console) (h : (c.without n).isOpen = true) : (c.without n).lines ≠ [] := by
  rw [without, Bool.and_eq_true, decide_eq_true_eq] at h
  exact List.ne_nil_of_length_pos (by rw [without, List.length_drop]; omega)

theorem without_without (m n : Nat) (c : Console) : (c.without m).without n = c.without (m + n) := by
  have hlast : (decide (m < c.lines.length) && decide (n < c.lines.length - m)) = decide (m + n < c.lines.length) := by
    rw [← Bool.decide_and, decide_eq_decide]
    omega
  simp only [without, List.drop_drop, List.length_drop, Bool.and_assoc, hlast]

/-- The last line is as open as it was while it is there. -/
theorem isOpen_without (hopened : c.isOpen = true → c.lines ≠ []) (h : n = 0 ∨ n < c.lines.length) :
    (c.without n).isOpen = c.isOpen := by
  rw [without]
  cases ho : c.isOpen with
  | false => rfl
  | true =>
    have hlength := List.length_pos_iff.mpr (hopened ho)
    rw [Bool.true_and, decide_eq_true_eq]
    omega

theorem without_zero (h : c.isOpen = true → c.lines ≠ []) : c.without 0 = c := by
  have hopen : (c.without 0).isOpen = c.isOpen := isOpen_without h (.inl rfl)
  calc c.without 0 = { c with lines := c.lines.drop 0, isOpen := (c.without 0).isOpen } := rfl
    _ = c := by rw [hopen, List.drop_zero]

theorem mark_without (n : Nat) (c : Console) : (c.without n).mark = BatchMark.shifted n c.mark := by
  rcases Nat.lt_or_ge n c.lines.length with hn | hn
  · simp [mark, without, BatchMark.shifted, List.getLast?_drop, hn, Nat.not_le_of_lt hn]
  · simp [mark, without, BatchMark.shifted, hn, Nat.not_lt_of_le hn]

theorem Grown.without (h : Grown c c') (n : Nat) : Grown (c.without n) (c'.without n) := by
  cases h with
  | added more hlines hclosed =>
    refine .added (more.drop (n - c.lines.length)) (by simp [Console.without, hlines, List.drop_append]) ?_
    intro hnil hopen
    obtain ⟨hopen,hn⟩ : c'.isOpen = true ∧ n < c'.lines.length := by simpa [Console.without] using hopen
    -- No line was added: the last one would not have been dropped.
    rw [hlines, List.length_append] at hn
    have hmore : more = [] := List.eq_nil_iff_length_eq_zero.mpr (by rw [List.drop_eq_nil_iff] at hnil; omega)
    simp [Console.without, hclosed hmore hopen]
    simpa [hmore] using hn
  | wentOn front last suffix more hopen hlast hlines =>
    rcases Nat.lt_or_ge front.length n with hn | hn
    · obtain ⟨k,rfl⟩ := Nat.exists_eq_add_of_lt hn
      refine .added (more.drop k) ?_ ?_
      · simp [Console.without, hlast, hlines, List.drop_append, Nat.add_assoc]
      · intro hnil hopen'
        obtain ⟨-,hk⟩ : c'.isOpen = true ∧ front.length + k + 1 < c'.lines.length := by
          simpa [Console.without] using hopen'
        rw [List.drop_eq_nil_iff] at hnil
        simp only [hlines, List.length_append, List.length_cons] at hk
        omega
    · refine .wentOn (front.drop n) last suffix more ?_ ?_ ?_
      · simp [Console.without, hopen, hlast]
        omega
      · simp [Console.without, hlast, List.drop_append, Nat.sub_eq_zero_of_le hn]
      · simp [Console.without, hlines, List.drop_append, Nat.sub_eq_zero_of_le hn]

/-- The second console is the first one without its `n` oldest lines, and some line is left of those. -/
structure Behind (n : Nat) (c c' : Console) : Prop where
  lines : c'.lines = c.lines.drop n
  isOpen : c'.isOpen = c.isOpen
  maxLines : c'.maxLines = c.maxLines
  left : n = 0 ∨ n < c.lines.length

theorem Behind.refl (c : Console) : Behind 0 c c := ⟨rfl,rfl,rfl,.inl rfl⟩

theorem Behind.trans {c'' : Console} (h : Behind 0 c c') (h' : Behind 0 c' c'') : Behind 0 c c'' :=
  ⟨h'.lines.trans h.lines,h'.isOpen.trans h.isOpen,h'.maxLines.trans h.maxLines,.inl rfl⟩

theorem behind_dropOldest (hpos : 0 < c.maxLines) : Behind (c.lines.length - c.maxLines) c c.dropOldest := by
  obtain ⟨hmax,hopen,hlines⟩ := dropOldest_spec c
  exact ⟨hlines,hopen,hmax,by omega⟩

theorem Behind.content (h : Behind n c c') (hopened : c.isOpen = true → c.lines ≠ []) :
    c'.content = (c.without n).content := by
  rw [Console.content, Console.content, isOpen_without hopened h.left, h.isOpen, h.lines]
  rfl

end StatementPad.Console
