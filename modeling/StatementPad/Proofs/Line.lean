import StatementPad.Buffer
import StatementPad.Proofs.Text.Joined

/-! # Laws of line classes

Only code lines carry marks. A code line holds something that is not blank, and a cell marker is a comment.
-/
namespace StatementPad

namespace LineClass

theorem isCode_of_has {flag : CodeMarks → Bool} {line : LineClass} (h : line.has flag = true) :
    line.isCode = true := by
  cases line with
  | blank => simp [has, marks?] at h
  | comment => simp [has, marks?] at h
  | code marks => rfl

theorem isCode_iff {line : LineClass} : line.isCode = true ↔ ∃ marks, line = .code marks := by
  cases line <;> simp [isCode]

theorem not_isCode_iff {line : LineClass} : line.isCode = false ↔ line.marks? = none := by
  cases line <;> simp [isCode, marks?]

end LineClass

namespace Line

theorem marksOf_chained {t : Text} (h : (marksOf t).chained = true) : (marksOf t).clause = true := by
  change (_ || _ || _) = true
  rw [show (opensWith "elif" t || opensWith "except" t) = true from h]
  rfl

theorem classify_marks {t : Text} {marks : CodeMarks} (h : classify t = .code marks) :
    marks = marksOf (Text.trimEnd t) := by
  simp only [classify] at h
  split at h
  · cases h
  · split at h
    · cases h
    · exact (LineClass.code.inj h).symm

theorem classify_chained {t : Text} {marks : CodeMarks} (h : classify t = .code marks)
    (hc : marks.chained = true) : marks.clause = true := by
  rw [classify_marks h] at hc ⊢
  exact marksOf_chained hc

/-- What begins with the sign of a decorator begins in the first column and is no clause. -/
theorem marksOf_decorator {t : Text} (h : (marksOf t).decorator = true) :
    (marksOf t).indented = false ∧ (marksOf t).clause = false := by
  obtain ⟨rest,rfl⟩ : ∃ rest, t = '@' :: rest := by
    cases t with
    | nil => simp [marksOf] at h
    | cons c rest => exact ⟨rest,by simpa [marksOf] using h⟩
  exact ⟨rfl,rfl⟩

/-- What a mark says of all texts it says of all lines. -/
theorem classify_free {flag : CodeMarks → Bool}
    (hflag : ∀ t, flag (marksOf t) = true → (marksOf t).indented = false ∧ (marksOf t).clause = false) {t : Text}
    (h : (classify t).has flag = true) : (classify t).needsAbove = false := by
  obtain ⟨marks,hm⟩ := LineClass.isCode_iff.mp (LineClass.isCode_of_has h)
  rw [hm] at h ⊢
  rw [classify_marks hm] at h ⊢
  obtain ⟨hi,hc⟩ := hflag _ h
  exact Bool.or_eq_false_iff.mpr ⟨hi,hc⟩

theorem classify_decorator {t : Text} (h : (classify t).isDecorator = true) : (classify t).needsAbove = false :=
  classify_free (fun _ => marksOf_decorator) h

theorem after?_eq_some {head t rest : Text} (h : Text.after? head t = some rest) : t = head ++ rest := by
  rw [Text.after?] at h
  split at h
  next hp =>
    obtain ⟨tail,rfl⟩ := List.isPrefixOf_iff_prefix.mp hp
    obtain rfl := Option.some.inj h
    rw [List.drop_left]
  next => cases h

theorem opensWith_prefix {keyword t : Text} (h : opensWith keyword t = true) : ∃ rest, t = keyword ++ rest := by
  rw [opensWith] at h
  split at h
  next => cases h
  next rest hrest => exact ⟨rest,after?_eq_some hrest⟩

theorem opensAsyncDefinition_prefix {t : Text} (h : opensAsyncDefinition t = true) :
    ∃ rest, t = "async".toList ++ rest := by
  rw [opensAsyncDefinition] at h
  split at h
  next => cases h
  next rest hrest => exact ⟨rest,after?_eq_some hrest⟩

/-- The words that open a definition begin like no clause. -/
theorem marksOf_definition {t : Text} (h : (marksOf t).definition = true) :
    (marksOf t).indented = false ∧ (marksOf t).clause = false := by
  change (_ || _ || _) = true at h
  rw [Bool.or_eq_true, Bool.or_eq_true] at h
  rcases h with (h | h) | h
  · obtain ⟨rest,rfl⟩ := opensWith_prefix h
    exact ⟨rfl,rfl⟩
  · obtain ⟨rest,rfl⟩ := opensWith_prefix h
    exact ⟨rfl,rfl⟩
  · obtain ⟨rest,rfl⟩ := opensAsyncDefinition_prefix h
    exact ⟨rfl,rfl⟩

theorem classify_definition {t : Text} (h : (classify t).isDefinition = true) : (classify t).needsAbove = false :=
  classify_free (fun _ => marksOf_definition) h

theorem classify_allBlank {line : Text} (h : Text.allBlank line = true) : classify line = .blank := by
  rw [classify, Text.trimEnd_eq_nil.mpr h]
  rfl

theorem classify_hash (rest : Text) : classify ('#' :: rest) = .comment := by
  have hc : Text.isBlank '#' = false := by decide
  simp [classify, Text.trimEnd_cons hc, Text.trimStart, hc]

theorem classify_marker {line : Text} (h : isCellMarker line = true) : classify line = .comment := by
  rcases Bool.or_eq_true_iff.mp h with h | h
  · obtain ⟨rest,rfl⟩ := List.isPrefixOf_iff_prefix.mp h
    exact classify_hash _
  · obtain ⟨rest,rfl⟩ := List.isPrefixOf_iff_prefix.mp h
    exact classify_hash _

end Line

namespace Buffer

theorem lt_length_of_isCode {b : Buffer} {l : Nat} (h : (classAt b l).isCode = true) : l < b.length := by
  by_contra hl
  have he : line b l = [] := by simp [line, List.getElem?_eq_none (Nat.le_of_not_lt hl)]
  simp [classAt, he, Line.classify, Text.trimEnd, Text.trimStart, LineClass.isCode] at h

theorem not_allBlank_of_isCode {b : Buffer} {l : Nat} (h : (classAt b l).isCode = true) :
    Text.allBlank (line b l) = false := by
  by_contra hb
  rw [Bool.not_eq_false] at hb
  simp [classAt, Line.classify_allBlank hb, LineClass.isCode] at h

def NoCode (b : Buffer) (start stop : Nat) : Prop :=
  ∀ l, start ≤ l → l < stop → (classAt b l).isCode = false

theorem NoCode.of_le {b : Buffer} {start stop : Nat} (h : stop ≤ start) : NoCode b start stop :=
  fun l h1 h2 => absurd h2 (by omega)

theorem NoCode.not_isCode {b : Buffer} {start stop l : Nat} (h : NoCode b start stop) (h1 : start ≤ l)
    (h2 : l < stop) : ¬ (classAt b l).isCode = true := by
  simp [h l h1 h2]

theorem NoCode.succ {b : Buffer} {start stop : Nat} (h : NoCode b start stop)
    (hs : (classAt b stop).isCode = false) : NoCode b start (stop + 1) := by
  intro l h1 h2
  rcases Nat.eq_or_lt_of_le (Nat.lt_succ_iff.mp h2) with rfl | h2
  · exact hs
  · exact h l h1 h2

/-- There is at most one first code line. -/
theorem first_unique {b : Buffer} {start l m : Nat} (hl : start ≤ l) (hm : start ≤ m)
    (hlcode : (classAt b l).isCode = true) (hmcode : (classAt b m).isCode = true) (hlgap : NoCode b start l)
    (hmgap : NoCode b start m) : l = m := by
  rcases Nat.lt_trichotomy l m with h | h | h
  · exact absurd hlcode (hmgap.not_isCode hl h)
  · exact h
  · exact absurd hmcode (hlgap.not_isCode hm h)

theorem noCode_or_first (b : Buffer) (start stop : Nat) :
    NoCode b start stop ∨ ∃ l, start ≤ l ∧ l < stop ∧ (classAt b l).isCode = true ∧ NoCode b start l := by
  induction stop with
  | zero => exact .inl (.of_le (Nat.zero_le start))
  | succ stop ih =>
    rcases ih with hn | ⟨l,h1,h2,h3⟩
    · cases hc : (classAt b stop).isCode with
      | false => exact .inl (hn.succ hc)
      | true =>
        rcases Nat.lt_or_ge stop start with hs | hs
        · exact .inl (.of_le hs)
        · exact .inr ⟨stop,hs,Nat.lt_succ_self stop,hc,hn⟩
    · exact .inr ⟨l,h1,by omega,h3⟩

end Buffer
end StatementPad
