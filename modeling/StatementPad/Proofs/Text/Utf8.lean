import Mathlib.Tactic.SplitIfs
import StatementPad.Text.Utf8

/-! # Lines as bytes

Only a line break has the byte of a line break in it, so bytes are cut into lines where their text is.
-/
namespace StatementPad.Text.Utf8
variable {t : Text}

theorem newline_ne_ofNat {n : Nat} (h : n % 256 ≠ 10) : newline ≠ UInt8.ofNat n := fun he => h <| by
  have hn := congrArg UInt8.toNat he.symm
  rwa [UInt8.toNat_ofNat'] at hn

theorem newline_not_mem_encodeChar {c : Char} (h : c ≠ '\n') : newline ∉ String.utf8EncodeChar c := by
  have hval : c.val.toNat ≠ 10 := fun he => h (Char.toNat_inj.mp he)
  unfold String.utf8EncodeChar
  dsimp only
  -- Outside of ASCII every byte is at least 128.
  split_ifs
  all_goals simp only [List.mem_cons, List.not_mem_nil, or_false, not_or]
  · exact newline_ne_ofNat (by omega)
  · exact ⟨newline_ne_ofNat (by omega),newline_ne_ofNat (by omega)⟩
  · exact ⟨newline_ne_ofNat (by omega),newline_ne_ofNat (by omega),newline_ne_ofNat (by omega)⟩
  · exact ⟨newline_ne_ofNat (by omega),newline_ne_ofNat (by omega),newline_ne_ofNat (by omega),
      newline_ne_ofNat (by omega)⟩

theorem newline_not_mem_encode (h : '\n' ∉ t) : newline ∉ encode t := by
  rw [encode, List.mem_flatMap]
  rintro ⟨c,hc,hmem⟩
  exact newline_not_mem_encodeChar (fun he => h (he ▸ hc)) hmem

theorem breakLines_append {piece : Bytes} (h : newline ∉ piece) (rest : Bytes) :
    breakLines (piece ++ newline :: rest) = piece :: breakLines rest := by
  induction piece with
  | nil => simp [breakLines]
  | cons b piece ih =>
    have hb : b ≠ newline := fun he => h (he ▸ List.mem_cons_self ..)
    rw [List.cons_append, breakLines, if_neg hb, ih (fun hp => h (List.mem_cons_of_mem b hp))]

/-- Lines that all end in a break are cut apart as bytes where they are cut as text. -/
theorem breakLines_encode {pieces : List Text} (h : ∀ piece ∈ pieces, '\n' ∉ piece) :
    breakLines (encode (pieces.flatMap (· ++ ['\n']))) = pieces.map encode ++ [[]] := by
  induction pieces with
  | nil => rfl
  | cons piece pieces ih =>
    obtain ⟨hpiece,hrest⟩ := List.forall_mem_cons.mp h
    have hbreak : encode ((piece :: pieces).flatMap (· ++ ['\n'])) =
        encode piece ++ newline :: encode (pieces.flatMap (· ++ ['\n'])) := by
      simp only [encode, List.flatMap_cons, List.flatMap_append, List.append_assoc]
      rfl
    rw [hbreak, breakLines_append (newline_not_mem_encode hpiece), ih hrest]
    rfl

end StatementPad.Text.Utf8
