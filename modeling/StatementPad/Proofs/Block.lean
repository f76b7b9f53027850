import StatementPad.Block
import StatementPad.Proofs.Line

/-! # Laws of blocks

A block that holds more than blank lines has a text, and a longer block that ends in code has a longer one.
-/
namespace StatementPad
open Buffer
variable {b : Buffer} {start stop : Nat}

namespace Buffer

theorem mem_slice {l : Nat} (h1 : start ≤ l) (h2 : l ≤ stop) (hl : l < b.length) :
    line b l ∈ slice b start stop := by
  refine List.mem_iff_getElem?.mpr ⟨l - start,?_⟩
  rw [slice, List.getElem?_take_of_lt (by omega), List.getElem?_drop, Nat.add_sub_cancel' h1]
  simp [line, List.getElem?_eq_getElem hl]

theorem slice_append {middle : Nat} (h1 : start ≤ middle + 1) (h2 : middle ≤ stop) :
    slice b start stop = slice b start middle ++ slice b (middle + 1) stop := by
  have hd : b.drop (middle + 1) = (b.drop start).drop (middle + 1 - start) := by
    rw [List.drop_drop, Nat.add_sub_cancel' h1]
  rw [slice, slice, slice, hd, show stop + 1 - start = (middle + 1 - start) + (stop + 1 - (middle + 1)) by omega,
    List.take_add]

theorem lt_length_of_not_allBlank {l : Nat} (h : Text.allBlank (line b l) = false) : l < b.length := by
  by_contra hl
  simp [line, List.getElem?_eq_none (Nat.le_of_not_lt hl), Text.allBlank] at h

theorem allBlank_textOf {l : Nat} (h1 : start ≤ l) (h2 : l ≤ stop) (hb : Text.allBlank (line b l) = false) :
    Text.allBlank (textOf b start stop) = false := by
  rw [textOf, Text.allBlank_joinLines, List.all_eq_false]
  exact ⟨line b l,mem_slice h1 h2 (lt_length_of_not_allBlank hb),by simp [hb]⟩

end Buffer

namespace CodeBlock

theorem isEmpty_ofBuffer {l : Nat} (h1 : start ≤ l) (h2 : l ≤ stop) (hb : Text.allBlank (line b l) = false) :
    (ofBuffer b start stop).isEmpty = false := by
  rw [isEmpty, List.isEmpty_eq_false_iff]
  intro he
  have hall := Text.trimEnd_eq_nil.mp he
  simp [allBlank_textOf h1 h2 hb] at hall

theorem mem_codeAt {first n : Nat} {pieces : List Text} (h : n ∈ codeAt first pieces) :
    first ≤ n ∧ n < first + pieces.length := by
  induction pieces generalizing first with
  | nil => simp [codeAt] at h
  | cons piece pieces ih =>
    rw [List.length_cons]
    unfold codeAt at h
    split at h
    · rcases List.mem_cons.mp h with rfl | h
      · omega
      · have := ih h
        omega
    · have := ih h
      omega

theorem codeAt_increasing (first : Nat) (pieces : List Text) : (codeAt first pieces).Pairwise (· < ·) := by
  induction pieces generalizing first with
  | nil => exact .nil
  | cons piece pieces ih =>
    unfold codeAt
    split
    · exact List.pairwise_cons.mpr ⟨fun n hn => (mem_codeAt hn).1,ih _⟩
    · exact ih _

/-- A block is not cut into more pieces than it has lines, if no line has a break in it. -/
theorem length_breakLines_le (hflat : ∀ l ∈ b, '\n' ∉ l) (hle : start ≤ stop) :
    (Text.breakLines (ofBuffer b start stop).text).length ≤ stop + 1 - start := by
  have hslice : (slice b start stop).length ≤ stop + 1 - start := List.length_take_le _ _
  have hcount := Text.count_joinLines_le (show ∀ l ∈ slice b start stop, '\n' ∉ l from
    fun l hl => hflat l (List.mem_of_mem_drop (List.mem_of_mem_take hl)))
  have htrim := (Text.prefix_trimEnd (textOf b start stop)).sublist.count_le '\n'
  rw [Text.breakLines, Text.length_split]
  simp only [ofBuffer]
  rw [textOf] at htrim ⊢
  omega

/-- The code of a block lies between its first line and its last one. -/
theorem codeLines_spec (hflat : ∀ l ∈ b, '\n' ∉ l) (hle : start ≤ stop) :
    (ofBuffer b start stop).codeLines.start ≤ (ofBuffer b start stop).codeLines.stop ∧
      start ≤ (ofBuffer b start stop).codeLines.start ∧ (ofBuffer b start stop).codeLines.stop ≤ stop := by
  have hpieces := length_breakLines_le hflat hle
  unfold codeLines
  cases hc : codeAt (ofBuffer b start stop).start (Text.breakLines (ofBuffer b start stop).text) with
  | nil => exact ⟨le_max_right _ _,le_rfl,(max_eq_left hle).le⟩
  | cons first rest =>
    have hsorted := codeAt_increasing (ofBuffer b start stop).start (Text.breakLines (ofBuffer b start stop).text)
    rw [hc, List.pairwise_cons] at hsorted
    have hlast := List.getLastD_mem_cons (l := rest) (a := first)
    have hfirst := mem_codeAt (show first ∈ codeAt _ _ from hc ▸ List.mem_cons_self ..)
    have hmem := mem_codeAt (show rest.getLastD first ∈ codeAt _ _ from hc ▸ hlast)
    have hord : first ≤ rest.getLastD first := by
      rcases List.mem_cons.mp hlast with he | he
      · exact he.ge
      · exact (hsorted.1 _ he).le
    simp only [ofBuffer] at hmem hfirst hpieces ⊢
    omega

/-- The code of a block begins before it ends, if no line has a break in it. -/
theorem start_codeLines_le (hflat : ∀ l ∈ b, '\n' ∉ l) (hle : start ≤ stop) :
    (ofBuffer b start stop).codeLines.start ≤ stop := by
  obtain ⟨h1,-,h2⟩ := codeLines_spec hflat hle
  exact h1.trans h2

/-- A block has a longer text than one that stops above a line of it that is not blank. -/
theorem length_text_lt_of_not_allBlank {middle l : Nat} (h1 : start ≤ middle) (h2 : middle < l) (h3 : l ≤ stop)
    (hb : Text.allBlank (line b l) = false) :
    (ofBuffer b start middle).text.length < (ofBuffer b start stop).text.length := by
  have hl := lt_length_of_not_allBlank hb
  have hmid : slice b start middle ≠ [] := List.ne_nil_of_mem (mem_slice le_rfl h1 (by omega))
  have hrest : slice b (middle + 1) stop ≠ [] := List.ne_nil_of_mem (mem_slice h2 h3 hl)
  simp only [ofBuffer, textOf]
  rw [slice_append (Nat.le_succ_of_le h1) (h2.le.trans h3), Text.joinLines_append hmid hrest]
  exact Text.length_trimEnd_lt (allBlank_textOf h2 h3 hb)

/-- A block has a longer text than one that stops above a code line of it. -/
theorem length_text_lt {middle l : Nat} (h1 : start ≤ middle) (h2 : middle < l) (h3 : l ≤ stop)
    (hc : (classAt b l).isCode = true) :
    (ofBuffer b start middle).text.length < (ofBuffer b start stop).text.length :=
  length_text_lt_of_not_allBlank h1 h2 h3 (not_allBlank_of_isCode hc)

/-- Blocks with one first line and a last line that is not blank differ in their texts. -/
theorem stop_eq_of_text_eq {stop' : Nat} (h1 : start ≤ stop) (h2 : start ≤ stop')
    (hb : Text.allBlank (line b stop) = false) (hb' : Text.allBlank (line b stop') = false)
    (h : (ofBuffer b start stop).text = (ofBuffer b start stop').text) : stop = stop' := by
  rcases Nat.lt_trichotomy stop stop' with hlt | heq | hlt
  · have hlength := length_text_lt_of_not_allBlank h1 hlt le_rfl hb'
    rw [h] at hlength
    exact absurd hlength (lt_irrefl _)
  · exact heq
  · have hlength := length_text_lt_of_not_allBlank h2 hlt le_rfl hb
    rw [h] at hlength
    exact absurd hlength (lt_irrefl _)

end CodeBlock
end StatementPad
