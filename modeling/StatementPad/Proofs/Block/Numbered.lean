import Mathlib.Data.List.Pairwise
import StatementPad.Proofs.Block
import StatementPad.Proofs.Run.Steps

/-! # Where the lines of a block stand

The text of a block is joined from lines of the buffer, loses the blanks at its end and is cut into lines again. What is
lost are blank lines below the last line that holds anything, so a line of the text stands as far below the first line of
the block as it stands below the first line of the text.
-/
namespace StatementPad

namespace Text

/-- The lines of a text as they are counted: a carriage return before a break belongs to the break, and behind the last
break there is no line. -/
def readLines (t : Text) : List Text :=
  (breakLines t).dropLast.map dropReturn ++ ((breakLines t).getLast?.filter (· ≠ [])).toList

theorem readLines_eq {t last : Text} {front : List Text} (h : breakLines t = front ++ [last]) :
    readLines t = front.map dropReturn ++ if last = [] then [] else [last] := by
  rw [readLines, h, List.dropLast_concat, List.getLast?_concat]
  split <;> simp [*]

end Text

variable {b : Buffer} {start stop : Nat}
open Buffer

theorem Line.classify_trimEnd (t : Text) : classify (Text.trimEnd t) = classify t := by
  rw [classify, Text.trimEnd_trimEnd, ← classify]

theorem Line.classify_dropReturn (t : Text) : classify (Text.dropReturn t) = classify t := by
  rw [classify, Text.trimEnd_dropReturn, ← classify]

namespace CodeBlock

/-! ## Code among lines -/

theorem mem_codeAt_iff {first n : Nat} {pieces : List Text} : n ∈ codeAt first pieces ↔
    ∃ i piece, pieces[i]? = some piece ∧ (Line.classify piece).isCode = true ∧ n = first + i := by
  induction pieces generalizing first with
  | nil => simp [codeAt]
  | cons head pieces ih =>
    have hrest : n ∈ codeAt (first + 1) pieces ↔ ∃ i piece, (head :: pieces)[i + 1]? = some piece ∧
        (Line.classify piece).isCode = true ∧ n = first + (i + 1) := by
      simp only [ih, List.getElem?_cons_succ, Nat.add_assoc, Nat.add_comm 1]
    rw [← Nat.or_exists_add_one, ← hrest, codeAt]
    split
    next hc => simp [hc]
    next hc => simp [hc]

theorem codeAt_append (first : Nat) (front back : List Text) :
    codeAt first (front ++ back) = codeAt first front ++ codeAt (first + front.length) back := by
  induction front generalizing first with
  | nil => rfl
  | cons piece front ih =>
    simp only [List.cons_append, codeAt, ih, List.length_cons, Nat.add_right_comm first 1, Nat.add_assoc]
    split <;> rfl

theorem codeAt_map {f : Text → Text} (hf : ∀ t, Line.classify (f t) = Line.classify t) (first : Nat) (pieces : List Text) :
    codeAt first (pieces.map f) = codeAt first pieces := by
  induction pieces generalizing first with
  | nil => rfl
  | cons piece pieces ih => simp only [List.map_cons, codeAt, hf, ih]

/-- It does not matter for the code whether returns are kept and whether an empty line is counted at the end. -/
theorem codeAt_readLines (first : Nat) (t : Text) :
    codeAt first (Text.readLines t) = codeAt first (Text.breakLines t) := by
  obtain ⟨front,last,h⟩ : ∃ front last, Text.breakLines t = front ++ [last] :=
    ⟨_,_,(List.dropLast_append_getLast (Text.split_ne_nil '\n' t)).symm⟩
  rw [Text.readLines_eq h, h, codeAt_append, codeAt_append, codeAt_map Line.classify_dropReturn, List.length_map]
  split
  next he => rw [he]; rfl
  next => rfl

end CodeBlock

namespace Buffer

/-! ## Where the lines of a text stand -/

/-- The lines of a text stand in a buffer from `first` on, and below them there is nothing down to `last`. -/
structure Numbered (b : Buffer) (first last : Nat) (lines : List Text) : Prop where
  line : ∀ i text, lines[i]? = some text → first + i ≤ last ∧
    text = if i + 1 = lines.length then Text.trimEnd (line b (first + i)) else Text.dropReturn (line b (first + i))
  below : ∀ l, first + lines.length ≤ l → l ≤ last → Text.allBlank (Buffer.line b l) = true

theorem getElem?_slice {i : Nat} (h : start + i ≤ stop) : (slice b start stop)[i]? = b[start + i]? := by
  rw [slice, List.getElem?_take_of_lt (by omega), List.getElem?_drop]

theorem line_of_slice {i : Nat} {text : Text} (h : (slice b start stop)[i]? = some text) :
    start + i ≤ min stop (b.length - 1) ∧ line b (start + i) = text := by
  have hlt := (List.getElem?_eq_some_iff.mp h).1
  rw [slice, List.length_take, List.length_drop] at hlt
  rw [getElem?_slice (by omega)] at h
  exact ⟨by omega,by rw [line, h]; rfl⟩

/-- A stretch of blank lines has nothing in it. -/
theorem numbered_nil (h : (slice b start stop).all Text.allBlank = true) :
    Numbered b start (min stop (b.length - 1)) [] := by
  refine ⟨nofun,fun l h1 h2 => ?_⟩
  by_contra hb
  rw [Bool.not_eq_true] at hb
  have hmem : line b l ∈ slice b start stop := mem_slice h1 (by omega) (lt_length_of_not_allBlank hb)
  simp [List.all_eq_true.mp h _ hmem] at hb

/-- The lines down to the last one of a stretch that holds anything. -/
theorem numbered_of_slice {front back : List Text} {last : Text}
    (hslice : slice b start stop = front ++ last :: back) (hback : back.all Text.allBlank = true) :
    Numbered b start (min stop (b.length - 1)) (front.map Text.dropReturn ++ [Text.trimEnd last]) := by
  have hlength : (front.map Text.dropReturn ++ [Text.trimEnd last]).length = front.length + 1 := by simp
  constructor
  case line =>
    intro i text h
    rw [hlength]
    rcases Nat.lt_or_ge i front.length with hi | hi
    · have hat : (slice b start stop)[i]? = some front[i] := by
        rw [hslice, List.getElem?_append_left hi, List.getElem?_eq_getElem hi]
      obtain ⟨hle,hline⟩ := line_of_slice hat
      rw [List.getElem?_append_left (by simpa using hi), List.getElem?_map, List.getElem?_eq_getElem hi] at h
      rw [if_neg (by omega), hline]
      exact ⟨hle,(Option.some.inj h).symm⟩
    · have hlt := (List.getElem?_eq_some_iff.mp h).1
      obtain rfl : i = front.length := by omega
      have hat : (slice b start stop)[front.length]? = some last := by rw [hslice]; simp
      obtain ⟨hle,hline⟩ := line_of_slice hat
      rw [List.getElem?_append_right (by simp)] at h
      rw [if_pos rfl, hline]
      exact ⟨hle,by simpa using h.symm⟩
  case below =>
    intro l h1 h2
    rw [hlength] at h1
    by_contra hb
    rw [Bool.not_eq_true] at hb
    have hl := lt_length_of_not_allBlank hb
    have hat : (slice b start stop)[l - start]? = some (Buffer.line b l) := by
      rw [getElem?_slice (by omega), Nat.add_sub_cancel' (by omega), Buffer.line, List.getElem?_eq_getElem hl]
      rfl
    rw [hslice, List.getElem?_append_right (by omega), List.getElem?_cons, if_neg (by omega)] at hat
    simp [List.all_eq_true.mp hback _ (List.mem_of_getElem? hat)] at hb

/-- The code among the lines of a text is the code of the buffer. -/
theorem Numbered.mem_codeAt_iff {first last n : Nat} {lines : List Text} (h : Numbered b first last lines) :
    n ∈ CodeBlock.codeAt first lines ↔ first ≤ n ∧ n ≤ last ∧ (classAt b n).isCode = true := by
  have hclass (i : Nat) (text : Text) (hi : lines[i]? = some text) : Line.classify text = classAt b (first + i) := by
    rw [(h.line i text hi).2, classAt]
    split
    · exact Line.classify_trimEnd _
    · exact Line.classify_dropReturn _
  rw [CodeBlock.mem_codeAt_iff]
  constructor
  · rintro ⟨i,text,hi,hcode,rfl⟩
    exact ⟨Nat.le_add_right first i,(h.line i text hi).1,hclass i text hi ▸ hcode⟩
  · rintro ⟨h1,h2,hcode⟩
    have hlt : n - first < lines.length := by
      by_contra hge
      have hblank := h.below n (by omega) h2
      rw [not_allBlank_of_isCode hcode] at hblank
      cases hblank
    refine ⟨n - first,lines[n - first],List.getElem?_eq_getElem hlt,?_,(Nat.add_sub_cancel' h1).symm⟩
    rw [hclass _ _ (List.getElem?_eq_getElem hlt), Nat.add_sub_cancel' h1]
    exact hcode

/-- The lines from the first code line of a stretch down to the last one; without code, the lines that were asked for. -/
inductive CodeRange (b : Buffer) (start stop : Nat) : LineRange → Prop where
  | code {r : LineRange} (within : start ≤ r.start ∧ r.stop ≤ min stop (b.length - 1))
      (ends : (classAt b r.start).isCode = true ∧ (classAt b r.stop).isCode = true)
      (all : ∀ l, start ≤ l → l ≤ min stop (b.length - 1) → (classAt b l).isCode = true → l ∈ r) : CodeRange b start stop r
  | none (h : ∀ l, start ≤ l → l ≤ min stop (b.length - 1) → (classAt b l).isCode = false) :
      CodeRange b start stop ⟨start, max start stop⟩

end Buffer

namespace CodeBlock

/-! ## The lines of a block -/

theorem readLines_text (hflat : ∀ line ∈ b, '\n' ∉ line) {front back : List Text} {last : Text}
    (hslice : slice b start stop = front ++ last :: back) (hlast : Text.allBlank last = false)
    (hback : back.all Text.allBlank = true) :
    Text.readLines (ofBuffer b start stop).text = front.map Text.dropReturn ++ [Text.trimEnd last] := by
  have hunbroken : ∀ piece ∈ front ++ [Text.trimEnd last], '\n' ∉ piece := by
    intro piece hpiece
    have hin (line : Text) (h : line ∈ front ++ last :: back) : '\n' ∉ line :=
      hflat line (List.mem_of_mem_drop (List.mem_of_mem_take (hslice ▸ h)))
    rcases List.mem_append.mp hpiece with h | h
    · exact hin piece (List.mem_append_left _ h)
    · rw [List.mem_singleton.mp h]
      exact fun hc => hin last (by simp) ((Text.prefix_trimEnd last).subset hc)
  have hbreak : Text.breakLines (ofBuffer b start stop).text = front ++ [Text.trimEnd last] := by
    rw [ofBuffer, textOf, hslice, Text.trimEnd_joinLines front hlast hback]
    exact Text.breakLines_joinLines (by simp) hunbroken
  have hne : Text.trimEnd last ≠ [] := fun he => by simp [Text.trimEnd_eq_nil.mp he] at hlast
  rw [Text.readLines_eq hbreak, if_neg hne]

theorem numbered_readLines (hflat : ∀ line ∈ b, '\n' ∉ line) (start stop : Nat) :
    Numbered b start (min stop (b.length - 1)) (Text.readLines (ofBuffer b start stop).text) := by
  -- Only blank lines are trimmed off, so the last line that is not blank is the last one of the text.
  cases hall : (slice b start stop).all Text.allBlank with
  | true =>
    have htext : (ofBuffer b start stop).text = [] :=
      Text.trimEnd_eq_nil.mpr (by rw [textOf, Text.allBlank_joinLines, hall])
    rw [htext]
    exact numbered_nil hall
  | false =>
    obtain ⟨front,last,back,hslice,hlast,hback⟩ := Text.exists_last_not_blank hall
    rw [readLines_text hflat hslice hlast hback]
    exact numbered_of_slice hslice hback

def span (block : CodeBlock) : List Nat → LineRange
  | [] => block.lines
  | first :: rest => ⟨first, rest.getLastD first⟩

theorem codeLines_eq (block : CodeBlock) :
    block.codeLines = block.span (codeAt block.start (Text.readLines block.text)) := by
  rw [codeAt_readLines, codeLines]
  split
  next h => rw [h]; rfl
  next h => rw [h]; rfl

theorem codeRange_span {lines : List Nat} (hsorted : lines.Pairwise (· < ·))
    (hmem : ∀ n, n ∈ lines ↔ start ≤ n ∧ n ≤ min stop (b.length - 1) ∧ (classAt b n).isCode = true) :
    CodeRange b start stop ((ofBuffer b start stop).span lines) := by
  cases lines with
  | nil =>
    rw [span, lines, max_comm]
    refine .none fun l h1 h2 => ?_
    by_contra hc
    exact List.not_mem_nil ((hmem l).mpr ⟨h1,h2,by simpa using hc⟩)
  | cons first rest =>
    have hfirst := (hmem first).mp List.mem_cons_self
    have hlast := (hmem (rest.getLastD first)).mp (List.getLastD_mem_cons ..)
    refine .code ⟨hfirst.1,hlast.2.1⟩ ⟨hfirst.2.2,hlast.2.2⟩ fun l h1 h2 hc => ?_
    have hl := (hmem l).mpr ⟨h1,h2,hc⟩
    have hle := hsorted.imp Nat.le_of_lt
    have hbelow := hle.rel_getLast hl
    rw [List.getLast_eq_getLastD] at hbelow
    exact ⟨hle.rel_head hl,hbelow⟩

/-- The code lines of a block are those of the buffer from its first line down to its last one, though they are found in
the text that is sent to the kernel; and a line of that text stands in the buffer as far below the offset that is sent
with it as it stands below the beginning of the text. -/
theorem codeLines_numbered (hflat : ∀ line ∈ b, '\n' ∉ line) (start stop : Nat) :
    let block := ofBuffer b start stop
    block.codeLines = block.span (codeAt block.start (Text.readLines block.text)) ∧
      CodeRange b start stop block.codeLines ∧
      ∀ filename, Numbered b (block.source filename).offset (min stop (b.length - 1))
        (Text.readLines (block.source filename).text) := by
  intro block
  have hnumbered := numbered_readLines hflat start stop
  refine ⟨block.codeLines_eq,?_,fun _ => hnumbered⟩
  rw [codeLines_eq]
  exact codeRange_span (codeAt_increasing _ _) fun _ => hnumbered.mem_codeAt_iff

/-- A comment, code that ends in a carriage return, and a comment with blanks behind it above blank lines. -/
theorem codeLines_numbered_comments :
    let b : Buffer := ["# one", "x = 1\r", "y = 2", "# two \r", " ", ""].map String.toList
    (∀ line ∈ b, '\n' ∉ line) ∧ (ofBuffer b 0 9).codeLines = ⟨1,2⟩ ∧
      Numbered b 0 5 (["# one", "x = 1", "y = 2", "# two"].map String.toList) := by
  intro b
  have hflat : ∀ line ∈ b, '\n' ∉ line := by decide
  have hlines : Text.readLines (ofBuffer b 0 9).text = ["# one", "x = 1", "y = 2", "# two"].map String.toList := by decide
  exact ⟨hflat,by decide,hlines ▸ (codeLines_numbered hflat 0 9).2.2 []⟩

end CodeBlock
end StatementPad
