import Mathlib.Data.List.DropRight
import StatementPad.Text

/-! # Trimmed and joined texts

Trimming takes blank characters only, so a text that goes on with something else keeps all that stands
before it. A text has one break less than it has lines.
-/
namespace StatementPad.Text

theorem trimEnd_eq_rdropWhile (t : Text) : trimEnd t = List.rdropWhile isBlank t := rfl

theorem prefix_trimEnd (t : Text) : trimEnd t <+: t := List.rdropWhile_prefix isBlank t

theorem trimEnd_eq_nil {t : Text} : trimEnd t = [] ↔ allBlank t = true := by
  rw [trimEnd_eq_rdropWhile, List.rdropWhile_eq_nil_iff, allBlank, List.all_eq_true]

@[simp] theorem allBlank_append (s t : Text) : allBlank (s ++ t) = (allBlank s && allBlank t) :=
  List.all_append

@[simp] theorem allBlank_break (t : Text) : allBlank ('\n' :: t) = allBlank t := by
  simp [allBlank, show isBlank '\n' = true by decide]

theorem trimEnd_append {s t : Text} (h : allBlank t = false) : trimEnd (s ++ t) = s ++ trimEnd t := by
  have hne : (t.reverse.dropWhile isBlank).isEmpty = false := by
    rw [List.isEmpty_eq_false_iff]
    intro hd
    have hb := trimEnd_eq_nil.mp (show trimEnd t = [] by rw [trimEnd, hd]; rfl)
    simp [h] at hb
  simp [trimEnd, List.dropWhile_append, hne]

theorem trimEnd_cons {c : Char} (h : isBlank c = false) (t : Text) : trimEnd (c :: t) = c :: trimEnd t := by
  simp only [trimEnd, List.reverse_cons, List.dropWhile_append]
  split
  next he => simp [h, List.isEmpty_iff.mp he]
  next => simp

theorem trimEnd_append_allBlank (s : Text) {t : Text} (h : allBlank t = true) : trimEnd (s ++ t) = trimEnd s := by
  have hnone : t.reverse.dropWhile isBlank = [] := by simpa [allBlank] using h
  rw [trimEnd, trimEnd, List.reverse_append, List.dropWhile_append, hnone]
  rfl

theorem trimEnd_trimEnd (t : Text) : trimEnd (trimEnd t) = trimEnd t := List.rdropWhile_idempotent ..

theorem trimEnd_dropReturn (t : Text) : trimEnd (dropReturn t) = trimEnd t := by
  unfold dropReturn
  split
  next h =>
    obtain ⟨s,rfl⟩ : ∃ s, t = s ++ ['\r'] := by
      rw [endsWith, beq_iff_eq] at h
      exact ⟨t.dropLast,(List.dropLast_append_getLast? _ h).symm⟩
    rw [List.dropLast_concat, trimEnd_append_allBlank s (by decide)]
  next => rfl

theorem joinLines_cons (piece : Text) {pieces : List Text} (h : pieces ≠ []) :
    joinLines (piece :: pieces) = piece ++ '\n' :: joinLines pieces := by
  rw [joinLines, List.intercalate_cons_of_ne_nil h, List.append_assoc]
  rfl

theorem joinLines_append {front back : List Text} (hf : front ≠ []) (hb : back ≠ []) :
    joinLines (front ++ back) = joinLines front ++ '\n' :: joinLines back := by
  induction front with
  | nil => exact absurd rfl hf
  | cons piece rest ih =>
    cases rest with
    | nil => rw [List.singleton_append, joinLines_cons piece hb]; simp [joinLines]
    | cons second rest =>
      rw [List.cons_append, joinLines_cons piece (by simp), ih (by simp), joinLines_cons piece (by simp)]
      simp

theorem allBlank_joinLines (pieces : List Text) : allBlank (joinLines pieces) = pieces.all allBlank := by
  induction pieces with
  | nil => rfl
  | cons piece rest ih =>
    rcases eq_or_ne rest [] with rfl | hr
    · simp [joinLines]
    · rw [joinLines_cons piece hr, allBlank_append, allBlank_break, ih, List.all_cons]

/-- The lines below the last one that holds anything go, and the blanks behind it. -/
theorem trimEnd_joinLines (front : List Text) {last : Text} {back : List Text} (hlast : allBlank last = false)
    (hback : back.all allBlank = true) :
    trimEnd (joinLines (front ++ last :: back)) = joinLines (front ++ [trimEnd last]) := by
  have hone : trimEnd (joinLines (last :: back)) = trimEnd last := by
    rcases eq_or_ne back [] with rfl | hb
    · rw [joinLines, List.intercalate_singleton]
    · rw [joinLines_cons last hb, trimEnd_append_allBlank last (by rw [allBlank_break, allBlank_joinLines, hback])]
  rcases eq_or_ne front [] with rfl | hf
  · rw [List.nil_append, List.nil_append, hone, joinLines, List.intercalate_singleton]
  · have hkept : allBlank (joinLines (last :: back)) = false := by
      rw [allBlank_joinLines, List.all_cons, hlast, Bool.false_and]
    rw [joinLines_append hf (by simp), joinLines_append hf (by simp), List.append_cons, trimEnd_append hkept, hone,
      joinLines, joinLines, List.intercalate_singleton, ← List.append_cons]

/-- Lines that are not all blank have a last one that is not. -/
theorem exists_last_not_blank {lines : List Text} (h : lines.all allBlank = false) :
    ∃ front last back, lines = front ++ last :: back ∧ allBlank last = false ∧ back.all allBlank = true := by
  induction lines with
  | nil => cases h
  | cons line rest ih =>
    cases hrest : rest.all allBlank with
    | true => exact ⟨[],line,rest,rfl,by simpa [hrest] using h,hrest⟩
    | false =>
      obtain ⟨front,last,back,rfl,hlast,hback⟩ := ih hrest
      exact ⟨line :: front,last,back,rfl,hlast,hback⟩

/-- More is left of a text that goes on with something that is not blank. -/
theorem length_trimEnd_lt {s t : Text} (h : allBlank t = false) :
    (trimEnd s).length < (trimEnd (s ++ '\n' :: t)).length := by
  have hb : allBlank ('\n' :: t) = false := by rw [allBlank_break, h]
  have hs := (prefix_trimEnd s).length_le
  have ht : trimEnd ('\n' :: t) ≠ [] := fun he => by simp [trimEnd_eq_nil.mp he] at hb
  have hpos := List.length_pos_iff.mpr ht
  rw [trimEnd_append hb, List.length_append]
  omega

theorem length_split (c : Char) (t : Text) : (split c t).length = t.count c + 1 := by
  induction t with
  | nil => rfl
  | cons d rest ih =>
    unfold split
    split
    next h => rw [List.length_cons, ih, h, List.count_cons_self]
    next h =>
      rw [List.count_cons_of_ne h]
      split
      next he => exact absurd he (split_ne_nil c rest)
      next piece pieces he =>
        rw [he] at ih
        exact ih

/-- A piece is cut off at the first place where `c` stands. -/
theorem split_append {c : Char} {piece : Text} (h : c ∉ piece) (rest : Text) :
    split c (piece ++ c :: rest) = piece :: split c rest := by
  induction piece with
  | nil => simp [split]
  | cons d piece ih =>
    have hd : d ≠ c := fun he => h (he ▸ List.mem_cons_self ..)
    rw [List.cons_append, split, if_neg hd, ih (fun hc => h (List.mem_cons_of_mem d hc))]

theorem split_cons (c : Char) {d : Char} (hd : d ≠ c) (t : Text) :
    ∃ piece pieces, split c t = piece :: pieces ∧ split c (d :: t) = (d :: piece) :: pieces := by
  cases hs : split c t with
  | nil => exact absurd hs (split_ne_nil c t)
  | cons piece pieces => exact ⟨piece,pieces,rfl,by simp [split, hd, hs]⟩

theorem split_of_not_mem {c : Char} {s : Text} (h : c ∉ s) : split c s = [s] := by
  induction s with
  | nil => rfl
  | cons d s ih =>
    obtain ⟨hd,hs⟩ := List.ne_and_not_mem_of_not_mem_cons h
    simp [split, Ne.symm hd, ih hs]

/-- The pieces of two texts, one after the other: the last of the first and the first of the second are one. -/
theorem breakLines_append {s t last first : Text} {init rest : List Text} (hs : breakLines s = init ++ [last])
    (ht : breakLines t = first :: rest) : breakLines (s ++ t) = init ++ (last ++ first) :: rest := by
  rw [breakLines] at hs ht ⊢
  induction s generalizing init last with
  | nil =>
    obtain ⟨rfl,hlast⟩ := List.append_inj' (show [] ++ [[]] = init ++ [last] from hs) rfl
    obtain rfl := List.singleton_inj.mp hlast
    exact ht
  | cons c s ih =>
    by_cases hc : c = '\n'
    · subst hc
      cases init with
      | nil => simp [split, split_ne_nil] at hs
      | cons piece init =>
        rw [split, if_pos rfl, List.cons_append] at hs
        obtain ⟨rfl,hrest⟩ := List.cons.inj hs
        rw [List.cons_append, split, if_pos rfl, ih hrest, List.cons_append]
    · obtain ⟨piece,pieces,hpieces,hcons⟩ := split_cons '\n' hc s
      obtain ⟨piece',pieces',hpieces',hcons'⟩ := split_cons '\n' hc (s ++ t)
      rw [hcons] at hs
      rw [List.cons_append, hcons']
      cases init with
      | nil =>
        obtain ⟨rfl,rfl⟩ := List.cons.inj (show (c :: piece) :: pieces = last :: [] from hs)
        rw [ih (show split '\n' s = [] ++ [piece] from hpieces)] at hpieces'
        obtain ⟨rfl,rfl⟩ := List.cons.inj hpieces'
        rfl
      | cons head init =>
        obtain ⟨rfl,rfl⟩ := List.cons.inj hs
        rw [ih (show split '\n' s = (piece :: init) ++ [last] from hpieces)] at hpieces'
        obtain ⟨rfl,rfl⟩ := List.cons.inj hpieces'
        rfl

def topLine (t : Text) : Text := t.takeWhile (· ≠ '\n')

theorem breakLines_eq_topLine_cons (t : Text) : ∃ rest, breakLines t = topLine t :: rest := by
  rw [breakLines]
  induction t with
  | nil => exact ⟨[],rfl⟩
  | cons c t ih =>
    obtain ⟨rest,ht⟩ := ih
    by_cases hc : c = '\n'
    · exact ⟨split '\n' t,by simp [split, topLine, hc]⟩
    · obtain ⟨piece,pieces,hpieces,hcons⟩ := split_cons '\n' hc t
      rw [ht] at hpieces
      obtain ⟨rfl,rfl⟩ := List.cons.inj hpieces
      exact ⟨rest,by simp [hcons, topLine, hc]⟩

/-- Lines that all end in a break are cut apart again, with nothing behind the last break. -/
theorem breakLines_ended {pieces : List Text} (h : ∀ piece ∈ pieces, '\n' ∉ piece) :
    breakLines (pieces.flatMap (· ++ ['\n'])) = pieces ++ [[]] := by
  rw [breakLines]
  induction pieces with
  | nil => rfl
  | cons piece pieces ih =>
    obtain ⟨hpiece,hrest⟩ := List.forall_mem_cons.mp h
    rw [List.flatMap_cons, List.append_assoc, List.singleton_append, split_append hpiece, ih hrest, List.cons_append]

/-- Joining puts the breaks where they were cut. -/
theorem breakLines_joinLines {pieces : List Text} (hne : pieces ≠ []) (h : ∀ piece ∈ pieces, '\n' ∉ piece) :
    breakLines (joinLines pieces) = pieces := by
  rw [breakLines]
  induction pieces with
  | nil => exact absurd rfl hne
  | cons piece rest ih =>
    obtain ⟨hpiece,hrest⟩ := List.forall_mem_cons.mp h
    rcases eq_or_ne rest [] with rfl | hr
    · rw [joinLines, List.intercalate_singleton, split_of_not_mem hpiece]
    · rw [joinLines_cons piece hr, split_append hpiece, ih hr hrest]

/-- Pieces without breaks give a text with one break less than there are pieces. -/
theorem count_joinLines_le {pieces : List Text} (h : ∀ piece ∈ pieces, '\n' ∉ piece) :
    (joinLines pieces).count '\n' ≤ pieces.length - 1 := by
  induction pieces with
  | nil => exact le_rfl
  | cons piece rest ih =>
    have hpiece := List.count_eq_zero.mpr (h piece (by simp))
    rcases eq_or_ne rest [] with rfl | hr
    · simp [joinLines, hpiece]
    · have hrest := ih (fun p hp => h p (by simp [hp]))
      have hpos := List.length_pos_iff.mpr hr
      rw [joinLines_cons piece hr, List.count_append, hpiece, List.count_cons_self, List.length_cons]
      omega

/-- No piece has a break in it. -/
theorem not_mem_of_mem_split {c : Char} {t piece : Text} (h : piece ∈ split c t) : c ∉ piece := by
  induction t generalizing piece with
  | nil =>
    obtain rfl : piece = [] := by simpa [split] using h
    exact List.not_mem_nil
  | cons d rest ih =>
    unfold split at h
    split at h
    · rcases List.mem_cons.mp h with rfl | h
      · exact List.not_mem_nil
      · exact ih h
    next hd =>
      split at h
      next he => exact absurd he (split_ne_nil c rest)
      next first pieces he =>
        rcases List.mem_cons.mp h with rfl | h
        · exact List.not_mem_cons_of_ne_of_not_mem (Ne.symm hd) (ih (by simp [he]))
        · exact ih (by simp [he, h])

theorem not_mem_of_mem_splitLines {t line : Text} (h : line ∈ splitLines t) : '\n' ∉ line := by
  obtain ⟨piece,hp,rfl⟩ := List.mem_map.mp h
  have hpiece := not_mem_of_mem_split hp
  unfold dropReturn
  split
  · exact fun hl => hpiece (List.dropLast_subset _ hl)
  · exact hpiece

end StatementPad.Text
