import Mathlib.Data.List.DropRight
import StatementPad.Proofs.Console.Dropped
import StatementPad.Proofs.Text.Joined

/-! # Text that is written piece by piece

A text can be cut anywhere and written in two: what comes of it is the same as if it had been written at once, but for
the carriage returns before the cut. They are dropped as if the line ended there, also if it goes on.
-/
namespace StatementPad.Console
open Text
variable {c c' : Console} {n : Nat}

/-! ## Carriage returns -/

def onlyReturns (t : Text) : Bool := t.all (· == '\r')

theorem trimReturns_eq_rdropWhile (t : Text) : trimReturns t = List.rdropWhile (· == '\r') t := rfl

theorem trimReturns_eq_nil {t : Text} : trimReturns t = [] ↔ onlyReturns t = true := by
  rw [trimReturns_eq_rdropWhile, List.rdropWhile_eq_nil_iff, onlyReturns, List.all_eq_true]

theorem trimReturns_append (s t : Text) :
    trimReturns (s ++ t) = if onlyReturns t then trimReturns s else s ++ trimReturns t := by
  have hempty : (t.reverse.dropWhile (· == '\r')).isEmpty = onlyReturns t := by
    rw [Bool.eq_iff_iff, List.isEmpty_iff, ← List.reverse_eq_nil_iff]
    exact trimReturns_eq_nil
  rw [trimReturns, List.reverse_append, List.dropWhile_append, hempty]
  split
  · rfl
  · simp [trimReturns]

theorem trimReturns_eq_self_iff {t : Text} : trimReturns t = t ↔ endsWith t '\r' = false := by
  rw [trimReturns_eq_rdropWhile, List.rdropWhile_eq_self_iff, endsWith]
  rcases List.eq_nil_or_concat t with rfl | ⟨front,last,rfl⟩
  · simp
  · simp

/-! ## Lines that are still missing their end -/

/-- The text ends where a line does. -/
inductive Ended : Text → Prop where
  | nothing : Ended []
  | broken (t : Text) : Ended (t ++ ['\n'])

theorem exists_ended (s : Text) : ∃ front last, s = front ++ last ∧ Ended front ∧ '\n' ∉ last := by
  by_cases h : '\n' ∈ s
  · obtain ⟨back,front,hs,hback⟩ := List.eq_append_cons_of_mem (List.mem_reverse.mpr h)
    refine ⟨front.reverse ++ ['\n'],back.reverse,?_,.broken _,by simpa using hback⟩
    have hreverse := congrArg List.reverse hs
    simpa using hreverse
  · exact ⟨[],s,rfl,.nothing,h⟩

theorem Ended.breakLines {s : Text} (h : Ended s) : ∃ init, breakLines s = init ++ [[]] := by
  cases h with
  | nothing => exact ⟨[],rfl⟩
  | broken t =>
    obtain ⟨init,last,hlast⟩ := (List.eq_nil_or_concat (Text.breakLines t)).resolve_left (split_ne_nil _ _)
    rw [List.concat_eq_append] at hlast
    exact ⟨init ++ [last],by simpa using breakLines_append hlast (show Text.breakLines ['\n'] = [] :: [[]] from rfl)⟩

theorem Ended.trimReturns {s : Text} (h : Ended s) : trimReturns s = s := by
  rw [trimReturns_eq_self_iff]
  cases h with
  | nothing => rfl
  | broken t => simp [endsWith]

/-! ## Pieces -/

section Pieces
variable {isError : Bool}

theorem addPiece_addPiece {l l' piece : Text} (c : Console) (terminated : Bool)
    (h : trimReturns (l' ++ piece) = trimReturns l ++ trimReturns piece) :
    (c.addPiece isError l false).addPiece isError piece terminated = c.addPiece isError (l' ++ piece) terminated := by
  obtain ⟨front,lead,hc⟩ := exists_addPiece isError c
  rw [hc l false, hc (l' ++ piece) terminated, h]
  simp [addPiece]

theorem addPieces_cons {rest : List Text} (h : rest ≠ []) (c : Console) (piece : Text) :
    addPieces isError c (piece :: rest) = addPieces isError (c.addPiece isError piece true) rest := by
  cases rest with
  | nil => exact absurd rfl h
  | cons second rest => rfl

theorem addPieces_append {rest : List Text} (h : rest ≠ []) (init : List Text) (c : Console) :
    addPieces isError c (init ++ rest) = addPieces isError (addPieces isError c (init ++ [[]])) rest := by
  induction init generalizing c with
  | nil => rfl
  | cons piece init ih =>
    rw [List.cons_append, List.cons_append, addPieces_cons (by simp [h]), addPieces_cons (by simp), ih]

/-- The pieces that make lines: behind the last break there may be nothing. -/
def rows : List Text → List Text
  | [] => []
  | [last] => if last.isEmpty then [] else [last]
  | piece :: rest => piece :: rows rest

theorem addPiece_closed (h : c.isOpen = false) (piece : Text) (terminated : Bool) :
    c.addPiece isError piece terminated = { c with
      lines := c.lines ++ [⟨trimReturns piece,isError⟩]
      isOpen := !terminated } := by
  rcases List.eq_nil_or_concat c.lines with hnil | ⟨front,last,hlast⟩
  · rw [addPiece_nil hnil, hnil, List.nil_append]
  · rw [List.concat_eq_append] at hlast
    simp [addPiece_concat hlast, h, hlast]

/-- Behind a line that has ended, the pieces make the same lines on every console. -/
theorem exists_addPieces (isError : Bool) (pieces : List Text) : ∃ more isOpen, more.length = (rows pieces).length ∧
    ∀ c : Console, c.isOpen = false → addPieces isError c pieces = { c with lines := c.lines ++ more, isOpen } := by
  induction pieces with
  | nil => exact ⟨[],false,rfl,fun c h => by simp [addPieces, ← h]⟩
  | cons piece rest ih =>
    rcases eq_or_ne rest [] with rfl | hrest
    · rcases eq_or_ne piece [] with rfl | hpiece
      · exact ⟨[],false,rfl,fun c h => by simp [addPieces, ← h]⟩
      · refine ⟨[⟨trimReturns piece,isError⟩],true,by simp [rows, hpiece],fun c h => ?_⟩
        simp [addPieces, hpiece, addPiece_closed h]
    · obtain ⟨more,isOpen,hlength,hmore⟩ := ih
      refine ⟨⟨trimReturns piece,isError⟩ :: more,isOpen,?_,fun c h => ?_⟩
      · cases rest with
        | nil => exact absurd rfl hrest
        | cons second rest => simp [rows, hlength]
      · rw [addPieces_cons hrest, addPiece_closed h, hmore _ rfl, List.append_assoc]
        rfl

end Pieces

/-! ## Two texts that make one -/

section Glued
variable {stream : Stream} {s t : Text}

def linesBelow (t : Text) : Nat := (rows (breakLines t).tail).length

def glue (s t : Text) : Text := (if onlyReturns (topLine t) then s else trimReturns s) ++ t

/-- Returns stand before the cut, and something else follows on their line. -/
def LosesReturns (s t : Text) : Prop := endsWith s '\r' = true ∧ onlyReturns (topLine t) = false

instance (s t : Text) : Decidable (LosesReturns s t) := inferInstanceAs (Decidable (_ ∧ _))

theorem glue_of_not_losesReturns (h : ¬ LosesReturns s t) : glue s t = s ++ t := by
  unfold glue
  split
  · rfl
  next htop =>
    have hs : endsWith s '\r' = false := by
      rw [LosesReturns, not_and] at h
      exact Bool.eq_false_iff.mpr fun hs => htop (by simpa using h hs)
    rw [trimReturns_eq_self_iff.mpr hs]

theorem Ended.written_append (h : Ended s) (c : Console) (t : Text) :
    c.written ⟨stream,s ++ t⟩ = (c.written ⟨stream,s⟩).written ⟨stream,t⟩ := by
  obtain ⟨init,hs⟩ := h.breakLines
  obtain ⟨rest,ht⟩ := breakLines_eq_topLine_cons t
  simp only [written, breakLines_append hs ht, hs]
  rw [List.nil_append, ← ht]
  exact addPieces_append (split_ne_nil _ _) init c

theorem Ended.trimReturns_append (h : Ended s) (last : Text) :
    Console.trimReturns (s ++ last) = s ++ Console.trimReturns last := by
  rw [Console.trimReturns_append]
  split
  next hlast => rw [trimReturns_eq_nil.mpr hlast, List.append_nil, h.trimReturns]
  next => rfl

theorem not_mem_trimReturns {last : Text} (h : '\n' ∉ last) : '\n' ∉ trimReturns last := fun hmem =>
  h ((List.rdropWhile_prefix (· == '\r') last).subset hmem)

theorem breakLines_unbroken_append {last : Text} {rest : List Text} (h : '\n' ∉ last)
    (ht : breakLines t = topLine t :: rest) : breakLines (last ++ t) = (last ++ topLine t) :: rest :=
  breakLines_append (show breakLines last = [] ++ [last] from split_of_not_mem h) ht

theorem topLine_eq_self (h : breakLines t = [topLine t]) : topLine t = t := by
  have hcount := length_split '\n' t
  rw [← breakLines, h, List.length_singleton] at hcount
  have ht : breakLines t = [t] := split_of_not_mem (List.count_eq_zero.mp (by omega))
  rw [h] at ht
  exact List.singleton_inj.mp ht

theorem written_written {l l' : Text} (hl : '\n' ∉ l) (hl' : '\n' ∉ l') (hne : l ≠ []) (ht : t ≠ [])
    (h : trimReturns (l' ++ topLine t) = trimReturns l ++ trimReturns (topLine t)) (c : Console) :
    (c.written ⟨stream,l⟩).written ⟨stream,t⟩ = c.written ⟨stream,l' ++ t⟩ := by
  obtain ⟨rest,hrest⟩ := breakLines_eq_topLine_cons t
  have hopen : c.written ⟨stream,l⟩ = c.addPiece (stream = .err) l false := by
    simp [written, breakLines, split_of_not_mem hl, addPieces, hne]
  rw [hopen, written, written]
  dsimp only
  rw [breakLines_unbroken_append hl' hrest, hrest]
  rcases eq_or_ne rest [] with rfl | hne
  · have htop : topLine t ≠ [] := by rwa [topLine_eq_self hrest]
    simp only [addPieces, List.isEmpty_iff, htop, List.append_eq_nil_iff, and_false, if_false]
    exact addPiece_addPiece c false h
  · rw [addPieces_cons hne, addPieces_cons hne, addPiece_addPiece c true h]

theorem written_glue (c : Console) (s t : Text) :
    (c.written ⟨stream,s⟩).written ⟨stream,t⟩ = c.written ⟨stream,glue s t⟩ := by
  rcases eq_or_ne t [] with rfl | ht
  · rw [glue_of_not_losesReturns (by simp [LosesReturns, onlyReturns, topLine]), List.append_nil]
    rfl
  obtain ⟨front,last,rfl,hfront,hlast⟩ := exists_ended s
  rcases eq_or_ne last [] with rfl | hne
  · have hglue : glue (front ++ []) t = front ++ t := by rw [List.append_nil, glue, hfront.trimReturns, ite_self]
    rw [hglue, List.append_nil, hfront.written_append]
  · have hglue : glue (front ++ last) t =
        front ++ ((if onlyReturns (topLine t) then last else trimReturns last) ++ t) := by
      unfold glue
      split
      · rw [List.append_assoc]
      · rw [hfront.trimReturns_append, List.append_assoc]
    rw [hglue, hfront.written_append, hfront.written_append]
    refine written_written hlast ?_ hne ht ?_ _
    · split
      · exact hlast
      · exact not_mem_trimReturns hlast
    · split
      next htop => rw [trimReturns_append, if_pos htop, trimReturns_eq_nil.mpr htop, List.append_nil]
      next htop => rw [trimReturns_append, if_neg htop]

end Glued

/-! ## Lines that go in between -/

section Dropped
variable {stream : Stream} {s t : Text}

theorem Behind.addPiece (h : Behind n c c') (isError : Bool) (piece : Text) (terminated : Bool) :
    Behind n (c.addPiece isError piece terminated) (c'.addPiece isError piece terminated) := by
  obtain ⟨hlines,hopen,hmax,hleft⟩ := h
  rcases List.eq_nil_or_concat c.lines with hnil | ⟨front,last,hlast⟩
  · obtain rfl : n = 0 := by simpa [hnil] using hleft
    rw [addPiece_nil hnil, addPiece_nil (by rw [hlines, hnil, List.drop_nil])]
    exact ⟨rfl,rfl,hmax,.inl rfl⟩
  · rw [List.concat_eq_append] at hlast
    have hn : n ≤ front.length := by
      rw [hlast, List.length_append, List.length_singleton] at hleft
      omega
    have hdrop (lines : List ConsoleLine) : (front ++ lines).drop n = front.drop n ++ lines := by
      rw [List.drop_append, Nat.sub_eq_zero_of_le hn, List.drop_zero]
    rw [addPiece_concat hlast, addPiece_concat (hlines.trans (hlast ▸ hdrop [last])), hopen]
    refine ⟨(hdrop _).symm,rfl,hmax,.inr ?_⟩
    dsimp only
    split <;> simp <;> omega

theorem Behind.addPieces (h : Behind n c c') (isError : Bool) (pieces : List Text) :
    Behind n (Console.addPieces isError c pieces) (Console.addPieces isError c' pieces) := by
  induction pieces generalizing c c' with
  | nil => exact h
  | cons piece rest ih =>
    rcases eq_or_ne rest [] with rfl | hrest
    · unfold Console.addPieces
      split
      · exact h
      · exact h.addPiece isError piece false
    · rw [addPieces_cons hrest, addPieces_cons hrest]
      exact ih (h.addPiece isError piece true)

/-- Lines that went before go in the end anyway. -/
theorem Behind.dropOldest (h : Behind n c c') (hn : n ≤ c.lines.length - c.maxLines) :
    Behind 0 c.dropOldest c'.dropOldest := by
  obtain ⟨hmax,hopen,hlines⟩ := dropOldest_spec c
  obtain ⟨hmax',hopen',hlines'⟩ := dropOldest_spec c'
  refine ⟨?_,by rw [hopen', hopen, h.isOpen],by rw [hmax', hmax, h.maxLines],.inl rfl⟩
  rw [hlines', hlines, h.lines, h.maxLines, List.length_drop, List.drop_drop, List.drop_zero]
  congr 1
  omega

theorem Behind.writeChunk (h : Behind 0 c c') (chunk : Chunk) :
    Behind 0 (c.writeChunk chunk) (c'.writeChunk chunk) := by
  rw [writeChunk_eq, writeChunk_eq]
  exact (h.addPieces _ _).dropOldest (Nat.zero_le _)

theorem behind_glue (hpos : 0 < c.maxLines) (s t : Text) : Behind 0 (c.writeChunk ⟨stream,glue s t⟩)
    ((c.writeChunk ⟨stream,s⟩).writeChunk ⟨stream,t⟩) := by
  have hs : Grows c (c.written ⟨stream,s⟩) := grows_addPieces ..
  have ht : Grows (c.written ⟨stream,s⟩) ((c.written ⟨stream,s⟩).written ⟨stream,t⟩) := grows_addPieces ..
  have hlength := length_le_of_grown ht.grown
  have hbehind := (behind_dropOldest (hs.maxLines ▸ hpos)).addPieces (stream = .err) (breakLines t)
  rw [writeChunk_eq, writeChunk_eq, writeChunk_eq, ← written_glue]
  refine hbehind.dropOldest ?_
  have hmax := ht.maxLines
  dsimp only [written] at hlength hmax ⊢
  omega

end Dropped

/-! ## Lost returns -/

section Lost
variable {stream : Stream} {s t : Text}

/-- What stands before the text on its first line changes that line only. -/
theorem exists_written (c : Console) (stream : Stream) (ht : t ≠ []) : ∃ front lead more isOpen,
    more.length = linesBelow t ∧ ∀ last, '\n' ∉ last → c.written ⟨stream,last ++ t⟩ =
      { c with lines := front ++ ⟨lead ++ trimReturns (last ++ topLine t),stream = .err⟩ :: more, isOpen } := by
  obtain ⟨front,lead,hpiece⟩ := exists_addPiece (stream = .err) c
  obtain ⟨rest,hrest⟩ := breakLines_eq_topLine_cons t
  obtain ⟨more,isOpen,hlength,hmore⟩ := exists_addPieces (stream = .err) rest
  rcases eq_or_ne rest [] with rfl | hne
  · have htop : topLine t ≠ [] := by rwa [topLine_eq_self hrest]
    refine ⟨front,lead,[],true,by simp [linesBelow, hrest, rows],fun last hlast => ?_⟩
    simp only [written, breakLines_unbroken_append hlast hrest, addPieces, List.isEmpty_iff, htop,
      List.append_eq_nil_iff, and_false, if_false]
    exact hpiece _ false
  · refine ⟨front,lead,more,isOpen,by rw [hlength, linesBelow, hrest, List.tail_cons],fun last hlast => ?_⟩
    simp only [written, breakLines_unbroken_append hlast hrest]
    rw [addPieces_cons hne, hpiece, hmore _ rfl, List.append_assoc]
    rfl

/-- Where returns are lost, one line is another than it would be, and no other is. -/
theorem exists_lost (c : Console) (stream : Stream) (h : LosesReturns s t) : ∃ (d : Console)
    (front more : List ConsoleLine) (line line' : ConsoleLine) (isOpen : Bool),
    d.maxLines = c.maxLines ∧ more.length = linesBelow t ∧
      c.written ⟨stream,s ++ t⟩ = { d with lines := front ++ line :: more, isOpen } ∧
      c.written ⟨stream,glue s t⟩ = { d with lines := front ++ line' :: more, isOpen } ∧ line ≠ line' := by
  obtain ⟨hs,htop⟩ := h
  have ht : t ≠ [] := by
    rintro rfl
    cases htop
  obtain ⟨above,last,rfl,habove,hlast⟩ := exists_ended s
  have hgrows : Grows c (c.written ⟨stream,above⟩) := grows_addPieces ..
  obtain ⟨front,lead,more,isOpen,hlength,hwritten⟩ := exists_written (c.written ⟨stream,above⟩) stream ht
  have hglue : glue (above ++ last) t = above ++ (trimReturns last ++ t) := by
    rw [glue, if_neg (by simp [htop]), habove.trimReturns_append, List.append_assoc]
  refine ⟨c.written ⟨stream,above⟩,front,more,⟨lead ++ trimReturns (last ++ topLine t),stream = .err⟩,
    ⟨lead ++ trimReturns (trimReturns last ++ topLine t),stream = .err⟩,isOpen,hgrows.maxLines,hlength,?_,?_,?_⟩
  · rw [List.append_assoc, habove.written_append, hwritten last hlast]
  · rw [hglue, habove.written_append, hwritten _ (not_mem_trimReturns hlast)]
  · -- The returns are missing in the second line.
    intro he
    have htext : lead ++ (last ++ trimReturns (topLine t)) = lead ++ (trimReturns last ++ trimReturns (topLine t)) := by
      simpa [trimReturns_append, htop] using congrArg ConsoleLine.text he
    have hkept : trimReturns last = last := (List.append_cancel_right (List.append_cancel_left htext)).symm
    have hself : trimReturns (above ++ last) = above ++ last := by rw [habove.trimReturns_append, hkept]
    rw [trimReturns_eq_self_iff, hs] at hself
    cases hself

end Lost

/-! ## The property -/

def shown (c : Console) : List ConsoleLine × Bool × Text := (c.lines,c.isOpen,c.text)

theorem Behind.shown (h : Behind 0 c c') : c'.shown = c.shown := by
  have hlines : c'.lines = c.lines := h.lines
  rw [Console.shown, Console.shown, text, text, hlines, h.isOpen]

/-- One line in the place of another shows unless it goes. -/
theorem shown_dropOldest_iff {front more : List ConsoleLine} {line line' : ConsoleLine} (hne : line ≠ line')
    (d : Console) (isOpen : Bool) :
    ({ d with lines := front ++ line' :: more, isOpen } : Console).dropOldest.shown =
      ({ d with lines := front ++ line :: more, isOpen } : Console).dropOldest.shown ↔ d.maxLines ≤ more.length := by
  have hdropped (line : ConsoleLine) : ({ d with lines := front ++ line :: more, isOpen } : Console).dropOldest.lines =
      (front ++ line :: more).drop (front.length + 1 + more.length - d.maxLines) := by
    rw [(dropOldest_spec _).2.2]
    simp [Nat.add_assoc, Nat.add_comm 1]
  constructor
  · intro he
    by_contra hlt
    have hlines := congrArg Prod.fst he
    rw [shown, shown, hdropped, hdropped, List.drop_append_of_le_length (by omega),
      List.drop_append_of_le_length (by omega)] at hlines
    exact hne (List.cons.inj (List.append_cancel_left hlines)).1.symm
  · intro hle
    have hgone (line : ConsoleLine) : ({ d with lines := front ++ line :: more, isOpen } : Console).dropOldest.lines =
        more.drop (more.length - d.maxLines) := by
      have hcount : front.length + 1 + more.length - d.maxLines =
          (front ++ [line]).length + (more.length - d.maxLines) := by
        rw [List.length_append, List.length_singleton]
        omega
      rw [hdropped, hcount, List.append_cons front line more, List.drop_length_add_append]
    have hopen : ({ d with lines := front ++ line' :: more, isOpen } : Console).dropOldest.isOpen =
        ({ d with lines := front ++ line :: more, isOpen } : Console).dropOldest.isOpen := by
      rw [(dropOldest_spec _).2.1, (dropOldest_spec _).2.1]
    rw [shown, shown, text, text, hgone, hgone, hopen]

/-- Each text goes on behind those before it without losing returns. -/
def Seamless : Text → List Text → Prop
  | _, [] => True
  | s, t :: rest => ¬ LosesReturns s t ∧ Seamless (s ++ t) rest

instance decidableSeamless : (s : Text) → (pieces : List Text) → Decidable (Seamless s pieces)
  | _, [] => isTrue trivial
  | s, t :: rest =>
    have := decidableSeamless (s ++ t) rest
    inferInstanceAs (Decidable (_ ∧ _))

structure JoinsUp (c : Console) (stream : Stream) : Prop where
  /-- Two pieces are the same as both at once unless returns are lost in a line that is still there. -/
  two : ∀ s t, ((c.writeChunk ⟨stream,s⟩).writeChunk ⟨stream,t⟩).shown = (c.writeChunk ⟨stream,s ++ t⟩).shown ↔
    ¬ (LosesReturns s t ∧ linesBelow t < c.maxLines)
  several : ∀ pieces : List Text, (pieces.foldl (fun c t => c.writeChunk ⟨stream,t⟩) c).shown =
    (c.writeChunk ⟨stream,pieces.foldl glue []⟩).shown
  seamless : ∀ pieces : List Text, Seamless [] pieces → (pieces.foldl (fun c t => c.writeChunk ⟨stream,t⟩) c).shown =
    (c.writeChunk ⟨stream,pieces.flatten⟩).shown
  /-- It does not matter whether each piece is a batch of its own. -/
  batched : ∀ pieces : List Text, (pieces.foldl (fun c t => c.writeChunks [⟨stream,t⟩]) c).shown =
    (pieces.foldl (fun c t => c.writeChunk ⟨stream,t⟩) c).shown

section Property
variable {stream : Stream}

theorem two_pieces (hs : c.Sound) (s t : Text) :
    ((c.writeChunk ⟨stream,s⟩).writeChunk ⟨stream,t⟩).shown = (c.writeChunk ⟨stream,s ++ t⟩).shown ↔
      ¬ (LosesReturns s t ∧ linesBelow t < c.maxLines) := by
  rw [(behind_glue hs.pos s t).shown]
  by_cases h : LosesReturns s t
  · obtain ⟨d,front,more,line,line',isOpen,hmax,hlength,hwhole,hglue,hne⟩ := exists_lost c stream h
    rw [writeChunk_eq, writeChunk_eq, hwhole, hglue, shown_dropOldest_iff hne, hlength, hmax]
    simp [h]
  · simp [glue_of_not_losesReturns h, h]

theorem behind_foldl_glue {s : Text} (hpos : 0 < c.maxLines) (pieces : List Text)
    (h : Behind 0 (c.writeChunk ⟨stream,s⟩) c') : Behind 0 (c.writeChunk ⟨stream,pieces.foldl glue s⟩)
      (pieces.foldl (fun c t => c.writeChunk ⟨stream,t⟩) c') := by
  induction pieces generalizing s c' with
  | nil => exact h
  | cons t rest ih => exact ih ((behind_glue hpos s t).trans (h.writeChunk ⟨stream,t⟩))

theorem foldl_glue_of_seamless {s : Text} {pieces : List Text} (h : Seamless s pieces) :
    pieces.foldl glue s = s ++ pieces.flatten := by
  induction pieces generalizing s with
  | nil => exact (List.append_nil s).symm
  | cons t rest ih =>
    rw [List.foldl_cons, glue_of_not_losesReturns h.1, ih h.2, List.flatten_cons, List.append_assoc]

theorem behind_writeChunks (h : Behind 0 c c') (chunk : Chunk) :
    Behind 0 (c.writeChunk chunk) (c'.writeChunks [chunk]) := by
  have hbegun : Behind 0 c c'.beginBatch := ⟨h.lines,h.isOpen,h.maxLines,.inl rfl⟩
  obtain ⟨hlines,hopen,hmax,-⟩ := hbegun.writeChunk chunk
  have hended : c'.writeChunks [chunk] = (c'.beginBatch.writeChunk chunk).endBatch := rfl
  rw [hended]
  unfold endBatch
  split <;> exact ⟨hlines,hopen,hmax,.inl rfl⟩

theorem behind_foldl_writeChunks (h : Behind 0 c c') (pieces : List Text) :
    Behind 0 (pieces.foldl (fun c t => c.writeChunk ⟨stream,t⟩) c)
      (pieces.foldl (fun c t => c.writeChunks [⟨stream,t⟩]) c') := by
  induction pieces generalizing c c' with
  | nil => exact h
  | cons t rest ih => exact ih (behind_writeChunks h ⟨stream,t⟩)

theorem writes_join {maxLines : Nat} (hr : Reachable maxLines c) (stream : Stream) : JoinsUp c stream := by
  obtain ⟨hs,-⟩ := hr.sound
  have hempty : c.writeChunk ⟨stream,[]⟩ = c := by
    rw [writeChunk_eq]
    exact dropOldest_of_le hs.room
  have hstart : Behind 0 (c.writeChunk ⟨stream,[]⟩) c := by rw [hempty]; exact .refl c
  have hglued (pieces : List Text) := behind_foldl_glue hs.pos pieces hstart
  refine ⟨two_pieces hs,fun pieces => (hglued pieces).shown,fun pieces h => ?_,fun pieces => ?_⟩
  · rw [(hglued pieces).shown, foldl_glue_of_seamless h, List.nil_append]
  · exact (behind_foldl_writeChunks (.refl c) pieces).shown

/-- Neither a line that goes on nor a return at the end of a line shows where the cut was. -/
theorem writes_join_loading : Reachable 5000 loading ∧
    ((loading.writeChunk (.out " 1")).writeChunk (.out "0%")).shown = (loading.writeChunk (.out " 10%")).shown ∧
      ((loading.writeChunk (.out "\r")).writeChunk (.out "\n")).shown = (loading.writeChunk (.out "\r\n")).shown :=
  have hjoin := writes_join reachable_loading .out
  ⟨reachable_loading,(hjoin.two " 1" "0%").mpr (by decide +kernel),(hjoin.two "\r" "\n").mpr (by decide +kernel)⟩

/-- A line that is written over and over is another one if it was cut behind the return. -/
theorem writes_split : ¬ ∀ maxLines c, Reachable maxLines c → ∀ (stream : Stream) (s t : Text),
    ((c.writeChunk ⟨stream,s⟩).writeChunk ⟨stream,t⟩).shown = (c.writeChunk ⟨stream,s ++ t⟩).shown := by
  intro h
  exact absurd (h 5000 _ .start .out "10%\r" "20%") (by decide +kernel)

end Property

end StatementPad.Console
