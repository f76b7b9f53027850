import Mathlib.Data.List.Basic
import StatementPad.Console

/-! # Taking back what a batch wrote

Writing adds lines and goes on in the open one. As long as no line is dropped, the mark of a batch is enough to
find the console again on which it began, so that taking the batch back restores it. A batch that does nothing but
end the open line leaves all lines as they are: it is not counted, and what is taken back is the batch before it.
-/
namespace StatementPad.Console
variable {c c' c'' : Console} {chunk : Chunk} {chunks : List Chunk}

inductive Operation where
  | writeOut (t : Text)
  | writeError (t : Text)
  | writeChunks (chunks : List Chunk)
  | undo
  | clear

def Operation.apply (c : Console) : Operation → Console
  | writeOut t => c.writeOut t
  | writeError t => c.writeError t
  | writeChunks chunks => c.writeChunks chunks
  | undo => c.undo.2
  | clear => c.clear

inductive Reachable (maxLines : Nat) : Console → Prop where
  | start : Reachable maxLines (ofCap maxLines)
  | apply {c : Console} (h : Reachable maxLines c) (op : Operation) : Reachable maxLines (op.apply c)

def content (c : Console) : List ConsoleLine × Bool := (c.lines, c.isOpen)

/-! ## Writing while there is room -/

/-- The lines of `c'` are those of `c` and more. The last one of `c` may have gone on if it was open. -/
inductive Grown (c c' : Console) : Prop where
  | added (more : List ConsoleLine) (hlines : c'.lines = c.lines ++ more)
      (hclosed : more = [] → c'.isOpen = true → c.isOpen = true)
  | wentOn (front : List ConsoleLine) (last : ConsoleLine) (suffix : Text) (more : List ConsoleLine)
      (hopen : c.isOpen = true) (hlast : c.lines = front ++ [last])
      (hlines : c'.lines = front ++ ⟨last.text ++ suffix,last.isError⟩ :: more)

structure Grows (c c' : Console) : Prop where
  grown : Grown c c'
  same : c' = { c with lines := c'.lines, isOpen := c'.isOpen }

theorem Grown.trans (h : Grown c c') (h' : Grown c' c'') : Grown c c'' := by
  cases h with
  | added more hlines hclosed =>
    cases h' with
    | added more' hlines' hclosed' =>
      refine .added (more ++ more') (by rw [hlines', hlines, List.append_assoc]) fun hnil ho => ?_
      obtain ⟨hm,hm'⟩ := List.append_eq_nil_iff.mp hnil
      exact hclosed hm (hclosed' hm' ho)
    | wentOn front last suffix more' hopen hlast hlines' =>
      rcases List.eq_nil_or_concat more with rfl | ⟨init,last',rfl⟩
      · rw [List.append_nil] at hlines
        exact .wentOn front last suffix more' (hclosed rfl hopen) (hlines ▸ hlast) hlines'
      · rw [hlines, List.concat_eq_append, ← List.append_assoc] at hlast
        obtain ⟨rfl,-⟩ := List.append_inj' hlast rfl
        exact .added (init ++ ⟨last.text ++ suffix,last.isError⟩ :: more')
          (by rw [hlines', List.append_assoc]) fun hnil => by simp at hnil
  | wentOn front last suffix more hopen hlast hlines =>
    cases h' with
    | added more' hlines' hclosed' =>
      exact .wentOn front last suffix (more ++ more') hopen hlast (by simp [hlines', hlines])
    | wentOn front' last' suffix' more' hopen' hlast' hlines' =>
      rw [hlines] at hlast'
      rcases List.eq_nil_or_concat more with rfl | ⟨init,last'',rfl⟩
      · obtain ⟨rfl,hl⟩ := List.append_inj' hlast' rfl
        obtain rfl := List.singleton_inj.mp hl
        exact .wentOn front last (suffix ++ suffix') more' hopen hlast (by simp [hlines'])
      · rw [List.concat_eq_append, ← List.cons_append, ← List.append_assoc] at hlast'
        obtain ⟨rfl,-⟩ := List.append_inj' hlast' rfl
        exact .wentOn front last suffix (init ++ ⟨last'.text ++ suffix',last'.isError⟩ :: more') hopen hlast
          (by simp [hlines'])

theorem Grows.refl (c : Console) : Grows c c := ⟨.added [] (by simp) fun _ => id,rfl⟩

theorem Grows.trans (h : Grows c c') (h' : Grows c' c'') : Grows c c'' where
  grown := h.grown.trans h'.grown
  same := by rw [h'.same, h.same]

theorem addPiece_nil {isError : Bool} (h : c.lines = []) (piece : Text) (terminated : Bool) :
    c.addPiece isError piece terminated =
      { c with lines := [⟨trimReturns piece,isError⟩], isOpen := !terminated } := by
  simp [addPiece, h]

theorem addPiece_concat {isError : Bool} {front : List ConsoleLine} {last : ConsoleLine}
    (h : c.lines = front ++ [last]) (piece : Text) (terminated : Bool) :
    c.addPiece isError piece terminated = { c with
      lines := front ++ if c.isOpen && last.isError == isError then [⟨last.text ++ trimReturns piece,isError⟩]
        else [last,⟨trimReturns piece,isError⟩]
      isOpen := !terminated } := by
  unfold addPiece
  rw [h, List.getLast?_concat]
  dsimp only
  split
  · rw [List.dropLast_concat]
  · rw [List.append_assoc]
    rfl

/-- Where a piece goes does not depend on what it is. -/
theorem exists_addPiece (isError : Bool) (c : Console) : ∃ front lead, ∀ piece terminated,
    c.addPiece isError piece terminated =
      { c with lines := front ++ [⟨lead ++ trimReturns piece,isError⟩], isOpen := !terminated } := by
  rcases List.eq_nil_or_concat c.lines with hnil | ⟨front,last,hlast⟩
  · exact ⟨[],[],fun piece terminated => addPiece_nil hnil piece terminated⟩
  · rw [List.concat_eq_append] at hlast
    by_cases ho : (c.isOpen && last.isError == isError) = true
    · exact ⟨front,last.text,fun piece terminated => by rw [addPiece_concat hlast, if_pos ho]⟩
    · exact ⟨front ++ [last],[],fun piece terminated => by simp [addPiece_concat hlast, ho]⟩

theorem grows_addPiece (isError : Bool) (c : Console) (piece : Text) (terminated : Bool) :
    Grows c (c.addPiece isError piece terminated) := by
  rcases List.eq_nil_or_concat c.lines with hnil | ⟨front,last,hlast⟩
  · rw [addPiece_nil hnil]
    exact ⟨.added [⟨trimReturns piece,isError⟩] (by rw [hnil]; rfl) fun h => by simp at h,rfl⟩
  · rw [List.concat_eq_append] at hlast
    rw [addPiece_concat hlast]
    split
    next h =>
      obtain ⟨hopen,hstream⟩ : c.isOpen = true ∧ last.isError = isError := by simpa using h
      exact ⟨.wentOn front last (trimReturns piece) [] hopen hlast (by rw [hstream]),rfl⟩
    next => exact ⟨.added [⟨trimReturns piece,isError⟩] (by simp [hlast]) fun h => by simp at h,rfl⟩

theorem grows_addPieces (isError : Bool) (c : Console) (pieces : List Text) :
    Grows c (addPieces isError c pieces) := by
  fun_induction addPieces isError c pieces with
  | case1 c => exact .refl c
  | case2 c last h => exact .refl c
  | case3 c last h => exact grows_addPiece ..
  | case4 c piece rest hrest ih => exact (grows_addPiece ..).trans ih

def written (c : Console) (chunk : Chunk) : Console :=
  addPieces (chunk.stream = .err) c (Text.breakLines chunk.text)

theorem writeChunk_eq (c : Console) (chunk : Chunk) : c.writeChunk chunk = (c.written chunk).dropOldest := by
  obtain ⟨stream,text⟩ := chunk
  cases stream <;> rfl

/-- No line is dropped while the chunks are written. -/
def Fits (c : Console) : List Chunk → Prop
  | [] => True
  | chunk :: rest => (c.written chunk).lines.length ≤ c.maxLines ∧ (c.writeChunk chunk).Fits rest

theorem Grows.maxLines (h : Grows c c') : c'.maxLines = c.maxLines := by
  rw [h.same]

theorem dropOldest_of_le (h : c.lines.length ≤ c.maxLines) : c.dropOldest = c := by
  simp [dropOldest, Nat.sub_eq_zero_of_le h]

theorem Fits.grows (h : c.Fits chunks) : Grows c (chunks.foldl writeChunk c) := by
  induction chunks generalizing c with
  | nil => exact .refl c
  | cons chunk rest ih =>
    obtain ⟨hroom,hrest⟩ := h
    have hgrows : Grows c (c.written chunk) := grows_addPieces ..
    have hkept : c.writeChunk chunk = c.written chunk := by
      rw [writeChunk_eq, dropOldest_of_le (by rwa [hgrows.maxLines])]
    rw [hkept] at hrest
    rw [List.foldl_cons, hkept]
    exact hgrows.trans (ih hrest)

/-! ## Marks -/

theorem length_le_of_grown (h : Grown c c') : c.lines.length ≤ c'.lines.length := by
  cases h with
  | added more hlines hclosed => simp [hlines]
  | wentOn front last suffix more hopen hlast hlines => simp [hlines, hlast]

/-- A batch is seen to have changed something exactly if it has changed the lines. -/
theorem changedSince_iff (h : Grown c c') : c'.changedSince c.mark = true ↔ c'.lines ≠ c.lines := by
  cases h with
  | added more hlines hclosed =>
    rcases eq_or_ne more [] with rfl | hmore
    · rw [List.append_nil] at hlines
      simp only [changedSince, mark, hlines, bne_self_eq_false, Bool.false_or, ne_eq, not_true_eq_false,
        iff_false, Bool.not_eq_true]
      cases c.isOpen with
      | false => rfl
      | true => cases c.lines.getLast? <;> simp
    · have hpos := List.length_pos_iff.mpr hmore
      refine iff_of_true ?_ (by simp [hlines, hmore])
      simp [changedSince, mark, hlines, Nat.ne_of_gt hpos]
  | wentOn front last suffix more hopen hlast hlines =>
    rcases eq_or_ne more [] with rfl | hmore
    · simp only [changedSince, mark, hlines, hlast, hopen]
      rcases eq_or_ne suffix [] with rfl | hsuffix
      · simp
      · have hpos := Text.utf8Length_pos hsuffix
        obtain ⟨text,isError⟩ := last
        simp [Nat.ne_of_gt hpos, hsuffix]
    · have hpos := List.length_pos_iff.mpr hmore
      refine iff_of_true ?_ (by simp [hlines, hlast, hmore])
      simp [changedSince, mark, hlines, hlast, Nat.ne_of_gt hpos]

@[simp] theorem cutLast_concat (n : Nat) (front : List ConsoleLine) (last : ConsoleLine) :
    cutLast n (front ++ [last]) = front ++ [{ last with text := Text.takeBytes n last.text }] := by
  induction front with
  | nil => rfl
  | cons line front ih =>
    cases front with
    | nil => rfl
    | cons second front => exact congrArg (line :: ·) ih

theorem length_cutLast (n : Nat) (lines : List ConsoleLine) : (cutLast n lines).length = lines.length := by
  rcases List.eq_nil_or_concat lines with rfl | ⟨front,last,rfl⟩
  · rfl
  · simp

theorem Grown.take_of_closed (h : Grown c c') (ho : c.isOpen = false) : c'.lines.take c.lines.length = c.lines := by
  cases h with
  | added more hlines hclosed => rw [hlines, List.take_left' rfl]
  | wentOn front last suffix more hopen hlast hlines => simp [ho] at hopen

/-- The lines that were there still are, and only the last one may have gone on. -/
theorem Grown.take_concat {front : List ConsoleLine} {last : ConsoleLine} (h : Grown c c')
    (hlast : c.lines = front ++ [last]) :
    ∃ suffix, c'.lines.take c.lines.length = front ++ [⟨last.text ++ suffix,last.isError⟩] := by
  cases h with
  | added more hlines hclosed => exact ⟨[],by rw [hlines, List.take_left' rfl, hlast, List.append_nil]⟩
  | wentOn front' last' suffix more hopen hlast' hlines =>
    obtain ⟨rfl,hl⟩ := List.append_inj' (hlast.symm.trans hlast') rfl
    obtain rfl := List.singleton_inj.mp hl
    exact ⟨suffix,by rw [hlines, List.append_cons, List.take_left' (by simp [hlast])]⟩

/-- The mark of a console leads back to it from whatever it has grown to. -/
theorem undo_of_mark {batches : List BatchMark} (hopened : c.isOpen = true → c.lines ≠ []) (h : Grown c c')
    (hbatches : c'.batches = c.mark :: batches) :
    c'.undo = (true,{ c' with lines := c.lines, isOpen := c.isOpen, batches }) := by
  cases ho : c.isOpen with
  | false =>
    have htake := h.take_of_closed ho
    simp [undo, hbatches, mark, ho, htake]
  | true =>
    obtain ⟨front,last,hlast⟩ := (List.eq_nil_or_concat c.lines).resolve_left (hopened ho)
    rw [List.concat_eq_append] at hlast
    obtain ⟨suffix,htake⟩ := h.take_concat hlast
    have hmark : c.mark = ⟨c.lines.length,some (Text.utf8Length last.text)⟩ := by simp [mark, ho, hlast]
    have hcut : cutLast (Text.utf8Length last.text) (front ++ [⟨last.text ++ suffix,last.isError⟩]) = c.lines := by
      rw [cutLast_concat, hlast, Text.takeBytes_append]
    obtain ⟨line,rest,hcons⟩ := List.exists_cons_of_ne_nil (show front ++ [_] ≠ [] from by simp)
    rw [undo, hbatches, hmark]
    dsimp only
    rw [htake, hcons, ← hcut, hcons]

/-! ## Consoles that come up -/

structure Sound (c : Console) : Prop where
  pos : 0 < c.maxLines
  room : c.lines.length ≤ c.maxLines
  opened : c.isOpen = true → c.lines ≠ []

theorem lines_addPiece_ne_nil (isError : Bool) (c : Console) (piece : Text) (terminated : Bool) :
    (c.addPiece isError piece terminated).lines ≠ [] := by
  obtain ⟨front,lead,hc⟩ := exists_addPiece isError c
  rw [hc piece terminated]
  exact List.append_ne_nil_of_right_ne_nil _ (List.cons_ne_nil _ _)

theorem opened_addPieces (isError : Bool) (pieces : List Text) (h : c.isOpen = true → c.lines ≠ []) :
    (addPieces isError c pieces).isOpen = true → (addPieces isError c pieces).lines ≠ [] := by
  fun_induction addPieces isError c pieces with
  | case1 c => exact h
  | case2 c last hlast => exact h
  | case3 c last hlast => exact fun _ => lines_addPiece_ne_nil _ _ _ _
  | case4 c piece rest hrest ih => exact ih fun _ => lines_addPiece_ne_nil _ _ _ _

theorem dropOldest_spec (c : Console) :
    c.dropOldest.maxLines = c.maxLines ∧ c.dropOldest.isOpen = c.isOpen ∧
      c.dropOldest.lines = c.lines.drop (c.lines.length - c.maxLines) := by
  unfold dropOldest
  dsimp only
  split
  next h => simp [h]
  next => exact ⟨rfl,rfl,rfl⟩

theorem Sound.writeChunk (h : c.Sound) (chunk : Chunk) : (c.writeChunk chunk).Sound := by
  have hgrows : Grows c (c.written chunk) := grows_addPieces ..
  have hopened : (c.written chunk).isOpen = true → (c.written chunk).lines ≠ [] := opened_addPieces _ _ h.opened
  have hmax := hgrows.maxLines
  obtain ⟨hd,ho,hl⟩ := dropOldest_spec (c.written chunk)
  have hpos := h.pos
  rw [writeChunk_eq]
  refine ⟨by omega,?_,fun hopen => ?_⟩
  · rw [hl, hd, List.length_drop]
    omega
  · have hne := List.length_pos_iff.mpr (hopened (ho ▸ hopen))
    rw [← List.length_pos_iff, hl, List.length_drop]
    omega

theorem Sound.foldl_writeChunk (h : c.Sound) (chunks : List Chunk) :
    (chunks.foldl Console.writeChunk c).Sound := by
  induction chunks generalizing c with
  | nil => exact h
  | cons chunk rest ih => exact ih (h.writeChunk chunk)

theorem Sound.undo (h : c.Sound) : c.undo.2.Sound := by
  unfold Console.undo
  split
  next => exact h
  next m batches hb =>
    have hle := List.length_take_le' m.start c.lines
    dsimp only
    split
    next length line rest hm hlines =>
      have hne : c.lines.take m.start ≠ [] := by simp [hlines]
      refine ⟨h.pos,?_,fun _ => ?_⟩
      · exact (length_cutLast ..).symm ▸ Nat.le_trans hle h.room
      · rw [← List.length_pos_iff] at hne ⊢
        exact (length_cutLast ..).symm ▸ hne
    next => exact ⟨h.pos,Nat.le_trans hle h.room,fun hopen => by cases hopen⟩

theorem current_undo (c : Console) : c.undo.2.current = c.current := by
  unfold undo
  split
  · rfl
  · dsimp only
    split <;> rfl

theorem undo_spec (c : Console) : c.undo.1 = !c.batches.isEmpty ∧ c.undo.2.batches = c.batches.tail := by
  unfold undo
  split
  next h => simp [h]
  next m batches h =>
    dsimp only
    split <;> simp [h]

/-- Writing outside of a batch starts none. -/
theorem current_write (isError : Bool) (t : Text) (h : c.current = none) : (c.write isError t).current = none := by
  have hsame := (grows_addPieces isError c (Text.breakLines t)).same
  have hcurrent : (addPieces isError c (Text.breakLines t)).current = none := by rw [hsame, ← h]
  unfold write dropOldest
  dsimp only
  split
  · exact hcurrent
  · simp [hcurrent]

theorem current_writeChunks (h : c.current = none) (chunks : List Chunk) : (c.writeChunks chunks).current = none := by
  unfold writeChunks endBatch
  split
  · exact h
  · split
    next hnone => exact hnone
    next => rfl

theorem Sound.writeChunks (h : c.Sound) (chunks : List Chunk) : (c.writeChunks chunks).Sound := by
  unfold Console.writeChunks
  split
  · exact h
  · have hb : c.beginBatch.Sound := ⟨h.pos,h.room,h.opened⟩
    obtain ⟨hpos,hroom,hopened⟩ := hb.foldl_writeChunk chunks
    unfold endBatch
    split
    · exact ⟨hpos,hroom,hopened⟩
    · exact ⟨hpos,hroom,hopened⟩

theorem Reachable.sound {maxLines : Nat} (h : Reachable maxLines c) : c.Sound ∧ c.current = none := by
  have hcap (n : Nat) : (ofCap n).Sound :=
    ⟨Nat.lt_of_lt_of_le Nat.one_pos (Nat.le_max_right ..),Nat.zero_le _,fun hopen => by cases hopen⟩
  induction h with
  | start => exact ⟨hcap _,rfl⟩
  | apply _ op ih =>
    obtain ⟨hs,hcurrent⟩ := ih
    cases op with
    | writeOut t => exact ⟨hs.writeChunk (.out t),current_write false t hcurrent⟩
    | writeError t => exact ⟨hs.writeChunk (.err t),current_write true t hcurrent⟩
    | writeChunks chunks => exact ⟨hs.writeChunks chunks,current_writeChunks hcurrent chunks⟩
    | undo => exact ⟨hs.undo,(current_undo _).trans hcurrent⟩
    | clear => exact ⟨hcap _,rfl⟩

/-! ## Batches without a dropped line -/

theorem Grown.congr {d d' : Console} (h : Grown c c') (hc : d.content = c.content) (hc' : d'.content = c'.content) :
    Grown d d' := by
  obtain ⟨hl,ho⟩ := Prod.mk.inj hc
  obtain ⟨hl',ho'⟩ := Prod.mk.inj hc'
  cases h with
  | added more hlines hclosed => exact .added more (by rw [hl', hl, hlines]) (by rwa [ho, ho'])
  | wentOn front last suffix more hopen hlast hlines =>
    exact .wentOn front last suffix more (ho.trans hopen) (hl.trans hlast) (hl'.trans hlines)

/-- A batch is counted if it has changed the lines. -/
theorem writeChunks_of_fits (hcurrent : c.current = none) (hfits : c.beginBatch.Fits chunks) :
    Grown c (c.writeChunks chunks) ∧ c.writeChunks chunks = { c with
      lines := (c.writeChunks chunks).lines
      isOpen := (c.writeChunks chunks).isOpen
      batches := if (c.writeChunks chunks).lines = c.lines then c.batches else c.mark :: c.batches } := by
  unfold writeChunks
  split
  next => exact ⟨(Grows.refl c).grown,by simp⟩
  next =>
    obtain ⟨hgrown,hsame⟩ := hfits.grows
    generalize chunks.foldl writeChunk c.beginBatch = d at hgrown hsame
    have hd : Grown c d := hgrown.congr rfl rfl
    have hend : d.endBatch = { c with
        lines := d.lines
        isOpen := d.isOpen
        batches := if d.lines = c.lines then c.batches else c.mark :: c.batches } := by
      have hchanged : (if d.changedSince c.mark then c.mark :: c.batches else c.batches) =
          if d.lines = c.lines then c.batches else c.mark :: c.batches := by
        simp only [changedSince_iff hd, ne_eq, ite_not]
      rw [hsame] at hchanged ⊢
      simp only [endBatch, beginBatch] at hchanged ⊢
      rw [← hchanged, hcurrent]
    rw [hend]
    exact ⟨hd.congr rfl rfl,rfl⟩

/-- A line that is open and was left alone was open before. -/
theorem Grown.isOpen (h : Grown c c') (hlines : c'.lines = c.lines) (ho : c'.isOpen = true) : c.isOpen = true := by
  cases h with
  | added more hl hclosed => exact hclosed (List.append_right_eq_self.mp (hl.symm.trans hlines)) ho
  | wentOn front last suffix more hopen hlast hl => exact hopen

/-- No line has changed, but the one that was open is so no longer. -/
def OnlyEnds (c : Console) (chunks : List Chunk) : Prop :=
  c.isOpen = true ∧ (c.writeChunks chunks).lines = c.lines ∧ (c.writeChunks chunks).isOpen = false

theorem undo_of_changed (hs : c.Sound) (hcurrent : c.current = none) (hfits : c.beginBatch.Fits chunks)
    (hlines : (c.writeChunks chunks).lines ≠ c.lines) : (c.writeChunks chunks).undo = (true,c) := by
  obtain ⟨hgrown,hsame⟩ := writeChunks_of_fits hcurrent hfits
  generalize c.writeChunks chunks = c' at hgrown hsame hlines ⊢
  rw [if_neg hlines] at hsame
  rw [undo_of_mark hs.opened hgrown (by rw [hsame]), hsame]

theorem writeChunks_of_lines_eq (hcurrent : c.current = none) (hfits : c.beginBatch.Fits chunks)
    (hlines : (c.writeChunks chunks).lines = c.lines) :
    c.writeChunks chunks = { c with isOpen := (c.writeChunks chunks).isOpen } := by
  have hsame := (writeChunks_of_fits hcurrent hfits).2
  rw [if_pos hlines] at hsame
  conv_lhs => rw [hsame, hlines]

/-- A batch that changes the content without being seen to change it has ended the open line. -/
theorem onlyEnds_of_lines_eq (hcurrent : c.current = none) (hfits : c.beginBatch.Fits chunks)
    (hchanged : (c.writeChunks chunks).content ≠ c.content) (hlines : (c.writeChunks chunks).lines = c.lines) :
    c.OnlyEnds chunks := by
  have hopen : (c.writeChunks chunks).isOpen ≠ c.isOpen := fun h => hchanged (Prod.ext hlines h)
  have hgrown := (writeChunks_of_fits hcurrent hfits).1.isOpen hlines
  cases ho : (c.writeChunks chunks).isOpen with
  | true => exact absurd (ho.trans (hgrown ho).symm) hopen
  | false => exact ⟨(Bool.eq_false_or_eq_true _).resolve_right fun hc => hopen (ho.trans hc.symm),hlines,ho⟩

theorem ne_of_length_batches (h : c'.batches.length ≤ c.batches.length) : c'.undo ≠ (true,c) := by
  intro he
  obtain ⟨hsome,htail⟩ := undo_spec c'
  rw [he] at hsome htail
  have hpos : 0 < c'.batches.length := List.length_pos_iff.mpr (by simpa using hsome.symm)
  have hlength := congrArg List.length htail
  rw [List.length_tail] at hlength
  dsimp only at hlength
  omega

theorem undo_iff (hs : c.Sound) (hcurrent : c.current = none) (hfits : c.beginBatch.Fits chunks)
    (hchanged : (c.writeChunks chunks).content ≠ c.content) :
    (c.writeChunks chunks).undo = (true,c) ↔ ¬ c.OnlyEnds chunks := by
  constructor
  · rintro hundo ⟨-,hlines,-⟩
    have hsame := writeChunks_of_lines_eq hcurrent hfits hlines
    have hsize : (c.writeChunks chunks).batches.length ≤ c.batches.length :=
      Nat.le_of_eq (congrArg (fun c => c.batches.length) hsame)
    exact ne_of_length_batches hsize hundo
  · intro hmore
    exact undo_of_changed hs hcurrent hfits fun hlines =>
      hmore (onlyEnds_of_lines_eq hcurrent hfits hchanged hlines)

/-! ## Batches that drop lines -/

/-- The console is full, and lines that were there when the batch began are gone, or were never there. -/
def Overflowed (c : Console) : Prop :=
  c.lines.length = c.maxLines ∧ ∃ m, c.current = some m ∧ m.start < c.maxLines

theorem length_batches_writeChunk (c : Console) (chunk : Chunk) :
    (c.writeChunk chunk).batches.length = c.batches.length := by
  have hsame := (grows_addPieces (chunk.stream = .err) c (Text.breakLines chunk.text)).same
  have hbatches : (c.written chunk).batches = c.batches := by rw [written, hsame]
  rw [writeChunk_eq]
  unfold dropOldest
  dsimp only
  split
  · rw [hbatches]
  · simp [hbatches]

theorem length_batches_foldl (c : Console) (chunks : List Chunk) :
    (chunks.foldl writeChunk c).batches.length = c.batches.length := by
  induction chunks generalizing c with
  | nil => rfl
  | cons chunk rest ih => exact (ih _).trans (length_batches_writeChunk c chunk)

/-- One chunk more, and the console has either kept all its lines or overflowed. -/
theorem overflowed_writeChunk {m : BatchMark} (hpos : 0 < c.maxLines) (hm : c.current = some m)
    (hstart : m.start ≤ c.maxLines) (hdrop : c.maxLines < (c.written chunk).lines.length) :
    (c.writeChunk chunk).Overflowed := by
  have hsame := (grows_addPieces (chunk.stream = .err) c (Text.breakLines chunk.text)).same
  have hmax : (c.written chunk).maxLines = c.maxLines := by rw [written, hsame]
  have hcurrent : (c.written chunk).current = some m := by rw [written, hsame, ← hm]
  rw [writeChunk_eq]
  unfold dropOldest
  dsimp only
  rw [if_neg (by omega)]
  refine ⟨?_,BatchMark.shifted ((c.written chunk).lines.length - (c.written chunk).maxLines) m,?_,?_⟩
  · dsimp only
    rw [List.length_drop]
    omega
  · rw [hcurrent]
    rfl
  · dsimp only [BatchMark.shifted]
    omega

theorem writeChunk_of_room (hroom : (c.written chunk).lines.length ≤ c.maxLines) :
    Grows c (c.writeChunk chunk) := by
  have hgrows : Grows c (c.written chunk) := grows_addPieces ..
  rwa [writeChunk_eq, dropOldest_of_le (by rwa [hgrows.maxLines])]

theorem Overflowed.writeChunk (hs : c.Sound) (h : c.Overflowed) (chunk : Chunk) : (c.writeChunk chunk).Overflowed := by
  obtain ⟨hfull,m,hm,hstart⟩ := h
  rcases Nat.lt_or_ge c.maxLines (c.written chunk).lines.length with hdrop | hroom
  · exact overflowed_writeChunk hs.pos hm (Nat.le_of_lt hstart) hdrop
  · have hgrows := writeChunk_of_room hroom
    have hle := length_le_of_grown hgrows.grown
    have hmax := hgrows.maxLines
    have hnew := (hs.writeChunk chunk).room
    refine ⟨by omega,m,?_,by omega⟩
    rw [hgrows.same, ← hm]

theorem Overflowed.foldl_writeChunk (hs : c.Sound) (h : c.Overflowed) (chunks : List Chunk) :
    (chunks.foldl Console.writeChunk c).Overflowed := by
  induction chunks generalizing c with
  | nil => exact h
  | cons chunk rest ih => exact ih (hs.writeChunk chunk) (h.writeChunk hs chunk)

theorem overflowed_of_not_fits {m : BatchMark} (hs : c.Sound) (hm : c.current = some m)
    (hstart : m.start ≤ c.maxLines) (h : ¬ c.Fits chunks) : (chunks.foldl Console.writeChunk c).Overflowed := by
  induction chunks generalizing c with
  | nil => exact absurd trivial h
  | cons chunk rest ih =>
    rcases Nat.lt_or_ge c.maxLines (c.written chunk).lines.length with hdrop | hroom
    · exact (overflowed_writeChunk hs.pos hm hstart hdrop).foldl_writeChunk (hs.writeChunk chunk) rest
    · have hgrows := writeChunk_of_room hroom
      refine ih (hs.writeChunk chunk) (by rw [hgrows.same, ← hm]) (by rwa [hgrows.maxLines]) ?_
      exact fun hrest => h ⟨hroom,hrest⟩

/-- A batch that drops lines is counted, whatever is left in the end. -/
theorem length_batches_of_not_fits (hs : c.Sound) (h : ¬ c.beginBatch.Fits chunks) :
    (c.writeChunks chunks).batches.length = c.batches.length + 1 := by
  have hb : c.beginBatch.Sound := ⟨hs.pos,hs.room,hs.opened⟩
  have hlength := length_batches_foldl c.beginBatch chunks
  obtain ⟨hfull,m,hm,hstart⟩ := overflowed_of_not_fits hb rfl hs.room h
  unfold writeChunks
  split
  next hnil =>
    rw [List.isEmpty_iff] at hnil
    exact absurd (hnil ▸ trivial) h
  next =>
    generalize chunks.foldl writeChunk c.beginBatch = d at hlength hfull hm hstart
    have hchanged : d.changedSince m = true := by
      simp only [changedSince, Bool.or_eq_true, bne_iff_ne]
      exact .inl (by omega)
    simp only [endBatch, hm, hchanged, if_true, List.length_cons, hlength]
    rfl

/-- With one batch more, taking one back comes to something else. -/
theorem undo_ne_of_counted (h : c'.batches.length = c.batches.length + 1) : c'.undo ≠ c.undo := by
  intro he
  obtain ⟨hsome',htail'⟩ := undo_spec c'
  obtain ⟨hsome,htail⟩ := undo_spec c
  rw [he] at hsome' htail'
  -- As many batches are left only if there were none at first, but then the answers differ.
  have hlength := congrArg List.length (htail.symm.trans htail')
  rw [List.length_tail, List.length_tail, h] at hlength
  have hnone : c.batches = [] := List.length_eq_zero_iff.mp (by omega)
  have hfirst := hsome.symm.trans hsome'
  rw [hnone] at hfirst
  cases hb : c'.batches with
  | nil => simp [hb] at h
  | cons m batches => simp [hb] at hfirst

/-! ## The property -/

/-- Each batch changes the content, drops no line, and does more than to end the open line. -/
def AllCounted (c : Console) : List (List Chunk) → Prop
  | [] => True
  | chunks :: rest => (c.writeChunks chunks).content ≠ c.content ∧ c.beginBatch.Fits chunks ∧
      ¬ c.OnlyEnds chunks ∧ (c.writeChunks chunks).AllCounted rest

instance decidableFits : (c : Console) → (chunks : List Chunk) → Decidable (c.Fits chunks)
  | _, [] => isTrue trivial
  | c, chunk :: rest =>
    have := decidableFits (c.writeChunk chunk) rest
    inferInstanceAs (Decidable (_ ∧ _))

instance (c : Console) (chunks : List Chunk) : Decidable (c.OnlyEnds chunks) := inferInstanceAs (Decidable (_ ∧ _))

instance decidableAllCounted : (c : Console) → (batches : List (List Chunk)) → Decidable (c.AllCounted batches)
  | _, [] => isTrue trivial
  | c, chunks :: rest =>
    have := decidableAllCounted (c.writeChunks chunks) rest
    inferInstanceAs (Decidable (_ ∧ _))

def undoTimes : Nat → Console → Bool × Console
  | 0, c => (true,c)
  | n + 1, c => ((undoTimes n c).1 && (undoTimes n c).2.undo.1,(undoTimes n c).2.undo.2)

structure Undoes (c : Console) : Prop where
  /-- A batch that changes the content is taken back unless it only ends the open line, and older batches are as
  they were. -/
  changed : ∀ chunks, c.beginBatch.Fits chunks → (c.writeChunks chunks).content ≠ c.content →
    ((c.writeChunks chunks).undo = (true,c) ↔ ¬ c.OnlyEnds chunks)
  /-- After a batch that leaves the content as it was, the batch before it is taken back, if no line was dropped. -/
  unchanged : ∀ chunks, (c.writeChunks chunks).content = c.content →
    ((c.writeChunks chunks).undo = c.undo ↔ c.beginBatch.Fits chunks)
  /-- The end of a line stays, and the batch before it is taken back. -/
  ended : ∀ chunks, c.beginBatch.Fits chunks → c.OnlyEnds chunks →
    (c.writeChunks chunks).undo = ({ c with isOpen := false } : Console).undo
  several : ∀ batches, c.AllCounted batches → undoTimes batches.length (batches.foldl writeChunks c) = (true,c)

theorem undoTimes_foldl {maxLines : Nat} {batches : List (List Chunk)} (hr : Reachable maxLines c)
    (h : c.AllCounted batches) : undoTimes batches.length (batches.foldl writeChunks c) = (true,c) := by
  induction batches generalizing c with
  | nil => rfl
  | cons chunks rest ih =>
    obtain ⟨hchanged,hfits,hmore,hrest⟩ := h
    obtain ⟨hs,hcurrent⟩ := hr.sound
    have hundo := (undo_iff hs hcurrent hfits hchanged).mpr hmore
    have hback : undoTimes rest.length (rest.foldl writeChunks (c.writeChunks chunks)) = (true,c.writeChunks chunks) :=
      ih (hr.apply (.writeChunks chunks)) hrest
    rw [List.foldl_cons, List.length_cons, undoTimes, hback, hundo]
    rfl

theorem undo_reverts {maxLines : Nat} (hr : Reachable maxLines c) : Undoes c := by
  obtain ⟨hs,hcurrent⟩ := hr.sound
  refine ⟨fun chunks hfits hchanged => undo_iff hs hcurrent hfits hchanged,fun chunks hsame => ?_,
    fun chunks hfits honly => ?_,fun batches h => undoTimes_foldl hr h⟩
  · obtain ⟨hlines,hopen⟩ := Prod.mk.inj hsame
    constructor
    · intro hundo
      by_contra hdropped
      exact undo_ne_of_counted (length_batches_of_not_fits hs hdropped) hundo
    · intro hfits
      have hkept := writeChunks_of_lines_eq hcurrent hfits hlines
      rw [hopen] at hkept
      rw [hkept]
  · rw [writeChunks_of_lines_eq hcurrent hfits honly.2.1, honly.2.2]

def loading : Console := (ofCap 5000).writeChunks [.out "loading"]

theorem reachable_loading : Reachable 5000 loading := Reachable.start.apply (.writeChunks [.out "loading"])

/-- One batch goes on in the open line, and one writes to the other stream. -/
theorem undo_reverts_loading :
    undoTimes 2 ((loading.writeChunks [.out "... done\n", .out "next\n"]).writeChunks [.err "late"]) = (true,loading) :=
  (undo_reverts reachable_loading).several [[.out "... done\n", .out "next\n"], [.err "late"]] (by decide +kernel)

/-- The break that ends the open line is not taken back. The batch that had begun the line is. -/
theorem undo_endedLine : Reachable 5000 loading ∧ loading.beginBatch.Fits [.out "\n"] ∧
    (loading.writeChunks [.out "\n"]).content ≠ loading.content ∧
      (loading.writeChunks [.out "\n"]).undo = (true,ofCap 5000) ∧ loading ≠ ofCap 5000 :=
  ⟨reachable_loading,by decide +kernel,by decide +kernel,by decide +kernel,by decide +kernel⟩

end StatementPad.Console
