import StatementPad.Proofs.Console.Dropped
import StatementPad.Proofs.Text.Cut

/-! # What the marks of the batches lead back to

A batch is remembered here together with the console on which it began and with the number of lines that have gone
since. What is left of that console is a console the present one has grown from, and its mark is the mark that the
batch has now: each operation keeps this. Taking the newest batch back therefore leads to what is left of the
console on which it began.
-/
namespace StatementPad.Console
variable {c c' : Console}

/-! ## Lines that go -/

def drops (c : Console) (chunk : Chunk) : Nat := (c.written chunk).lines.length - (c.writeChunk chunk).lines.length

def dropsAll (c : Console) : List Chunk → Nat
  | [] => 0
  | chunk :: rest => c.drops chunk + (c.writeChunk chunk).dropsAll rest

theorem drops_eq (c : Console) (chunk : Chunk) : c.drops chunk = (c.written chunk).lines.length - c.maxLines := by
  have hgrows : Grows c (c.written chunk) := grows_addPieces ..
  rw [drops, writeChunk_eq, (dropOldest_spec _).2.2, List.length_drop, hgrows.maxLines]
  omega

theorem fits_iff (c : Console) (chunks : List Chunk) : c.Fits chunks ↔ c.dropsAll chunks = 0 := by
  induction chunks generalizing c with
  | nil => exact iff_of_true trivial rfl
  | cons chunk rest ih => rw [Fits, dropsAll, ih, drops_eq, Nat.add_eq_zero_iff, Nat.sub_eq_zero_iff_le]

/-! ## Batches with the consoles on which they began -/

/-- The console on which a batch began, and how many lines have gone since. -/
structure Begun where
  console : Console
  dropped : Nat

def Begun.left (b : Begun) : Console := b.console.without b.dropped

def Begun.lose (n : Nat) (b : Begun) : Begun := { b with dropped := b.dropped + n }

/-- The batches that can be taken back after an operation, the newest first. A batch that has neither changed the lines
nor lost one is none of them. -/
def Operation.recall (c : Console) (past : List Begun) : Operation → List Begun
  | writeOut t => past.map (Begun.lose (c.drops (.out t)))
  | writeError t => past.map (Begun.lose (c.drops (.err t)))
  | writeChunks chunks =>
    let dropped := c.beginBatch.dropsAll chunks
    if 0 < dropped ∨ (c.writeChunks chunks).lines ≠ c.lines then ⟨c,dropped⟩ :: past.map (Begun.lose dropped)
    else past
  | undo => past.tail
  | clear => []

def Operation.step (state : Console × List Begun) (op : Operation) : Console × List Begun :=
  (op.apply state.1,op.recall state.1 state.2)

def after (maxLines : Nat) (ops : List Operation) : Console × List Begun :=
  ops.foldl Operation.step (ofCap maxLines,[])

/-- The lines on which the newest batch began, but for those that have gone. The last of them is open if it was and is
still there. -/
def takenBack (c : Console) : List Begun → Bool × Console
  | [] => (false,c)
  | b :: _ => (true,{ c with
      lines := b.console.lines.drop b.dropped
      isOpen := b.console.isOpen && decide (b.dropped < b.console.lines.length)
      batches := c.batches.tail })

@[simp] theorem left_lose (n : Nat) (b : Begun) : (b.lose n).left = b.left.without n :=
  (without_without b.dropped n b.console).symm

theorem lose_zero : Begun.lose 0 = id := rfl

theorem lose_begun (n : Nat) (c : Console) : Begun.lose n ⟨c,0⟩ = ⟨c,n⟩ :=
  congrArg (Begun.mk c) (Nat.zero_add n)

theorem lose_lose (m n : Nat) (b : Begun) : (b.lose m).lose n = b.lose (m + n) :=
  congrArg (Begun.mk b.console) (Nat.add_assoc ..)

/-! ## What each step keeps -/

/-- The console has grown from what is left for the current batch, that from what is left for the newest of the others,
and so on. The marks are those of what is left. -/
structure Keeps (maxLines : Nat) (c : Console) (current : Option Begun) (past : List Begun) : Prop where
  cap : c.maxLines = max maxLines 1
  sound : c.Sound
  grown : (c :: (current.toList ++ past).map Begun.left).Pairwise fun newer older => Grown older newer
  current : c.current = current.map fun b => b.left.mark
  batches : c.batches = past.map fun b => b.left.mark

section Steps
variable {maxLines : Nat} {current : Option Begun} {past : List Begun} {b : Begun}

theorem keeps_ofCap (maxLines : Nat) : Keeps maxLines (ofCap maxLines) none [] where
  cap := rfl
  sound := ⟨Nat.lt_of_lt_of_le Nat.one_pos (Nat.le_max_right ..),Nat.zero_le _,fun h => by cases h⟩
  grown := List.pairwise_singleton ..
  current := rfl
  batches := rfl

theorem pairwise_congr {older : List Console} (h : (c :: older).Pairwise fun newer older => Grown older newer)
    (hc : c'.content = c.content) : (c' :: older).Pairwise fun newer older => Grown older newer := by
  rw [List.pairwise_cons] at h ⊢
  exact ⟨fun d hd => (h.1 d hd).congr rfl hc,h.2⟩

/-- Each mark is shifted by the lines that go. -/
theorem writeChunk_eq_drops (c : Console) (chunk : Chunk) : c.writeChunk chunk = { c with
    lines := (c.writeChunk chunk).lines
    isOpen := (c.writeChunk chunk).isOpen
    batches := if c.drops chunk = 0 then c.batches else c.batches.map (BatchMark.shifted (c.drops chunk))
    current := if c.drops chunk = 0 then c.current else c.current.map (BatchMark.shifted (c.drops chunk)) } := by
  have hgrows : Grows c (c.written chunk) := grows_addPieces ..
  have hdrops : c.drops chunk = (c.written chunk).lines.length - (c.written chunk).maxLines := by
    rw [drops_eq, hgrows.maxLines]
  rw [hdrops, writeChunk_eq]
  unfold dropOldest
  dsimp only
  split
  · exact hgrows.same
  · rw [hgrows.same]

theorem content_writeChunk (hs : c.Sound) (chunk : Chunk) :
    (c.writeChunk chunk).content = ((c.written chunk).without (c.drops chunk)).content := by
  have hgrows : Grows c (c.written chunk) := grows_addPieces ..
  rw [writeChunk_eq, drops_eq, ← hgrows.maxLines]
  exact (behind_dropOldest (hgrows.maxLines ▸ hs.pos)).content (opened_addPieces _ _ hs.opened)

theorem Keeps.writeChunk (h : Keeps maxLines c current past) (chunk : Chunk) : Keeps maxLines (c.writeChunk chunk)
    (current.map (Begun.lose (c.drops chunk))) (past.map (Begun.lose (c.drops chunk))) := by
  have hsame := writeChunk_eq_drops c chunk
  have hgrows : Grows c (c.written chunk) := grows_addPieces ..
  have hcontent := content_writeChunk h.sound chunk
  generalize c.drops chunk = n at hsame hcontent ⊢
  refine ⟨by rw [hsame]; exact h.cap,h.sound.writeChunk chunk,?_,?_,?_⟩
  · have hlost : ((current.map (Begun.lose n)).toList ++ past.map (Begun.lose n)).map Begun.left =
        ((current.toList ++ past).map Begun.left).map (Console.without n) := by
      cases current <;> simp
    obtain ⟨hnewest,holder⟩ := List.pairwise_cons.mp h.grown
    rw [hlost]
    refine pairwise_congr (List.pairwise_cons.mpr ⟨fun d hd => ?_,?_⟩) hcontent
    · obtain ⟨older,hmem,rfl⟩ := List.mem_map.mp hd
      exact ((hnewest older hmem).trans hgrows.grown).without n
    · exact List.pairwise_map.mpr (holder.imp fun hg => hg.without n)
  · rw [hsame, h.current]
    rcases eq_or_ne n 0 with rfl | hn
    · cases current <;> rfl
    · simp [hn, mark_without, Function.comp_def]
  · rw [hsame, h.batches]
    rcases eq_or_ne n 0 with rfl | hn
    · simp [lose_zero]
    · simp [hn, mark_without]

theorem Keeps.foldl_writeChunk (h : Keeps maxLines c current past) (chunks : List Chunk) :
    Keeps maxLines (chunks.foldl Console.writeChunk c) (current.map (Begun.lose (c.dropsAll chunks)))
      (past.map (Begun.lose (c.dropsAll chunks))) := by
  induction chunks generalizing c current past with
  | nil => simpa [dropsAll, lose_zero] using h
  | cons chunk rest ih => simpa [dropsAll, lose_lose, Function.comp_def] using ih (h.writeChunk chunk)

theorem left_begun (hs : c.Sound) : Begun.left ⟨c,0⟩ = c := without_zero hs.opened

theorem Keeps.beginBatch (h : Keeps maxLines c none past) : Keeps maxLines c.beginBatch (some ⟨c,0⟩) past where
  cap := h.cap
  sound := ⟨h.sound.pos,h.sound.room,h.sound.opened⟩
  grown := by
    have hgrown : (c :: c :: past.map Begun.left).Pairwise fun newer older => Grown older newer := by
      refine List.pairwise_cons.mpr ⟨fun d hd => ?_,h.grown⟩
      rcases List.mem_cons.mp hd with rfl | hd
      · exact (Grows.refl d).grown
      · exact (List.pairwise_cons.mp h.grown).1 d hd
    simpa [left_begun h.sound] using pairwise_congr hgrown (show c.beginBatch.content = c.content from rfl)
  current := by simp [Console.beginBatch, left_begun h.sound]
  batches := h.batches

theorem Keeps.endBatch (h : Keeps maxLines c (some b) past) :
    Keeps maxLines c.endBatch none (if c.lines ≠ b.left.lines then b :: past else past) := by
  have hgrown : Grown b.left c := (List.pairwise_cons.mp h.grown).1 _ (by simp)
  have hchanged := changedSince_iff hgrown
  have hend : c.endBatch = { c with
      current := none
      batches := if c.lines ≠ b.left.lines then b.left.mark :: c.batches else c.batches } := by
    simp only [Console.endBatch, h.current, Option.map_some, hchanged]
  rw [hend]
  split
  · exact ⟨h.cap,⟨h.sound.pos,h.sound.room,h.sound.opened⟩,pairwise_congr h.grown rfl,rfl,by simp [h.batches]⟩
  · have holder : (c :: past.map Begun.left).Pairwise fun newer older => Grown older newer :=
      h.grown.sublist (by simp)
    exact ⟨h.cap,⟨h.sound.pos,h.sound.room,h.sound.opened⟩,pairwise_congr holder rfl,rfl,h.batches⟩

/-- A batch that has lost lines leaves others than it found: it fills the console. -/
theorem Keeps.lines_ne (h : Keeps maxLines c none past) (chunks : List Chunk)
    (hdropped : 0 < c.beginBatch.dropsAll chunks) :
    (chunks.foldl Console.writeChunk c.beginBatch).lines ≠ (c.without (c.beginBatch.dropsAll chunks)).lines := by
  have hbegun := h.beginBatch
  have hcurrent : (chunks.foldl Console.writeChunk c.beginBatch).current =
      some (c.without (c.beginBatch.dropsAll chunks)).mark := by
    rw [(hbegun.foldl_writeChunk chunks).current]
    simp [left_begun h.sound]
  have hfits : ¬ c.beginBatch.Fits chunks := fun hfits => Nat.ne_of_gt hdropped ((fits_iff _ _).mp hfits)
  obtain ⟨hfull,m,hm,hstart⟩ := overflowed_of_not_fits hbegun.sound rfl h.sound.room hfits
  obtain rfl := Option.some.inj (hm.symm.trans hcurrent)
  intro he
  rw [he] at hfull
  exact Nat.ne_of_lt hstart hfull

theorem lines_endBatch (c : Console) : c.endBatch.lines = c.lines := by
  unfold endBatch
  split <;> rfl

theorem Keeps.writeChunks (h : Keeps maxLines c none past) (chunks : List Chunk) :
    Keeps maxLines (c.writeChunks chunks) none ((Operation.writeChunks chunks).recall c past) := by
  rcases eq_or_ne chunks [] with rfl | hne
  · simpa [Operation.recall, Console.writeChunks, dropsAll] using h
  · have hwritten : c.writeChunks chunks = (chunks.foldl Console.writeChunk c.beginBatch).endBatch := by
      simp [Console.writeChunks, hne]
    have hended := (h.beginBatch.foldl_writeChunk chunks).endBatch
    have hlost := h.lines_ne chunks
    rw [← hwritten, left_lose, left_begun h.sound, lose_begun] at hended
    rw [Operation.recall, hwritten, lines_endBatch, ← hwritten]
    generalize c.beginBatch.dropsAll chunks = n at hended hlost ⊢
    rcases Nat.eq_zero_or_pos n with rfl | hn
    · rw [without_zero h.sound.opened] at hended
      simpa [lose_zero] using hended
    · rw [if_pos (hlost hn)] at hended
      simpa [hn] using hended

theorem Keeps.undo_eq (h : Keeps maxLines c none past) : c.undo = c.takenBack past := by
  cases past with
  | nil => simp [Console.undo, takenBack, h.batches]
  | cons b older =>
    have hgrown : Grown b.left c := (List.pairwise_cons.mp h.grown).1 _ (by simp)
    rw [undo_of_mark (opened_without b.dropped b.console) hgrown h.batches, takenBack, h.batches]
    rfl

theorem Keeps.undo (h : Keeps maxLines c none past) : Keeps maxLines c.undo.2 none past.tail := by
  have hundo := h.undo_eq
  cases past with
  | nil => rwa [hundo]
  | cons b older =>
    have holder := (List.pairwise_cons.mp h.grown).2
    refine ⟨?_,h.sound.undo,?_,?_,?_⟩
    · rw [hundo]
      exact h.cap
    · rw [hundo]
      exact pairwise_congr holder rfl
    · rw [current_undo, h.current]
    · rw [hundo]
      exact congrArg List.tail h.batches

theorem Keeps.step {state : Console × List Begun} (h : Keeps maxLines state.1 none state.2) (op : Operation) :
    Keeps maxLines (op.step state).1 none (op.step state).2 := by
  cases op with
  | writeOut t => exact h.writeChunk (.out t)
  | writeError t => exact h.writeChunk (.err t)
  | writeChunks chunks => exact h.writeChunks chunks
  | undo => exact h.undo
  | clear =>
    have hcap : state.1.maxLines = max maxLines 1 := h.cap
    refine ⟨?_,keeps_ofCap .. |>.sound,keeps_ofCap .. |>.grown,rfl,rfl⟩
    simp [Operation.step, Operation.apply, Console.clear, ofCap, hcap]

theorem Keeps.foldl_step (state : Console × List Begun) (ops : List Operation)
    (h : Keeps maxLines state.1 none state.2) :
    Keeps maxLines (ops.foldl Operation.step state).1 none (ops.foldl Operation.step state).2 := by
  induction ops generalizing state with
  | nil => exact h
  | cons op rest ih => exact ih (op.step state) (h.step op)

end Steps

/-! ## Cutting back -/

/-- `undo` if the cut of the open line is checked: there is no answer if it is within a character. -/
def undo? (c : Console) : Option (Bool × Console) :=
  match c.batches with
  | [] => some (false,c)
  | m :: batches =>
    let lines := c.lines.take m.start
    match m.openLength, lines.getLast? with
    | some length, some last =>
      (Text.truncate? length last.text).map fun text =>
        (true,{ c with lines := lines.dropLast ++ [{ last with text }], isOpen := true, batches })
    | _, _ => some (true,{ c with lines, isOpen := false, batches })

theorem undo?_of_mark {batches : List BatchMark} (hopened : c.isOpen = true → c.lines ≠ []) (h : Grown c c')
    (hbatches : c'.batches = c.mark :: batches) :
    c'.undo? = some (true,{ c' with lines := c.lines, isOpen := c.isOpen, batches }) := by
  cases ho : c.isOpen with
  | false =>
    have htake := h.take_of_closed ho
    simp [undo?, hbatches, mark, ho, htake]
  | true =>
    obtain ⟨front,last,hlast⟩ := (List.eq_nil_or_concat c.lines).resolve_left (hopened ho)
    rw [List.concat_eq_append] at hlast
    obtain ⟨suffix,htake⟩ := h.take_concat hlast
    rw [hlast, List.length_append, List.length_singleton] at htake
    simp [undo?, hbatches, mark, ho, hlast, htake, Text.truncate?_append]

theorem Grown.getElem? {i : Nat} {line : ConsoleLine} (h : Grown c c') (hi : c.lines[i]? = some line) :
    ∃ suffix, c'.lines[i]? = some ⟨line.text ++ suffix,line.isError⟩ := by
  have hlength := (List.getElem?_eq_some_iff.mp hi).1
  cases h with
  | added more hlines hclosed =>
    exact ⟨[],by rw [hlines, List.getElem?_append_left hlength, hi, List.append_nil]⟩
  | wentOn front last suffix more hopen hlast hlines =>
    rcases Nat.lt_or_ge i front.length with hfront | hfront
    · rw [hlast, List.getElem?_append_left hfront] at hi
      exact ⟨[],by rw [hlines, List.getElem?_append_left hfront, hi, List.append_nil]⟩
    · obtain rfl : i = front.length := by
        rw [hlast, List.length_append, List.length_singleton] at hlength
        omega
      rw [hlast, List.getElem?_concat_length] at hi
      obtain rfl := Option.some.inj hi
      exact ⟨suffix,by simp [hlines]⟩

/-- The open length of a mark is a column of the line that was open. -/
theorem boundary_of_mark {n : Nat} (h : Grown c c') (hn : c.mark.openLength = some n) :
    0 < c.mark.start ∧ ∃ line k, c'.lines[c.mark.start - 1]? = some line ∧ k ≤ line.text.length ∧
      n = Text.byteOffset line.text k := by
  rw [mark] at hn
  dsimp only at hn
  split at hn
  next hopen =>
    obtain ⟨last,hlast,rfl⟩ := Option.map_eq_some_iff.mp hn
    rw [List.getLast?_eq_getElem?] at hlast
    have hpos := (List.getElem?_eq_some_iff.mp hlast).1
    obtain ⟨suffix,hline⟩ := h.getElem? hlast
    exact ⟨Nat.zero_lt_of_lt hpos,_,last.text.length,hline,by simp,by simp [Text.byteOffset]⟩
  next => cases hn

/-! ## The property -/

structure Marked (maxLines : Nat) (c : Console) (past : List Begun) : Prop where
  room : c.lines.length ≤ max maxLines 1
  ordered : c.batches.Pairwise fun newer older => older.start ≤ newer.start
  within : ∀ m ∈ c.batches, m.start ≤ c.lines.length
  boundary : ∀ m ∈ c.batches, ∀ n, m.openLength = some n → 0 < m.start ∧
    ∃ line k, c.lines[m.start - 1]? = some line ∧ k ≤ line.text.length ∧ n = Text.byteOffset line.text k
  taken : c.undo = c.takenBack past
  /-- The open line is not cut within a character. -/
  checked : c.undo? = some c.undo
  /-- No line is added, and none gets longer. -/
  shortened : ∀ (i : Nat) (line : ConsoleLine), c.undo.2.lines[i]? = some line →
    ∃ suffix, c.lines[i]? = some ⟨line.text ++ suffix,line.isError⟩

theorem Keeps.marked {maxLines : Nat} {past : List Begun} (h : Keeps maxLines c none past) :
    Marked maxLines c past := by
  obtain ⟨hnewest,holder⟩ := List.pairwise_cons.mp h.grown
  have hundo := h.undo_eq
  have hleft : ∀ m ∈ c.batches, ∃ d, Grown d c ∧ d.mark = m := by
    intro m hm
    rw [h.batches] at hm
    obtain ⟨b,hb,rfl⟩ := List.mem_map.mp hm
    exact ⟨b.left,hnewest _ (List.mem_map_of_mem hb),rfl⟩
  refine ⟨h.cap ▸ h.sound.room,?_,fun m hm => ?_,fun m hm n hn => ?_,hundo,?_,fun i line hline => ?_⟩
  · rw [h.batches, List.pairwise_map]
    exact (List.pairwise_map.mp holder).imp fun hg => length_le_of_grown hg
  · obtain ⟨d,hg,rfl⟩ := hleft m hm
    exact length_le_of_grown hg
  · obtain ⟨d,hg,rfl⟩ := hleft m hm
    exact boundary_of_mark hg hn
  · cases past with
    | nil => simp [undo?, hundo, takenBack, h.batches]
    | cons b older =>
      have hg : Grown b.left c := hnewest _ (by simp)
      rw [undo?_of_mark (opened_without b.dropped b.console) hg h.batches, hundo, takenBack, h.batches]
      rfl
  · rw [hundo] at hline
    cases past with
    | nil => exact ⟨[],by rw [List.append_nil]; exact hline⟩
    | cons b older => exact (hnewest b.left (by simp)).getElem? hline

theorem fst_foldl_step (ops : List Operation) (state : Console × List Begun) :
    (ops.foldl Operation.step state).1 = ops.foldl Operation.apply state.1 := by
  induction ops generalizing state with
  | nil => rfl
  | cons op rest ih => exact ih (op.step state)

theorem batches_marked (maxLines : Nat) (ops : List Operation) :
    Marked maxLines (ops.foldl Operation.apply (ofCap maxLines)) (after maxLines ops).2 := by
  have hkept := Keeps.foldl_step (ofCap maxLines,[]) ops (keeps_ofCap maxLines)
  rw [fst_foldl_step] at hkept
  exact hkept.marked

/-- One of the lines goes within the batch, and the open line on which it began is cut back. -/
example : ([.writeOut "first\nopen", .writeChunks [.out "ed\nsecond\n", .out "third"]].foldl Operation.apply
    (ofCap 3)).undo.2.content = ([⟨"open",false⟩],true) := by decide +kernel

end StatementPad.Console
