import StatementPad.Probe
import StatementPad.Proofs.Block
import StatementPad.Proofs.Block.Ends
import StatementPad.Proofs.Block.Start
import StatementPad.Proofs.Cell
import StatementPad.Proofs.Run.Path

/-! # What a probe does

A probe does nothing but compile blocks, one after the other. What it finds is the verdict on the last of
them, and all verdicts before it asked for more lines. Together with its end, a block that grows from a line
of code covers every code line between that line and the end.
-/
namespace StatementPad.Probe
open Buffer StatementPad.Task
variable {b : Buffer} {filename : Text} {allowed : List TaskStep → TaskStep → Prop} {past : List TaskStep}

abbrev Trial := CodeBlock × Except Fault Verdict

def trialSteps (filename : Text) (trial : Trial) : List TaskStep :=
  [.asked (.compile trial.1.start filename trial.1.text),
    .answered (.compile trial.1.start filename trial.1.text) trial.2]

/-- After `past` and any trials, one more trial is allowed. -/
def Compiles (allowed : List TaskStep → TaskStep → Prop) (filename : Text) (past : List TaskStep) : Prop :=
  ∀ (trials : List Trial) (block : CodeBlock) (verdict : Except Fault Verdict),
    let before := past ++ trials.flatMap (trialSteps filename)
    allowed before (.asked (.compile block.start filename block.text)) ∧
      allowed (before ++ [.asked (.compile block.start filename block.text)])
        (.answered (.compile block.start filename block.text) verdict)

theorem Compiles.trial (h : Compiles allowed filename past) (trial : Trial) :
    Compiles allowed filename (past ++ trialSteps filename trial) := by
  intro trials block verdict
  simpa using h (trial :: trials) block verdict

theorem meets_judge {block : CodeBlock} {post : Except Fault Verdict → List TaskStep → Prop}
    (hc : Compiles allowed filename past) (hb : block.isEmpty = false)
    (hpost : ∀ verdict, post verdict (past ++ trialSteps filename (block,verdict))) :
    Meets allowed post past (judge filename block) := by
  rw [judge, if_neg (by simp [hb])]
  refine ⟨?_,fun verdict => ⟨?_,hpost verdict⟩⟩
  · simpa using (hc [] block (.ok .incomplete)).1
  · simpa using (hc [] block verdict).2

/-! ## The request -/

def anchor (b : Buffer) (selection : LineSelection) : Nat := min selection.start (b.length - 1)

def takesCell (b : Buffer) (selection : LineSelection) (mode : RunMode) : Bool :=
  mode = .cell || startsOnMarker b selection

def cellRange (b : Buffer) (selection : LineSelection) : RunMode → Option LineRange
  | .cell => Cell.enclosing b selection.cursor
  | .block => Cell.body b selection.start

theorem find_of_takesCell {selection : LineSelection} {mode : RunMode} (requireInside : Bool)
    (hb : b.isEmpty = false) (hcell : takesCell b selection mode = true) :
    find b filename selection mode requireInside = find.ofRange b filename (cellRange b selection mode) := by
  unfold find
  rw [if_neg (by simp [hb])]
  cases mode with
  | cell => rfl
  | block => simp_all [takesCell, cellRange]

theorem find_of_not_takesCell {selection : LineSelection} {mode : RunMode} (requireInside : Bool)
    (hb : b.isEmpty = false) (hcell : takesCell b selection mode = false) :
    find b filename selection mode requireInside = ofSelection b filename selection requireInside := by
  unfold find
  rw [if_neg (by simp [hb])]
  cases mode with
  | cell => simp [takesCell] at hcell
  | block => simp_all [takesCell]

theorem cellRange_some {selection : LineSelection} {mode : RunMode} {range : LineRange}
    (h : cellRange b selection mode = some range) :
    range.start ≤ range.stop ∧ Text.allBlank (line b range.stop) = false := by
  cases mode with
  | cell =>
    obtain ⟨h1,-,h2⟩ := Cell.enclosing_some h
    exact ⟨h1,h2⟩
  | block =>
    obtain ⟨he,h1,-,h2⟩ := Cell.below_some h
    exact ⟨by omega,h2⟩

/-! ## The result -/

/-- What the verdict on the last block comes to when there is none to go on with. -/
def concluded (inside : Option Nat) (whenMore : CodeBlock → Probe) (trial : Trial) : Except Fault Probe :=
  (settle? inside trial.1 trial.2).getD (.ok (whenMore trial.1))

inductive Finding (b : Buffer) (selection : LineSelection) (mode : RunMode) (inside : Option Nat) :
    List Trial → Except Fault Probe → Prop where
  | noCode (h : NoCode b (anchor b selection) b.length) : Finding b selection mode inside [] (.ok .empty)
  | noCell (hcell : takesCell b selection mode = true) (hrange : cellRange b selection mode = none) :
      Finding b selection mode inside [] (.ok .empty)
  | cell {range : LineRange} {verdict : Except Fault Verdict} (hcell : takesCell b selection mode = true)
      (hrange : cellRange b selection mode = some range) :
      Finding b selection mode inside [(.ofBuffer b range.start range.stop,verdict)]
        (concluded none incomplete (.ofBuffer b range.start range.stop,verdict))
  | grown {start last : Nat} {earlier : List Trial} {verdict : Except Fault Verdict}
      (hcell : takesCell b selection mode = false)
      (hstart : ∀ l, anchor b selection ≤ l → (classAt b l).isCode = true → start ≤ l)
      (hearlier : ∀ trial ∈ earlier, trial.2 = .ok .incomplete) (hlast : anchor b selection ≤ last)
      (hle : start ≤ last) : Finding b selection mode inside (earlier ++ [(.ofBuffer b start last,verdict)])
        (concluded inside exhausted (.ofBuffer b start last,verdict))

structure Reached (b : Buffer) (selection : LineSelection) (mode : RunMode) (trials : List Trial)
    (block : CodeBlock) (verdict : Verdict) : Prop where
  snapshot : block = .ofBuffer b block.start block.stop
  le : block.start ≤ block.stop
  trials : ∃ earlier, trials = earlier ++ [(block,.ok verdict)] ∧
    (∀ trial ∈ earlier, trial.2 = .ok .incomplete) ∧ (takesCell b selection mode = true → earlier = [])
  cell : takesCell b selection mode = true → cellRange b selection mode = some ⟨block.start,block.stop⟩
  grown : takesCell b selection mode = false → anchor b selection ≤ block.stop ∧
    ∀ l, anchor b selection ≤ l → (classAt b l).isCode = true → block.start ≤ l

theorem concluded_ready {inside : Option Nat} {trial : Trial} {whenMore : CodeBlock → Probe} {block : CodeBlock}
    {expression : Bool} (hmore : ∀ block', whenMore block' ≠ ready block expression)
    (h : concluded inside whenMore trial = .ok (ready block expression)) :
    trial = (block,.ok (if expression then .expression else .statements)) := by
  obtain ⟨block',fault | verdict⟩ := trial
  · cases h
  · cases verdict with
    | incomplete => exact absurd (Except.ok.inj h) (hmore block')
    | syntaxError report => cases h
    | expression | statements =>
      simp only [concluded, settle?, confirm, Option.getD_some, Except.ok.injEq] at h
      split at h
      · cases h
        rfl
      · cases h

theorem concluded_exhausted {inside : Option Nat} {trial : Trial} {whenMore : CodeBlock → Probe}
    {block : CodeBlock} (h : concluded inside whenMore trial = .ok (exhausted block)) :
    trial.2 = .ok .incomplete ∧ whenMore trial.1 = exhausted block := by
  obtain ⟨block',fault | verdict⟩ := trial
  · cases h
  · cases verdict with
    | incomplete => exact ⟨rfl,Except.ok.inj h⟩
    | syntaxError report => cases h
    | expression | statements =>
      simp only [concluded, settle?, confirm, Option.getD_some, Except.ok.injEq] at h
      split at h <;> cases h

theorem concluded_ne_nothing {trial : Trial} {whenMore : CodeBlock → Probe} {found : Probe}
    (hmore : ¬ (whenMore trial.1 = .empty ∨ whenMore trial.1 = .outside))
    (h : concluded none whenMore trial = .ok found) : ¬ (found = .empty ∨ found = .outside) := by
  obtain ⟨block,fault | verdict⟩ := trial
  · cases h
  · cases verdict with
    | incomplete =>
      cases h
      exact hmore
    | expression | statements | syntaxError report =>
      cases h
      simp [confirm]

theorem Finding.ready {selection : LineSelection} {mode : RunMode} {inside : Option Nat} {trials : List Trial}
    {block : CodeBlock} {expression : Bool}
    (h : Finding b selection mode inside trials (.ok (ready block expression))) :
    Reached b selection mode trials block (if expression then .expression else .statements) := by
  generalize he : (Except.ok (Probe.ready block expression) : Except Fault Probe) = found at h
  cases h with
  | noCode hn => cases he
  | noCell hcell hrange => cases he
  | @cell range verdict hcell hrange =>
    obtain ⟨rfl,rfl⟩ := Prod.mk.inj (concluded_ready (fun _ h => by cases h) he.symm)
    exact ⟨rfl,(cellRange_some hrange).1,⟨[],rfl,by simp,fun _ => rfl⟩,fun _ => hrange,
      fun hn => by simp [hcell] at hn⟩
  | @grown start last earlier verdict hcell hstart hearlier hlast hle =>
    obtain ⟨rfl,rfl⟩ := Prod.mk.inj (concluded_ready (fun _ h => by cases h) he.symm)
    exact ⟨rfl,hle,⟨earlier,rfl,hearlier,fun hc => by simp [hcell] at hc⟩,fun hc => by simp [hcell] at hc,
      fun _ => ⟨hlast,hstart⟩⟩

theorem Finding.exhausted {selection : LineSelection} {mode : RunMode} {inside : Option Nat}
    {trials : List Trial} {block : CodeBlock}
    (h : Finding b selection mode inside trials (.ok (exhausted block))) :
    takesCell b selection mode = false ∧ Reached b selection mode trials block .incomplete := by
  generalize he : (Except.ok (Probe.exhausted block) : Except Fault Probe) = found at h
  cases h with
  | noCode hn => cases he
  | noCell hcell hrange => cases he
  | @cell range verdict hcell hrange => cases (concluded_exhausted he.symm).2
  | @grown start last earlier verdict hcell hstart hearlier hlast hle =>
    obtain ⟨hv,hb⟩ := concluded_exhausted he.symm
    obtain rfl := hv
    obtain rfl := exhausted.inj hb
    exact ⟨hcell,rfl,hle,⟨earlier,rfl,hearlier,fun hc => by simp [hcell] at hc⟩,fun hc => by simp [hcell] at hc,
      fun _ => ⟨hlast,hstart⟩⟩

/-- Without a line that the block has to hold, nothing is found only where no code is, or in a blank cell. -/
theorem Finding.nothing {selection : LineSelection} {mode : RunMode} {trials : List Trial} {found : Probe}
    (h : Finding b selection mode none trials (.ok found)) (hfound : found = .empty ∨ found = .outside) :
    NoCode b (anchor b selection) b.length ∨
      takesCell b selection mode = true ∧ cellRange b selection mode = none := by
  generalize he : (Except.ok found : Except Fault Probe) = result at h
  cases h with
  | noCode hn => exact .inl hn
  | noCell hcell hrange => exact .inr ⟨hcell,hrange⟩
  | cell hcell hrange => exact absurd hfound (concluded_ne_nothing (by simp) he.symm)
  | grown hcell hstart hearlier hlast hle => exact absurd hfound (concluded_ne_nothing (by simp) he.symm)

theorem settle?_eq_none {inside : Option Nat} {block : CodeBlock} {verdict : Except Fault Verdict}
    (h : settle? inside block verdict = none) : verdict = .ok .incomplete := by
  rcases verdict with fault | verdict
  · cases h
  · cases verdict <;> first | rfl | cases h

/-- A block grows for as long as it is incomplete. `least` is an end that holds code. -/
theorem meets_grow {inside : Option Nat} {start least l stop : Nat} {nexts : List Nat}
    (hc : Compiles allowed filename past) (h1 : start ≤ l) (h2 : l ≤ least)
    (hcode : (classAt b l).isCode = true) (hstop : least ≤ stop) (hnexts : ∀ next ∈ nexts, least ≤ next) :
    Meets allowed (fun found steps => ∃ earlier last verdict,
        steps = past ++ (earlier ++ [(CodeBlock.ofBuffer b start last,verdict)]).flatMap (trialSteps filename) ∧
        (∀ trial ∈ earlier, trial.2 = .ok .incomplete) ∧ least ≤ last ∧
        found = concluded inside exhausted (CodeBlock.ofBuffer b start last,verdict))
      past (grow b filename inside start stop nexts) := by
  have hne {stop : Nat} (h : least ≤ stop) : (CodeBlock.ofBuffer b start stop).isEmpty = false :=
    CodeBlock.isEmpty_ofBuffer h1 (h2.trans h) (not_allBlank_of_isCode hcode)
  induction nexts generalizing past stop with
  | nil =>
    rw [grow, meets_bind]
    refine meets_judge hc (hne hstop) (fun verdict => meets_pure.mpr ⟨[],stop,verdict,?_,?_,hstop,?_⟩)
    · simp
    · simp
    · rw [hne hstop]
      rfl
  | cons next more ih =>
    rw [grow, meets_bind]
    refine meets_judge hc (hne hstop) (fun verdict => ?_)
    cases hs : settle? inside (CodeBlock.ofBuffer b start stop) verdict with
    | some result =>
      refine meets_pure.mpr ⟨[],stop,verdict,by simp,by simp,hstop,?_⟩
      rw [concluded, hs]
      rfl
    | none =>
      refine (ih (hc.trial (CodeBlock.ofBuffer b start stop,verdict)) (hnexts next (by simp))
        (fun n hn => hnexts n (by simp [hn]))).mono (fun _ _ h => h) ?_
      rintro found steps ⟨earlier,last,verdict',rfl,hearlier,hlast,hfound⟩
      refine ⟨(CodeBlock.ofBuffer b start stop,verdict) :: earlier,last,verdict',by simp,?_,hlast,hfound⟩
      rw [List.forall_mem_cons]
      exact ⟨settle?_eq_none hs,hearlier⟩

/-- The start stands above the first code line, and the first end does not cut off all code. -/
theorem start_spec {anchor limit f : Nat} {first : EndCandidate} (ha : anchor < b.length)
    (hfirst : Offered b anchor limit first) (hf : first.firstCode = some f) :
    let start := BlockStart.find b (startHint anchor first) first.needsAbove
    start ≤ f ∧ ∃ l, start ≤ l ∧ l ≤ max first.stop start ∧ (classAt b l).isCode = true := by
  obtain ⟨haf,hfc,-,-⟩ := hfirst.first f hf
  cases habove : first.needsAbove with
  | true =>
    have hle := BlockStart.find_le ha true
    have hreach := hfirst.reach f hf habove
    simp only [startHint, habove, if_true]
    exact ⟨by omega,f,by omega,by omega,hfc⟩
  | false =>
    simp only [startHint, habove, hf, Option.getD_some, Bool.false_eq_true, if_false]
    exact ⟨BlockStart.find_le (lt_length_of_isCode hfc) false,_,le_rfl,le_max_right _ _,
      BlockStart.find_isCode hfc false⟩

def Finds (b : Buffer) (filename : Text) (selection : LineSelection) (mode : RunMode) (inside : Option Nat)
    (past : List TaskStep) (found : Except Fault Probe) (steps : List TaskStep) : Prop :=
  ∃ trials, steps = past ++ trials.flatMap (trialSteps filename) ∧ Finding b selection mode inside trials found

section Find
variable {selection : LineSelection} {mode : RunMode}

theorem meets_empty {inside : Option Nat} (h : Finding b selection mode inside [] (.ok .empty)) :
    Meets allowed (Finds b filename selection mode inside past) past (pure (.ok .empty)) :=
  meets_pure.mpr ⟨[],by simp,h⟩

theorem meets_ofCell {inside : Option Nat} (hc : Compiles allowed filename past)
    (hcell : takesCell b selection mode = true) :
    Meets allowed (Finds b filename selection mode inside past) past
      (find.ofRange b filename (cellRange b selection mode)) := by
  cases hr : cellRange b selection mode with
  | none => exact meets_empty (.noCell hcell hr)
  | some range =>
    obtain ⟨h1,h2⟩ := cellRange_some hr
    have hfinding (verdict : Except Fault Verdict) : Finding b selection mode inside _ _ :=
      @Finding.cell _ _ _ _ _ verdict hcell hr
    rw [find.ofRange, ofCell, meets_bind]
    refine meets_judge hc (CodeBlock.isEmpty_ofBuffer h1 le_rfl h2) (fun verdict => ?_)
    have hdone {found : Except Fault Probe}
        (he : found = concluded none incomplete (CodeBlock.ofBuffer b range.start range.stop,verdict)) :
        Meets allowed (Finds b filename selection mode inside past)
          (past ++ trialSteps filename (CodeBlock.ofBuffer b range.start range.stop,verdict)) (pure found) :=
      meets_pure.mpr ⟨[_],by simp,he ▸ hfinding verdict⟩
    rcases verdict with fault | verdict
    · exact hdone rfl
    · cases verdict <;> exact hdone rfl

theorem meets_ofSelection (requireInside : Bool) (hc : Compiles allowed filename past) (hb : b.isEmpty = false)
    (hcell : takesCell b selection mode = false) :
    Meets allowed (Finds b filename selection mode (if requireInside then some selection.cursor else none) past)
      past (ofSelection b filename selection requireInside) := by
  have hpos : 0 < b.length := List.length_pos_iff.mpr (List.isEmpty_eq_false_iff.mp hb)
  have ha : anchor b selection < b.length := by unfold anchor; omega
  obtain ⟨first,more,hoff⟩ := List.exists_cons_of_ne_nil (EndScan.offers_ne_nil b
    (max (anchor b selection) (min selection.stop (b.length - 1))) { lastCode := anchor b selection }
    (List.range' (anchor b selection) (min b.length b.length - anchor b selection)))
  have hoffered := ((Scanned.start b (anchor b selection)).offers_spec (hoff ▸ List.mem_cons_self ..)).1
  rw [Nat.min_self, Nat.add_sub_cancel' ha.le] at hoffered
  unfold ofSelection
  simp only
  rw [show min selection.start (b.length - 1) = anchor b selection from rfl, candidates_eq_cons hoff]
  cases hf : first.firstCode with
  | none =>
    simp only [EndCandidate.isEmpty, hf, Option.isNone_none, if_true]
    exact meets_empty (.noCode (hoffered.empty hf))
  | some f =>
    obtain ⟨-,-,hgap,-⟩ := hoffered.first f hf
    obtain ⟨hle,l,h1,h2,hcode⟩ := start_spec ha hoffered hf
    have hstop := hoffered.le_stop
    simp only [EndCandidate.isEmpty, hf, Option.isNone_some, Bool.false_eq_true, if_false]
    refine (meets_grow hc h1 h2 hcode le_rfl (by simp; omega)).mono (fun _ _ h => h) ?_
    rintro found steps ⟨earlier,last,verdict,rfl,hearlier,hlast,rfl⟩
    refine ⟨_,rfl,.grown hcell (fun l hl hlc => hle.trans ?_) hearlier (by omega) (by omega)⟩
    by_contra hlf
    exact hgap.not_isCode hl (by omega) hlc

theorem meets_find (requireInside : Bool) (hc : Compiles allowed filename past) :
    Meets allowed (Finds b filename selection mode (if requireInside then some selection.cursor else none) past)
      past (find b filename selection mode requireInside) := by
  cases hb : b.isEmpty with
  | true =>
    obtain rfl := List.isEmpty_iff.mp hb
    exact meets_empty (.noCode (.of_le (Nat.zero_le _)))
  | false =>
    cases hcell : takesCell b selection mode with
    | true =>
      rw [find_of_takesCell requireInside hb hcell]
      exact meets_ofCell hc hcell
    | false =>
      rw [find_of_not_takesCell requireInside hb hcell]
      exact meets_ofSelection requireInside hc hb hcell

end Find
end StatementPad.Probe
