import StatementPad.Proofs.Block.Statement

/-! # Which line the start search finds

The start of a block can be told without a search. A line that begins and continues nothing is its own start.
From any other line the block begins with the last line above that is code in the first column and no clause,
and with the topmost decorator that belongs to that line.
-/
namespace StatementPad.BlockStart
open Buffer
variable {b : Buffer} {a h i start : Nat} {expectAbove : Bool}

def LeastOr (p : Nat → Prop) (other n : Nat) : Prop := (p n ∧ ∀ i, i < n → ¬ p i) ∨ n = other ∧ ∀ i, ¬ p i

/-- The search does not end on line `a` right away. -/
def Climbs (b : Buffer) (a : Nat) (expectAbove : Bool) : Prop :=
  expectAbove = true ∨ (classAt b a).needsAbove = true ∨ (classAt b a).isDefinition = true ∨
    (classAt b a).isDecorator = true

structure Head (b : Buffer) (a h : Nat) : Prop where
  le : h ≤ a
  code : (classAt b h).isCode = true
  free : (classAt b h).needsAbove = false
  body : ∀ l, h < l → l ≤ a → (classAt b l).isCode = true → (classAt b l).needsAbove = true

/-- Only a definition or a decorator is reached over blank lines and comments. -/
def Bridged (b : Buffer) (h : Nat) : Prop :=
  (classAt b h).isDefinition = true ∨ (classAt b h).isDecorator = true ∨
    ∃ l, l + 1 = h ∧ (classAt b l).isDecorator = true

/-- `i` is a decorator above `h`, and no code but decorators stands between them. -/
structure Adorns (b : Buffer) (h i : Nat) : Prop where
  lt : i < h
  decorator : (classAt b i).isDecorator = true
  between : ∀ l, i < l → l < h → (classAt b l).isCode = true → (classAt b l).isDecorator = true
  bridged : Bridged b h

structure IsStart (b : Buffer) (a : Nat) (expectAbove : Bool) (start : Nat) : Prop where
  plain : ¬ Climbs b a expectAbove → start = a
  headless : Climbs b a expectAbove → (∀ h, ¬ Head b a h) →
    LeastOr (fun l => l ≤ a ∧ (classAt b l).isCode = true) a start
  headed : Climbs b a expectAbove → ∀ h, Head b a h → LeastOr (Adorns b h) h start

namespace LeastOr
variable {p q : Nat → Prop} {other m n : Nat}

theorem unique (hm : LeastOr p other m) (hn : LeastOr p other n) : m = n := by
  rcases hm with ⟨hm,hmin⟩ | ⟨rfl,hnone⟩
  · rcases hn with ⟨hn,hmin'⟩ | ⟨-,hnone⟩
    · exact Nat.le_antisymm (Nat.le_of_not_lt fun h => hmin n h hn) (Nat.le_of_not_lt fun h => hmin' m h hm)
    · exact absurd hm (hnone m)
  · rcases hn with ⟨hn,-⟩ | ⟨rfl,-⟩
    · exact absurd hn (hnone n)
    · rfl

theorem eq_other (hn : LeastOr p other n) (h : ∀ i, ¬ p i) : n = other := by
  rcases hn with ⟨hn,-⟩ | ⟨rfl,-⟩
  · exact absurd hn (h n)
  · rfl

theorem of_exists (hn : LeastOr p other n) (h : ∃ i, p i) : p n := by
  obtain ⟨i,hi⟩ := h
  rcases hn with ⟨hn,-⟩ | ⟨-,hnone⟩
  · exact hn
  · exact absurd hi (hnone i)

end LeastOr

/-! ## Heads and their decorators -/

namespace Head

theorem self (hc : (classAt b a).isCode = true) (hf : (classAt b a).needsAbove = false) : Head b a a :=
  ⟨le_rfl,hc,hf,fun l h1 h2 => absurd h1 (by omega)⟩

theorem succ (hh : Head b a h) (hbody : (classAt b (a + 1)).isCode = true → (classAt b (a + 1)).needsAbove = true) :
    Head b (a + 1) h := by
  refine ⟨hh.le.trans (Nat.le_succ a),hh.code,hh.free,fun l h1 h2 hc => ?_⟩
  rcases Nat.eq_or_lt_of_le h2 with rfl | h2
  · exact hbody hc
  · exact hh.body l h1 (by omega) hc

end Head

theorem exists_head {l : Nat} (hl : l ≤ a) (hc : (classAt b l).isCode = true)
    (hf : (classAt b l).needsAbove = false) : ∃ h, Head b a h := by
  induction a, hl using Nat.le_induction with
  | base => exact ⟨l,.self hc hf⟩
  | succ a _ ih =>
    obtain ⟨h,hh⟩ := ih
    by_cases hbody : (classAt b (a + 1)).isCode = true → (classAt b (a + 1)).needsAbove = true
    · exact ⟨h,hh.succ hbody⟩
    · rw [Classical.not_imp, Bool.not_eq_true] at hbody
      exact ⟨a + 1,.self hbody.1 hbody.2⟩

theorem needsAbove_of_headless (hnone : ∀ h, ¬ Head b a h) {l : Nat} (hl : l ≤ a)
    (hc : (classAt b l).isCode = true) : (classAt b l).needsAbove = true := by
  by_contra hf
  rw [Bool.not_eq_true] at hf
  obtain ⟨h,hh⟩ := exists_head hl hc hf
  exact hnone h hh

namespace Adorns

theorem head (hi : Adorns b h i) : Head b i i :=
  .self (LineClass.isCode_of_has hi.decorator) (Line.classify_decorator hi.decorator)

theorem trans {j : Nat} (hi : Adorns b h i) (hj : Adorns b i j) : Adorns b h j := by
  refine ⟨hj.lt.trans hi.lt,hj.decorator,fun l h1 h2 hc => ?_,hi.bridged⟩
  rcases Nat.lt_trichotomy l i with hl | rfl | hl
  · exact hj.between l h1 hl hc
  · exact hi.decorator
  · exact hi.between l hl h2 hc

theorem of_succ {l : Nat} (hd : (classAt b l).isDecorator = true) : Adorns b (l + 1) l :=
  ⟨Nat.lt_succ_self l,hd,fun m h1 h2 => absurd h1 (by omega),.inr (.inr ⟨l,rfl,hd⟩)⟩

end Adorns

theorem TopDecorator.leastOr {top : Nat} (ht : TopDecorator b h top) (hb : Bridged b h) :
    LeastOr (Adorns b h) h top := by
  have hmin (i : Nat) (hi : i < top) : ¬ Adorns b h i := by
    intro had
    obtain ⟨m,h1,h2,hc,hd⟩ := ht.topmost i hi had.decorator
    rw [had.between m h1 h2 hc] at hd
    cases hd
  rcases Nat.eq_or_lt_of_le ht.le with rfl | hlt
  · exact .inr ⟨rfl,fun i had => hmin i had.lt had⟩
  · have hd : (classAt b top).isDecorator = true := ht.decorates.resolve_left (by omega)
    exact .inl ⟨⟨hlt,hd,fun l h1 h2 => ht.reached l h1.le h2,hb⟩,hmin⟩

theorem leastOr_decoratorsAbove (b : Buffer) (h : Nat) :
    LeastOr (Adorns b h) h (decoratorsAbove b ((classAt b h).isDefinition || (classAt b h).isDecorator) h h) := by
  cases hd : (classAt b h).isDefinition || (classAt b h).isDecorator with
  | true =>
    have ht : TopDecorator b h (decoratorsAbove b true h h) :=
      topDecorator_decoratorsAbove le_rfl le_rfl (.inl rfl) (fun l h1 h2 => absurd h1 (by omega))
        (fun l h1 h2 => absurd h1 (by omega))
    exact ht.leastOr ((Bool.or_eq_true_iff.mp hd).imp_right .inl)
  | false =>
    obtain ⟨hdef,hdec⟩ := Bool.or_eq_false_iff.mp hd
    by_cases hl : ∃ l, l + 1 = h ∧ (classAt b l).isDecorator = true
    · obtain ⟨l,rfl,hl⟩ := hl
      have ht : TopDecorator b (l + 1) (decoratorsAbove b true l l) := by
        refine topDecorator_decoratorsAbove (Nat.le_succ l) le_rfl (.inr hl) (fun m h1 h2 _ => ?_)
          (fun m h1 h2 => absurd h1 (by omega))
        obtain rfl : m = l := by omega
        exact hl
      simpa [decoratorsAbove, hl] using ht.leastOr (.inr (.inr ⟨l,rfl,hl⟩))
    · rw [decoratorsAbove_of_undecorated (fun l he => by simpa using fun hd => hl ⟨l,he,hd⟩)]
      refine .inr ⟨rfl,fun i had => ?_⟩
      rcases had.bridged with hb | hb | hb
      · simp [hdef] at hb
      · simp [hdec] at hb
      · exact hl hb

/-! ## The search -/

theorem headAbove_of_plain (h : ¬ Climbs b a expectAbove) : headAbove b expectAbove a (a + 1) = a := by
  simp only [Climbs, not_or, Bool.not_eq_true] at h
  simp [headAbove, h]

/-- A line that makes the search go on makes it go on as if more were expected. -/
theorem headAbove_of_climbs {first : Nat} (h : Climbs b a expectAbove) :
    headAbove b expectAbove first (a + 1) = headAbove b true first (a + 1) := by
  simp only [headAbove, Bool.true_or, Bool.not_true, Bool.false_and, Bool.false_eq_true, ↓reduceIte]
  cases hmore : expectAbove || (classAt b a).needsAbove || (classAt b a).isDefinition with
  | true => simp
  | false =>
    simp only [Bool.or_eq_false_iff] at hmore
    obtain ⟨⟨rfl,hneeds⟩,hdef⟩ := hmore
    have hd : (classAt b a).isDecorator = true := by simpa [Climbs, hneeds, hdef] using h
    simp [hneeds, hd, LineClass.isCode_of_has hd]

/-- Without a head the search ends on the topmost code line. -/
theorem headAbove_headless {first n : Nat}
    (hbody : ∀ l, l < n → (classAt b l).isCode = true → (classAt b l).needsAbove = true) :
    LeastOr (fun l => l < n ∧ (classAt b l).isCode = true) first (headAbove b true first n) := by
  induction n generalizing first with
  | zero => exact .inr ⟨rfl,by simp⟩
  | succ above ih =>
    have hrest := fun l hl => hbody l (Nat.lt_succ_of_lt hl)
    simp only [headAbove, Bool.true_or, Bool.not_true, Bool.false_and, Bool.false_eq_true, ↓reduceIte]
    cases hc : (classAt b above).isCode with
    | false =>
      have hskip (l : Nat) : l < above + 1 ∧ (classAt b l).isCode = true ↔ l < above ∧ (classAt b l).isCode = true := by
        constructor
        · rintro ⟨hl,hlc⟩
          refine ⟨Nat.lt_of_le_of_ne (Nat.lt_succ_iff.mp hl) ?_,hlc⟩
          rintro rfl
          simp [hlc] at hc
        · rintro ⟨hl,hlc⟩
          exact ⟨Nat.lt_succ_of_lt hl,hlc⟩
      simpa only [LeastOr, hskip, Bool.false_eq_true, ↓reduceIte, Bool.not_false] using ih hrest
    | true =>
      rw [if_neg (by simp), if_pos (hbody above (Nat.lt_succ_self above) hc)]
      rcases ih hrest with ⟨⟨hlt,hcode⟩,hmin⟩ | ⟨he,hnone⟩
      · exact .inl ⟨⟨Nat.lt_succ_of_lt hlt,hcode⟩,fun i hi hic => hmin i hi ⟨hi.trans hlt,hic.2⟩⟩
      · rw [he]
        exact .inl ⟨⟨Nat.lt_succ_self above,hc⟩,fun i hi hic => hnone i ⟨hi,hic.2⟩⟩

theorem find_clamped (b : Buffer) (anchor : Nat) (expectAbove : Bool) :
    find b anchor expectAbove =
      headAbove b expectAbove (min anchor (b.length - 1)) (min anchor (b.length - 1) + 1) := by
  cases hn : b.length with
  | zero =>
    have hle : headAbove b expectAbove 0 1 ≤ 0 := headAbove_le le_rfl
    simpa [find, hn] using (Nat.le_zero.mp hle).symm
  | succ count => simp [find, hn]

theorem find_isStart (b : Buffer) (anchor : Nat) (expectAbove : Bool) :
    IsStart b (min anchor (b.length - 1)) expectAbove (find b anchor expectAbove) := by
  rw [find_clamped]
  refine ⟨headAbove_of_plain,fun hclimbs hnone => ?_,fun hclimbs h hh => ?_⟩
  · rw [headAbove_of_climbs hclimbs]
    simpa only [Nat.lt_succ_iff] using
      headAbove_headless (fun l hl => needsAbove_of_headless hnone (Nat.lt_succ_iff.mp hl))
  · rw [headAbove_of_climbs hclimbs, headAbove_climb hh.code hh.free (Nat.lt_succ_of_le hh.le)
      (fun l h1 h2 => hh.body l h1 (Nat.lt_succ_iff.mp h2))]
    exact leastOr_decoratorsAbove b h

namespace IsStart
variable {flag : Bool}

theorem le (hs : IsStart b a expectAbove start) : start ≤ a := by
  by_cases hclimbs : Climbs b a expectAbove
  · by_cases hhead : ∃ h, Head b a h
    · obtain ⟨h,hh⟩ := hhead
      rcases hs.headed hclimbs h hh with ⟨had,-⟩ | ⟨rfl,-⟩
      · exact had.lt.le.trans hh.le
      · exact hh.le
    · rcases hs.headless hclimbs (not_exists.mp hhead) with ⟨hle,-⟩ | ⟨rfl,-⟩
      · exact hle.1
      · exact le_rfl
  · exact (hs.plain hclimbs).le

theorem eq_of_head {a' start' : Nat} (hs : IsStart b a expectAbove start) (hs' : IsStart b a' flag start')
    (hclimbs : Climbs b a expectAbove) (hclimbs' : Climbs b a' flag) (hh : Head b a h) (hh' : Head b a' h) :
    start' = start :=
  (hs'.headed hclimbs' h hh').unique (hs.headed hclimbs h hh)

/-- The start of a line that the search goes on from is its own start. -/
theorem again {start' : Nat} (hs : IsStart b a expectAbove start) (hclimbs : Climbs b a expectAbove)
    (hs' : IsStart b start flag start') : start' = start := by
  by_cases hclimbs' : Climbs b start flag
  · by_cases hhead : ∃ h, Head b a h
    · obtain ⟨h,hh⟩ := hhead
      rcases hs.headed hclimbs h hh with ⟨had,hmin⟩ | ⟨rfl,hnone⟩
      · exact (hs'.headed hclimbs' start had.head).eq_other fun j hj => hmin j hj.lt (had.trans hj)
      · exact (hs'.headed hclimbs' start (.self hh.code hh.free)).eq_other hnone
    · have hnone := not_exists.mp hhead
      have hle := hs.le
      have hnone' (h : Nat) : ¬ Head b start h := fun hh => by
        have hneeds := needsAbove_of_headless hnone (hh.le.trans hle) hh.code
        rw [hh.free] at hneeds
        cases hneeds
      rcases hs.headless hclimbs hnone with ⟨⟨-,hc⟩,hmin⟩ | ⟨rfl,hempty⟩
      · refine (hs'.headless hclimbs' hnone').unique (.inl ⟨⟨le_rfl,hc⟩,fun i hi hic => ?_⟩)
        exact hmin i hi ⟨hic.1.trans hle,hic.2⟩
      · exact (hs'.headless hclimbs' hnone').eq_other hempty
  · exact hs'.plain hclimbs'

/-- A plain line is its own start also if more is expected above it, unless there is something above it: a
decorator right above code, or any code above a blank line or a comment. -/
theorem eq_self_iff (hplain : ¬ Climbs b a false) (hs : IsStart b a true start) :
    start = a ↔ NoCode b 0 (a + 1) ∨
      (classAt b a).isCode = true ∧ ∀ l, l + 1 = a → (classAt b l).isDecorator = false := by
  simp only [Climbs, Bool.false_eq_true, false_or, not_or, Bool.not_eq_true] at hplain
  obtain ⟨hfree,hdef,hdec⟩ := hplain
  cases hc : (classAt b a).isCode with
  | true =>
    have hleast := hs.headed (.inl rfl) a (.self hc hfree)
    have hcode : ¬ NoCode b 0 (a + 1) := fun hn => hn.not_isCode (Nat.zero_le a) (Nat.lt_succ_self a) hc
    rw [or_iff_right hcode, and_iff_right rfl]
    constructor
    · rintro rfl l rfl
      by_contra hd
      rw [Bool.not_eq_false] at hd
      exact absurd (hleast.of_exists ⟨l,.of_succ hd⟩).lt (Nat.lt_irrefl _)
    · intro hbare
      refine hleast.eq_other fun i had => ?_
      rcases had.bridged with hb | hb | ⟨l,hl,hb⟩
      · simp [hdef] at hb
      · simp [hdec] at hb
      · simp [hbare l hl] at hb
  | false =>
    rw [or_iff_left (by simp)]
    constructor
    · rintro rfl l - hl
      by_contra hlc
      rw [Bool.not_eq_false] at hlc
      by_cases hhead : ∃ h, Head b start h
      · obtain ⟨h,hh⟩ := hhead
        have hcs : (classAt b start).isCode = true := by
          rcases hs.headed (.inl rfl) h hh with ⟨had,-⟩ | ⟨he,-⟩
          · exact LineClass.isCode_of_has had.decorator
          · exact he ▸ hh.code
        simp [hcs] at hc
      · have hcode := ((hs.headless (.inl rfl) (not_exists.mp hhead)).of_exists ⟨l,Nat.lt_succ_iff.mp hl,hlc⟩).2
        simp [hcode] at hc
    · intro hnone
      have hempty (l : Nat) : ¬ (l ≤ a ∧ (classAt b l).isCode = true) :=
        fun hl => hnone.not_isCode (Nat.zero_le l) (Nat.lt_succ_iff.mpr hl.1) hl.2
      exact (hs.headless (.inl rfl) fun h hh => hempty h ⟨hh.le,hh.code⟩).eq_other hempty

end IsStart

structure Resolves (b : Buffer) (a : Nat) (expectAbove : Bool) (start : Nat) : Prop
    extends IsStart b a expectAbove start where
  le : start ≤ a
  /-- The search cannot be moved by asking again, whatever is expected. -/
  again : Climbs b a expectAbove → ∀ flag, find b start flag = start
  /-- A line that was its own start stays so, unless more is expected now and there is something above. -/
  again_plain : ¬ Climbs b a expectAbove → ∀ flag, find b start flag = start ↔
    flag = false ∨ NoCode b 0 (a + 1) ∨
      (classAt b a).isCode = true ∧ ∀ l, l + 1 = a → (classAt b l).isDecorator = false
  /-- Lines below one head have one start. -/
  shared : Climbs b a expectAbove → ∀ h, Head b a h → ∀ a' < b.length, Head b a' h →
    ∀ flag, Climbs b a' flag → find b a' flag = start

theorem find_resolves (b : Buffer) (anchor : Nat) (expectAbove : Bool) :
    Resolves b (min anchor (b.length - 1)) expectAbove (find b anchor expectAbove) := by
  have hs := find_isStart b anchor expectAbove
  have hle := hs.le
  have hinside {a' : Nat} (ha : a' ≤ b.length - 1) (flag : Bool) : IsStart b a' flag (find b a' flag) := by
    simpa [Nat.min_eq_left ha] using find_isStart b a' flag
  refine ⟨hs,hle,fun hclimbs flag => ?_,fun hplain flag => ?_,fun hclimbs h hh a' ha hh' flag hclimbs' => ?_⟩
  · exact hs.again hclimbs (hinside (hle.trans (Nat.min_le_right ..)) flag)
  · have hfalse : ¬ Climbs b (min anchor (b.length - 1)) false := fun h => hplain (.inr (h.resolve_left (by simp)))
    rw [hs.plain hplain]
    cases flag with
    | false => simpa using (hinside (Nat.min_le_right ..) false).plain hfalse
    | true => simpa using IsStart.eq_self_iff hfalse (hinside (Nat.min_le_right ..) true)
  · exact hs.eq_of_head (hinside (by omega) flag) hclimbs hclimbs' hh hh'

/-- Below code a blank line is its own start only as long as nothing is expected above it. -/
theorem find_again_differs : ¬ ∀ (b : Buffer) (anchor : Nat) (expectAbove flag : Bool), b ≠ [] →
    find b (find b anchor expectAbove) flag = find b anchor expectAbove := by
  intro h
  have hagain := h (Buffer.ofText "x = 1\n") 1 false true (by decide +kernel)
  revert hagain
  decide +kernel

/-- The lines of a definition share its decorators, which are reached over a comment. -/
example : [3, 4, 5].map (fun anchor => find
    (Buffer.ofText "@a\n# b\n@c\ndef f():\n  return 1\n  # d\nx") anchor true) = [0, 0, 0] := by decide +kernel

end StatementPad.BlockStart
