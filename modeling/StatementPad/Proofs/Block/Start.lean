import StatementPad.Block.Start
import StatementPad.Proofs.Line

/-! # Laws of the start search

The search never goes below its anchor. From a line in the body of a statement it climbs to the head of the
statement, and from a definition on to the topmost of its decorators.
-/
namespace StatementPad.BlockStart
open Buffer
variable {b : Buffer}

/-- `top` is the topmost decorator that is reached from `head` over blank lines, comments and decorators,
or `head` itself if none is. -/
structure TopDecorator (b : Buffer) (head top : Nat) : Prop where
  le : top ≤ head
  decorates : top = head ∨ (classAt b top).isDecorator = true
  reached : ∀ l, top ≤ l → l < head → (classAt b l).isCode = true → (classAt b l).isDecorator = true
  topmost : ∀ l, l < top → (classAt b l).isDecorator = true →
    ∃ m, l < m ∧ m < head ∧ (classAt b m).isCode = true ∧ (classAt b m).isDecorator = false

/-- What the search keeps: `first` decorates `head`, and nothing below the lines it has not looked at
cuts off a decorator. -/
theorem topDecorator_decoratorsAbove {head first n : Nat} (hle : first ≤ head) (hn : n ≤ first)
    (hfirst : first = head ∨ (classAt b first).isDecorator = true)
    (hreached : ∀ l, first ≤ l → l < head → (classAt b l).isCode = true → (classAt b l).isDecorator = true)
    (hgap : ∀ l, n ≤ l → l < first → (classAt b l).isCode = false) :
    TopDecorator b head (decoratorsAbove b true first n) := by
  induction n generalizing first with
  | zero =>
    refine ⟨hle,hfirst,hreached,?_⟩
    intro l hl hd
    have hg := hgap l (Nat.zero_le l) hl
    rw [LineClass.isCode_of_has hd] at hg
    cases hg
  | succ above ih =>
    simp only [decoratorsAbove, Bool.true_and, Bool.not_eq_true']
    split
    next hd =>
      refine ih (by omega) le_rfl (.inr hd) ?_ (by omega)
      intro l hl hlh hc
      rcases Nat.lt_trichotomy l first with h | rfl | h
      · rcases Nat.eq_or_lt_of_le hl with rfl | hl
        · exact hd
        · simp [hgap l hl h] at hc
      · exact hreached l le_rfl hlh hc
      · exact hreached l h.le hlh hc
    next hd =>
      split
      next hc =>
        refine ih hle (by omega) hfirst hreached ?_
        intro l hl hlf
        rcases Nat.eq_or_lt_of_le hl with rfl | hl
        · exact hc
        · exact hgap l hl hlf
      next hc =>
        refine ⟨hle,hfirst,hreached,?_⟩
        intro l hl hld
        rcases Nat.lt_trichotomy l above with h | rfl | h
        · exact ⟨above,h,by omega,by simpa using hc,by simpa using hd⟩
        · exact absurd hld hd
        · have hg := hgap l h hl
          rw [LineClass.isCode_of_has hld] at hg
          cases hg

theorem decoratorsAbove_le {decorated : Bool} {first n : Nat} (hn : n ≤ first) :
    decoratorsAbove b decorated first n ≤ first := by
  induction n generalizing decorated first with
  | zero => exact le_rfl
  | succ above ih =>
    simp only [decoratorsAbove]
    split
    · exact (ih le_rfl).trans (by omega)
    · split
      · exact ih (by omega)
      · exact le_rfl

theorem headAbove_le {needsMore : Bool} {first n : Nat} (hn : n ≤ first + 1) :
    headAbove b needsMore first n ≤ first := by
  induction n generalizing needsMore first with
  | zero => exact le_rfl
  | succ above ih =>
    simp only [headAbove]
    split
    · exact le_rfl
    · split
      · exact ih (by omega)
      · split
        · exact (ih (by omega)).trans (by omega)
        · exact (decoratorsAbove_le le_rfl).trans (by omega)

theorem decoratorsAbove_isCode {decorated : Bool} {first n : Nat} (hc : (classAt b first).isCode = true) :
    (classAt b (decoratorsAbove b decorated first n)).isCode = true := by
  induction n generalizing decorated first with
  | zero => exact hc
  | succ above ih =>
    simp only [decoratorsAbove]
    split
    next hd => exact ih (LineClass.isCode_of_has hd)
    next =>
      split
      · exact ih hc
      · exact hc

theorem headAbove_isCode {needsMore : Bool} {first n : Nat} (hc : (classAt b first).isCode = true) :
    (classAt b (headAbove b needsMore first n)).isCode = true := by
  induction n generalizing needsMore first with
  | zero => exact hc
  | succ above ih =>
    simp only [headAbove]
    split
    · exact hc
    · split
      · exact ih hc
      next habove =>
        rw [Bool.not_eq_true, Bool.not_eq_false'] at habove
        split
        · exact ih habove
        · exact decoratorsAbove_isCode habove

theorem find_eq {anchor : Nat} (h : anchor < b.length) (expectAbove : Bool) :
    find b anchor expectAbove = headAbove b expectAbove anchor (anchor + 1) := by
  obtain ⟨count,hc⟩ := Nat.exists_eq_add_one_of_ne_zero (Nat.ne_of_gt (Nat.zero_lt_of_lt h))
  simp only [find, hc]
  rw [Nat.min_eq_left (by omega)]

theorem find_le {anchor : Nat} (h : anchor < b.length) (expectAbove : Bool) :
    find b anchor expectAbove ≤ anchor := by
  rw [find_eq h]
  exact headAbove_le le_rfl

theorem find_isCode {anchor : Nat} (hc : (classAt b anchor).isCode = true) (expectAbove : Bool) :
    (classAt b (find b anchor expectAbove)).isCode = true := by
  rw [find_eq (lt_length_of_isCode hc)]
  exact headAbove_isCode hc

/-- Once more is needed, the search passes every line that begins nothing and stops at the first that does. -/
theorem headAbove_climb {head first n : Nat} (hhead : (classAt b head).isCode = true)
    (hfree : (classAt b head).needsAbove = false) (hn : head < n)
    (hbody : ∀ l, head < l → l < n → (classAt b l).isCode = true → (classAt b l).needsAbove = true) :
    headAbove b true first n =
      decoratorsAbove b ((classAt b head).isDefinition || (classAt b head).isDecorator) head head := by
  induction n generalizing first with
  | zero => omega
  | succ above ih =>
    simp only [headAbove, Bool.true_or, Bool.not_true, Bool.false_and, Bool.false_eq_true, ↓reduceIte]
    rcases Nat.eq_or_lt_of_le (Nat.lt_succ_iff.mp hn) with rfl | hlt
    · simp [hhead, hfree]
    · have hrest := fun l h1 h2 => hbody l h1 (Nat.lt_succ_of_lt h2)
      split
      · exact ih hlt hrest
      next hc =>
        rw [if_pos (hbody above hlt (Nat.lt_succ_self above) (by simpa using hc))]
        exact ih hlt hrest

end StatementPad.BlockStart
