import StatementPad.Proofs.Block.Head

/-! # Decorators with wrapped arguments

From a definition the start search goes up over decorators, blank lines and comments. The lines on which a decorator
goes on are none of these: where the arguments of a decorator are wrapped, the search stops below them, and the
definition is taken without that decorator and those above it.
-/
namespace StatementPad.BlockStart
open Buffer
variable {b : Buffer} {a i j : Nat}

/-- Line `i` decorates the definition on line `j`. What stands between them is blank, a comment or another decorator,
or it is indented, as the arguments of a decorator are that go on below it. -/
structure Decorates (b : Buffer) (i j : Nat) : Prop where
  lt : i < j
  decorator : (classAt b i).isDecorator = true
  definition : (classAt b j).isDefinition = true
  between : ∀ l, i < l → l < j → (classAt b l).isCode = true →
    (classAt b l).isDecorator = true ∨ (classAt b l).isIndented = true

/-- The code line `a` belongs to the definition on line `j`: all code down to it is indented. -/
structure InBody (b : Buffer) (j a : Nat) : Prop where
  le : j ≤ a
  code : (classAt b a).isCode = true
  indented : ∀ l, j < l → l ≤ a → (classAt b l).isCode = true → (classAt b l).isIndented = true

theorem LeastOr.le_of {p : Nat → Prop} {other n : Nat} (h : LeastOr p other n) {m : Nat} (hm : p m) : n ≤ m := by
  rcases h with ⟨-,hmin⟩ | ⟨-,hnone⟩
  · exact Nat.le_of_not_lt fun hlt => hmin m hlt hm
  · exact absurd hm (hnone m)

theorem needsAbove_of_isIndented {l : LineClass} (h : l.isIndented = true) : l.needsAbove = true := by
  rw [LineClass.needsAbove, h, Bool.true_or]

theorem not_isDecorator_of_isIndented {l : Nat} (h : (classAt b l).isIndented = true) :
    (classAt b l).isDecorator = false := by
  by_contra hd
  rw [Bool.not_eq_false] at hd
  have hfree : (classAt b l).needsAbove = false := Line.classify_decorator hd
  rw [needsAbove_of_isIndented h] at hfree
  cases hfree

namespace InBody

theorem head (ha : InBody b j a) (hj : (classAt b j).isDefinition = true) : Head b a j where
  le := ha.le
  code := LineClass.isCode_of_has hj
  free := Line.classify_definition hj
  body l h1 h2 hc := needsAbove_of_isIndented (ha.indented l h1 h2 hc)

theorem climbs (ha : InBody b j a) (hj : (classAt b j).isDefinition = true) (expectAbove : Bool) :
    Climbs b a expectAbove := by
  rcases ha.le.eq_or_lt with rfl | hlt
  · exact .inr (.inr (.inl hj))
  · exact .inr (.inl (needsAbove_of_isIndented (ha.indented a hlt le_rfl ha.code)))

/-- In its body, a definition begins with its topmost decorator that is reached. -/
theorem leastOr_find (ha : InBody b j a) (hj : (classAt b j).isDefinition = true) (expectAbove : Bool) :
    LeastOr (Adorns b j) j (find b a expectAbove) := by
  have hlt := lt_length_of_isCode ha.code
  have hs := find_isStart b a expectAbove
  rw [Nat.min_eq_left (by omega)] at hs
  exact hs.headed (ha.climbs hj expectAbove) j (ha.head hj)

end InBody

/-- Without wrapped arguments the decorator is reached from the definition. -/
theorem Decorates.adorns (hd : Decorates b i j)
    (hflat : ∀ l, i < l → l < j → (classAt b l).isIndented = false) : Adorns b j i := by
  refine ⟨hd.lt,hd.decorator,fun l h1 h2 hc => ?_,.inl hd.definition⟩
  rcases hd.between l h1 h2 hc with hdec | hind
  · exact hdec
  · simp [hflat l h1 h2] at hind

theorem Adorns.below_indented {l : Nat} (h : Adorns b j i) (hl : l < j) (hind : (classAt b l).isIndented = true) :
    l < i := by
  have hplain := not_isDecorator_of_isIndented hind
  rcases Nat.lt_trichotomy l i with hlt | rfl | hlt
  · exact hlt
  · simp [h.decorator] at hplain
  · simp [h.between l hlt hl (LineClass.isCode_of_has hind)] at hplain

/-- From a line of its body, a definition begins at or above its decorator exactly if no arguments are wrapped between
them. Wrapped arguments, wherever they stand, are above the start. -/
theorem find_decorated (hd : Decorates b i j) (ha : InBody b j a) :
    (find b a false ≤ i ↔ ∀ l, i < l → l < j → (classAt b l).isIndented = false) ∧
      find b a false ≤ j ∧ ∀ l, l < j → (classAt b l).isIndented = true → l < find b a false := by
  have hleast := ha.leastOr_find hd.definition false
  have hwrapped (l : Nat) (hl : l < j) (hind : (classAt b l).isIndented = true) : l < find b a false := by
    rcases hleast with ⟨had,-⟩ | ⟨he,-⟩
    · exact had.below_indented hl hind
    · exact he ▸ hl
  refine ⟨⟨fun hle l h1 h2 => ?_,fun hflat => hleast.le_of (hd.adorns hflat)⟩,?_,hwrapped⟩
  · by_contra hind
    rw [Bool.not_eq_false] at hind
    have hbelow := hwrapped l h2 hind
    omega
  · rcases hleast with ⟨had,-⟩ | ⟨he,-⟩
    · exact had.lt.le
    · exact he.le

def stacked : Buffer := Buffer.ofText "@first\n# note\n\n@second(1)\ndef f():\n    x = 1\n    return x"

theorem find_decorated_stacked : Decorates stacked 0 4 ∧ InBody stacked 4 6 ∧ find stacked 6 false ≤ 0 := by
  have hd : Decorates stacked 0 4 := by
    refine ⟨by decide,by decide +kernel,by decide +kernel,fun l h1 h2 => ?_⟩
    obtain rfl | rfl | rfl : l = 1 ∨ l = 2 ∨ l = 3 := by omega
    all_goals decide +kernel
  have ha : InBody stacked 4 6 := by
    refine ⟨by decide,by decide +kernel,fun l h1 h2 => ?_⟩
    obtain rfl | rfl : l = 5 ∨ l = 6 := by omega
    all_goals decide +kernel
  refine ⟨hd,ha,(find_decorated hd ha).1.mpr fun l h1 h2 => ?_⟩
  obtain rfl | rfl | rfl : l = 1 ∨ l = 2 ∨ l = 3 := by omega
  all_goals decide +kernel

/-- A decorator with wrapped arguments is left behind. -/
theorem find_wrapped : ¬ ∀ (b : Buffer) (i j a : Nat), Decorates b i j → InBody b j a → find b a false ≤ i := by
  intro h
  have hd : Decorates (Buffer.ofText "@route(\n    '/')\ndef f():\n    return 1") 0 2 := by
    refine ⟨by decide,by decide +kernel,by decide +kernel,fun l h1 h2 => ?_⟩
    obtain rfl : l = 1 := by omega
    decide +kernel
  have hle := h _ 0 2 3 hd ⟨by decide,by decide +kernel,fun l h1 h2 => by
    obtain rfl : l = 3 := by omega
    decide +kernel⟩
  revert hle
  decide +kernel

end StatementPad.BlockStart
