import StatementPad.Cell
import StatementPad.Proofs.Line

/-! # Laws of cells

A cell begins below its marker and ends on a line that is not blank.
-/
namespace StatementPad.Cell
open Buffer
variable {b : Buffer}

theorem lastIn_some {p : Nat → Bool} {start stop l : Nat} (h : lastIn p start stop = some l) :
    start ≤ l ∧ l < stop ∧ p l = true := by
  have hp := List.find?_some h
  have hm := List.mem_of_find?_eq_some h
  simp only [List.mem_reverse, List.mem_range'_1] at hm
  exact ⟨hm.1,by omega,hp⟩

theorem firstIn_some {p : Nat → Bool} {start stop l : Nat} (h : firstIn p start stop = some l) :
    start ≤ l ∧ l < stop ∧ p l = true := by
  have hp := List.find?_some h
  have hm := List.mem_of_find?_eq_some h
  simp only [List.mem_range'_1] at hm
  exact ⟨hm.1,by omega,hp⟩

theorem below_some {start : Nat} {r : LineRange} (h : below b start = some r) :
    r.start = start ∧ start ≤ r.stop ∧ r.stop < b.length ∧ isBlankAt b r.stop = false := by
  obtain ⟨l,hl,rfl⟩ := Option.map_eq_some_iff.mp h
  obtain ⟨h1,h2,h3⟩ := lastIn_some hl
  have hend : (firstIn (isMarkerAt b) start b.length).getD b.length ≤ b.length := by
    cases hf : firstIn (isMarkerAt b) start b.length with
    | none => exact le_rfl
    | some m => exact (firstIn_some hf).2.1.le
  exact ⟨rfl,h1,by dsimp only; omega,by simpa using h3⟩

theorem enclosing_some {line : Nat} {r : LineRange} (h : enclosing b line = some r) :
    r.start ≤ r.stop ∧ r.stop < b.length ∧ isBlankAt b r.stop = false := by
  have hbelow : ∃ start, below b start = some r := by
    unfold enclosing at h
    split at h
    next marker _ => exact ⟨marker + 1,h⟩
    next => exact ⟨0,h⟩
  obtain ⟨start,hs⟩ := hbelow
  obtain ⟨rfl,h1,h2⟩ := below_some hs
  exact ⟨h1,h2⟩

theorem not_isCode_of_marker {line : Nat} (h : isMarkerAt b line = true) : (classAt b line).isCode = false := by
  rw [classAt, Line.classify_marker h]
  rfl

end StatementPad.Cell
