import StatementPad.Proofs.Block.Proposed
import StatementPad.Proofs.Block.Statement

/-! # Ends on unfinished lines

A decorator, or a line that ends in a backslash, is not complete without the next code line, and it proposes no end
itself. The next code line does propose one, though, if it stands in the first column: the end above it, so that the
two are parted. Of the candidates but the last, these are the only ones that end on an unfinished line.
-/
namespace StatementPad
open Buffer
variable {b : Buffer} {anchor minLine till e l : Nat}

theorem Unfinished.isCode (h : Unfinished b e) : (classAt b e).isCode = true :=
  h.elim LineClass.isCode_of_has LineClass.isCode_of_has

theorem StandsAlone.finished (h : StandsAlone b anchor l) : ¬ Unfinished b l := by
  rintro (hd | hc)
  · simp [h.undecorating] at hd
  · simp [h.ended] at hc

/-- The unfinished line `e` is parted from the code line `l` below it, which begins in the first column, is no clause
and is finished itself. Down to `minLine` nothing is parted. -/
structure Parted (b : Buffer) (anchor minLine e l : Nat) : Prop where
  ge : anchor ≤ e
  unfinished : Unfinished b e
  below : CodeBelow b e l
  beyond : minLine < l
  free : (classAt b l).needsAbove = false
  finished : ¬ Unfinished b l

namespace Parted

theorem standsAlone (h : Parted b anchor minLine e l) : StandsAlone b anchor l := by
  have hfinished := h.finished
  rw [Unfinished, not_or, Bool.not_eq_true, Bool.not_eq_true] at hfinished
  exact ⟨h.below.code,h.free,hfinished.1,hfinished.2,fun _ => ⟨e,h.ge,h.below.lt,h.unfinished.isCode⟩⟩

theorem proposes (h : Parted b anchor minLine e l) : Proposes b anchor minLine l e :=
  ⟨h.standsAlone,.inr ⟨h.beyond,.code h.ge h.below.lt h.unfinished.isCode h.below.first⟩⟩

end Parted

/-- An unfinished line does not propose itself, so the end on it comes from the code line below it. -/
theorem Proposes.parted (h : Proposes b anchor minLine l e) (hl : anchor ≤ l) (hu : Unfinished b e) :
    Parted b anchor minLine e l := by
  obtain ⟨halone,⟨-,rfl⟩ | ⟨hbeyond,hlast⟩⟩ := h
  · exact absurd hu halone.finished
  · cases hlast with
    | code hge hlt _ hgap => exact ⟨hge,hu,⟨hlt,halone.code,hgap⟩,hbeyond,halone.free,halone.finished⟩
    | anchor hgap =>
      rcases hl.eq_or_lt with rfl | hlt
      · exact absurd hu halone.finished
      · exact absurd hu.isCode (hgap.not_isCode le_rfl hlt)

theorem Buffer.LastAbove.exists_of_le (h : anchor ≤ till) : ∃ e, LastAbove b anchor till e := by
  induction till, h using Nat.le_induction with
  | base => exact ⟨anchor,.anchor (.of_le le_rfl)⟩
  | succ till hle ih =>
    obtain ⟨e,he⟩ := ih
    cases hc : (classAt b till).isCode with
    | true => exact ⟨till,.code hle (Nat.lt_succ_self till) hc (.of_le le_rfl)⟩
    | false =>
      cases he with
      | code h1 h2 hcode hgap => exact ⟨e,.code h1 (Nat.lt_succ_of_lt h2) hcode (hgap.succ hc)⟩
      | anchor hgap => exact ⟨anchor,.anchor (hgap.succ hc)⟩

namespace EndCandidate

/-- In a list that increases, all members but the last have a greater one. -/
theorem mem_dropLast_iff {ends : List Nat} (h : ends.Pairwise (· < ·)) :
    e ∈ ends.dropLast ↔ e ∈ ends ∧ ∃ later ∈ ends, e < later := by
  induction ends with
  | nil => simp
  | cons first rest ih =>
    obtain ⟨hfirst,hrest⟩ := List.pairwise_cons.mp h
    cases rest with
    | nil => simpa using fun he : e = first => he.ge
    | cons second more =>
      rw [List.dropLast_cons_cons, List.mem_cons, ih hrest]
      constructor
      · rintro (rfl | ⟨he,later,hl,hlt⟩)
        · exact ⟨List.mem_cons_self,second,by simp,hfirst second (by simp)⟩
        · exact ⟨List.mem_cons_of_mem first he,later,List.mem_cons_of_mem first hl,hlt⟩
      · rintro ⟨he,later,hl,hlt⟩
        rcases List.mem_cons.mp he with rfl | hrest
        · exact .inl rfl
        · rcases List.mem_cons.mp hl with rfl | hl
          · exact absurd hlt (hfirst e hrest).le.not_gt
          · exact .inr ⟨hrest,later,hl,hlt⟩

theorem mem_ends (h : anchor ≤ b.length) :
    e ∈ (candidates b anchor minLine b.length).map stop ↔ Proposed b anchor minLine b.length e := by
  have hcandidates : e ∈ (candidates b anchor minLine b.length).map stop ↔
      Proposed b anchor minLine (min b.length b.length) e := mem_candidates (by rwa [Nat.min_self])
  rwa [Nat.min_self] at hcandidates

theorem ge_of_mem_ends (h : e ∈ (candidates b anchor minLine b.length).map stop) : anchor ≤ e := by
  obtain ⟨c,hc,rfl⟩ := List.mem_map.mp h
  exact (candidates_list b anchor minLine b.length).le_stop c hc

/-- The last code line is never exceeded. -/
theorem le_lastAbove_of_mem_ends {last : Nat} (hlast : LastAbove b anchor b.length last)
    (h : e ∈ (candidates b anchor minLine b.length).map stop) (hle : anchor ≤ b.length) : e ≤ last := by
  have hge := ge_of_mem_ends h
  obtain ⟨c,hc,rfl⟩ := List.mem_map.mp h
  rcases (offered_of_mem hc hle).ends with hanchor | hcode
  · exact hanchor.trans_le hlast.ge
  · exact hlast.le_of_code hge (lt_length_of_isCode hcode) hcode

/-- The unfinished lines on which a candidate but the last ends are those that are parted from the line below. -/
theorem unfinished_end_iff (b : Buffer) (anchor minLine e : Nat) :
    e ∈ ((candidates b anchor minLine b.length).dropLast).map stop ∧ Unfinished b e ↔
      ∃ l, Parted b anchor minLine e l := by
  rw [List.map_dropLast, mem_dropLast_iff (by exact increasing_stops _ _)]
  constructor
  · rintro ⟨⟨he,later,hlater,hlt⟩,hu⟩
    have hle : anchor ≤ b.length := (ge_of_mem_ends he).trans (lt_length_of_isCode hu.isCode).le
    rcases (mem_ends hle).mp he with ⟨l,hl,-,hproposes⟩ | hlast
    · exact ⟨l,hproposes.parted hl hu⟩
    · exact absurd hlt (le_lastAbove_of_mem_ends hlast hlater hle).not_gt
  · rintro ⟨l,hp⟩
    have hlength := lt_length_of_isCode hp.below.code
    have hl : anchor ≤ l := hp.ge.trans hp.below.lt.le
    have hle : anchor ≤ b.length := hl.trans hlength.le
    obtain ⟨last,hlast⟩ := LastAbove.exists_of_le hle
    have hlater := hlast.le_of_code hl hlength hp.below.code
    exact ⟨⟨(mem_ends hle).mpr (.inl ⟨l,hl,hlength,hp.proposes⟩),last,(mem_ends hle).mpr (.inr hlast),
      hp.below.lt.trans_le hlater⟩,hp.unfinished⟩

/-- Neither a decorator nor a backslash puts the end off if the line below begins in the first column. -/
theorem unfinished_ends_parted :
    (¬ ∀ (b : Buffer) (anchor minLine : Nat), ∀ c ∈ (candidates b anchor minLine b.length).dropLast,
      (classAt b c.stop).isDecorator = false) ∧
    ¬ ∀ (b : Buffer) (anchor minLine : Nat), ∀ c ∈ (candidates b anchor minLine b.length).dropLast,
      (classAt b c.stop).isContinued = false := by
  constructor
  · intro h
    have hdecorator := h (Buffer.ofText "@cached\ndef f():\n    return 1") 0 0 ⟨some 0,0,false⟩ (by decide +kernel)
    revert hdecorator
    decide +kernel
  · intro h
    have hbackslash := h (Buffer.ofText "total = 1 + \\\n2\nprint(total)") 0 0 ⟨some 0,0,false⟩ (by decide +kernel)
    revert hbackslash
    decide +kernel

end EndCandidate
end StatementPad
