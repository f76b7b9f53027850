import StatementPad.Proofs.Block.Candidates

/-! # Which ends are proposed

The proposed ends can be told without a scan. A line that stands alone proposes the code line above it, and the
line down to which a selection reaches proposes itself; the last code line is proposed in any case.
-/
namespace StatementPad
open Buffer
variable {b : Buffer} {anchor minLine line limit till e : Nat} {s : EndScan}

/-- `e` is the last code line from `anchor` on that stands above `line`, or the anchor if there is none. -/
inductive Buffer.LastAbove (b : Buffer) (anchor line : Nat) : Nat → Prop where
  | code {e : Nat} (h1 : anchor ≤ e) (h2 : e < line) (hcode : (classAt b e).isCode = true)
      (hgap : NoCode b (e + 1) line) : LastAbove b anchor line e
  | anchor (hgap : NoCode b anchor line) : LastAbove b anchor line anchor

namespace Buffer.LastAbove

theorem ge (h : LastAbove b anchor line e) : anchor ≤ e := by
  cases h with
  | code h1 => exact h1
  | anchor => exact le_rfl

theorem le_of_code {l : Nat} (h : LastAbove b anchor line e) (h1 : anchor ≤ l) (h2 : l < line)
    (hcode : (classAt b l).isCode = true) : l ≤ e := by
  cases h with
  | code _ _ _ hgap =>
    by_contra hlt
    exact absurd hcode (hgap.not_isCode (by omega) h2)
  | anchor hgap => exact absurd hcode (hgap.not_isCode h1 h2)

theorem unique {e' : Nat} (h : LastAbove b anchor line e) (h' : LastAbove b anchor line e') : e = e' := by
  cases h with
  | code h1 h2 hcode hgap =>
    have hle := h'.le_of_code h1 h2 hcode
    cases h' with
    | code h1' h2' hcode' => exact hle.antisymm (le_of_code (.code h1 h2 hcode hgap) h1' h2' hcode')
    | anchor hnone => exact absurd hcode (hnone.not_isCode h1 h2)
  | anchor hnone =>
    cases h' with
    | code h1 h2 hcode => exact absurd hcode (hnone.not_isCode h1 h2)
    | anchor => rfl

end Buffer.LastAbove

def Proposes (b : Buffer) (anchor minLine line e : Nat) : Prop :=
  StandsAlone b anchor line ∧ (line = minLine ∧ e = line ∨ minLine < line ∧ LastAbove b anchor line e)

/-- Some line between `anchor` and `till` proposes the end `e`, or it is the last code line there. -/
def Proposed (b : Buffer) (anchor minLine till e : Nat) : Prop :=
  (∃ l, anchor ≤ l ∧ l < till ∧ Proposes b anchor minLine l e) ∨ LastAbove b anchor till e

theorem not_proposes (h : ¬ (minLine ≤ line ∧ StandsAlone b anchor line)) : ¬ Proposes b anchor minLine line e := by
  rintro ⟨halone,⟨rfl,-⟩ | ⟨hlt,-⟩⟩
  · exact h ⟨le_rfl,halone⟩
  · exact h ⟨hlt.le,halone⟩

/-- What stands below a proposed end stands alone, unless the end is the anchor or the line to be kept whole. -/
theorem Proposed.standsAlone_below {l : Nat} (h : Proposed b anchor minLine till e) (hanchor : e ≠ anchor)
    (hmin : e ≠ minLine) (h1 : e < l) (h2 : l < till) (hcode : (classAt b l).isCode = true)
    (hgap : NoCode b (e + 1) l) : StandsAlone b anchor l := by
  rcases h with ⟨l',-,-,halone,⟨rfl,rfl⟩ | ⟨-,hlast⟩⟩ | hlast
  · exact absurd rfl hmin
  · have hle : l' ≤ l := by
      by_contra hlt
      exact absurd (hlast.le_of_code (hlast.ge.trans h1.le) (by omega) hcode) (by omega)
    cases hlast with
    | anchor => exact absurd rfl hanchor
    | code _ he =>
      rcases hle.eq_or_lt with rfl | hlt
      · exact halone
      · exact absurd halone.code (hgap.not_isCode he hlt)
  · exact absurd (hlast.le_of_code (hlast.ge.trans h1.le) h2 hcode) (by omega)

/-! ## The offers of a scan -/

namespace Scanned

theorem lastAbove_iff (hs : Scanned b anchor line s) : LastAbove b anchor line e ↔ e = s.lastCode := by
  have hlast : LastAbove b anchor line s.lastCode := by
    cases hfirst : s.firstCode with
    | none =>
      obtain ⟨rfl,hgap⟩ := hs.empty hfirst
      exact .anchor hgap
    | some f =>
      obtain ⟨h1,h2,hcode,hgap⟩ := hs.last (by simp [hfirst])
      exact .code h1 h2 hcode hgap
  exact ⟨fun h => h.unique hlast,fun h => h ▸ hlast⟩

theorem proposes_iff (hs : Scanned b anchor line s) (h : StandsAlone b anchor line) (hm : minLine ≤ line) :
    Proposes b anchor minLine line e ↔ e = if line = minLine then line else s.lastCode := by
  rw [Proposes, hs.lastAbove_iff, and_iff_right h]
  split
  next heq => simp [heq]
  next hne => simp [hne, Nat.lt_of_le_of_ne hm (Ne.symm hne)]

theorem mem_offers {count : Nat} (hs : Scanned b anchor line s) :
    e ∈ (EndScan.offers b minLine s (List.range' line count)).map EndCandidate.stop ↔
      (∃ l, line ≤ l ∧ l < line + count ∧ Proposes b anchor minLine l e) ∨ LastAbove b anchor (line + count) e := by
  induction count generalizing line s with
  | zero =>
    have hnone : ¬ ∃ l, line ≤ l ∧ l < line + 0 ∧ Proposes b anchor minLine l e := fun ⟨l,h1,h2,_⟩ => by omega
    rw [or_iff_right hnone, Nat.add_zero, hs.lastAbove_iff]
    simp [EndScan.offers, EndScan.candidate]
  | succ count ih =>
    have hsplit : (∃ l, line ≤ l ∧ l < line + (count + 1) ∧ Proposes b anchor minLine l e) ↔
        Proposes b anchor minLine line e ∨
          ∃ l, line + 1 ≤ l ∧ l < line + 1 + count ∧ Proposes b anchor minLine l e := by
      constructor
      · rintro ⟨l,h1,h2,hl⟩
        rcases h1.eq_or_lt with rfl | h1
        · exact .inl hl
        · exact .inr ⟨l,h1,by omega,hl⟩
      · rintro (hl | ⟨l,h1,h2,hl⟩)
        · exact ⟨line,le_rfl,by omega,hl⟩
        · exact ⟨l,by omega,by omega,hl⟩
    rw [hsplit, or_assoc, Nat.add_comm count 1, ← Nat.add_assoc, ← ih (hs.read minLine), Nat.add_comm 1 count,
      List.range'_succ]
    by_cases h : minLine ≤ line ∧ StandsAlone b anchor line
    · rw [hs.offers_standsAlone _ h.2 h.1, hs.proposes_iff h.2 h.1, List.map_cons, List.mem_cons]
      rfl
    · rw [hs.offers_skip _ (fun hm ha => h ⟨hm,ha⟩), or_iff_right (not_proposes h)]

/-- The offers never go back. -/
theorem offers_pairwise {count : Nat} (hs : Scanned b anchor line s) :
    ((EndScan.offers b minLine s (List.range' line count)).map EndCandidate.stop).Pairwise (· ≤ ·) := by
  induction count generalizing line s with
  | zero => simp [EndScan.offers]
  | succ count ih =>
    have hnext := hs.read minLine
    rw [List.range'_succ]
    by_cases h : minLine ≤ line ∧ StandsAlone b anchor line
    · rw [hs.offers_standsAlone _ h.2 h.1, List.map_cons, List.pairwise_cons, List.forall_mem_map]
      refine ⟨fun c hc => ?_,ih hnext⟩
      have hle : (s.read b minLine line).lastCode ≤ c.stop := (hnext.offers_spec hc).2
      rw [EndScan.lastCode_read h.2.code] at hle
      dsimp only [EndScan.candidate]
      split
      · exact hle
      · exact hs.lastCode_le.trans hle
    · rw [hs.offers_skip _ (fun hm ha => h ⟨hm,ha⟩)]
      exact ih hnext

end Scanned

/-! ## The candidates -/

namespace EndCandidate

/-- Of ends that never go back only the repetitions are dropped. -/
theorem mem_increasing {last : Option Nat} {cs : List EndCandidate}
    (h : (cs.map EndCandidate.stop).Pairwise (· ≤ ·)) : e ∈ (increasing last cs).map EndCandidate.stop ↔
      e ∈ cs.map EndCandidate.stop ∧ ∀ n ∈ last, n < e := by
  induction cs generalizing last with
  | nil => simp [increasing]
  | cons c rest ih =>
    obtain ⟨hle,hrest⟩ := List.pairwise_cons.mp h
    have hall : last.all (· < c.stop) = true ↔ ∀ n ∈ last, n < c.stop := by cases last <;> simp
    rw [increasing]
    split
    next hkeep =>
      rw [List.map_cons, List.map_cons, List.mem_cons, List.mem_cons, ih hrest]
      constructor
      · rintro (rfl | ⟨he,-⟩)
        · exact ⟨.inl rfl,hall.mp hkeep⟩
        · exact ⟨.inr he,fun n hn => (hall.mp hkeep n hn).trans_le (hle e he)⟩
      · rintro ⟨rfl | he,-⟩
        · exact .inl rfl
        · rcases (hle e he).eq_or_lt with rfl | hlt
          · exact .inl rfl
          · exact .inr ⟨he,fun n hn => Option.some.inj hn ▸ hlt⟩
    next hdrop =>
      rw [ih hrest, List.map_cons, List.mem_cons]
      refine and_congr_left fun hn => (or_iff_right ?_).symm
      rintro rfl
      exact hdrop (hall.mpr hn)

theorem mem_candidates (h : anchor ≤ min limit b.length) :
    e ∈ (candidates b anchor minLine limit).map EndCandidate.stop ↔
      Proposed b anchor minLine (min limit b.length) e := by
  have hs := Scanned.start b anchor
  rw [candidates, mem_increasing hs.offers_pairwise, hs.mem_offers, Nat.add_sub_cancel' h, Proposed]
  simp

theorem candidates_of_noCode (h : NoCode b anchor (min limit b.length)) :
    candidates b anchor minLine limit = [⟨none,anchor,false⟩] := by
  have hskip (count line : Nat) (hline : anchor ≤ line)
      (hcount : line + count ≤ anchor + (min limit b.length - anchor)) :
      EndScan.offers b minLine { lastCode := anchor } (List.range' line count) = [⟨none,anchor,false⟩] := by
    induction count generalizing line with
    | zero => rfl
    | succ count ih =>
      rw [List.range'_succ, EndScan.offers_of_not_isCode _ (h line hline (by omega))]
      exact ih _ (by omega) (by omega)
  rw [candidates, hskip _ _ le_rfl le_rfl]
  rfl

structure Lists (b : Buffer) (anchor minLine till : Nat) (cs : List EndCandidate) : Prop where
  /-- If there is no code, there is one candidate, and it is empty. -/
  empty : NoCode b anchor till → cs = [⟨none,anchor,false⟩]
  mem_iff : ¬ NoCode b anchor till → ∀ e, e ∈ cs.map EndCandidate.stop ↔ Proposed b anchor minLine till e
  increasing : (cs.map EndCandidate.stop).Pairwise (· < ·)
  /-- All candidates tell the same of the first code line. -/
  first : ∀ f, anchor ≤ f → f < till → (classAt b f).isCode = true → NoCode b anchor f →
    ∀ c ∈ cs, c.firstCode = some f ∧ c.isEmpty = false ∧ c.needsAbove = (classAt b f).isIndented
  nonempty : cs ≠ []
  /-- Whoever asks for more has come to the end for good. -/
  exhausted : ∀ k, cs.length ≤ k → cs[k]? = none
  le_stop : ∀ c ∈ cs, anchor ≤ c.stop
  /-- Apart from the anchor and the line to be kept whole, an end is a code line, and the next one stands alone. -/
  below : ∀ c ∈ cs, c.stop ≠ anchor → c.stop ≠ minLine → (classAt b c.stop).isCode = true ∧
    ∀ l, c.stop < l → l < till → (classAt b l).isCode = true → NoCode b (c.stop + 1) l → StandsAlone b anchor l

theorem candidates_list (b : Buffer) (anchor minLine limit : Nat) :
    Lists b anchor minLine (min limit b.length) (candidates b anchor minLine limit) := by
  by_cases hnone : NoCode b anchor (min limit b.length)
  · rw [candidates_of_noCode hnone]
    exact ⟨fun _ => rfl,absurd hnone,by simp,fun f h1 h2 hcode => absurd hcode (hnone.not_isCode h1 h2),by simp,
      fun k hk => List.getElem?_eq_none hk,by simp,by simp⟩
  · obtain ⟨f,h1,h2,-⟩ := (noCode_or_first b anchor _).resolve_left hnone
    have hle : anchor ≤ min limit b.length := h1.trans h2.le
    have hoffered {c : EndCandidate} (hc : c ∈ candidates b anchor minLine limit) :
        Offered b anchor (min limit b.length) c := offered_candidates hc hle
    refine ⟨fun h => absurd h hnone,fun _ e => mem_candidates hle,increasing_stops _ _,?_,
      candidates_ne_nil b anchor minLine limit,fun k hk => List.getElem?_eq_none hk,fun c hc => (hoffered hc).le_stop,?_⟩
    · intro f hf hlt hcode hgap c hc
      have hfirst := (hoffered hc).firstCode_eq hf hlt hcode hgap
      exact ⟨hfirst,by rw [isEmpty, hfirst]; rfl,((hoffered hc).first f hfirst).2.2.2⟩
    · intro c hc hanchor hmin
      refine ⟨(hoffered hc).ends.resolve_left hanchor,fun l hl hlt hcode hgap => ?_⟩
      have hproposed := (mem_candidates hle).mp (List.mem_map_of_mem hc)
      exact hproposed.standsAlone_below hanchor hmin hl hlt hcode hgap

/-- A header and its clause are not parted, and a decorator or a backslash puts the end off. -/
example : (candidates (Buffer.ofText "if a:\n  b\nelse:\n  c\nd\n@e\ndef f(): \\\n  g\nh") 0 0 9).map EndCandidate.stop =
    [3, 7, 8] := by decide +kernel

end EndCandidate
end StatementPad
