import StatementPad.Proofs.Block.Ends

/-! # Laws of the candidates

The ends that are kept increase, none of them cuts off a code line down to `minLine`, and there is at most one
for each code line, and one more.
-/
namespace StatementPad
open Buffer
variable {b : Buffer} {anchor minLine line limit : Nat} {s : EndScan}

def Buffer.codeCount (b : Buffer) (start count : Nat) : Nat :=
  (List.range' start count).countP fun l => (classAt b l).isCode

theorem Scanned.le_lastCode {l : Nat} (hs : Scanned b anchor line s) (h1 : anchor ≤ l) (h2 : l < line)
    (hc : (classAt b l).isCode = true) : l ≤ s.lastCode := by
  have hfirst : s.firstCode ≠ none := fun he => absurd hc ((hs.empty he).2.not_isCode h1 h2)
  obtain ⟨-,-,-,hgap⟩ := hs.last hfirst
  by_contra hlt
  exact absurd hc (hgap.not_isCode (by omega) h2)

/-- No offer cuts off a code line down to `minLine`. -/
theorem Scanned.offers_whole {count l : Nat} {c : EndCandidate} (hs : Scanned b anchor line s)
    (hc : c ∈ EndScan.offers b minLine s (List.range' line count)) (h1 : anchor ≤ l) (h2 : l ≤ minLine)
    (h3 : l < line + count) (hcode : (classAt b l).isCode = true) : l ≤ c.stop := by
  induction count generalizing line s with
  | zero =>
    obtain rfl : c = s.candidate s.lastCode := by simpa [EndScan.offers] using hc
    exact hs.le_lastCode h1 h3 hcode
  | succ count ih =>
    have hrest (h : c ∈ EndScan.offers b minLine (s.read b minLine line) (List.range' (line + 1) count)) :
        l ≤ c.stop := ih (hs.read minLine) h (by omega)
    rw [List.range'_succ] at hc
    -- Only a line that stands alone is offered from, and then all code lines above it have been read.
    by_cases h : minLine ≤ line ∧ StandsAlone b anchor line
    · rw [hs.offers_standsAlone _ h.2 h.1] at hc
      rcases List.mem_cons.mp hc with rfl | hc
      · dsimp only [EndScan.candidate]
        split
        · omega
        · exact hs.le_lastCode h1 (by omega) hcode
      · exact hrest hc
    · rw [hs.offers_skip _ (fun hm ha => h ⟨hm,ha⟩)] at hc
      exact hrest hc

theorem EndScan.length_offers_le (b : Buffer) (minLine : Nat) (s : EndScan) (start count : Nat) :
    (offers b minLine s (List.range' start count)).length ≤ codeCount b start count + 1 := by
  induction count generalizing start s with
  | zero => simp [offers]
  | succ count ih =>
    rw [codeCount, List.range'_succ, List.countP_cons]
    cases hc : classAt b start with
    | code marks =>
      have hle := ih (s.read b minLine start) (start + 1)
      have hfound : (readCode minLine start marks s).2.toList.length ≤ 1 := by
        cases (readCode minLine start marks s).2 <;> simp
      have hcode : (LineClass.code marks).isCode = true := rfl
      rw [codeCount] at hle
      rw [offers_of_code _ hc, List.length_append, if_pos hcode]
      omega
    | blank | comment =>
      rw [offers_of_not_isCode _ (by rw [hc]; rfl), if_neg (by simp [LineClass.isCode])]
      exact ih s (start + 1)

namespace EndCandidate

theorem increasing_sublist (last : Option Nat) (cs : List EndCandidate) : (increasing last cs).Sublist cs := by
  induction cs generalizing last with
  | nil => exact .slnil
  | cons c rest ih =>
    rw [increasing]
    split
    · exact (ih _).cons_cons c
    · exact (ih _).cons c

theorem lt_of_mem_increasing {last : Option Nat} {cs : List EndCandidate} {c : EndCandidate}
    (h : c ∈ increasing last cs) : ∀ n ∈ last, n < c.stop := by
  induction cs generalizing last with
  | nil => cases h
  | cons d rest ih =>
    rw [increasing] at h
    split at h
    next hall =>
      intro n hn
      obtain rfl : last = some n := hn
      have hnd : n < d.stop := by simpa using hall
      rcases List.mem_cons.mp h with rfl | h
      · exact hnd
      · exact hnd.trans (ih h d.stop rfl)
    next => exact ih h

theorem increasing_stops (last : Option Nat) (cs : List EndCandidate) :
    ((increasing last cs).map stop).Pairwise (· < ·) := by
  induction cs generalizing last with
  | nil => exact .nil
  | cons c rest ih =>
    rw [increasing]
    split
    · rw [List.map_cons, List.pairwise_cons, List.forall_mem_map]
      exact ⟨fun d hd => lt_of_mem_increasing hd c.stop rfl,ih _⟩
    · exact ih _

theorem length_candidates_le (b : Buffer) (anchor minLine limit : Nat) :
    (candidates b anchor minLine limit).length ≤ codeCount b anchor (min limit b.length - anchor) + 1 :=
  (increasing_sublist _ _).length_le.trans (EndScan.length_offers_le b minLine _ anchor _)

theorem candidates_ne_nil (b : Buffer) (anchor minLine limit : Nat) : candidates b anchor minLine limit ≠ [] := by
  obtain ⟨first,more,hoffers⟩ := List.exists_cons_of_ne_nil (EndScan.offers_ne_nil b minLine
    { lastCode := anchor } (List.range' anchor (min limit b.length - anchor)))
  simp [candidates_eq_cons hoffers]

theorem offered_candidates {c : EndCandidate} (h : c ∈ candidates b anchor minLine limit)
    (ha : anchor ≤ min limit b.length) : Offered b anchor (min limit b.length) c := by
  have hspec := (Scanned.start b anchor).offers_spec ((increasing_sublist _ _).subset h)
  rw [Nat.add_sub_cancel' ha] at hspec
  exact hspec.1

theorem offered_of_mem {c : EndCandidate} (h : c ∈ candidates b anchor minLine b.length) (ha : anchor ≤ b.length) :
    Offered b anchor b.length c := by
  simpa using offered_candidates h (by simpa using ha)

theorem stop_lt_of_mem {c : EndCandidate} (h : c ∈ candidates b anchor minLine b.length) (ha : anchor < b.length) :
    c.stop < b.length := by
  rcases (offered_of_mem h ha.le).ends with hc | hc
  · omega
  · exact lt_length_of_isCode hc

theorem candidates_whole {c : EndCandidate} {l : Nat} (h : c ∈ candidates b anchor minLine b.length) (h1 : anchor ≤ l)
    (h2 : l ≤ minLine) (hcode : (classAt b l).isCode = true) : l ≤ c.stop := by
  have hlt := lt_length_of_isCode hcode
  exact (Scanned.start b anchor).offers_whole ((increasing_sublist _ _).subset h) h1 h2 (by omega) hcode

end EndCandidate
end StatementPad
