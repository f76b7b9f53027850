import StatementPad.Block.Ends
import StatementPad.Proofs.Line

/-! # Laws of the proposed ends

A scan that has come to a line knows the first and the last code line above it, and nothing else that counts:
whether a line gives rise to a candidate is decided by what stands on it.
-/
namespace StatementPad
open Buffer
variable {b : Buffer} {anchor minLine line : Nat} {s : EndScan}

/-- A code line after which a statement that began at or below `anchor` looks complete. A header in the first
code line only opens the statement. -/
structure StandsAlone (b : Buffer) (anchor line : Nat) : Prop where
  code : (classAt b line).isCode = true
  free : (classAt b line).needsAbove = false
  undecorating : (classAt b line).isDecorator = false
  ended : (classAt b line).isContinued = false
  closed : (classAt b line).isHeader = true → ∃ l, anchor ≤ l ∧ l < line ∧ (classAt b l).isCode = true

structure Scanned (b : Buffer) (anchor line : Nat) (s : EndScan) : Prop where
  le : anchor ≤ line
  empty : s.firstCode = none → s = { lastCode := anchor } ∧ NoCode b anchor line
  first : ∀ f, s.firstCode = some f → anchor ≤ f ∧ f < line ∧ (classAt b f).isCode = true ∧
    NoCode b anchor f ∧ s.needsAbove = (classAt b f).isIndented
  last : s.firstCode ≠ none → anchor ≤ s.lastCode ∧ s.lastCode < line ∧
    (classAt b s.lastCode).isCode = true ∧ NoCode b (s.lastCode + 1) line

namespace EndScan

def read (b : Buffer) (minLine : Nat) (s : EndScan) (line : Nat) : EndScan :=
  match (classAt b line).marks? with
  | none => s
  | some marks => (readCode minLine line marks s).1

theorem read_of_not_isCode (h : (classAt b line).isCode = false) : read b minLine s line = s := by
  rw [read, LineClass.not_isCode_iff.mp h]

theorem read_of_code {marks : CodeMarks} (h : classAt b line = .code marks) :
    read b minLine s line = (readCode minLine line marks s).1 := by
  simp [read, h, LineClass.marks?]

theorem lastCode_read (h : (classAt b line).isCode = true) : (read b minLine s line).lastCode = line := by
  obtain ⟨marks,hc⟩ := LineClass.isCode_iff.mp h
  rw [read_of_code hc]
  rfl

theorem offers_of_not_isCode (rest : List Nat) (h : (classAt b line).isCode = false) :
    offers b minLine s (line :: rest) = offers b minLine s rest := by
  rw [offers, LineClass.not_isCode_iff.mp h]

theorem offers_of_code {marks : CodeMarks} (rest : List Nat) (h : classAt b line = .code marks) :
    offers b minLine s (line :: rest) =
      (readCode minLine line marks s).2.toList ++ offers b minLine (read b minLine s line) rest := by
  rw [offers, read_of_code h]
  simp [h, LineClass.marks?]

end EndScan

namespace Scanned

theorem start (b : Buffer) (anchor : Nat) : Scanned b anchor anchor { lastCode := anchor } where
  le := le_rfl
  empty _ := ⟨rfl,.of_le le_rfl⟩
  first _ h := by cases h
  last h := absurd rfl h

theorem read (minLine : Nat) (hs : Scanned b anchor line s) :
    Scanned b anchor (line + 1) (s.read b minLine line) := by
  have hle := hs.le
  cases hc : classAt b line with
  | code marks =>
    have hcode : (classAt b line).isCode = true := by rw [hc]; rfl
    rw [EndScan.read_of_code hc]
    refine ⟨by omega,fun h => by simp [EndScan.readCode] at h,?_,
      fun _ => ⟨hle,Nat.lt_succ_self line,hcode,.of_le le_rfl⟩⟩
    intro f hf
    simp only [EndScan.readCode, Option.some.injEq] at hf ⊢
    cases hfirst : s.firstCode with
    | none =>
      obtain ⟨rfl,hgap⟩ := hs.empty hfirst
      obtain rfl : line = f := by simpa using hf
      exact ⟨hle,Nat.lt_succ_self line,hcode,hgap,by simp [hc, LineClass.isIndented, LineClass.has, LineClass.marks?]⟩
    | some g =>
      obtain rfl : g = f := by simpa [hfirst] using hf
      obtain ⟨h1,h2,h3,h4,h5⟩ := hs.first g hfirst
      exact ⟨h1,by omega,h3,h4,by simpa using h5⟩
  | blank | comment =>
    have hcode : (classAt b line).isCode = false := by rw [hc]; rfl
    rw [EndScan.read_of_not_isCode hcode]
    refine ⟨by omega,fun h => ⟨(hs.empty h).1,(hs.empty h).2.succ hcode⟩,?_,?_⟩
    · intro f hf
      obtain ⟨h1,h2,h3⟩ := hs.first f hf
      exact ⟨h1,by omega,h3⟩
    · intro h
      obtain ⟨h1,h2,h3,h4⟩ := hs.last h
      exact ⟨h1,by omega,h3,h4.succ hcode⟩

/-- A code line leaves nothing pending exactly if it does not ask for more, as a header does in the first
code line only. -/
theorem pending_eq_false {marks : CodeMarks} (hs : Scanned b anchor line s) (hc : classAt b line = .code marks) :
    (marks.clause || s.opensMore marks || marks.continued || marks.decorator) = false ↔
      marks.clause = false ∧ (s.firstCode = none → marks.header = false) ∧ marks.continued = false ∧
        marks.decorator = false := by
  have hchained : marks.chained = true → marks.clause = true := Line.classify_chained hc
  cases hfirst : s.firstCode with
  | none =>
    obtain ⟨rfl,-⟩ := hs.empty hfirst
    cases hclause : marks.clause <;> cases hch : marks.chained <;>
      simp_all [EndScan.opensMore, and_assoc]
  | some f =>
    cases hclause : marks.clause <;> cases hch : marks.chained <;>
      simp_all [EndScan.opensMore]

theorem standsAlone_iff {marks : CodeMarks} (hs : Scanned b anchor line s) (hc : classAt b line = .code marks) :
    StandsAlone b anchor line ↔ marks.indented = false ∧
      (marks.clause || s.opensMore marks || marks.continued || marks.decorator) = false := by
  have hflag : ∀ flag, (classAt b line).has flag = flag marks := fun flag => by
    simp [hc, LineClass.has, LineClass.marks?]
  rw [hs.pending_eq_false hc]
  constructor
  · intro h
    have hfree := h.free
    have hdec := h.undecorating
    have hend := h.ended
    simp only [LineClass.needsAbove, LineClass.isIndented, LineClass.isClause, hflag, Bool.or_eq_false_iff] at hfree
    simp only [LineClass.isDecorator, LineClass.isContinued, hflag] at hdec hend
    refine ⟨hfree.1,hfree.2,?_,hend,hdec⟩
    intro hfirst
    by_contra hh
    obtain ⟨l,h1,h2,h3⟩ := h.closed (by simpa [LineClass.isHeader, hflag] using hh)
    exact (hs.empty hfirst).2.not_isCode h1 h2 h3
  · rintro ⟨hind,hclause,hhead,hend,hdec⟩
    refine ⟨by rw [hc]; rfl,?_,?_,?_,?_⟩
    · simp [LineClass.needsAbove, LineClass.isIndented, LineClass.isClause, hflag, hind, hclause]
    · simpa [LineClass.isDecorator, hflag] using hdec
    · simpa [LineClass.isContinued, hflag] using hend
    · intro hh
      cases hfirst : s.firstCode with
      | none => simp [LineClass.isHeader, hflag, hhead hfirst] at hh
      | some f =>
        obtain ⟨h1,h2,h3,-⟩ := hs.first f hfirst
        exact ⟨f,h1,h2,h3⟩

theorem lastCode_ge (hs : Scanned b anchor line s) : anchor ≤ s.lastCode := by
  cases hfirst : s.firstCode with
  | none => rw [(hs.empty hfirst).1]
  | some f => exact (hs.last (by simp [hfirst])).1

theorem lastCode_le (hs : Scanned b anchor line s) : s.lastCode ≤ line := by
  cases hfirst : s.firstCode with
  | none => rw [(hs.empty hfirst).1]; exact hs.le
  | some f => exact (hs.last (by simp [hfirst])).2.1.le

theorem lastCode_eq {l : Nat} (hs : Scanned b anchor line s) (h1 : anchor ≤ l) (h2 : l < line)
    (hc : (classAt b l).isCode = true) (hgap : NoCode b (l + 1) line) : s.lastCode = l := by
  have hfirst : s.firstCode ≠ none := fun he => by
    exact absurd hc ((hs.empty he).2.not_isCode h1 h2)
  obtain ⟨-,hlt,hcode,hrest⟩ := hs.last hfirst
  rcases Nat.lt_trichotomy s.lastCode l with h | h | h
  · exact absurd hc (hrest.not_isCode h h2)
  · exact h
  · exact absurd hcode (hgap.not_isCode h hlt)

theorem lastCode_le_read (minLine : Nat) (hs : Scanned b anchor line s) :
    s.lastCode ≤ (s.read b minLine line).lastCode := by
  cases hc : (classAt b line).isCode with
  | true => rw [EndScan.lastCode_read hc]; exact hs.lastCode_le
  | false => rw [EndScan.read_of_not_isCode hc]

/-- A line that does not stand alone, or stands above `minLine`, is passed over. -/
theorem offers_skip (hs : Scanned b anchor line s) (rest : List Nat)
    (h : minLine ≤ line → ¬ StandsAlone b anchor line) :
    EndScan.offers b minLine s (line :: rest) = EndScan.offers b minLine (s.read b minLine line) rest := by
  cases hc : classAt b line with
  | code marks =>
    rw [hs.standsAlone_iff hc] at h
    rw [EndScan.offers_of_code rest hc]
    have hnone : (EndScan.readCode minLine line marks s).2 = none := by
      simp only [EndScan.readCode]
      rw [if_neg]
      simp only [Bool.and_eq_true, Bool.not_eq_true', decide_eq_true_eq]
      exact fun hh => h hh.1.1 ⟨hh.1.2,hh.2⟩
    rw [hnone]
    rfl
  | blank | comment =>
    have hcode : (classAt b line).isCode = false := by rw [hc]; rfl
    rw [EndScan.offers_of_not_isCode rest hcode, EndScan.read_of_not_isCode hcode]

/-- A line that stands alone proposes itself if it is `minLine`, and below that the code line above it. -/
theorem offers_standsAlone (hs : Scanned b anchor line s) (rest : List Nat) (h : StandsAlone b anchor line)
    (hm : minLine ≤ line) :
    EndScan.offers b minLine s (line :: rest) =
      (s.read b minLine line).candidate (if line = minLine then line else s.lastCode) ::
        EndScan.offers b minLine (s.read b minLine line) rest := by
  obtain ⟨marks,hc⟩ := LineClass.isCode_iff.mp h.code
  obtain ⟨hind,hpend⟩ := (hs.standsAlone_iff hc).mp h
  have hclause := ((hs.pending_eq_false hc).mp hpend).1
  have hstop : (marks.clause = true ∨ line ≤ minLine) ↔ line = minLine := by
    rw [hclause]
    exact ⟨fun hh => by rcases hh with hh | hh <;> [cases hh; omega],fun hh => .inr hh.le⟩
  rw [EndScan.offers_of_code rest hc, EndScan.read_of_code hc]
  simp only [EndScan.readCode]
  rw [if_pos (by simp [hm, hind, hpend])]
  simp [hstop]

/-- Lines that do not stand alone are passed over one after the other. -/
theorem offers_skip_range (count rest : Nat) (hs : Scanned b anchor line s)
    (h : ∀ l, line ≤ l → l < line + count → ¬ StandsAlone b anchor l) :
    ∃ t, Scanned b anchor (line + count) t ∧
      EndScan.offers b minLine s (List.range' line (count + rest)) =
        EndScan.offers b minLine t (List.range' (line + count) rest) := by
  induction count generalizing line s with
  | zero => exact ⟨s,hs,by simp⟩
  | succ count ih =>
    obtain ⟨t,ht,he⟩ := ih (hs.read minLine) (fun l h1 h2 => h l (by omega) (by omega))
    refine ⟨t,by rwa [Nat.add_right_comm, Nat.add_assoc] at ht,?_⟩
    rw [Nat.add_right_comm count 1 rest, List.range'_succ,
      hs.offers_skip _ (fun _ => h line le_rfl (by omega)), he, Nat.add_right_comm, Nat.add_assoc]

end Scanned

/-- What every candidate tells of a scan from `anchor` that stops at `limit`. -/
structure Offered (b : Buffer) (anchor limit : Nat) (c : EndCandidate) : Prop where
  le_stop : anchor ≤ c.stop
  empty : c.firstCode = none → NoCode b anchor limit
  first : ∀ f, c.firstCode = some f → anchor ≤ f ∧ (classAt b f).isCode = true ∧ NoCode b anchor f ∧
    c.needsAbove = (classAt b f).isIndented
  reach : ∀ f, c.firstCode = some f → c.needsAbove = true → f ≤ c.stop
  ends : c.stop = anchor ∨ (classAt b c.stop).isCode = true

theorem Offered.firstCode_eq {limit f : Nat} {c : EndCandidate} (hc : Offered b anchor limit c) (hf : anchor ≤ f)
    (hlt : f < limit) (hcode : (classAt b f).isCode = true) (hgap : NoCode b anchor f) : c.firstCode = some f := by
  cases hfirst : c.firstCode with
  | none => exact absurd hcode ((hc.empty hfirst).not_isCode hf hlt)
  | some g =>
    obtain ⟨hg,hgcode,hggap,-⟩ := hc.first g hfirst
    rw [first_unique hf hg hcode hgcode hgap hggap]

theorem Scanned.lastCode_ends (hs : Scanned b anchor line s) :
    s.lastCode = anchor ∨ (classAt b s.lastCode).isCode = true := by
  cases hfirst : s.firstCode with
  | none => rw [(hs.empty hfirst).1]; exact .inl rfl
  | some f => exact .inr (hs.last (by simp [hfirst])).2.2.1

theorem Scanned.first_le_lastCode {f : Nat} (hs : Scanned b anchor line s) (hf : s.firstCode = some f) :
    f ≤ s.lastCode := by
  obtain ⟨h1,-,hcode,-⟩ := hs.last (by simp [hf])
  obtain ⟨-,-,-,hgap,-⟩ := hs.first f hf
  by_contra hlt
  exact absurd hcode (hgap.not_isCode h1 (by omega))

/-- A first code line above the line that is read has been met before. -/
theorem Scanned.first_le_lastCode_of_read {f : Nat} (hs : Scanned b anchor line s)
    (hf : (s.read b minLine line).firstCode = some f) (hne : f ≠ line) : f ≤ s.lastCode := by
  cases hfirst : s.firstCode with
  | none =>
    exfalso
    cases hc : classAt b line with
    | code marks =>
      rw [EndScan.read_of_code hc] at hf
      simp only [EndScan.readCode, hfirst, Option.getD_none, Option.some.injEq] at hf
      exact hne hf.symm
    | blank | comment =>
      rw [EndScan.read_of_not_isCode (by rw [hc]; rfl), hfirst] at hf
      cases hf
  | some g =>
    have hg := hs.first_le_lastCode hfirst
    obtain ⟨h1,-,hcode,-⟩ := hs.first g hfirst
    obtain ⟨-,-,-,hgap,-⟩ := (hs.read minLine).first f hf
    rcases Nat.lt_or_ge g f with h | h
    · exact absurd hcode (hgap.not_isCode h1 h)
    · exact h.trans hg

theorem Scanned.offered {stop limit : Nat} (hs : Scanned b anchor line s) (hstop : anchor ≤ stop)
    (hends : stop = anchor ∨ (classAt b stop).isCode = true)
    (hreach : ∀ f, s.firstCode = some f → s.needsAbove = true → f ≤ stop)
    (hlimit : s.firstCode = none → NoCode b line limit) : Offered b anchor limit (s.candidate stop) where
  le_stop := hstop
  empty h l h1 h2 := by
    rcases Nat.lt_or_ge l line with hl | hl
    · exact (hs.empty h).2 l h1 hl
    · exact hlimit h l hl h2
  first f h := by
    obtain ⟨h1,h2,h3,h4,h5⟩ := hs.first f h
    exact ⟨h1,h3,h4,h5⟩
  reach := hreach
  ends := hends

theorem Scanned.offers_spec {count : Nat} {c : EndCandidate} (hs : Scanned b anchor line s)
    (hc : c ∈ EndScan.offers b minLine s (List.range' line count)) :
    Offered b anchor (line + count) c ∧ s.lastCode ≤ c.stop := by
  induction count generalizing line s with
  | zero =>
    obtain rfl : c = s.candidate s.lastCode := by simpa [EndScan.offers] using hc
    exact ⟨hs.offered hs.lastCode_ge hs.lastCode_ends (fun f hf _ => hs.first_le_lastCode hf)
      (fun _ => .of_le le_rfl),le_rfl⟩
  | succ count ih =>
    have hnext := hs.read minLine
    have hrest (h : c ∈ EndScan.offers b minLine (s.read b minLine line) (List.range' (line + 1) count)) :
        Offered b anchor (line + (count + 1)) c ∧ s.lastCode ≤ c.stop := by
      obtain ⟨h1,h2⟩ := ih hnext h
      exact ⟨by rwa [Nat.add_right_comm, Nat.add_assoc] at h1,(hs.lastCode_le_read minLine).trans h2⟩
    rw [List.range'_succ] at hc
    by_cases h : minLine ≤ line ∧ StandsAlone b anchor line
    · rw [hs.offers_standsAlone _ h.2 h.1] at hc
      rcases List.mem_cons.mp hc with rfl | hc
      · have hfirst : (s.read b minLine line).firstCode ≠ none := fun he =>
          (hnext.empty he).2.not_isCode hs.le (Nat.lt_succ_self line) h.2.code
        have hge := hs.lastCode_ge
        have hle := hs.lastCode_le
        refine ⟨hnext.offered ?_ ?_ ?_ (fun he => absurd he hfirst),?_⟩
        · split <;> omega
        · split
          · exact .inr h.2.code
          · exact hs.lastCode_ends
        -- An indented line does not stand alone, so it has been read before.
        · intro f hf habove
          obtain ⟨-,hlt,-,-,hind⟩ := hnext.first f hf
          have hfl : f ≠ line := by
            rintro rfl
            have hfree := (Bool.or_eq_false_iff.mp h.2.free).1
            rw [← hind, habove] at hfree
            cases hfree
          split
          · omega
          · exact hs.first_le_lastCode_of_read hf hfl
        · dsimp only [EndScan.candidate]
          split <;> omega
      · exact hrest hc
    · rw [hs.offers_skip _ (fun hm ha => h ⟨hm,ha⟩)] at hc
      exact hrest hc

theorem EndScan.offers_ne_nil (b : Buffer) (minLine : Nat) (s : EndScan) (lines : List Nat) :
    offers b minLine s lines ≠ [] := by
  induction lines generalizing s with
  | nil => simp [offers]
  | cons line rest ih =>
    unfold offers
    split
    · exact ih s
    · exact List.append_ne_nil_of_right_ne_nil _ (ih _)

/-- The first candidate is the first one that the scan offers. -/
theorem candidates_eq_cons {limit : Nat} {c : EndCandidate} {more : List EndCandidate}
    (h : EndScan.offers b minLine { lastCode := anchor } (List.range' anchor (min limit b.length - anchor)) =
      c :: more) :
    EndCandidate.candidates b anchor minLine limit = c :: EndCandidate.increasing (some c.stop) more := by
  simp [EndCandidate.candidates, h, EndCandidate.increasing]

end StatementPad
