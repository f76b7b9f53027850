import StatementPad.Proofs.Cell

/-! # Cells share out the lines of a buffer

A cell begins below the last marker that does not stand below the line it is asked for, or at the top of the buffer. So
two lines have the same cell unless a marker parts them, and a line that is neither a marker nor blank is in one cell.
-/
namespace StatementPad.Cell
open Buffer
variable {b : Buffer} {p : Nat → Bool} {start start' stop line line' l : Nat} {r r' : LineRange}

/-! ## The searches -/

theorem firstIn_eq_some : firstIn p start stop = some l ↔
    start ≤ l ∧ l < stop ∧ p l = true ∧ ∀ k, start ≤ k → k < l → p k = false := by
  simp only [firstIn, List.find?_range'_eq_some, List.mem_range'_1, Bool.not_eq_true']
  constructor
  · rintro ⟨hp,⟨h1,h2⟩,hfirst⟩
    exact ⟨h1,by omega,hp,hfirst⟩
  · rintro ⟨h1,h2,hp,hfirst⟩
    exact ⟨hp,⟨h1,by omega⟩,hfirst⟩

theorem firstIn_eq_none : firstIn p start stop = none ↔ ∀ k, start ≤ k → k < stop → p k = false := by
  simp only [firstIn, List.find?_range'_eq_none, Bool.not_eq_true']
  exact ⟨fun h k h1 h2 => h k h1 (by omega),fun h k h1 h2 => h k h1 (by omega)⟩

theorem lastIn_eq_none : lastIn p start stop = none ↔ ∀ k, start ≤ k → k < stop → p k = false := by
  simp only [lastIn, List.find?_eq_none, List.mem_reverse, List.mem_range'_1, Bool.not_eq_true]
  exact ⟨fun h k h1 h2 => h k ⟨h1,by omega⟩,fun h k hk => h k hk.1 (by omega)⟩

/-- Behind the line that was found there is none, for the search goes backwards. -/
theorem lastIn_last (h : lastIn p start stop = some l) {k : Nat} (hl : l < k) (hk : k < stop) : p k = false := by
  obtain ⟨-,passed,rest,hsplit,hpassed⟩ := List.find?_eq_some_iff_append.mp h
  have hstart := (lastIn_some h).1
  have hmem : k ∈ passed ++ l :: rest := by
    rw [← hsplit, List.mem_reverse, List.mem_range'_1]
    omega
  have hdown : (passed ++ l :: rest).Pairwise (· > ·) := by
    rw [← hsplit, List.pairwise_reverse]
    exact List.pairwise_lt_range' 1
  rcases List.mem_append.mp hmem with hmem | hmem
  · simpa using hpassed k hmem
  · rcases List.mem_cons.mp hmem with rfl | hmem
    · exact absurd hl (lt_irrefl k)
    · have hbelow := (List.pairwise_cons.mp (List.pairwise_append.mp hdown).2.1).1 k hmem
      omega

/-! ## Where a cell begins and where it ends -/

def bound (b : Buffer) (start : Nat) : Nat := (firstIn (isMarkerAt b) start b.length).getD b.length

theorem unmarked_of_lt_bound (h : start ≤ l) (hl : l < bound b start) : isMarkerAt b l = false := by
  unfold bound at hl
  cases hf : firstIn (isMarkerAt b) start b.length with
  | none =>
    rw [hf] at hl
    exact firstIn_eq_none.mp hf l h hl
  | some m =>
    rw [hf] at hl
    exact (firstIn_eq_some.mp hf).2.2.2 l h hl

theorem lt_bound (hl : l < b.length) (hfree : ∀ k, start ≤ k → k ≤ l → isMarkerAt b k = false) :
    l < bound b start := by
  unfold bound
  cases hf : firstIn (isMarkerAt b) start b.length with
  | none => exact hl
  | some m =>
    obtain ⟨hm,-,hmarker,-⟩ := firstIn_eq_some.mp hf
    by_contra hle
    rw [hfree m hm (Nat.le_of_not_lt hle)] at hmarker
    cases hmarker

theorem below_eq (b : Buffer) (start : Nat) :
    below b start = (lastIn (fun line => !isBlankAt b line) start (bound b start)).map (LineRange.mk start) := rfl

theorem below_unmarked (h : below b start = some r) (hl : l ∈ r) : isMarkerAt b l = false := by
  obtain ⟨stop,hstop,rfl⟩ := Option.map_eq_some_iff.mp h
  exact unmarked_of_lt_bound hl.1 (hl.2.trans_lt (lastIn_some hstop).2.1)

/-- What comes between a cell and the next marker is blank. -/
theorem below_rest (h : below b start = some r) (hl : r.stop < l) (hlength : l < b.length)
    (hfree : ∀ k, r.stop < k → k ≤ l → isMarkerAt b k = false) : isBlankAt b l = true := by
  have hcell := h
  rw [below_eq] at h
  obtain ⟨stop,hstop,rfl⟩ := Option.map_eq_some_iff.mp h
  have hbound : l < bound b start := lt_bound hlength fun k hk hkl => by
    rcases Nat.lt_or_ge stop k with hk' | hk'
    · exact hfree k hk' hkl
    · exact below_unmarked hcell ⟨hk,hk'⟩
  simpa using lastIn_last hstop hl hbound

theorem below_covers (hstart : start ≤ l) (hlength : l < b.length)
    (hfree : ∀ k, start ≤ k → k ≤ l → isMarkerAt b k = false) (hblank : isBlankAt b l = false) :
    ∃ r, below b start = some r ∧ l ∈ r := by
  have hbound := lt_bound hlength hfree
  cases hlast : lastIn (fun line => !isBlankAt b line) start (bound b start) with
  | none =>
    have hnone : (!isBlankAt b l) = false := lastIn_eq_none.mp hlast l hstart hbound
    simp [hblank] at hnone
  | some stop =>
    refine ⟨⟨start,stop⟩,by rw [below_eq, hlast]; rfl,hstart,?_⟩
    by_contra hlt
    have hnone : (!isBlankAt b l) = false := lastIn_last hlast (Nat.lt_of_not_le hlt) hbound
    simp [hblank] at hnone

/-- Below the last marker that does not stand below `line`, or at the top of the buffer if there is no such marker. -/
structure Begins (b : Buffer) (line start : Nat) : Prop where
  le : start ≤ line + 1
  marked : start = 0 ∨ ∃ marker, start = marker + 1 ∧ isMarkerAt b marker = true
  unmarked : ∀ k, start ≤ k → k ≤ line → isMarkerAt b k = false

theorem Begins.unmarked_le (h : Begins b line start) (h' : Begins b line start') : start ≤ start' := by
  by_contra hlt
  rcases h.marked with rfl | ⟨marker,rfl,hmarker⟩
  · omega
  · have hle := h.le
    rw [h'.unmarked marker (by omega) (by omega)] at hmarker
    cases hmarker

theorem Begins.unique (h : Begins b line start) (h' : Begins b line start') : start = start' :=
  Nat.le_antisymm (h.unmarked_le h') (h'.unmarked_le h)

theorem Begins.extend (h : Begins b line start) (hle : line ≤ line')
    (hfree : ∀ k, line < k → k ≤ line' → isMarkerAt b k = false) : Begins b line' start := by
  refine ⟨h.le.trans (Nat.succ_le_succ hle),h.marked,fun k h1 h2 => ?_⟩
  rcases Nat.lt_or_ge line k with hk | hk
  · exact hfree k hk h2
  · exact h.unmarked k h1 hk

theorem exists_begins (hline : line < b.length) : ∃ start, Begins b line start ∧ enclosing b line = below b start := by
  have hmin : min line (b.length - 1) + 1 = line + 1 := by omega
  unfold enclosing marker?
  rw [hmin]
  cases hlast : lastIn (isMarkerAt b) 0 (line + 1) with
  | none =>
    exact ⟨0,⟨Nat.zero_le _,.inl rfl,fun k h1 h2 => lastIn_eq_none.mp hlast k h1 (Nat.lt_succ_of_le h2)⟩,rfl⟩
  | some marker =>
    obtain ⟨-,hle,hmarker⟩ := lastIn_some hlast
    exact ⟨marker + 1,⟨hle,.inr ⟨marker,rfl,hmarker⟩,fun k h1 h2 => lastIn_last hlast h1 (Nat.lt_succ_of_le h2)⟩,rfl⟩

theorem Begins.enclosing_eq (h : Begins b line start) (hline : line < b.length) :
    enclosing b line = below b start := by
  obtain ⟨start',h',heq⟩ := exists_begins hline
  rw [heq, h.unique h']

/-! ## The property -/

structure IsCell (b : Buffer) (line : Nat) (r : LineRange) : Prop where
  le : r.start ≤ r.stop
  lt : r.stop < b.length
  begins : Begins b line r.start
  unmarked : ∀ l ∈ r, isMarkerAt b l = false
  stop : isBlankAt b r.stop = false
  rest : ∀ l, r.stop < l → l < b.length → (∀ k, r.stop < k → k ≤ l → isMarkerAt b k = false) → isBlankAt b l = true

/-- A marker stands below the upper one of two lines and not below the lower one. -/
def Parted (b : Buffer) (line line' : Nat) : Prop :=
  ∃ marker, min line line' < marker ∧ marker ≤ max line line' ∧ isMarkerAt b marker = true

structure SharedOut (b : Buffer) : Prop where
  cell : ∀ line < b.length, ∀ r, enclosing b line = some r → IsCell b line r
  covers : ∀ line < b.length, isBlankAt b line = false → isMarkerAt b line = false →
    ∃ r, enclosing b line = some r ∧ line ∈ r
  same : ∀ line < b.length, ∀ line' < b.length, ¬ Parted b line line' → enclosing b line = enclosing b line'
  apart : ∀ line < b.length, ∀ line' < b.length, Parted b line line' →
    ∀ r r', enclosing b line = some r → enclosing b line' = some r' → ∀ l ∈ r, l ∉ r'
  marker : ∀ line < b.length, isMarkerAt b line = true → enclosing b line = body b line
  once : ∀ line < b.length, isBlankAt b line = false → isMarkerAt b line = false →
    ∃! r, line ∈ r ∧ ∃ line' < b.length, enclosing b line' = some r

theorem isCell_of_enclosing (hline : line < b.length) (h : enclosing b line = some r) : IsCell b line r := by
  obtain ⟨start,hbegins,heq⟩ := exists_begins hline
  rw [heq] at h
  obtain ⟨rfl,hle,hlt,hblank⟩ := below_some h
  exact ⟨hle,hlt,hbegins,fun l => below_unmarked h,hblank,fun l => below_rest h⟩

theorem covers_enclosing (hline : line < b.length) (hblank : isBlankAt b line = false)
    (hmarker : isMarkerAt b line = false) : ∃ r, enclosing b line = some r ∧ line ∈ r := by
  obtain ⟨start,hbegins,heq⟩ := exists_begins hline
  have hstart : start ≤ line := by
    rcases hbegins.marked with rfl | ⟨marker,rfl,hm⟩
    · exact Nat.zero_le _
    · refine Nat.lt_of_le_of_ne (Nat.le_of_lt_succ hbegins.le) fun he => ?_
      simp [he, hmarker] at hm
  rw [heq]
  exact below_covers hstart hline hbegins.unmarked hblank

theorem Parted.symm (h : Parted b line line') : Parted b line' line := by
  rwa [Parted, Nat.min_comm, Nat.max_comm]

theorem enclosing_of_not_parted (hle : line ≤ line') (hline : line' < b.length) (h : ¬ Parted b line line') :
    enclosing b line = enclosing b line' := by
  obtain ⟨start,hbegins,heq⟩ := exists_begins (hle.trans_lt hline)
  have hfree (k : Nat) (h1 : line < k) (h2 : k ≤ line') : isMarkerAt b k = false := by
    by_contra hk
    exact h ⟨k,by omega,by omega,by simpa using hk⟩
  rw [heq, (hbegins.extend hle hfree).enclosing_eq hline]

/-- The upper cell is over when the marker comes, and the lower one begins below it. -/
theorem lt_start_of_parted (hle : line ≤ line') (hline : line' < b.length) (h : Parted b line line')
    (hr : enclosing b line = some r) (hr' : enclosing b line' = some r') : r.stop < r'.start := by
  obtain ⟨marker,h1,h2,hmarker⟩ := h
  rw [Nat.min_eq_left hle] at h1
  rw [Nat.max_eq_right hle] at h2
  have hupper := isCell_of_enclosing (hle.trans_lt hline) hr
  have hlower := isCell_of_enclosing hline hr'
  have hstop : r.stop < marker := by
    by_contra hge
    have hstart := hupper.begins.le
    rw [hupper.unmarked marker ⟨by omega,Nat.le_of_not_lt hge⟩] at hmarker
    cases hmarker
  have hstart : marker < r'.start := by
    by_contra hge
    rw [hlower.begins.unmarked marker (Nat.le_of_not_lt hge) h2] at hmarker
    cases hmarker
  exact hstop.trans hstart

theorem disjoint_of_parted (hline : line < b.length) (hline' : line' < b.length) (h : Parted b line line')
    (hr : enclosing b line = some r) (hr' : enclosing b line' = some r') (hl : l ∈ r) : l ∉ r' := by
  rintro ⟨hstart,hstop⟩
  obtain ⟨hstart',hstop'⟩ := hl
  rcases Nat.le_total line line' with hle | hle
  · have hlt := lt_start_of_parted hle hline' h hr hr'
    omega
  · have hlt := lt_start_of_parted hle hline h.symm hr' hr
    omega

theorem enclosing_eq_iff (hle : line ≤ line') (hline : line' < b.length) : enclosing b line = enclosing b line' ↔
    ¬ Parted b line line' ∨ enclosing b line = none ∧ enclosing b line' = none := by
  constructor
  · intro heq
    by_cases hp : Parted b line line'
    · cases hr : enclosing b line with
      | none => exact .inr ⟨rfl,heq ▸ hr⟩
      | some r =>
        -- No cell is over before it begins.
        have hlt := lt_start_of_parted hle hline hp hr (heq ▸ hr)
        exact absurd hlt (Nat.not_lt.mpr (enclosing_some hr).1)
    · exact .inl hp
  · rintro (hp | ⟨hnone,hnone'⟩)
    · exact enclosing_of_not_parted hle hline hp
    · rw [hnone, hnone']

theorem enclosing_marker (hline : line < b.length) (h : isMarkerAt b line = true) :
    enclosing b line = body b line := by
  have hbegins : Begins b line (line + 1) := ⟨le_rfl,.inr ⟨line,rfl,h⟩,fun k h1 h2 => by omega⟩
  exact hbegins.enclosing_eq hline

theorem cells_share_lines (b : Buffer) : SharedOut b := by
  have hsame (line : Nat) (hline : line < b.length) (line' : Nat) (hline' : line' < b.length)
      (h : ¬ Parted b line line') : enclosing b line = enclosing b line' := by
    rcases Nat.le_total line line' with hle | hle
    · exact enclosing_of_not_parted hle hline' h
    · exact (enclosing_of_not_parted hle hline fun hp => h hp.symm).symm
  refine {
    cell := fun line hline r => isCell_of_enclosing hline
    covers := fun line hline => covers_enclosing hline
    same := hsame
    apart := fun line hline line' hline' h r r' hr hr' l => disjoint_of_parted hline hline' h hr hr'
    marker := fun line hline => enclosing_marker hline
    once := ?once }
  case once =>
    intro line hline hblank hmarker
    obtain ⟨r,hr,hmem⟩ := covers_enclosing hline hblank hmarker
    refine ⟨r,⟨hmem,line,hline,hr⟩,?_⟩
    rintro r' ⟨hmem',line',hline',hr'⟩
    -- A cell that holds the line is that of a line from which no marker parts it.
    by_cases hp : Parted b line line'
    · exact absurd hmem' (disjoint_of_parted hline hline' hp hr hr' hmem)
    · rw [hsame line hline line' hline' hp, hr'] at hr
      exact Option.some.inj hr

/-- Text above the first marker, an empty cell, and a cell with blank lines behind it. -/
example : (List.range 8).map (enclosing (Buffer.ofText "a\n#%%\n \n#%%\nb\n\nc\n")) =
    [some ⟨0,0⟩, none, none, some ⟨4,6⟩, some ⟨4,6⟩, some ⟨4,6⟩, some ⟨4,6⟩, some ⟨4,6⟩] := by decide +kernel

end StatementPad.Cell
