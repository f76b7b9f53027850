import StatementPad.Proofs.Block.Candidates
import StatementPad.Proofs.Probe
import StatementPad.Proofs.Run.Controller

/-! # How a probe grows

Against a kernel whose answers are fixed beforehand, the probe of a selection is a list of ends that are tried
one after the other from one start. The verdict on the last of them decides what is found.
-/
namespace StatementPad.Probe
open Buffer StatementPad.Controller
variable {b : Buffer} {filename : Text} {selection : LineSelection} {requireInside : Bool}
  {answers : Nat → Except Fault Verdict}

/-- The kernel that compiles the `n`-th source with the `n`-th answer and does nothing else. -/
def compiler (answers : Nat → Except Fault Verdict) : Kernel Nat := fun call n =>
  match call with
  | .compile .. => (some (answers n),n + 1)
  | .evaluate | .execute | .executeSource .. | .setWorkingDir _ => (none,n)

def trialsFrom (b : Buffer) (start : Nat) (answers : Nat → Except Fault Verdict) : Nat → List Nat → List Trial
  | _, [] => []
  | n, stop :: stops => (.ofBuffer b start stop,answers n) :: trialsFrom b start answers (n + 1) stops

def minLine (b : Buffer) (selection : LineSelection) : Nat :=
  max (anchor b selection) (min selection.stop (b.length - 1))

def decided (requireInside : Bool) (cursor : Nat) (block : CodeBlock) : Except Fault Verdict → Except Fault Probe
  | .error fault => .error fault
  | .ok .expression => .ok (placed true)
  | .ok .statements => .ok (placed false)
  | .ok (.syntaxError report) => .ok (.invalid block report)
  | .ok .incomplete => .ok (.exhausted block)
where
  placed (expression : Bool) : Probe :=
    if requireInside && (cursor < block.start || block.stop < cursor) then .outside
    else .ready block expression

/-- The ends that are tried from `start` when `f` is the first code line from the anchor on. -/
structure Growth (b : Buffer) (selection : LineSelection) (f start : Nat) (stops : List Nat) : Prop where
  start_le : start ≤ f
  increasing : stops.Pairwise (· < ·)
  within : ∀ stop ∈ stops, start ≤ stop ∧ stop < b.length
  text : ∀ stop ∈ stops, (CodeBlock.ofBuffer b start stop).text ≠ []
  whole : ∀ stop ∈ stops, ∀ l, anchor b selection ≤ l → l ≤ minLine b selection → (classAt b l).isCode = true →
    start ≤ l ∧ l ≤ stop
  length_le : stops.length ≤ codeCount b (anchor b selection) (b.length - anchor b selection) + 1

theorem Growth.of_prefix {f start : Nat} {stops more : List Nat} (h : Growth b selection f start more)
    (hp : stops <+: more) : Growth b selection f start stops where
  start_le := h.start_le
  increasing := h.increasing.sublist hp.sublist
  within stop hs := h.within stop (hp.subset hs)
  text stop hs := h.text stop (hp.subset hs)
  whole stop hs := h.whole stop (hp.subset hs)
  length_le := hp.length_le.trans h.length_le

theorem concluded_eq_decided {cursor : Nat} {block : CodeBlock} (hle : block.start ≤ block.stop)
    (verdict : Except Fault Verdict) :
    concluded (if requireInside then some cursor else none) exhausted (block,verdict) =
      decided requireInside cursor block verdict := by
  have hconfirm (expression : Bool) : confirm (if requireInside then some cursor else none) block expression =
      decided.placed requireInside cursor block expression := by
    cases requireInside with
    | false => rfl
    | true =>
      have hmax : max block.stop block.start = block.stop := by omega
      simp only [confirm, decided.placed, CodeBlock.lines, LineRange.contains, hmax, if_true, Option.all_some,
        Bool.true_and, Bool.and_eq_true, Bool.or_eq_true, decide_eq_true_eq]
      split <;> split <;> first | rfl | omega
  rcases verdict with fault | verdict
  · rfl
  · cases verdict with
    | expression => exact congrArg Except.ok (hconfirm true)
    | statements => exact congrArg Except.ok (hconfirm false)
    | syntaxError report => rfl
    | incomplete => rfl

/-! ## One end after the other -/

section Grow
variable {inside : Option Nat} {start stop : Nat}

theorem grow_nil (h : (CodeBlock.ofBuffer b start stop).isEmpty = false) :
    grow b filename inside start stop [] = .call (.compile start filename (CodeBlock.ofBuffer b start stop).text)
      fun verdict => .done (concluded inside exhausted (.ofBuffer b start stop,verdict)) := by
  simp only [grow, judge, h]
  rfl

theorem grow_cons {next : Nat} {more : List Nat} (h : (CodeBlock.ofBuffer b start stop).isEmpty = false) :
    grow b filename inside start stop (next :: more) =
      .call (.compile start filename (CodeBlock.ofBuffer b start stop).text) fun verdict =>
        match settle? inside (.ofBuffer b start stop) verdict with
        | some result => .done result
        | none => grow b filename inside start next more := by
  simp only [grow, judge, h]
  rfl

/-- An end at which the block settles is the last one that is tried, and all that were tried before it were
incomplete. -/
theorem advance_grow (answers : Nat → Except Fault Verdict) (filename : Text) (inside : Option Nat) {nexts : List Nat}
    (n : Nat) (c : Controller)
    (hne : ∀ e ∈ stop :: nexts, (CodeBlock.ofBuffer b start e).isEmpty = false) :
    ∃ earlier last, earlier ++ [last] <+: stop :: nexts ∧
      (∀ i < earlier.length, answers (n + i) = .ok .incomplete) ∧
      advance (compiler answers) (grow b filename inside start stop nexts) c n =
        (.done (concluded inside exhausted (.ofBuffer b start last,answers (n + earlier.length))),c,
          n + earlier.length + 1) ∧
      stepsOf (compiler answers) (grow b filename inside start stop nexts) c n =
        (trialsFrom b start answers n (earlier ++ [last])).flatMap (trialSteps filename) := by
  have hstop := hne stop (List.mem_cons_self ..)
  -- Each end uses up one answer, so the answers for the ends that are left begin one later.
  induction nexts generalizing stop n with
  | nil =>
    rw [grow_nil hstop]
    exact ⟨[],stop,List.prefix_rfl,by simp,rfl,rfl⟩
  | cons next more ih =>
    rw [grow_cons hstop]
    cases hs : settle? inside (.ofBuffer b start stop) (answers n) with
    | some result =>
      refine ⟨[],stop,⟨next :: more,rfl⟩,by simp,?_,?_⟩
      · simp [advance, compiler, hs, concluded]
      · simp only [stepsOf, compiler, hs]
        rfl
    | none =>
      have hrest := fun e he => hne e (List.mem_cons_of_mem _ he)
      obtain ⟨earlier,last,hp,hmore,hadvance,hsteps⟩ := ih (n + 1) hrest (hrest next (List.mem_cons_self ..))
      refine ⟨stop :: earlier,last,(List.prefix_cons_inj stop).mpr hp,?_,?_,?_⟩
      · intro i hi
        cases i with
        | zero => exact settle?_eq_none hs
        | succ i =>
          have := hmore i (by simpa using hi)
          rwa [Nat.add_right_comm, Nat.add_assoc] at this
      · simp only [advance, compiler, hs, List.length_cons] at hadvance ⊢
        rw [hadvance, Nat.add_right_comm, Nat.add_assoc]
      · simp only [stepsOf, compiler, hs] at hsteps ⊢
        rw [hsteps]
        rfl

end Grow

/-! ## The whole search -/

theorem anchor_lt (selection : LineSelection) (hb : b.isEmpty = false) : anchor b selection < b.length := by
  have hpos : 0 < b.length := List.length_pos_iff.mpr (List.isEmpty_eq_false_iff.mp hb)
  unfold anchor
  omega

theorem ofSelection_eq {first : EndCandidate} {rest : List EndCandidate}
    (h : EndCandidate.candidates b (anchor b selection) (minLine b selection) b.length = first :: rest) :
    ofSelection b filename selection requireInside =
      if first.isEmpty then .done (.ok .empty)
      else
        let start := BlockStart.find b (startHint (anchor b selection) first) first.needsAbove
        grow b filename (if requireInside then some selection.cursor else none) start (max first.stop start)
          ((rest.map EndCandidate.stop).filter (max first.stop start < ·)) := by
  simp only [minLine, anchor] at h ⊢
  simp only [ofSelection, h]
  rfl

theorem ofSelection_eq_empty (hb : b.isEmpty = false) (h : NoCode b (anchor b selection) b.length) :
    ofSelection b filename selection requireInside = .done (.ok .empty) := by
  obtain ⟨first,rest,hcands⟩ := List.exists_cons_of_ne_nil
    (EndCandidate.candidates_ne_nil b (anchor b selection) (minLine b selection) b.length)
  have hoffered := EndCandidate.offered_of_mem (hcands ▸ List.mem_cons_self ..) (anchor_lt selection hb).le
  have hfirst : first.isEmpty = true := by
    rw [EndCandidate.isEmpty, Option.isNone_iff_eq_none, Option.eq_none_iff_forall_ne_some]
    intro f hf
    obtain ⟨h1,hcode,-⟩ := hoffered.first f hf
    exact absurd hcode (h.not_isCode h1 (lt_length_of_isCode hcode))
  rw [ofSelection_eq hcands, if_pos hfirst]

/-- Where there is code, the search is a growth over ends that are fixed by the buffer alone. -/
theorem ofSelection_eq_grow (filename : Text) (requireInside : Bool) {f : Nat} (hb : b.isEmpty = false)
    (hf : anchor b selection ≤ f) (hcode : (classAt b f).isCode = true) (hgap : NoCode b (anchor b selection) f) :
    ∃ start stop nexts, Growth b selection f start (stop :: nexts) ∧
      ofSelection b filename selection requireInside =
        grow b filename (if requireInside then some selection.cursor else none) start stop nexts := by
  have ha := anchor_lt selection hb
  have hflt := lt_length_of_isCode hcode
  obtain ⟨first,rest,hcands⟩ := List.exists_cons_of_ne_nil
    (EndCandidate.candidates_ne_nil b (anchor b selection) (minLine b selection) b.length)
  have hmem {c : EndCandidate} (hc : c ∈ first :: rest) : c ∈ EndCandidate.candidates b (anchor b selection)
      (minLine b selection) b.length := hcands ▸ hc
  have hmem₀ := hmem (List.mem_cons_self ..)
  have hoffered := EndCandidate.offered_of_mem hmem₀ ha.le
  have hfirst : first.firstCode = some f := hoffered.firstCode_eq hf hflt hcode hgap
  obtain ⟨hle,l,h1,h2,hl⟩ := start_spec ha hoffered hfirst
  set start := BlockStart.find b (startHint (anchor b selection) first) first.needsAbove with hstart
  set stop := max first.stop start with hstop
  -- Every end that is tried reaches as far as a candidate that is kept.
  have hends : ∀ e ∈ stop :: (rest.map EndCandidate.stop).filter (stop < ·), stop ≤ e ∧ e < b.length ∧
      ∃ c ∈ first :: rest, c.stop ≤ e := by
    intro e he
    rcases List.mem_cons.mp he with rfl | he
    · have hlt := EndCandidate.stop_lt_of_mem hmem₀ ha
      exact ⟨le_rfl,by omega,first,List.mem_cons_self ..,le_max_left ..⟩
    · obtain ⟨he,hlt⟩ := List.mem_filter.mp he
      obtain ⟨c,hc,rfl⟩ := List.mem_map.mp he
      have hc := List.mem_cons_of_mem first hc
      exact ⟨(of_decide_eq_true hlt).le,EndCandidate.stop_lt_of_mem (hmem hc) ha,c,hc,le_rfl⟩
  refine ⟨start,stop,(rest.map EndCandidate.stop).filter (stop < ·),⟨hle,?_,?_,?_,?_,?_⟩,?_⟩
  · have hsorted := EndCandidate.increasing_stops none (EndScan.offers b (minLine b selection)
      { lastCode := anchor b selection }
      (List.range' (anchor b selection) (min b.length b.length - anchor b selection)))
    rw [show EndCandidate.increasing none _ = _ from hcands, List.map_cons, List.pairwise_cons] at hsorted
    rw [List.pairwise_cons]
    exact ⟨fun e he => of_decide_eq_true (List.mem_filter.mp he).2,hsorted.2.filter _⟩
  · intro e he
    obtain ⟨h,hlt,-⟩ := hends e he
    exact ⟨(le_max_right _ _).trans h,hlt⟩
  · intro e he
    have hne := CodeBlock.isEmpty_ofBuffer h1 (h2.trans (hends e he).1) (not_allBlank_of_isCode hl)
    simpa [CodeBlock.isEmpty] using hne
  · intro e he k hk hkm hkc
    obtain ⟨-,-,c,hc,hce⟩ := hends e he
    refine ⟨hle.trans ?_,(EndCandidate.candidates_whole (hmem hc) hk hkm hkc).trans hce⟩
    by_contra hkf
    exact absurd hkc (hgap.not_isCode hk (by omega))
  · have hcount := EndCandidate.length_candidates_le b (anchor b selection) (minLine b selection) b.length
    rw [hcands, Nat.min_self] at hcount
    have hfilter := List.length_filter_le (fun e => decide (stop < e)) (rest.map EndCandidate.stop)
    simp only [List.length_cons, List.length_map] at hcount hfilter ⊢
    omega
  · rw [ofSelection_eq hcands, if_neg (by simp [EndCandidate.isEmpty, hfirst])]

/-- The search compiles blocks that only grow and never cut the selection off, each because all before it were
incomplete, and finds what the last answer says of the last of them. -/
theorem find_grows (b : Buffer) (filename : Text) (selection : LineSelection) (requireInside : Bool)
    (answers : Nat → Except Fault Verdict) (c : Controller) (hb : b.isEmpty = false)
    (hmarker : startsOnMarker b selection = false) :
    let search := find b filename selection .block requireInside
    (NoCode b (anchor b selection) b.length →
      advance (compiler answers) search c 0 = (.done (.ok .empty),c,0) ∧
        stepsOf (compiler answers) search c 0 = []) ∧
    ∀ f, anchor b selection ≤ f → (classAt b f).isCode = true → NoCode b (anchor b selection) f →
      ∃ start earlier last, Growth b selection f start (earlier ++ [last]) ∧
        (∀ n < earlier.length, answers n = .ok .incomplete) ∧
        advance (compiler answers) search c 0 = (.done (decided requireInside selection.cursor
          (.ofBuffer b start last) (answers earlier.length)),c,earlier.length + 1) ∧
        stepsOf (compiler answers) search c 0 =
          (trialsFrom b start answers 0 (earlier ++ [last])).flatMap (trialSteps filename) := by
  intro search
  have hsearch : search = ofSelection b filename selection requireInside :=
    find_of_not_takesCell requireInside hb (by simpa [takesCell] using hmarker)
  refine ⟨fun hnone => ?_,fun f hf hcode hgap => ?_⟩
  · rw [hsearch, ofSelection_eq_empty hb hnone]
    exact ⟨rfl,rfl⟩
  · obtain ⟨start,stop,nexts,hgrowth,hgrow⟩ := ofSelection_eq_grow filename requireInside hb hf hcode hgap
    obtain ⟨earlier,last,hp,hearlier,hadvance,hsteps⟩ := advance_grow answers filename
      (if requireInside then some selection.cursor else none) 0 c
      (fun e he => List.isEmpty_eq_false_iff.mpr (hgrowth.text e he))
    have htried := hgrowth.of_prefix hp
    refine ⟨start,earlier,last,htried,by simpa using hearlier,?_,?_⟩
    · have hle := (htried.within last (by simp)).1
      rw [hsearch, hgrow, hadvance, Nat.zero_add, concluded_eq_decided hle]
    · rw [hsearch, hgrow, hsteps]

def bodyLine : Buffer := Buffer.ofText "if x:\n    y = 1\nz = 2"

/-- The body line stays incomplete with all that stands above it, and compiles with the line below. -/
theorem find_grows_bodyLine : bodyLine.isEmpty = false ∧ startsOnMarker bodyLine (.atLine 1) = false ∧
    ∃ start middle last, Growth bodyLine (.atLine 1) 1 start [middle,last] ∧
      advance (compiler fun n => .ok (if n = 0 then .incomplete else .statements))
          (find bodyLine "t.py" (.atLine 1) .block true) {} 0 =
        (.done (decided true 1 (.ofBuffer bodyLine start last) (.ok .statements)),{},2) := by
  have hb : bodyLine.isEmpty = false := by decide +kernel
  have hmarker : startsOnMarker bodyLine (.atLine 1) = false := by decide +kernel
  have hanchor : anchor bodyLine (.atLine 1) = 1 := by decide +kernel
  refine ⟨hb,hmarker,?_⟩
  obtain ⟨start,earlier,last,hgrowth,-,hadvance,-⟩ := (find_grows bodyLine "t.py" (.atLine 1) true
    (fun n => .ok (if n = 0 then .incomplete else .statements)) {} hb hmarker).2 1 hanchor.le (by decide +kernel)
    (.of_le hanchor.ge)
  have htwo : (advance (compiler fun n => .ok (if n = 0 then .incomplete else .statements))
      (find bodyLine "t.py" (.atLine 1) .block true) {} 0).2.2 = 2 := by decide +kernel
  have hlength : earlier.length = 1 := by
    rw [hadvance] at htwo
    exact Nat.succ.inj htwo
  obtain ⟨middle,rfl⟩ := List.length_eq_one_iff.mp hlength
  exact ⟨start,middle,last,hgrowth,hadvance⟩

end StatementPad.Probe
