import StatementPad.Proofs.Document.Reported
import StatementPad.Proofs.Probe.Growth
import StatementPad.Proofs.Run.Told

/-! # The lines that a run paints

Whatever a probe finds is a block of lines that the buffer has. A run paints the code lines of such a block of
its snapshot, or clears the marker and paints nothing.
-/
namespace StatementPad
open StatementPad.Task Buffer

def CodeBlock.FromLines (b : Buffer) (block : CodeBlock) : Prop :=
  ∃ start stop, block = .ofBuffer b start stop ∧ start ≤ stop ∧ stop < b.length

theorem CodeBlock.FromLines.within {b : Buffer} {block : CodeBlock} (h : block.FromLines b)
    (hflat : ∀ l ∈ b, '\n' ∉ l) : block.codeLines.Within b := by
  obtain ⟨start,stop,rfl,hle,hlt⟩ := h
  obtain ⟨h1,-,h2⟩ := codeLines_spec hflat hle
  exact ⟨h1,h2.trans_lt hlt⟩

namespace Probe
variable {b : Buffer} {filename : Text} {selection : LineSelection} {mode : RunMode} {requireInside : Bool}
  {allowed : List TaskStep → TaskStep → Prop} {past : List TaskStep}

def FoundIn (b : Buffer) (found : Except Fault Probe) : Prop :=
  ∀ p, found = .ok p → ∀ block ∈ p.block?, block.FromLines b

theorem foundIn_concluded (inside : Option Nat) {whenMore : CodeBlock → Probe} {block : CodeBlock}
    (hmore : (whenMore block).block? = some block) (hblock : block.FromLines b) (verdict : Except Fault Verdict) :
    FoundIn b (concluded inside whenMore (block,verdict)) := by
  intro p hp found hfound
  have hconfirm (expression : Bool) (h : confirm inside block expression = p) : block = found := by
    unfold confirm at h
    split at h <;> subst h
    · exact Option.some.inj hfound
    · cases hfound
  suffices h : block = found from h ▸ hblock
  rcases verdict with fault | verdict
  · cases hp
  · cases verdict with
    | expression | statements => exact hconfirm _ (Except.ok.inj hp)
    | syntaxError report =>
      cases hp
      exact Option.some.inj hfound
    | incomplete =>
      cases hp
      exact Option.some.inj (hmore.symm.trans hfound)

theorem foundIn_empty : FoundIn b (.ok .empty) := fun p hp block hblock => by
  cases hp
  cases hblock

theorem foundIn_settled {inside : Option Nat} {block : CodeBlock} {verdict : Except Fault Verdict}
    {result : Except Fault Probe} (h : settle? inside block verdict = some result) (hblock : block.FromLines b) :
    FoundIn b result := by
  have hconcluded : FoundIn b (concluded inside exhausted (block,verdict)) :=
    foundIn_concluded inside rfl hblock verdict
  rwa [concluded, h] at hconcluded

theorem meets_grow_foundIn {inside : Option Nat} {start stop : Nat} {nexts : List Nat}
    (hc : Compiles allowed filename past)
    (hends : ∀ e ∈ stop :: nexts, start ≤ e ∧ e < b.length ∧ (CodeBlock.ofBuffer b start e).isEmpty = false) :
    Meets allowed (fun found _ => FoundIn b found) past (grow b filename inside start stop nexts) := by
  obtain ⟨hle,hlt,hne⟩ := hends stop (List.mem_cons_self ..)
  have hblock : (CodeBlock.ofBuffer b start stop).FromLines b := ⟨start,stop,rfl,hle,hlt⟩
  induction nexts generalizing past stop with
  | nil =>
    rw [grow, meets_bind]
    refine meets_judge hc hne (fun verdict => meets_pure.mpr ?_)
    rw [hne]
    exact foundIn_concluded inside rfl hblock verdict
  | cons next more ih =>
    rw [grow, meets_bind]
    refine meets_judge hc hne (fun verdict => ?_)
    cases hs : settle? inside (CodeBlock.ofBuffer b start stop) verdict with
    | some result => exact meets_pure.mpr (foundIn_settled hs hblock)
    | none =>
      have hrest := fun e he => hends e (List.mem_cons_of_mem _ he)
      obtain ⟨hle,hlt,hne⟩ := hrest next (List.mem_cons_self ..)
      exact ih (hc.trial _) hrest hle hlt hne ⟨start,next,rfl,hle,hlt⟩

theorem meets_ofSelection_foundIn (hc : Compiles allowed filename past) (hb : b.isEmpty = false) :
    Meets allowed (fun found _ => FoundIn b found) past (ofSelection b filename selection requireInside) := by
  rcases noCode_or_first b (anchor b selection) b.length with hnone | ⟨f,h1,-,hcode,hgap⟩
  · rw [ofSelection_eq_empty hb hnone]
    exact foundIn_empty
  · obtain ⟨start,stop,nexts,hgrowth,hgrow⟩ := ofSelection_eq_grow filename requireInside hb h1 hcode hgap
    rw [hgrow]
    refine meets_grow_foundIn hc fun e he => ?_
    obtain ⟨hle,hlt⟩ := hgrowth.within e he
    exact ⟨hle,hlt,List.isEmpty_eq_false_iff.mpr (hgrowth.text e he)⟩

theorem meets_ofRange_foundIn (hc : Compiles allowed filename past) {range : Option LineRange}
    (hrange : ∀ r ∈ range, r.start ≤ r.stop ∧ r.stop < b.length ∧ Text.allBlank (line b r.stop) = false) :
    Meets allowed (fun found _ => FoundIn b found) past (find.ofRange b filename range) := by
  cases range with
  | none => exact foundIn_empty
  | some r =>
    obtain ⟨hle,hlt,hblank⟩ := hrange r rfl
    rw [find.ofRange, ofCell, meets_bind]
    refine meets_judge hc (CodeBlock.isEmpty_ofBuffer hle le_rfl hblank) (fun verdict => ?_)
    have hfound : FoundIn b (concluded none incomplete (.ofBuffer b r.start r.stop,verdict)) :=
      foundIn_concluded none rfl ⟨r.start,r.stop,rfl,hle,hlt⟩ verdict
    rcases verdict with fault | verdict
    · exact hfound
    · cases verdict <;> exact hfound

theorem cellRange_lt {range : LineRange} (h : range ∈ cellRange b selection mode) : range.stop < b.length := by
  cases mode with
  | cell => exact (Cell.enclosing_some h).2.1
  | block => exact (Cell.below_some h).2.2.1

theorem meets_find_foundIn (hc : Compiles allowed filename past) :
    Meets allowed (fun found _ => FoundIn b found) past (find b filename selection mode requireInside) := by
  cases hb : b.isEmpty with
  | true =>
    simp only [find, hb, if_true]
    exact foundIn_empty
  | false =>
    cases hcell : takesCell b selection mode with
    | true =>
      rw [find_of_takesCell requireInside hb hcell]
      refine meets_ofRange_foundIn hc fun range hr => ?_
      obtain ⟨hle,hblank⟩ := cellRange_some hr
      exact ⟨hle,cellRange_lt hr,hblank⟩
    | false =>
      rw [find_of_not_takesCell requireInside hb hcell]
      exact meets_ofSelection_foundIn hc hb

end Probe

namespace Job
open StatementPad.Probe
variable {r : RunRequest} {steps : List TaskStep} {u : Task Unit} {waiting : Bool} {before after : List RunEvent}

/-- What a run paints is code of its snapshot, and stays painted as far as the run is concerned. -/
theorem paint_of_path {buffer : BufferId} {lines : LineRange} {state : MarkerState} (hp : Path (run r) steps u waiting)
    (he : Steps.events steps = before ++ .paint buffer lines state :: after) :
    buffer = r.buffer ∧ (∃ block : CodeBlock, block.FromLines r.snapshot ∧ lines = block.codeLines) ∧
      ∀ other, .clearMarker other ∉ after := by
  obtain ⟨found,probing,rest,outcomes,told,hparted,htold,hsub⟩ := told_of_path hp
  rw [he] at hsub
  have hc : Compiles (fun _ _ => True) r.filename [] := fun _ _ _ => ⟨trivial,trivial⟩
  have hfound : FoundIn r.snapshot found := hparted.probe.meetsAt (meets_find_foundIn hc)
  have hpaint : .paint buffer lines state ∈ told := (hsub _ (by simp)).resolve_right (by simp)
  obtain ⟨p,block,rfl,hb,hlines⟩ := htold.lines _ hpaint rfl
  refine ⟨htold.buffers _ hpaint buffer rfl,⟨block,hfound p rfl block hb,hlines⟩,fun other hm => ?_⟩
  have htell := hsub _ (List.mem_append_right _ (List.mem_cons_of_mem _ hm))
  have hclear := htold.of_clear (htell.resolve_right (by simp))
  rw [hclear] at hpaint
  simp at hpaint

end Job
end StatementPad
