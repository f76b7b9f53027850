import StatementPad.Proofs.Run.Controller
import StatementPad.Proofs.Run.Told
import StatementPad.Run.Scripted

/-! # Runs that a click starts

A click asks for the block under a line, and only if the line is part of it. The probe drops a block on that
account when the block has compiled, but neither a block that did not compile nor a cell.
-/
namespace StatementPad
open StatementPad.Task

namespace Probe
variable {b : Buffer} {filename : Text} {selection : LineSelection} {mode : RunMode} {cursor : Nat}

/-- Drops a block that has compiled unless it holds the cursor. -/
def withhold (cursor : Nat) : Except Fault Probe → Except Fault Probe
  | .ok (.ready block expression) => .ok (confirm (some cursor) block expression)
  | found => found

theorem settle?_withhold (block : CodeBlock) (verdict : Except Fault Verdict) :
    settle? (some cursor) block verdict = (settle? none block verdict).map (withhold cursor) := by
  rcases verdict with fault | verdict
  · rfl
  · cases verdict <;> rfl

theorem grow_withhold {start stop : Nat} {nexts : List Nat} :
    grow b filename (some cursor) start stop nexts =
      (grow b filename none start stop nexts).bind fun found => .done (withhold cursor found) := by
  induction nexts generalizing stop with
  | nil =>
    simp only [grow, bind_eq, bind_bind]
    refine congrArg (Task.bind _) (funext fun verdict => congrArg Task.done ?_)
    rw [settle?_withhold]
    cases settle? none (CodeBlock.ofBuffer b start stop) verdict with
    | some found => rfl
    | none => cases (CodeBlock.ofBuffer b start stop).isEmpty <;> rfl
  | cons next more ih =>
    simp only [grow, bind_eq, bind_bind]
    refine congrArg (Task.bind _) (funext fun verdict => ?_)
    rw [settle?_withhold]
    cases settle? none (CodeBlock.ofBuffer b start stop) verdict with
    | some found => rfl
    | none => exact ih

theorem ofSelection_withhold : ofSelection b filename selection true =
    (ofSelection b filename selection false).bind fun found => .done (withhold selection.cursor found) := by
  simp only [ofSelection]
  cases EndCandidate.candidates b (min selection.start (b.length - 1))
      (max (min selection.start (b.length - 1)) (min selection.stop (b.length - 1))) b.length with
  | nil => rfl
  | cons first rest =>
    dsimp only
    split
    · rfl
    · exact grow_withhold

def clicked (b : Buffer) (selection : LineSelection) (mode : RunMode) (found : Except Fault Probe) :
    Except Fault Probe :=
  if takesCell b selection mode then found else withhold selection.cursor found

/-- A probe that is to hold the cursor goes like any other one, and is looked at when it is over. -/
theorem find_clicked : find b filename selection mode true =
    (find b filename selection mode false).bind fun found => .done (clicked b selection mode found) := by
  cases hcell : takesCell b selection mode with
  | true =>
    simp only [clicked, hcell, if_true, bind_done]
    cases hb : b.isEmpty with
    | true => simp only [find, hb, if_true]
    | false => rw [find_of_takesCell true hb hcell, find_of_takesCell false hb hcell]
  | false =>
    simp only [clicked, hcell, Bool.false_eq_true, if_false]
    cases hb : b.isEmpty with
    | true =>
      simp only [find, hb, if_true]
      rfl
    | false =>
      rw [find_of_not_takesCell true hb hcell, find_of_not_takesCell false hb hcell]
      exact ofSelection_withhold

def blockOf? (found : Except Fault Probe) : Option CodeBlock := found.toOption.bind block?

/-- A block that has compiled on its own account, and not as a cell. -/
def Compiled (b : Buffer) (selection : LineSelection) (mode : RunMode) (found : Except Fault Probe) : Prop :=
  takesCell b selection mode = false ∧ ∃ block expression, found = .ok (.ready block expression)

variable {found : Except Fault Probe} {p : Probe} {block : CodeBlock}

theorem withhold_eq (h : ∀ block expression, found ≠ .ok (.ready block expression)) :
    withhold cursor found = found := by
  rcases found with fault | p
  · rfl
  · cases p with
    | ready block expression => exact absurd rfl (h block expression)
    | empty | outside | invalid block report | incomplete block | exhausted block => rfl

theorem clicked_eq (h : ¬ Compiled b selection mode found) : clicked b selection mode found = found := by
  unfold clicked
  cases hcell : takesCell b selection mode with
  | true => rfl
  | false => exact withhold_eq fun block expression he => h ⟨hcell,block,expression,he⟩

theorem clicked_ready {expression : Bool} (hcell : takesCell b selection mode = false) :
    clicked b selection mode (.ok (.ready block expression)) =
      .ok (if selection.cursor ∈ block.lines then .ready block expression else .outside) := by
  simp [clicked, hcell, withhold, confirm]

/-- A block that is left was found, and one that has compiled holds the cursor. -/
theorem of_clicked (h : clicked b selection mode found = .ok p) (hb : p.block? = some block) :
    found = .ok p ∧ (Compiled b selection mode found → selection.cursor ∈ block.lines) := by
  by_cases hc : Compiled b selection mode found
  · obtain ⟨hcell,block',expression,rfl⟩ := hc
    rw [clicked_ready hcell] at h
    split at h
    next hin =>
      cases h
      cases hb
      exact ⟨rfl,fun _ => hin⟩
    next =>
      cases h
      cases hb
  · rw [clicked_eq hc] at h
    exact ⟨h,fun hc' => absurd hc' hc⟩

end Probe

namespace Job
open StatementPad.Probe
variable {r : RunRequest} {found : Except Fault Probe} {p : Probe} {block : CodeBlock} {d : Dispatch}
  {past steps probing rest : List TaskStep} {line : Nat}

/-- The kernel is called for, and a marker is painted beside, no other block than the one that was found, and only
if it holds the line. If it does not, the marker is cleared and nothing runs. -/
structure KeepsTo (r : RunRequest) (line : Nat) (found : Except Fault Probe) (steps : List TaskStep) : Prop where
  runs : ∀ front call back, steps = front ++ .asked call :: back → (TaskStep.asked call).run? ≠ none →
    ∃ block ∈ blockOf? found, line ∈ block.lines ∧
      ∀ s, (Steps.slot (front ++ [.asked call]) s).running = some (block.source r.filename)
  paints : ∀ buffer lines marker, .paint buffer lines marker ∈ Steps.events steps →
    ∃ block ∈ blockOf? found, line ∈ block.lines ∧ lines = block.codeLines
  outside : ∀ block ∈ blockOf? found, line ∉ block.lines →
    Steps.events steps = [.clearMarker r.buffer, .state .idle] ∧ Steps.runs steps = []

section Parted
variable {kept : Except Fault Probe}

theorem mem_blockOf? (hf : found = .ok p) (hb : p.block? = some block) : block ∈ blockOf? found := by
  subst hf
  exact hb

/-- What runs is the block that was kept. -/
theorem Parted.runs_found (h : Parted r false found kept probing rest)
    (hkept : ∀ p block, kept = .ok p → p.block? = some block → found = .ok p)
    {front back : List TaskStep} {call : KernelCall} (he : probing ++ rest = front ++ .asked call :: back)
    (hrun : (TaskStep.asked call).run? ≠ none) : ∃ p block, kept = .ok p ∧ p.block? = some block ∧
      ∀ s, (Steps.slot (front ++ [.asked call]) s).running = some (block.source r.filename) := by
  obtain ⟨past,rfl,htied⟩ := h.tied_of_split he (.inr hrun)
  obtain ⟨called,hcalled⟩ := Option.ne_none_iff_exists'.mp hrun
  obtain rfl : call = called := by cases call <;> first | exact Option.some.inj hcalled | cases hcalled
  obtain ⟨p,block,d,hp,hd,rfl,hslot⟩ := htied.runs call hcalled
  have hb := block?_of_dispatched? hd
  obtain rfl := hkept p block hp hb
  exact ⟨p,block,hp,hb,Dispatch.running_asked ((h.holds hd).append hslot)⟩

theorem Parted.outside (h : Parted r false found (.ok .outside) probing rest) :
    Steps.events (probing ++ rest) = [.clearMarker r.buffer, .state .idle] ∧ Steps.runs (probing ++ rest) = [] := by
  constructor
  · obtain ⟨told,htold,he⟩ := h.whole
    rw [he]
    generalize Steps.outcomes (probing ++ rest) = outcomes at htold
    cases htold with
    | nothing _ => rfl
    | rejected h | succeeded h | failed h | lost h => cases h
  · refine List.filterMap_eq_nil_iff.mpr fun step hstep => ?_
    obtain ⟨front,back,he⟩ := List.append_of_mem hstep
    by_contra hrun
    obtain ⟨past,-,htied⟩ := h.tied_of_split he (.inr hrun)
    obtain ⟨call,hcall⟩ := Option.ne_none_iff_exists'.mp hrun
    obtain ⟨p,block,d,hp,hd,-⟩ := htied.runs call hcall
    cases hp
    cases hd

/-- A block that was kept is not passed over in silence. -/
theorem Parted.events_ne (h : Parted r false found (.ok p) probing rest) (hb : p.block? = some block) :
    Steps.events (probing ++ rest) ≠ [.clearMarker r.buffer, .state .idle] := by
  obtain ⟨told,htold,he⟩ := h.whole
  rw [he]
  generalize Steps.outcomes (probing ++ rest) = outcomes at htold
  cases htold with
  | nothing hnone => simp [hnone] at hb
  | rejected h => simp
  | succeeded h | failed h | lost h => simp [shown]

end Parted

/-- What becomes of a click: it keeps to its line exactly if the block that is found holds the line or has been
grown until it compiled. -/
structure Confined (r : RunRequest) (line : Nat) : Prop where
  whole : ∀ steps, Path (run (r.clickedAt line)) steps (.done ()) false → ∃ found,
    Probes (r.clickedAt line) false steps found ∧
    (KeepsTo r line found steps ↔ ∀ block ∈ blockOf? found, line ∈ block.lines ∨
      Compiled r.snapshot (.atLine line) r.mode found)
  ends : ∀ steps u waiting, Path (run (r.clickedAt line)) steps u waiting →
    ∃ more, Path (run (r.clickedAt line)) (steps ++ more) (.done ()) false

theorem click_confined (r : RunRequest) (line : Nat) : Confined r line := by
  constructor
  · intro steps hp
    obtain ⟨found,probing,rest,rfl,hparted⟩ : ∃ found probing rest, steps = probing ++ rest ∧
        Parted (r.clickedAt line) false found (clicked r.snapshot (.atLine line) r.mode found) probing rest :=
      exists_parted find_clicked hp
    refine ⟨found,⟨probing,rest,rfl,hparted.probe⟩,?_,?_⟩
    -- A block off the line that has not compiled is left as it is, and something is told of it.
    · intro hkeeps block hblock
      by_contra hnot
      obtain ⟨hout,hc⟩ := not_or.mp hnot
      obtain ⟨p,rfl,hb⟩ : ∃ p, found = .ok p ∧ p.block? = some block := by
        rcases found with fault | p
        · cases hblock
        · exact ⟨p,rfl,hblock⟩
      rw [clicked_eq hc] at hparted
      exact hparted.events_ne hb (hkeeps.outside block hblock hout).1
    · intro hcond
      have hkept {p : Probe} {block : CodeBlock}
          (hk : clicked r.snapshot (.atLine line) r.mode found = .ok p) (hb : p.block? = some block) :
          found = .ok p ∧ line ∈ block.lines := by
        obtain ⟨hf,hin⟩ := of_clicked hk hb
        exact ⟨hf,(hcond block (mem_blockOf? hf hb)).elim id hin⟩
      constructor
      · intro front call back he hrun
        obtain ⟨p,block,hk,hb,hrunning⟩ := hparted.runs_found (fun p block hk hb => (hkept hk hb).1) he hrun
        obtain ⟨hf,hin⟩ := hkept hk hb
        exact ⟨block,mem_blockOf? hf hb,hin,hrunning⟩
      · intro buffer lines marker hm
        obtain ⟨told,htold,he⟩ := hparted.whole
        have htell : .paint buffer lines marker ∈ told := by simpa [he] using hm
        obtain ⟨p,block,hk,hb,hlines⟩ := htold.lines _ htell rfl
        obtain ⟨hf,hin⟩ := hkept hk hb
        exact ⟨block,mem_blockOf? hf hb,hin,hlines⟩
      -- A block off the line has compiled, so that it has been dropped.
      · intro block hblock hout
        obtain ⟨hcell,block',expression,rfl⟩ := (hcond block hblock).resolve_left hout
        obtain rfl : block' = block := Option.some.inj hblock
        have hk : clicked r.snapshot (.atLine line) r.mode (.ok (.ready block' expression)) = .ok .outside :=
          (clicked_ready hcell).trans (congrArg Except.ok (if_neg hout))
        rw [hk] at hparted
        exact hparted.outside
  · intro steps u waiting hp
    obtain ⟨more,value,hwhole⟩ := hp.completes
    exact ⟨more,hwhole⟩

def unclosed : RunRequest :=
  { buffer := 1, filename := "<untitled>", workingDir := none, snapshot := ["", "foo(", ""], selection := .atLine 0,
    mode := .block }

def unscripted : ScriptedKernel := { verdicts := [], outcomes := [], moves := [] }

/-- A click on the blank line runs the call, which every end has left incomplete. -/
theorem click_unclosed : ¬ ∀ r line steps found, Path (run (r.clickedAt line)) steps (.done ()) false →
    Probes (r.clickedAt line) false steps found → KeepsTo r line found steps := by
  intro hall
  have hrun := Controller.path_advance ScriptedKernel.answer (run (unclosed.clickedAt 0)) {} unscripted
  have hfind := Controller.path_advance ScriptedKernel.answer
    (find unclosed.snapshot unclosed.filename (.atLine 0) unclosed.mode false) {} unscripted
  have hkeeps := hall unclosed 0 _ (.ok (.exhausted (.ofBuffer unclosed.snapshot 1 1))) hrun ⟨_,_,rfl,hfind⟩
  have hevents := (hkeeps.outside (.ofBuffer unclosed.snapshot 1 1) rfl (by decide)).1
  revert hevents
  decide

end Job
end StatementPad
