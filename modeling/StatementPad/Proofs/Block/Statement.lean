import StatementPad.Probe
import StatementPad.Proofs.Block
import StatementPad.Proofs.Block.Ends
import StatementPad.Proofs.Block.Start

/-! # Compound statements

A compound statement is a header in the first column with all that is indented or a clause below it, and with
its decorators if it is a definition. From a cursor anywhere in it the probe begins with the whole statement,
unless the code below it is a decorator or goes on with a backslash: then the scan reads on.
-/
namespace StatementPad
open Buffer
variable {b : Buffer}

def Task.firstCall? {α : Type} : Task α → Option KernelCall
  | .call c _ => some c
  | .done _ | .act .. => none

/-- A block that has a text is asked about before it grows. -/
theorem Probe.firstCall_grow {start stop : Nat} (filename : Text) (inside : Option Nat) (nexts : List Nat)
    (h : (CodeBlock.ofBuffer b start stop).isEmpty = false) :
    (Probe.grow b filename inside start stop nexts).firstCall? =
      some (.compile start filename (CodeBlock.ofBuffer b start stop).text) := by
  cases nexts <;> simp only [grow, judge, h] <;> rfl

structure CodeBelow (b : Buffer) (last l : Nat) : Prop where
  lt : last < l
  code : (classAt b l).isCode = true
  first : NoCode b (last + 1) l

theorem CodeBelow.unique {last l m : Nat} (hl : CodeBelow b last l) (hm : CodeBelow b last m) : l = m :=
  first_unique hl.lt hm.lt hl.code hm.code hl.first hm.first

/-- A line that is not complete without the next one. -/
def Unfinished (b : Buffer) (l : Nat) : Prop :=
  (classAt b l).isDecorator = true ∨ (classAt b l).isContinued = true

/-- The lines `top` to `last` are a statement whose header stands on line `head`. -/
structure CompoundStatement (b : Buffer) (top head last : Nat) : Prop where
  header : (classAt b head).isHeader = true
  free : (classAt b head).needsAbove = false
  undecorating : (classAt b head).isDecorator = false
  head_lt : head < last
  ends : (classAt b last).isCode = true
  body : ∀ l, head < l → l ≤ last → (classAt b l).isCode = true → (classAt b l).needsAbove = true
  below : ∀ l, CodeBelow b last l → (classAt b l).needsAbove = false
  decorated : (classAt b head).isDefinition = true → BlockStart.TopDecorator b head top
  undecorated : (classAt b head).isDefinition = false →
    top = head ∧ ∀ l, l + 1 = head → (classAt b l).isDecorator = false

namespace BlockStart

theorem TopDecorator.not_lt {head top top' : Nat} (h : TopDecorator b head top) (h' : TopDecorator b head top') :
    ¬ top < top' := by
  intro hlt
  have hd : (classAt b top).isDecorator = true := h.decorates.resolve_left (by have := h'.le; omega)
  obtain ⟨m,h1,h2,h3,h4⟩ := h'.topmost top hlt hd
  rw [h.reached m h1.le h2 h3] at h4
  cases h4

theorem TopDecorator.unique {head top top' : Nat} (h : TopDecorator b head top) (h' : TopDecorator b head top') :
    top = top' :=
  Nat.le_antisymm (Nat.le_of_not_lt (h'.not_lt h)) (Nat.le_of_not_lt (h.not_lt h'))

theorem decoratorsAbove_of_undecorated {head : Nat}
    (h : ∀ l, l + 1 = head → (classAt b l).isDecorator = false) : decoratorsAbove b false head head = head := by
  cases head with
  | zero => rfl
  | succ above => simp [decoratorsAbove, h above rfl]

end BlockStart

namespace CompoundStatement
variable {top head last cursor : Nat}

theorem decoratorsAbove_eq (hs : CompoundStatement b top head last) :
    BlockStart.decoratorsAbove b ((classAt b head).isDefinition || (classAt b head).isDecorator) head head = top := by
  rw [hs.undecorating, Bool.or_false]
  cases hd : (classAt b head).isDefinition with
  | true =>
    exact (BlockStart.topDecorator_decoratorsAbove le_rfl le_rfl (.inl rfl) (fun l h1 h2 => absurd h1 (by omega))
      (fun l h1 h2 => absurd h1 (by omega))).unique (hs.decorated hd)
  | false =>
    obtain ⟨rfl,hu⟩ := hs.undecorated hd
    exact BlockStart.decoratorsAbove_of_undecorated hu

theorem top_le (hs : CompoundStatement b top head last) : top ≤ head := by
  rw [← hs.decoratorsAbove_eq]
  exact BlockStart.decoratorsAbove_le le_rfl

theorem head_isCode (hs : CompoundStatement b top head last) : (classAt b head).isCode = true :=
  LineClass.isCode_of_has hs.header

theorem last_lt (hs : CompoundStatement b top head last) : last < b.length := lt_length_of_isCode hs.ends

/-- The start search climbs from the first code line at or below the cursor, or from the cursor itself. -/
theorem find_start (hs : CompoundStatement b top head last) {first : EndCandidate} (h1 : head ≤ cursor)
    (h2 : cursor ≤ last) (hf : Offered b cursor b.length first) :
    BlockStart.find b (Probe.startHint cursor first) first.needsAbove = top := by
  have hlast := hs.last_lt
  have hclimb {n from' : Nat} (hn : head < n) (hle : n ≤ last + 1) :
      BlockStart.headAbove b true from' n = top := by
    rw [BlockStart.headAbove_climb hs.head_isCode hs.free hn
      (fun l hl hl' hc => hs.body l hl (by omega) hc), hs.decoratorsAbove_eq]
  cases hcode : first.firstCode with
  | none =>
    exact absurd hs.ends ((hf.empty hcode).not_isCode h2 hlast)
  | some f =>
    obtain ⟨hcf,hfc,hgap,habove⟩ := hf.first f hcode
    have hfl : f ≤ last := by
      by_contra hlt
      exact absurd hs.ends (hgap.not_isCode h2 (by omega))
    simp only [Probe.startHint, hcode, habove, Option.getD_some]
    rcases Nat.eq_or_lt_of_le (h1.trans hcf) with rfl | hlt
    · have hind : (classAt b head).isIndented = false := (Bool.or_eq_false_iff.mp hs.free).1
      rw [hind, if_neg (by simp), BlockStart.find_eq (by omega)]
      simp only [BlockStart.headAbove, hs.free, hs.undecorating, hs.head_isCode, Bool.false_or, Bool.or_false]
      cases hdef : (classAt b head).isDefinition with
      | true => simpa [hdef, hs.undecorating] using hs.decoratorsAbove_eq
      | false => simpa [hdef] using (hs.undecorated hdef).1.symm
    · have hneeds := hs.body f hlt hfl hfc
      cases hind : (classAt b f).isIndented with
      | true =>
        rw [if_pos rfl, BlockStart.find_eq (by omega)]
        exact hclimb (by omega) (by omega)
      | false =>
        rw [if_neg (by simp), BlockStart.find_eq (by omega)]
        simp only [BlockStart.headAbove, hneeds, hfc, Bool.false_or, Bool.true_or, Bool.not_true, Bool.false_and,
          Bool.false_eq_true, ↓reduceIte]
        exact hclimb hlt (by omega)

/-- No line of the statement ends it for a scan from the cursor. -/
theorem not_standsAlone (hs : CompoundStatement b top head last) (h1 : head ≤ cursor) {l : Nat}
    (hl : cursor ≤ l) (hll : l ≤ last) : ¬ StandsAlone b cursor l := by
  intro ha
  rcases Nat.eq_or_lt_of_le (h1.trans hl) with rfl | hlt
  · obtain ⟨m,hm1,hm2,-⟩ := ha.closed hs.header
    omega
  · have hfree := ha.free
    rw [hs.body l hlt hll ha.code] at hfree
    cases hfree

/-- A scan from the cursor passes over the statement, and over the blank lines and comments below it. -/
theorem offers_below (hs : CompoundStatement b top head last) {n : Nat} (h1 : head ≤ cursor) (h2 : cursor ≤ last)
    (hn : last < n) (hnl : n ≤ b.length) (hgap : NoCode b (last + 1) n) :
    ∃ t, Scanned b cursor n t ∧ t.lastCode = last ∧
      EndScan.offers b cursor { lastCode := cursor } (List.range' cursor (b.length - cursor)) =
        EndScan.offers b cursor t (List.range' n (b.length - n)) := by
  obtain ⟨t,ht,he⟩ := (Scanned.start b cursor).offers_skip_range (n - cursor) (b.length - n) (by
    intro l hl hln
    rcases Nat.lt_or_ge last l with h | h
    · intro ha
      exact absurd ha.code (hgap.not_isCode h (by omega))
    · exact hs.not_standsAlone h1 hl h)
  rw [Nat.add_sub_cancel' (by omega)] at ht he
  rw [show n - cursor + (b.length - n) = b.length - cursor by omega] at he
  exact ⟨t,ht,ht.lastCode_eq h2 hn hs.ends hgap,he⟩

/-- The first candidate ends with the statement or below it, and below it exactly if the code below is
unfinished. -/
theorem first_candidate (hs : CompoundStatement b top head last) (h1 : head ≤ cursor) (h2 : cursor ≤ last) :
    ∃ first rest, EndCandidate.candidates b cursor cursor b.length = first :: rest ∧
      Offered b cursor b.length first ∧ last ≤ first.stop ∧ (classAt b first.stop).isCode = true ∧
      (first.stop = last ↔ ∀ l, CodeBelow b last l → ¬ Unfinished b l) := by
  have hlast := hs.last_lt
  obtain ⟨first,more,hoff⟩ := List.exists_cons_of_ne_nil (EndScan.offers_ne_nil b cursor { lastCode := cursor }
    (List.range' cursor (min b.length b.length - cursor)))
  refine ⟨first,_,candidates_eq_cons hoff,?_⟩
  rw [Nat.min_self] at hoff
  have hstart := Scanned.start b cursor
  have hoffered := (hstart.offers_spec (hoff ▸ List.mem_cons_self ..)).1
  rw [Nat.add_sub_cancel' (by omega)] at hoffered
  refine ⟨hoffered,?_⟩
  rcases noCode_or_first b (last + 1) b.length with hgap | ⟨u,hlt,hul,huc,hgap⟩
  · obtain ⟨t,ht,htl,he⟩ := hs.offers_below h1 h2 hlast le_rfl hgap
    rw [hoff, Nat.sub_self] at he
    obtain rfl : first = t.candidate t.lastCode := (List.cons.inj he).1
    rw [htl]
    refine ⟨le_rfl,hs.ends,fun _ l hl => ?_,fun _ => rfl⟩
    exact absurd hl.code (hgap.not_isCode hl.lt (lt_length_of_isCode hl.code))
  · have hu : CodeBelow b last u := ⟨hlt,huc,hgap⟩
    obtain ⟨t,ht,htl,he⟩ := hs.offers_below h1 h2 hlt hul.le hgap
    rw [hoff, show b.length - u = b.length - (u + 1) + 1 by omega, List.range'_succ] at he
    by_cases hun : Unfinished b u
    · rw [ht.offers_skip _ (fun _ ha => by
        rcases hun with h | h
        · simp [ha.undecorating] at h
        · simp [ha.ended] at h)] at he
      have hge := ((ht.read cursor).offers_spec (he ▸ List.mem_cons_self ..)).2
      rw [EndScan.lastCode_read hu.code] at hge
      refine ⟨by omega,hoffered.ends.resolve_left (by omega),fun h => by omega,fun h => absurd hun (h u hu)⟩
    · have ha : StandsAlone b cursor u := by
        rw [Unfinished, not_or, Bool.not_eq_true, Bool.not_eq_true] at hun
        exact ⟨hu.code,hs.below u hu,hun.1,hun.2,fun _ => ⟨last,h2,hu.lt,hs.ends⟩⟩
      rw [ht.offers_standsAlone _ ha (by omega)] at he
      obtain rfl := (List.cons.inj he).1
      rw [if_neg (by omega), htl]
      exact ⟨le_rfl,hs.ends,fun _ l hl => hl.unique hu ▸ hun,fun _ => rfl⟩

theorem firstCall_of_candidates (hs : CompoundStatement b top head last) (filename : Text) (inside : Bool)
    {first : EndCandidate} {rest : List EndCandidate} (h1 : head ≤ cursor) (h2 : cursor ≤ last)
    (hm : Cell.isMarkerAt b cursor = false)
    (hcand : EndCandidate.candidates b cursor cursor b.length = first :: rest)
    (hoffered : Offered b cursor b.length first) (hle : last ≤ first.stop) :
    (Probe.find b filename (.atLine cursor) .block inside).firstCall? =
      some (.compile top filename (CodeBlock.ofBuffer b top first.stop).text) := by
  have hlast := hs.last_lt
  have htop := hs.top_le
  have hhead := hs.head_lt
  have hb : b.isEmpty = false := by
    rw [List.isEmpty_eq_false_iff]
    exact List.ne_nil_of_length_pos (by omega)
  have hfirst : first.isEmpty = false := by
    rw [EndCandidate.isEmpty, Option.isNone_eq_false_iff, Option.isSome_iff_ne_none]
    intro hn
    exact absurd hs.ends ((hoffered.empty hn).not_isCode h2 hlast)
  have hmark : Probe.startsOnMarker b ⟨cursor,cursor,cursor,false⟩ = false := by
    rw [Probe.startsOnMarker, hm]
    rfl
  have hmin : min cursor (b.length - 1) = cursor := by omega
  simp only [Probe.find, hb, LineSelection.atLine, hmark, Bool.false_eq_true, if_false, Probe.ofSelection, hmin,
    Nat.max_self, hcand, hfirst, hs.find_start h1 h2 hoffered]
  rw [Nat.max_eq_left (by omega)]
  exact Probe.firstCall_grow _ _ _ (CodeBlock.isEmpty_ofBuffer (by omega) hle (not_allBlank_of_isCode hs.ends))

/-- From a cursor in the statement the probe asks about the whole of it first: never about a part, and about
more exactly if the code below is unfinished. -/
theorem firstCall_find (hs : CompoundStatement b top head last) (filename : Text) (inside : Bool)
    (h1 : head ≤ cursor) (h2 : cursor ≤ last) (hm : Cell.isMarkerAt b cursor = false) :
    (∃ stop, last ≤ stop ∧ (Probe.find b filename (.atLine cursor) .block inside).firstCall? =
      some (.compile top filename (CodeBlock.ofBuffer b top stop).text)) ∧
    ((Probe.find b filename (.atLine cursor) .block inside).firstCall? =
      some (.compile top filename (CodeBlock.ofBuffer b top last).text) ↔
        ∀ l, CodeBelow b last l → ¬ Unfinished b l) := by
  obtain ⟨first,rest,hcand,hoffered,hle,hcode,hiff⟩ := hs.first_candidate h1 h2
  have hcall := hs.firstCall_of_candidates filename inside h1 h2 hm hcand hoffered hle
  have htop := hs.top_le
  have hhead := hs.head_lt
  refine ⟨⟨first.stop,hle,hcall⟩,?_⟩
  rw [hcall, ← hiff]
  constructor
  · intro he
    have htext := congrArg List.length (KernelCall.compile.inj (Option.some.inj he)).2.2
    rcases Nat.eq_or_lt_of_le hle with h | h
    · exact h.symm
    · have hlt : (CodeBlock.ofBuffer b top last).text.length < (CodeBlock.ofBuffer b top first.stop).text.length :=
        CodeBlock.length_text_lt (by omega) h le_rfl hcode
      omega
  · intro he
    rw [he]

def plainBelow : Buffer := Buffer.ofText "@cached\n# note\ndef f(x):\n    return x\nz = 2"

theorem plainBelow_statement : CompoundStatement plainBelow 0 2 3 where
  header := by decide +kernel
  free := by decide +kernel
  undecorating := by decide +kernel
  head_lt := by decide
  ends := by decide +kernel
  body l h1 h2 _ := by
    obtain rfl : l = 3 := by omega
    decide +kernel
  below l hl := by
    obtain rfl : l = 4 := hl.unique ⟨by omega,by decide +kernel,.of_le le_rfl⟩
    decide +kernel
  decorated _ := ⟨by decide,.inr (by decide +kernel),by decide +kernel,fun l hl => absurd hl (by omega)⟩
  undecorated hd := by
    have hdef : (classAt plainBelow 2).isDefinition = true := by decide +kernel
    rw [hdef] at hd
    cases hd

theorem firstCall_plainBelow : CompoundStatement plainBelow 0 2 3 ∧
    (Probe.find plainBelow "t.py" (.atLine 3) .block false).firstCall? =
      some (.compile 0 "t.py" (CodeBlock.ofBuffer plainBelow 0 3).text) := by
  refine ⟨plainBelow_statement,?_⟩
  have hfind := plainBelow_statement.firstCall_find "t.py" false (show 2 ≤ 3 by decide) le_rfl (by decide +kernel)
  refine hfind.2.mpr (fun l hl => ?_)
  obtain rfl : l = 4 := hl.unique ⟨by omega,by decide +kernel,.of_le le_rfl⟩
  exact not_or.mpr ⟨by decide +kernel,by decide +kernel⟩

def decoratedBelow : Buffer := Buffer.ofText "if x:\n    y = 1\n@cached\ndef f():\n    return y"

theorem decoratedBelow_statement : CompoundStatement decoratedBelow 0 0 1 where
  header := by decide +kernel
  free := by decide +kernel
  undecorating := by decide +kernel
  head_lt := by decide
  ends := by decide +kernel
  body l h1 h2 _ := by
    obtain rfl : l = 1 := by omega
    decide +kernel
  below l hl := by
    obtain rfl : l = 2 := hl.unique ⟨by omega,by decide +kernel,.of_le le_rfl⟩
    decide +kernel
  decorated hd := by
    have hdef : (classAt decoratedBelow 0).isDefinition = false := by decide +kernel
    rw [hdef] at hd
    cases hd
  undecorated _ := ⟨rfl,fun l hl => by omega⟩

/-- The conditional is first offered together with the decorator below it. -/
theorem firstCall_decoratedBelow : CompoundStatement decoratedBelow 0 0 1 ∧
    (CodeBlock.ofBuffer decoratedBelow 0 1).text = "if x:\n    y = 1".toList ∧
    (Probe.find decoratedBelow "t.py" (.atLine 0) .block false).firstCall? =
      some (.compile 0 "t.py" "if x:\n    y = 1\n@cached") :=
  ⟨decoratedBelow_statement,by decide +kernel,by decide +kernel⟩

end CompoundStatement
end StatementPad
