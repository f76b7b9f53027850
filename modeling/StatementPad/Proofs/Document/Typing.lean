import StatementPad.Proofs.Document.Editing

/-! # Typing and pasting

To type a text is to insert its characters one after the other. That comes to the same as inserting it at once, and
leaves nothing selected, unless the cursor stands on the other end of a selection that holds nothing. This end is kept:
what is put in is selected from then on, and what is typed next takes its place.
-/
namespace StatementPad

namespace Text

theorem splitLines_unbroken {s : Text} (hbreak : '\n' ∉ s) (hreturn : '\r' ∉ s) : splitLines s = [s] := by
  have hlast : endsWith s '\r' = false := by
    rw [endsWith, beq_eq_false_iff_ne]
    exact fun h => hreturn (List.mem_of_getLast? h)
  rw [splitLines, breakLines, split_of_not_mem hbreak, List.map_singleton, dropReturn, hlast]
  rfl

/-- Two lines have a break between them. -/
theorem joinLines_eq_nil {pieces : List Text} (h : joinLines pieces = []) : pieces = [] ∨ pieces = [[]] := by
  match pieces with
  | [] => exact .inl rfl
  | [piece] => exact .inr (by rw [← h, joinLines_one])
  | first :: second :: more =>
    rw [joinLines_cons first (by simp)] at h
    simp at h

theorem splitLines_eq_empty {t : Text} : splitLines t = [[]] ↔ dropReturns t = [] := by
  rw [← joinLines_splitLines]
  exact ⟨fun h => by rw [h, joinLines_one],fun h => (joinLines_eq_nil h).resolve_left (splitLines_ne_nil t)⟩

end Text

namespace Document
open Text Buffer
variable {d : Document} {start stop : Position} {c : Char} {s : Text}

def typed (d : Document) (s : Text) : Document := s.foldl (fun d c => (d.insertChar c).1) d

/-- The cursor stands on the other end of a selection that holds nothing. -/
def AtAnchor (d : Document) : Prop := d.anchor = some d.cursor

instance (d : Document) : Decidable d.AtAnchor := inferInstanceAs (Decidable (d.anchor = some d.cursor))

/-- Typing `s` does what inserting it does: it stands in the place of the selection, and nothing is selected. -/
structure TypedAsPasted (d : Document) (s : Text) : Prop where
  lines : (d.typed s).lines = (d.insertText s).1.lines
  cursor : (d.typed s).cursor = (d.insertText s).1.cursor
  reads : Reads (d.typed s) (d.front ++ s) d.rest
  typed : (d.typed s).selection = none
  pasted : (d.insertText s).1.selection = none

/-- When an insertion leaves nothing selected. -/
structure Unselects (d : Document) : Prop where
  insertChar : ∀ c, (d.insertChar c).1.selection = none ↔ ¬ d.AtAnchor
  insertNewline : d.insertNewline.1.selection = none ↔ ¬ d.AtAnchor
  insertTab : d.insertTab.1.selection = none ↔ ¬ d.AtAnchor
  insertText : ∀ t, (d.insertText t).1.selection = none ↔ ¬ d.AtAnchor ∨ dropReturns t = []

/-! ## The end that is kept -/

theorem selection_eq_none_iff : d.selection = none ↔ d.anchor = none ∨ d.AtAnchor := by
  rw [AtAnchor, Document.selection]
  cases ha : d.anchor with
  | none => simp
  | some anchor =>
    rcases anchor.before_or d.cursor with h | rfl | h
    · have hne : anchor ≠ d.cursor := by
        rintro rfl
        simp [Position.before] at h
      simp [h, hne]
    · simp [Position.before]
    · have hne : anchor ≠ d.cursor := by
        rintro rfl
        simp [Position.before] at h
      simp [h, Position.before_asymm h, hne]

theorem AtAnchor.releaseAnchor (h : d.AtAnchor) : d.releaseAnchor = some d.cursor := by
  rw [Document.releaseAnchor, selection_eq_none_iff.mpr (.inr h)]
  exact h

theorem AtAnchor.bounds (h : d.AtAnchor) : d.bounds = (d.cursor,d.cursor) :=
  bounds_of_none (selection_eq_none_iff.mpr (.inr h))

theorem releaseAnchor_eq_none (h : ¬ d.AtAnchor) : d.releaseAnchor = none := by
  cases hr : d.releaseAnchor with
  | none => rfl
  | some p =>
    obtain ⟨rfl,-⟩ := releaseAnchor_eq hr
    rw [Document.releaseAnchor] at hr
    split at hr
    · cases hr
    · exact absurd hr h

/-- Only what holds nothing ends where it begins. -/
theorem behind_eq_iff {pieces : List Text} : behind start pieces = start ↔ pieces = [] ∨ pieces = [[]] := by
  obtain ⟨line,column⟩ := start
  match pieces with
  | [] => simp [behind]
  | [piece] => simp [behind]
  | first :: second :: more => simp [behind]

/-- What is put in is selected exactly if the other end was kept and something has been put in. -/
theorem selection_replace (d : Document) (stop : Position) (pieces : List Text) :
    ({ d with anchor := d.releaseAnchor }.replace d.bounds.1 stop pieces).1.selection = none ↔
      ¬ d.AtAnchor ∨ pieces = [] ∨ pieces = [[]] := by
  rw [selection_eq_none_iff, AtAnchor]
  dsimp only [replace]
  by_cases h : d.AtAnchor
  · have hstay : some d.cursor = some (behind d.cursor pieces) ↔ pieces = [] ∨ pieces = [[]] := by
      rw [Option.some.injEq, eq_comm]
      exact behind_eq_iff
    rw [h.releaseAnchor, h.bounds, hstay]
    simp [h]
  · simp [h, releaseAnchor_eq_none h]

theorem unselects (d : Document) : Unselects d := by
  have htext (t : Text) : (d.insertText t).1.selection = none ↔ ¬ d.AtAnchor ∨ dropReturns t = [] := by
    have hput := d.selection_replace d.bounds.2 (splitLines t)
    rwa [or_iff_right (splitLines_ne_nil t), splitLines_eq_empty] at hput
  have hnewline : d.insertNewline.1.selection = none ↔ ¬ d.AtAnchor := by
    rw [insertNewline, selection_replace]
    simp
  refine ⟨fun c => ?_,hnewline,?_,htext⟩
  · by_cases hc : c = '\n'
    · rwa [insertChar, if_pos hc]
    · rw [insertChar, if_neg hc, replaceSelection, selection_replace]
      simp
  · rw [insertTab, htext]
    simp [indentStep, dropReturns]

/-! ## One character after the other -/

theorem typed_concat (d : Document) (s : Text) (c : Char) : d.typed (s ++ [c]) = ((d.typed s).insertChar c).1 :=
  List.foldl_concat _ _ _ _

theorem insertChar_eq (hc : c ≠ '\n') (d : Document) : d.insertChar c = d.replaceSelection [[c]] := if_neg hc

/-- A splice in a line that is displayed leaves the lines above and below it. -/
theorem splice_displayed {front : List Text} (hs : front.length = start.line) (l : Text) (back : List Text) (m n : Nat)
    (t : Text) : splice (front ++ l :: back) ⟨start.line,m⟩ ⟨start.line,n⟩ [t] =
      front ++ (l.take m ++ t ++ l.drop n) :: back := by
  have hline : line (front ++ l :: back) start.line = l := by simp [line, ← hs]
  rw [splice_one, hline, ← hs]
  simp [List.drop_append]

variable {b : Buffer}

theorem length_put (hs : start.In b) (s : Text) :
    ((line b start.line).take start.column ++ s).length = start.column + s.length := by
  rw [List.length_append, hs.length_head]

/-- What is put in behind `s` goes on with it. -/
theorem splice_behind (hs : start.In b) (stop : Position) (s t : Text) :
    splice (splice b start stop [s]) (behind start [s]) (behind start [s]) [t] = splice b start stop [s ++ t] := by
  rw [splice_one s, behind, splice_displayed hs.length_above, ← length_put hs s, List.take_left,
    List.drop_left, List.append_assoc _ s t, splice_one]

/-- What is put in the place of `s` stands where `s` was put in. -/
theorem splice_over (hs : start.In b) (stop : Position) (s t : Text) :
    splice (splice b start stop [s]) start (behind start [s]) [t] = splice b start stop [t] := by
  have hhead : ((line b start.line).take start.column ++ s ++ (line b stop.line).drop stop.column).take start.column =
      (line b start.line).take start.column := by
    rw [List.append_assoc, List.take_append_of_le_length hs.length_head.ge, List.take_take, Nat.min_self]
  have hover := splice_displayed hs.length_above ((line b start.line).take start.column ++ s ++
    (line b stop.line).drop stop.column) (b.drop (stop.line + 1)) start.column (start.column + s.length) t
  rw [hhead, ← length_put hs s, List.drop_left, length_put hs s] at hover
  rw [splice_one s, behind, hover, splice_one]

theorem replaceSelection_eq (d : Document) (pieces : List Text) : (d.replaceSelection pieces).1 =
    { d with
      anchor := d.releaseAnchor
      lines := splice d.lines d.bounds.1 d.bounds.2 pieces
      cursor := behind d.bounds.1 pieces
      modified := true } := rfl

theorem replaceSelection_behind (hd : ¬ d.AtAnchor) (hs : d.bounds.1.In d.lines) (s t : Text) :
    ((d.replaceSelection [s]).1.replaceSelection [t]).1 = (d.replaceSelection [s ++ t]).1 := by
  have hanchor : (d.replaceSelection [s]).1.anchor = none := releaseAnchor_eq_none hd
  have hnone : (d.replaceSelection [s]).1.selection = none := selection_eq_none_iff.mpr (.inl hanchor)
  have hkept : (d.replaceSelection [s]).1.releaseAnchor = none := by rw [releaseAnchor, hnone, hanchor]; rfl
  have hlines := splice_behind hs d.bounds.2 s t
  have hcursor : behind (behind d.bounds.1 [s]) [t] = behind d.bounds.1 [s ++ t] := by simp [behind, Nat.add_assoc]
  rw [replaceSelection_eq (d.replaceSelection [s]).1, bounds_of_none hnone, hkept, replaceSelection_eq d [s ++ t],
    releaseAnchor_eq_none hd, ← hlines, ← hcursor]
  rfl

theorem AtAnchor.replaceSelection_over (h : d.AtAnchor) (hin : d.cursor.In d.lines) (hne : s ≠ []) (t : Text) :
    ((d.replaceSelection [s]).1.replaceSelection [t]).1 = (d.clearSelection.replaceSelection [t]).1 := by
  have hpos := List.length_pos_iff.mpr hne
  have hbefore : d.cursor.before (behind d.cursor [s]) = true := by simp [Position.before, behind, hpos]
  have hselection : (d.replaceSelection [s]).1.selection = some (d.cursor,behind d.cursor [s]) := by
    rw [replaceSelection_eq, h.releaseAnchor, h.bounds, Document.selection]
    dsimp only
    rw [if_pos hbefore]
  have hkept : (d.replaceSelection [s]).1.releaseAnchor = none := by rw [Document.releaseAnchor, hselection]; rfl
  have hbounds : (d.replaceSelection [s]).1.bounds = (d.cursor,behind d.cursor [s]) := by
    rw [Document.bounds, hselection]
    rfl
  have hlines := splice_over hin d.cursor s t
  rw [replaceSelection_eq (d.replaceSelection [s]).1, hbounds, hkept, replaceSelection_eq d [s], h.bounds]
  dsimp only
  rw [hlines]
  rfl

/-- As long as the other end is not kept, each character goes behind the ones before it. -/
theorem typed_eq (hd : ¬ d.AtAnchor) (hs : d.bounds.1.In d.lines) (hne : s ≠ []) (hbreak : '\n' ∉ s) :
    d.typed s = (d.replaceSelection [s]).1 := by
  induction s using List.reverseRecOn with
  | nil => exact absurd rfl hne
  | append_singleton s c ih =>
    obtain ⟨hb,hc⟩ : '\n' ∉ s ∧ c ≠ '\n' := by simpa [not_or, eq_comm] using hbreak
    rw [typed_concat, insertChar_eq hc]
    rcases eq_or_ne s [] with rfl | hs'
    · rfl
    · rw [ih hs' hb, replaceSelection_behind hd hs]

/-- The first character that is typed is selected, and the second one takes its place. -/
theorem AtAnchor.typed_cons (h : d.AtAnchor) (hin : d.cursor.In d.lines) (hc : c ≠ '\n') (hne : s ≠ [])
    (hbreak : '\n' ∉ s) : d.typed (c :: s) = d.clearSelection.typed s := by
  obtain ⟨c',s,rfl⟩ := List.exists_cons_of_ne_nil hne
  have hc' : c' ≠ '\n' := fun he => hbreak (he ▸ List.mem_cons_self)
  have htwo : ((d.insertChar c).1.insertChar c').1 = (d.clearSelection.insertChar c').1 := by
    rw [insertChar_eq hc, insertChar_eq hc', insertChar_eq hc', h.replaceSelection_over hin (List.cons_ne_nil c [])]
  exact congrArg (typed · s) htwo

/-! ## Whole texts -/

theorem typedAsPasted (hw : d.WellFormed) (hd : ¬ d.AtAnchor) (hne : s ≠ []) (hbreak : '\n' ∉ s) (hreturn : '\r' ∉ s) :
    TypedAsPasted d s := by
  have hpasted : d.insertText s = d.replaceSelection [s] := by rw [insertText, splitLines_unbroken hbreak hreturn]
  have htyped := typed_eq hd hw.bounds.1 hne hbreak
  have hnone : (d.insertText s).1.selection = none := (d.unselects.insertText s).mpr (.inl hd)
  have hreads := hw.reads_replaceSelection [s]
  rw [joinLines_one] at hreads
  rw [hpasted] at hnone
  exact ⟨by rw [htyped, hpasted],by rw [htyped, hpasted],htyped ▸ hreads,htyped ▸ hnone,hpasted ▸ hnone⟩

/-- Typing a text is the same as inserting it, and insertions leave nothing selected, exactly if the cursor does not
stand on the other end of a selection that holds nothing. If it does, the first of several characters is lost. -/
theorem typing_pasting (hr : Reachable d) (hne : s ≠ []) (hbreak : '\n' ∉ s) (hreturn : '\r' ∉ s) :
    (TypedAsPasted d s ↔ ¬ d.AtAnchor) ∧ Unselects d ∧
      (d.AtAnchor → s.tail ≠ [] → Reads (d.typed s) (d.front ++ s.tail) d.rest) := by
  have hw := hr.wellFormed
  refine ⟨⟨fun h hat => ?_,fun hd => typedAsPasted hw hd hne hbreak hreturn⟩,d.unselects,fun hat hmore => ?_⟩
  · rcases (d.unselects.insertText s).mp h.pasted with hd | hempty
    · exact hd hat
    · rw [← splitLines_eq_empty, splitLines_unbroken hbreak hreturn] at hempty
      exact hne (List.cons.inj hempty).1
  · obtain ⟨c,rest,rfl⟩ := List.exists_cons_of_ne_nil hne
    rw [List.tail_cons] at hmore ⊢
    obtain ⟨hc,hrest⟩ : c ≠ '\n' ∧ '\n' ∉ rest := by simpa [not_or, eq_comm] using hbreak
    have hclear : ¬ d.clearSelection.AtAnchor := nofun
    have hbounds : d.clearSelection.bounds = d.bounds := by rw [hat.bounds]; rfl
    have hreads := hw.clearSelection.reads_replaceSelection [rest]
    rw [joinLines_one, ← typed_eq hclear hw.clearSelection.bounds.1 hmore hrest, front, Document.rest, hbounds] at hreads
    rw [hat.typed_cons hw.cursor hc hmore hrest]
    exact hreads

def returned : Document := ((ofText 1 "x" none).move .right true).move .left true

theorem returned_reachable : Reachable returned :=
  ((Reachable.ofText 1 "x" none).apply (.move .right true)).apply (.move .left true)

/-- A word is typed over another one, and a word is typed where a selection was opened and closed again. -/
theorem typing_pasting_twoWords : ∃ d, Reachable d ∧ d.chosen = "ab".toList ∧ TypedAsPasted d "xy" ∧
    Reachable returned ∧ Reads (returned.typed "xy") ['y'] ['x'] := by
  have hselected := (Reachable.ofText 0 "ab\ncd" none).apply (.move .stop true)
  have htyped := typing_pasting (s := "xy") hselected (by decide) (by decide) (by decide)
  have hreturned := typing_pasting (s := "xy") returned_reachable (by decide) (by decide) (by decide)
  exact ⟨_,hselected,by decide,htyped.1.mpr (by decide),returned_reachable,hreturned.2.2 (by decide) (by decide)⟩

/-- Of two characters that are typed where a selection holds nothing, the second one replaces the first. -/
theorem typing_pasting_differ : ¬ ∀ (d : Document) (s : Text), Reachable d → s ≠ [] → '\n' ∉ s → '\r' ∉ s →
    TypedAsPasted d s := by
  intro h
  have hlines := (h returned "ab" returned_reachable (by decide) (by decide) (by decide)).lines
  revert hlines
  decide

end Document
end StatementPad
