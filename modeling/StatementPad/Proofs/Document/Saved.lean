import StatementPad.Proofs.Document.Checked
import StatementPad.Proofs.Files

/-! # Saving and reloading

A document is saved as its lines with breaks between them. No line has a break in it, so the file is cut into the same
lines again; each of them loses the carriage return that it may end in. A file that cannot be written or read leaves the
document as it is.
-/
namespace StatementPad

namespace Text

theorem dropReturn_eq_self {t : Text} : dropReturn t = t ↔ endsWith t '\r' = false := by
  unfold dropReturn
  split
  next h =>
    refine iff_of_false (fun hd => ?_) (by simp [h])
    have hne : t ≠ [] := by
      rintro rfl
      cases h
    have hlength := congrArg List.length hd
    have hpos := List.length_pos_iff.mpr hne
    rw [List.length_dropLast] at hlength
    omega
  next h => exact iff_of_true rfl (Bool.eq_false_iff.mpr h)

theorem map_dropReturn_eq_self {lines : List Text} :
    lines.map dropReturn = lines ↔ ∀ line ∈ lines, endsWith line '\r' = false := by
  induction lines with
  | nil => simp
  | cons line rest ih => simp only [List.map_cons, List.cons.injEq, dropReturn_eq_self, ih, List.forall_mem_cons]

end Text

namespace Document
open Text
variable {d d' back : Document} {fs fs' : Files} {path t : Text}

/-- Documents that operations lead to where the path may change in between. -/
inductive Kept : Document → Prop
  | reachable {d : Document} : Reachable d → Kept d
  | apply {d : Document} : Kept d → ∀ op : Operation, Kept (op.apply d)
  | name {d : Document} : Kept d → ∀ path : Option Text, Kept { d with path }

theorem Kept.wellFormed (h : Kept d) : d.WellFormed := by
  induction h with
  | reachable hr => exact hr.wellFormed
  | apply _ op ih => exact ih.apply op
  | name _ path ih => exact ⟨ih.lines,ih.unbroken,ih.cursor,ih.anchor⟩

/-! ## What comes back -/

/-- `back` is the document `d` as it comes back from its file, with the cursor as near to `cursor` as can be. -/
structure ComesBack (d : Document) (cursor : Position) (back : Document) : Prop where
  lines : back.lines = d.lines.map dropReturn
  length : back.lines.length = d.lines.length
  unchanged : back.lines = d.lines ↔ ∀ line ∈ d.lines, endsWith line '\r' = false
  anchor : back.anchor = none
  selection : back.selection = none
  cursor : back.cursor = back.clamp cursor
  within : back.cursor.In back.lines
  modified : back.modified = false

theorem save_ok (h : d.save fs = .ok (d',fs')) :
    ∃ path, d.path = some path ∧ fs.writeText path (joinLines d.lines) = .ok fs' := by
  unfold save at h
  split at h
  · cases h
  next path hpath =>
    split at h
    next hwrite =>
      obtain ⟨-,rfl⟩ := Prod.mk.inj (Except.ok.inj h)
      exact ⟨path,hpath,hwrite⟩
    next => cases h

theorem readFile_of_read (h : fs.read path = .ok (Utf8.encode t)) : readFile fs path = .ok t := by
  have htext : fs.readText path = .ok t := by
    rw [Files.readText, h]
    simp [bind, Except.bind, pure, Except.pure]
  rw [readFile, if_pos (Files.existsAt_of_read h), htext]

theorem reload_of_readFile (hpath : d.path = some path) (h : readFile fs path = .ok t) :
    ∃ back, d.reload fs = .ok back ∧ back.lines = splitLines t ∧ back.anchor = none ∧
      back.cursor = back.clamp d.cursor ∧ back.modified = false := by
  simp only [reload, hpath, h, bind, Except.bind, pure, Except.pure]
  exact ⟨_,rfl,rfl,rfl,rfl,rfl⟩

theorem WellFormed.comesBack (hw : d.WellFormed) {cursor : Position}
    (hlines : back.lines = splitLines (joinLines d.lines)) (hanchor : back.anchor = none)
    (hcursor : back.cursor = back.clamp cursor) (hmodified : back.modified = false) : ComesBack d cursor back := by
  rw [splitLines, breakLines_joinLines hw.lines hw.unbroken] at hlines
  have hlength : back.lines.length = d.lines.length := by rw [hlines, List.length_map]
  have hne : back.lines ≠ [] := by
    rw [hlines, Ne, List.map_eq_nil_iff]
    exact hw.lines
  exact {
    lines := hlines
    length := hlength
    unchanged := by rw [hlines, map_dropReturn_eq_self]
    anchor := hanchor
    selection := by rw [Document.selection, hanchor]
    cursor := hcursor
    within := hcursor ▸ clamp_in hne cursor
    modified := hmodified }

/-! ## Changing a document in place -/

def saving (fs : Files) : EStateM Failure Document Files := do
  match (← get).path with
  | none => throw noFileName
  | some path =>
    match fs.writeText path (joinLines (← get).lines) with
    | .error e => throw (e.failure.within ("writing " ++ path))
    | .ok fs => modify ({ · with modified := false }); return fs

def reloading (fs : Files) : EStateM Failure Document Unit := do
  match (← get).path with
  | none => throw noFileName
  | some path =>
    match readFile fs path with
    | .error e => throw e
    | .ok t =>
      modify ({ · with lines := splitLines t })
      modify ({ · with anchor := none })
      modify clampCursor
      modify ({ · with modified := false })

theorem saving_run (d : Document) (fs : Files) : (saving fs).run d =
    match d.save fs with
    | .ok (d', fs') => .ok fs' d'
    | .error e => .error e d := by
  rw [save]
  cases hp : d.path with
  | none =>
    simp only [saving, EStateM.run_bind, EStateM.run_get, hp]
    rfl
  | some path =>
    simp only [saving, EStateM.run_bind, EStateM.run_get, hp]
    cases fs.writeText path (joinLines d.lines) with
    | error e => rfl
    | ok fs' =>
      rw [← hp]
      rfl

theorem reloading_run (d : Document) (fs : Files) : (reloading fs).run d =
    match d.reload fs with
    | .ok d' => .ok () d'
    | .error e => .error e d := by
  rw [reload]
  cases hp : d.path with
  | none =>
    simp only [reloading, EStateM.run_bind, EStateM.run_get, hp]
    rfl
  | some path =>
    simp only [reloading, EStateM.run_bind, EStateM.run_get, hp]
    cases readFile fs path with
    | error e => rfl
    | ok t =>
      have hclamp := clampCursor_eq { d with lines := splitLines t, anchor := none } (splitLines_ne_nil t)
      simp only [EStateM.run_bind, EStateM.run_modify, hclamp]
      rw [← hp]
      rfl

theorem saving_error {e : Failure} (h : (saving fs).run d = .error e d') : d.save fs = .error e ∧ d' = d := by
  rw [saving_run] at h
  cases hs : d.save fs with
  | ok result =>
    rw [hs] at h
    cases h
  | error e' =>
    rw [hs] at h
    cases h
    exact ⟨rfl,rfl⟩

theorem reloading_error {e : Failure} (h : (reloading fs).run d = .error e d') : d.reload fs = .error e ∧ d' = d := by
  rw [reloading_run] at h
  cases hr : d.reload fs with
  | ok result =>
    rw [hr] at h
    cases h
  | error e' =>
    rw [hr] at h
    cases h
    exact ⟨rfl,rfl⟩

/-- What is saved comes back, whatever is done to the document before it is reloaded, if the file is the same. Where
saving or reloading fails, the document that was to be changed has not been touched. -/
theorem save_reload (h : Kept d) :
    (∀ fs d₁ fs₁, d.save fs = .ok (d₁,fs₁) → ∀ (fs₂ : Files) (d₂ : Document), d₂.path = d.path →
      (∀ path ∈ d.path, fs₂.read path = fs₁.read path) →
        ∃ back, d₂.reload fs₂ = .ok back ∧ ComesBack d d₂.cursor back) ∧
    (∀ fs e d', (saving fs).run d = .error e d' → d.save fs = .error e ∧ d' = d) ∧
    ∀ fs e d', (reloading fs).run d = .error e d' → d.reload fs = .error e ∧ d' = d := by
  refine ⟨?_,fun _ _ _ => saving_error,fun _ _ _ => reloading_error⟩
  intro fs d₁ fs₁ hsave fs₂ d₂ hpath hsame
  obtain ⟨path,hd,hwrite⟩ := save_ok hsave
  have hread : fs₂.read path = .ok (Utf8.encode (joinLines d.lines)) := by
    rw [hsame path hd, Files.read_writeText hwrite]
  obtain ⟨back,hback,hlines,hanchor,hcursor,hmodified⟩ :=
    reload_of_readFile (hpath.trans hd) (readFile_of_read hread)
  exact ⟨back,hback,h.wellFormed.comesBack hlines hanchor hcursor hmodified⟩

def pasted : Document := (Operation.insertText "x\r\r\ny").apply (ofText 1 [] (some "/a.py"))

theorem save_reload_return : pasted.lines = ["x\r".toList,"y".toList] ∧ ∃ back,
    back.lines = ["x".toList,"y".toList] ∧ ∃ d₁ fs₁, pasted.save (.emptyAt []) = .ok (d₁,fs₁) ∧
      d₁.reload fs₁ = .ok back := by
  have hlines : pasted.lines = ["x\r".toList,"y".toList] := by decide
  have hsaved : (pasted.save (.emptyAt [])).isOk = true := by decide
  refine ⟨hlines,?_⟩
  cases hs : pasted.save (.emptyAt []) with
  | error e =>
    rw [hs] at hsaved
    cases hsaved
  | ok result =>
    obtain ⟨d₁,fs₁⟩ := result
    have hkept : Kept pasted := .apply (.reachable (.ofText ..)) _
    obtain ⟨back,hback,hcomes⟩ := (save_reload hkept).1 _ d₁ fs₁ hs fs₁ d₁ (by rw [save_eq hs]) (fun _ _ => rfl)
    exact ⟨back,hcomes.lines.trans (by rw [hlines]; decide),d₁,fs₁,rfl,hback⟩

end Document
end StatementPad
