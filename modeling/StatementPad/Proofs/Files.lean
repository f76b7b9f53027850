import Mathlib.Data.List.Basic
import StatementPad.Files

/-! # Files that are written and read again

Writing puts a file where there was a file or nothing. What a path goes through is directories, so it leads to the same
place afterwards.
-/
namespace StatementPad.Files
open Text.Utf8
variable {fs fs' : Files} {path t : Text} {l here : Location} {e : FileEntry} {content : Bytes}

theorem entry?_put_of_ne (h : here ≠ l) : Files.entry? (fs.put l e) here = fs.entry? here := by
  have hfilter : (fs.entries.filter fun old => old.1 ≠ l).lookup here = fs.entries.lookup here := by
    induction fs.entries with
    | nil => rfl
    | cons old rest ih =>
      by_cases ho : old.1 = l
      · rw [List.filter_cons_of_neg (by simpa using ho), List.lookup_cons, beq_eq_false_iff_ne.mpr (ho ▸ h), ih]
      · rw [List.filter_cons_of_pos (by simpa using ho), List.lookup_cons, List.lookup_cons, ih]
  rw [Files.entry?, Files.entry?, put, List.lookup_cons, beq_eq_false_iff_ne.mpr h, hfilter]

theorem entry?_put (h : l ≠ []) : Files.entry? (fs.put l e) l = some e := by
  rw [Files.entry?, if_neg h, put, List.lookup_cons_self]

theorem lookup_eq (h : fs.entry? here = fs'.entry? here) : fs.lookup here = fs'.lookup here := by
  rw [lookup, lookup, h]

/-- The steps of a path go through directories, none of which has gone. -/
theorem follow_put {steps : List Text} {target : Location} (hl : fs.entry? l ≠ some .dir)
    (h : fs.follow here steps = .ok target) : (fs.put l e).follow here steps = .ok target := by
  induction steps generalizing here with
  | nil => exact h
  | cons step rest ih =>
    unfold follow at h ⊢
    have hsame : here ≠ l → (fs.put l e).lookup here = fs.lookup here := fun hne => lookup_eq (entry?_put_of_ne hne)
    split at h
    · cases h
    · cases h
    · cases h
    next hdir =>
      have hne : here ≠ l := by
        rintro rfl
        unfold lookup at hdir
        split at hdir
        · cases hdir
        · exact hl (Except.ok.inj hdir)
      rw [hsame hne, hdir]
      dsimp only
      split_ifs at h ⊢
      · exact ih h
      · exact ih h
      · exact ih h

theorem bind_eq_ok {ε α β : Type} {x : Except ε α} {f : α → Except ε β} {b : β} :
    (x >>= f) = .ok b ↔ ∃ a, x = .ok a ∧ f a = .ok b := by
  cases x with
  | error e => simp [bind, Except.bind]
  | ok a => simp [bind, Except.bind]

theorem locate_put (hl : fs.entry? l ≠ some .dir) (h : fs.locate path = .ok here) :
    (fs.put l e).locate path = .ok here := by
  obtain ⟨_,hcheck,h⟩ := bind_eq_ok.mp h
  refine bind_eq_ok.mpr ⟨_,hcheck,?_⟩
  split_ifs at h ⊢
  exact follow_put hl h

/-- A place that can be written to is no directory. -/
theorem openForWriting_ok (h : fs.openForWriting path = .ok (l,content)) : fs.locate path = .ok l ∧
    namesDirectory path = false ∧ ∃ old, fs.lookup l = .ok old ∧ fs.entry? l = old ∧ old ≠ some .dir := by
  obtain ⟨target,hlocate,h⟩ := bind_eq_ok.mp h
  split at h
  · cases h
  next hname =>
    obtain ⟨old,hold,h⟩ := bind_eq_ok.mp h
    have hentry : fs.entry? target = old := by
      unfold lookup at hold
      split at hold
      · cases hold
      · exact Except.ok.inj hold
    cases old with
    | none =>
      obtain ⟨rfl,-⟩ := Prod.mk.inj (Except.ok.inj h)
      exact ⟨hlocate,Bool.eq_false_iff.mpr hname,none,hold,hentry,by simp⟩
    | some entry =>
      cases entry with
      | dir => cases h
      | file bytes =>
        obtain ⟨rfl,-⟩ := Prod.mk.inj (Except.ok.inj h)
        exact ⟨hlocate,Bool.eq_false_iff.mpr hname,_,hold,hentry,by simp⟩

/-- What has been written is read again. -/
theorem read_writeText (h : fs.writeText path t = .ok fs') : fs'.read path = .ok (encode t) := by
  obtain ⟨⟨l,content⟩,hopen,h⟩ := bind_eq_ok.mp h
  obtain rfl := Except.ok.inj h
  obtain ⟨hlocate,hname,old,hold,hentry,hdir⟩ := openForWriting_ok hopen
  have hne : l ≠ [] := by
    rintro rfl
    exact hdir hentry.symm
  have hlookup : (fs.put l (.file (encode t))).lookup l = .ok (some (.file (encode t))) := by
    unfold lookup at hold ⊢
    split at hold
    · cases hold
    next hlength => rw [if_neg hlength, entry?_put hne]
  have hfind : (fs.put l (.file (encode t))).find path = .ok (l,.file (encode t)) := by
    refine bind_eq_ok.mpr ⟨l,locate_put (hentry ▸ hdir) hlocate,bind_eq_ok.mpr ⟨_,hlookup,?_⟩⟩
    simp [hname]
    rfl
  rw [read, hfind]

/-- A file that can be read is there. -/
theorem existsAt_of_read (h : fs.read path = .ok content) : fs.existsAt path = true := by
  unfold read at h
  unfold existsAt
  split at h
  · cases h
  next hfind => rw [hfind]; rfl
  next hfind => rw [hfind]; rfl

end StatementPad.Files
