import Mathlib.Data.List.Forall2
import StatementPad.Proofs.Json.Number

/-! # Tokens that are read back

What is written for a word or a quoted text is one token, whatever follows it, as long as a word does not go
on. An escaped character is read as itself, and nothing that is written breaks a line.
-/
namespace StatementPad.Json
variable {c : Char} {t rest word : Text} {token : Token} {tokens more : List Token}

theorem tokensFrom_cons (state : LexState) (c : Char) (rest : Text) : tokensFrom state (c :: rest) =
    (advance state c).bind fun found => (tokensFrom found.2 rest).map (found.1 ++ ·) := by
  rw [tokensFrom]
  cases advance state c with
  | none => rfl
  | some found => cases h : tokensFrom found.2 rest <;> simp [h]

theorem tokensFrom_silent {state next : LexState} (h : advance state c = some ([],next)) (rest : Text) :
    tokensFrom state (c :: rest) = tokensFrom next rest := by
  rw [tokensFrom_cons, h, Option.bind_some]
  exact Option.map_id'

/-! ## Words -/

def Ends (rest : Text) : Prop := ∀ c ∈ rest.head?, isWordChar c = false

theorem ends_nil : Ends [] := fun _ h => by cases h

theorem ends_cons (h : isWordChar c = false) : Ends (c :: rest) := fun _ hc => by cases hc; exact h

theorem advance_word (h : isWordChar c = true) : advance .between c = some ([],.word [c]) := by
  have hspace : isSpace c = false := by
    rw [Bool.eq_false_iff]
    intro hs
    simp only [isSpace, Bool.or_eq_true, beq_iff_eq] at hs
    rcases hs with ((rfl | rfl) | rfl) | rfl <;> cases h
  have hquote : c ≠ '"' := by
    rintro rfl
    cases h
  rw [advance, begin, if_neg (by simp [hspace]), if_neg hquote, if_pos h]

theorem tokensFrom_word {seen : Text} (hw : ∀ c ∈ word, isWordChar c = true) (hrest : Ends rest) :
    tokensFrom (.word seen) (word ++ rest) =
      (wordToken (seen.reverse ++ word)).bind fun token => (tokensFrom .between rest).map (token :: ·) := by
  induction word generalizing seen with
  | nil =>
    -- Whatever follows ends the word and is then lexed as if nothing had been open.
    rw [List.append_nil, List.nil_append]
    cases rest with
    | nil => cases h : wordToken seen.reverse <;> simp [tokensFrom, finish, h]
    | cons c rest =>
      have hc : ¬ isWordChar c = true := by simp [hrest c rfl]
      simp only [tokensFrom_cons, advance, if_neg hc]
      cases wordToken seen.reverse with
      | none => rfl
      | some token => cases begin c <;> simp [Function.comp_def]
  | cons c word ih =>
    have hc : advance (.word seen) c = some ([],.word (c :: seen)) := by
      rw [advance, if_pos (hw c (List.mem_cons_self ..))]
    rw [List.cons_append, tokensFrom_silent hc, ih (fun d hd => hw d (List.mem_cons_of_mem _ hd))]
    simp

/-- The text that comes to `tokens` when nothing is left open before it and no word goes on behind it. -/
def Lexes (t : Text) (tokens : List Token) : Prop :=
  ∀ rest, Ends rest → tokensFrom .between (t ++ rest) = (tokensFrom .between rest).map (tokens ++ ·)

theorem lexes_word (hne : word ≠ []) (hw : word.all isWordChar = true) (h : wordToken word = some token) :
    Lexes word [token] := by
  intro rest hrest
  obtain ⟨c,word,rfl⟩ := List.exists_cons_of_ne_nil hne
  have hw := List.all_eq_true.mp hw
  rw [List.cons_append, tokensFrom_silent (advance_word (hw c (List.mem_cons_self ..))),
    tokensFrom_word (fun d hd => hw d (List.mem_cons_of_mem _ hd)) hrest]
  simp [h]

theorem lexes_nil : Lexes [] [] := fun rest _ => by simp

theorem Lexes.append (ht : Lexes t tokens) {u : Text} (hu : Lexes u more)
    (hends : ∀ rest, Ends rest → Ends (u ++ rest)) : Lexes (t ++ u) (tokens ++ more) := by
  intro rest hrest
  rw [List.append_assoc, ht _ (hends rest hrest), hu rest hrest]
  simp [Function.comp_def]

theorem isDigit_isWordChar (h : c.isDigit = true) : isWordChar c = true := by
  simp [isWordChar, Char.isAlphanum, h]

theorem lexes_write {n : Nat} (h : n < Text.Decimal.wordBound) : Lexes (Text.Decimal.write n) [.integer n] := by
  refine lexes_word (Text.Decimal.write_ne_nil n) (List.all_eq_true.mpr fun c hc =>
    isDigit_isWordChar (Text.Decimal.isDigit_of_mem_write hc)) ?_
  have hword {w : Text} (hw : ∃ c ∈ w, c.isDigit = false) : Text.Decimal.write n ≠ w := by
    rintro rfl
    obtain ⟨c,hc,hd⟩ := hw
    simp [Text.Decimal.isDigit_of_mem_write hc] at hd
  rw [wordToken, if_neg (hword ⟨'n',by decide⟩), if_neg (hword ⟨'t',by decide⟩), if_neg (hword ⟨'f',by decide⟩)]
  exact number?_write h

/-! ## Punctuation -/

theorem lexes_mark (h : begin c = some ([token],.between)) (ht : Lexes t tokens) :
    Lexes (c :: t) (token :: tokens) := by
  intro rest hrest
  rw [List.cons_append, tokensFrom_cons, advance, h, Option.bind_some, ht rest hrest]
  simp [Function.comp_def]

/-! ## Quoted texts -/

def Piece.Means (c : Char) (piece : Piece) : Prop := piece = .char c ∨ piece = .unit c.toNat ∧ c.toNat < 0x20

theorem assemble_unit {n : Nat} (hn : n < 0x20) (pieces : List Piece) :
    assemble (.unit n :: pieces) = (assemble pieces).map (Char.ofNat n :: ·) := by
  have hhigh : isHighUnit n = false := by
    rw [isHighUnit, Bool.and_eq_false_iff, decide_eq_false_iff_not]
    omega
  have hlow : isLowUnit n = false := by
    rw [isLowUnit, Bool.and_eq_false_iff, decide_eq_false_iff_not]
    omega
  cases pieces with
  | nil => simp [assemble, hhigh, hlow]
  | cons piece pieces => cases piece <;> simp [assemble, hhigh, hlow]

theorem assemble_of_means {pieces : List Piece} (h : List.Forall₂ Piece.Means t pieces) : assemble pieces = some t := by
  induction h with
  | nil => rfl
  | @cons c piece t pieces hc _ ih =>
    rcases hc with rfl | ⟨rfl,hlow⟩
    · rw [assemble, ih]
      rfl
    · rw [assemble_unit hlow, ih, Char.ofNat_toNat]
      rfl

theorem hexValue?_hexDigit : ∀ n < 16, hexValue? (hexDigit n) = some n := by decide

theorem tokensFrom_escaped {seen : List Piece} {d : Char} (hc : c ≠ 'u') (h : unescape? c = some d) (rest : Text) :
    tokensFrom (.quoted seen) ('\\' :: c :: rest) = tokensFrom (.quoted (.char d :: seen)) rest := by
  have hescape : advance (.quoted seen) '\\' = some ([],.escaped seen) := rfl
  have hchar : advance (.escaped seen) c = some ([],.quoted (.char d :: seen)) := by
    rw [advance, if_neg hc, h]
    rfl
  rw [tokensFrom_silent hescape, tokensFrom_silent hchar]

theorem tokensFrom_unit {seen : List Piece} {n : Nat} (hn : n < 0x100) (rest : Text) :
    tokensFrom (.quoted seen) ('\\' :: 'u' :: '0' :: '0' :: hexDigit (n / 16) :: hexDigit (n % 16) :: rest) =
      tokensFrom (.quoted (.unit n :: seen)) rest := by
  have hzero : hexValue? '0' = some 0 := by decide
  have hhigh := hexValue?_hexDigit (n / 16) (by omega)
  have hlow := hexValue?_hexDigit (n % 16) (by omega)
  have hn : ((0 * 16 + 0) * 16 + n / 16) * 16 + n % 16 = n := by omega
  have hescape : advance (.quoted seen) '\\' = some ([],.escaped seen) := rfl
  have hunit : advance (.escaped seen) 'u' = some ([],.unit seen 4 0) := rfl
  have hdigit {d : Char} {m left value : Nat} (hd : hexValue? d = some m) (hleft : 1 < left) :
      advance (.unit seen left value) d = some ([],.unit seen (left - 1) (value * 16 + m)) := by
    rw [advance, hd, Option.map_some, if_neg (by omega)]
  have hlast {d : Char} {m value : Nat} (hd : hexValue? d = some m) :
      advance (.unit seen 1 value) d = some ([],.quoted (.unit (value * 16 + m) :: seen)) := by
    rw [advance, hd]
    rfl
  rw [tokensFrom_silent hescape, tokensFrom_silent hunit,
    tokensFrom_silent (hdigit hzero (by decide)), tokensFrom_silent (hdigit hzero (by decide)),
    tokensFrom_silent (hdigit hhigh (by decide)), tokensFrom_silent (hlast hlow), hn]

/-- An escape is read as a piece that stands for the character. -/
theorem tokensFrom_escape (c : Char) : ∃ piece : Piece, piece.Means c ∧ ∀ seen rest,
    tokensFrom (.quoted seen) (escape c ++ rest) = tokensFrom (.quoted (piece :: seen)) rest := by
  have hback {n : Nat} (h : c.toNat = n) : Char.ofNat n = c := by rw [← h, Char.ofNat_toNat]
  have hescaped {d : Char} (hd : d ≠ 'u') (h : unescape? d = some c) : ∃ piece : Piece, piece.Means c ∧
      ∀ seen rest, tokensFrom (.quoted seen) (['\\',d] ++ rest) = tokensFrom (.quoted (piece :: seen)) rest :=
    ⟨.char c,.inl rfl,fun _ rest => tokensFrom_escaped hd h rest⟩
  unfold escape
  split
  next h => exact hescaped (by decide) (by rw [h]; decide)
  split
  next h => exact hescaped (by decide) (by rw [h]; decide)
  split
  next h => exact hescaped (by decide) (by rw [← hback h]; decide)
  split
  next h => exact hescaped (by decide) (by rw [h]; decide)
  split
  next h => exact hescaped (by decide) (by rw [h]; decide)
  split
  next h => exact hescaped (by decide) (by rw [← hback h]; decide)
  split
  next h => exact hescaped (by decide) (by rw [h]; decide)
  split
  next hlow =>
    exact ⟨.unit c.toNat,.inr ⟨rfl,hlow⟩,fun _ rest => tokensFrom_unit (by omega) rest⟩
  next hquote hback _ _ _ _ _ hlow =>
    refine ⟨.char c,.inl rfl,fun seen rest => ?_⟩
    have hplain : advance (.quoted seen) c = some ([],.quoted (.char c :: seen)) := by
      rw [advance, if_neg hquote, if_neg hback, if_neg hlow]
    exact tokensFrom_silent hplain rest

theorem tokensFrom_flatMap_escape (t : Text) : ∃ pieces : List Piece, List.Forall₂ Piece.Means t pieces ∧
    ∀ seen rest, tokensFrom (.quoted seen) (t.flatMap escape ++ rest) =
      tokensFrom (.quoted (pieces.reverse ++ seen)) rest := by
  induction t with
  | nil => exact ⟨[],.nil,fun _ _ => rfl⟩
  | cons c t ih =>
    obtain ⟨piece,hmeans,hpiece⟩ := tokensFrom_escape c
    obtain ⟨pieces,hall,hpieces⟩ := ih
    refine ⟨piece :: pieces,.cons hmeans hall,fun seen rest => ?_⟩
    rw [List.flatMap_cons, List.append_assoc, hpiece, hpieces]
    simp

theorem lexes_quote (t : Text) {u : Text} (hu : Lexes u tokens) : Lexes (quote t ++ u) (.text t :: tokens) := by
  intro rest hrest
  obtain ⟨pieces,hall,hpieces⟩ := tokensFrom_flatMap_escape t
  have hquote : isSpace '"' = false := by decide
  rw [quote, List.cons_append, List.cons_append, List.append_assoc, List.append_assoc, tokensFrom_cons]
  simp only [advance, begin, hquote, Bool.false_eq_true, if_false, if_true, Option.bind_some, List.nil_append]
  rw [hpieces, List.singleton_append, tokensFrom_cons]
  simp [advance, assemble_of_means hall, hu rest hrest, Function.comp_def]

theorem hexDigit_ne_break : ∀ n < 16, hexDigit n ≠ '\n' := by decide

theorem escape_unbroken (c : Char) : '\n' ∉ escape c := by
  unfold escape
  iterate 4
    split
    · decide
  split
  · decide
  next hbreak =>
    iterate 2
      split
      · decide
    split
    · have hhigh := hexDigit_ne_break (c.toNat / 16) (by omega)
      have hlow := hexDigit_ne_break (c.toNat % 16) (by omega)
      simp [Ne.symm hhigh, Ne.symm hlow]
    · simpa using Ne.symm hbreak

theorem quote_unbroken (t : Text) : '\n' ∉ quote t := by
  simp [quote, escape_unbroken]

theorem write_unbroken (n : Nat) : '\n' ∉ Text.Decimal.write n := fun h => by
  cases Text.Decimal.isDigit_of_mem_write h

end StatementPad.Json
