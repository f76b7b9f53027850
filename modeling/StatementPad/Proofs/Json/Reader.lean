import StatementPad.Json.Reader
import StatementPad.Proofs.Json.Token

/-! # Values that are read back

A value is legible within some levels of nesting if its written form, wherever it stands, comes to tokens that
are read as the value. Lists and objects of legible values are legible within one level more.
-/
namespace StatementPad.Json
variable {levels : Nat} {j : Json} {token : Token} {tokens more : List Token} {stack : List Frame}

theorem readTokens_cons (state : ReadState) (token : Token) (rest : List Token) :
    readTokens state (token :: rest) = (state.next token).bind fun state => readTokens state rest := by
  rw [readTokens]

structure Spelled (levels : Nat) (j : Json) (tokens : List Token) : Prop where
  lexes : Lexes (write j) tokens
  unbroken : '\n' ∉ write j
  opens : ∃ first rest, tokens = first :: rest ∧ first ≠ .closeList
  reads : ∀ stack more, stack.length + levels ≤ maxDepth →
    readTokens (.value stack) (tokens ++ more) = readTokens (.complete j stack) more

def Legible (levels : Nat) (j : Json) : Prop := ∃ tokens, Spelled levels j tokens

/-- Nothing is left to read but the line break at the end. -/
theorem Legible.read? (h : Legible levels j) (hlevels : levels ≤ maxDepth) :
    Json.read? (write j) = some j ∧ Json.read? (write j ++ ['\n']) = some j := by
  obtain ⟨tokens,hs⟩ := h
  have hread : readTokens (.value []) tokens = some j := by
    have hstart := hs.reads [] [] (by simpa using hlevels)
    rw [List.append_nil] at hstart
    exact hstart
  have hend {rest : Text} (hrest : Ends rest) (hspace : tokensFrom .between rest = some []) :
      Json.read? (write j ++ rest) = some j := by
    rw [Json.read?, Json.tokens, hs.lexes rest hrest, hspace]
    simpa using hread
  have hnil := hend ends_nil rfl
  rw [List.append_nil] at hnil
  exact ⟨hnil,hend (ends_cons (by decide)) rfl⟩

/-! ## Single tokens -/

theorem legible_of_token (levels : Nat) (token : Token) (hl : Lexes (write j) [token])
    (h : ∀ stack, startValue stack token = some (.complete j stack)) (hflat : '\n' ∉ write j) : Legible levels j := by
  refine ⟨[token],hl,hflat,⟨token,[],rfl,?_⟩,fun stack more _ => ?_⟩
  · rintro rfl
    cases h []
  · rw [List.singleton_append, readTokens_cons, ReadState.next, h, Option.bind_some]

theorem legible_null (levels : Nat) : Legible levels .null :=
  legible_of_token levels .null (lexes_word (by decide) rfl rfl) (fun _ => rfl) (by decide)

theorem legible_bool (levels : Nat) (b : Bool) : Legible levels (.bool b) := by
  have hlexes : Lexes (write (.bool b)) [.bool b] := by
    cases b with
    | true | false => exact lexes_word (by decide) rfl rfl
  exact legible_of_token levels (.bool b) hlexes (fun _ => rfl) (by cases b <;> decide)

theorem legible_nat (levels : Nat) {n : Nat} (h : n < Text.Decimal.wordBound) : Legible levels (.nat n) :=
  legible_of_token levels (.integer n) (lexes_write h) (fun _ => rfl) (write_unbroken n)

theorem legible_text (levels : Nat) (t : Text) : Legible levels (.text t) := by
  refine legible_of_token levels (.text t) ?_ (fun _ => rfl) (quote_unbroken t)
  have hquote := lexes_quote t lexes_nil
  rwa [List.append_nil] at hquote

/-! ## Lists -/

theorem Spelled.item {done : List Json} (h : Spelled levels j tokens) (hdepth : stack.length + levels + 1 ≤ maxDepth) :
    readTokens (.value (.list done :: stack)) (tokens ++ more) =
      readTokens (.complete j (.list done :: stack)) more :=
  h.reads _ _ (by simp only [List.length_cons]; omega)

/-- What is written behind the first item of a list. -/
theorem lexes_writeItems {items : List Json} (h : ∀ item ∈ items, Legible levels item) : ∃ tokens,
    Lexes (writeItems items) tokens ∧ (∀ rest, Ends (writeItems items ++ rest)) ∧ '\n' ∉ writeItems items ∧
    ∀ last done stack more, stack.length + levels + 1 ≤ maxDepth →
      readTokens (.complete last (.list done :: stack)) (tokens ++ more) =
        readTokens (.complete (.list ((last :: done).reverse ++ items)) stack) more := by
  induction items with
  | nil =>
    refine ⟨[.closeList],lexes_mark rfl lexes_nil,fun _ => ends_cons (by decide),by decide,?_⟩
    intro last done stack more _
    rw [List.singleton_append, readTokens_cons]
    simp [ReadState.next]
  | cons item items ih =>
    obtain ⟨tokens,hs⟩ := h item (List.mem_cons_self ..)
    obtain ⟨rest,hlexes,hends,hflat,hreads⟩ := ih (fun j hj => h j (List.mem_cons_of_mem _ hj))
    refine ⟨.comma :: (tokens ++ rest),?_,fun _ => ends_cons (by decide),?_,?_⟩
    · exact lexes_mark rfl (hs.lexes.append hlexes fun _ _ => hends _)
    · simp [writeItems, hs.unbroken, hflat]
    · intro last done stack more hdepth
      rw [List.cons_append, readTokens_cons, ReadState.next, Option.bind_some, List.append_assoc, hs.item hdepth,
        hreads item (last :: done) stack more hdepth]
      simp

theorem legible_list {items : List Json} (h : ∀ item ∈ items, Legible levels item) :
    Legible (levels + 1) (.list items) := by
  cases items with
  | nil =>
    refine ⟨[.openList,.closeList],lexes_mark rfl (lexes_mark rfl lexes_nil),by decide,⟨_,_,rfl,by decide⟩,?_⟩
    intro stack more hdepth
    have henter : stack.length < maxDepth := by omega
    simp [readTokens_cons, ReadState.next, startValue, enter, henter]
  | cons item items =>
    obtain ⟨tokens,hs⟩ := h item (List.mem_cons_self ..)
    obtain ⟨rest,hlexes,hends,hflat,hreads⟩ := lexes_writeItems (fun j hj => h j (List.mem_cons_of_mem _ hj))
    refine ⟨.openList :: (tokens ++ rest),?_,?_,⟨_,_,rfl,by decide⟩,?_⟩
    · exact lexes_mark rfl (hs.lexes.append hlexes fun _ _ => hends _)
    · simp [write, hs.unbroken, hflat]
    · intro stack more hdepth
      have henter : stack.length < maxDepth := by omega
      -- The first item is read as it would be behind a comma: it does not close the list.
      have hitem : readTokens (.item stack) (tokens ++ (rest ++ more)) =
          readTokens (.value (.list [] :: stack)) (tokens ++ (rest ++ more)) := by
        obtain ⟨first,back,rfl,hfirst⟩ := hs.opens
        rw [List.cons_append, readTokens_cons, readTokens_cons]
        cases first <;> first | rfl | exact absurd rfl hfirst
      rw [List.cons_append, readTokens_cons, ReadState.next, startValue, enter, if_pos henter, Option.bind_some,
        List.append_assoc, hitem, hs.item hdepth, hreads item [] stack more hdepth]
      rfl

/-! ## Objects -/

theorem Spelled.field {done : List (Text × Json)} {name : Text} (h : Spelled levels j tokens)
    (hdepth : stack.length + levels + 1 ≤ maxDepth) (fresh : Bool) :
    readTokens (.key done fresh stack) (.text name :: .colon :: (tokens ++ more)) =
      readTokens (.complete j (.object done name :: stack)) more := by
  rw [readTokens_cons, ReadState.next, Option.bind_some, readTokens_cons, ReadState.next, Option.bind_some]
  exact h.reads _ _ (by simp only [List.length_cons]; omega)

theorem Spelled.lexes_field {u : Text} {name : Text} (h : Spelled levels j tokens) (hu : Lexes u more)
    (hends : ∀ rest, Ends (u ++ rest)) :
    Lexes (quote name ++ ':' :: (write j ++ u)) (.text name :: .colon :: (tokens ++ more)) :=
  lexes_quote name (lexes_mark rfl (h.lexes.append hu fun _ _ => hends _))

/-- What is written behind the first field of an object. -/
theorem lexes_writeFields {fields : List (Text × Json)} (h : ∀ field ∈ fields, Legible levels field.2) : ∃ tokens,
    Lexes (writeFields fields) tokens ∧ (∀ rest, Ends (writeFields fields ++ rest)) ∧ '\n' ∉ writeFields fields ∧
    ∀ last name done stack more, stack.length + levels + 1 ≤ maxDepth →
      readTokens (.complete last (.object done name :: stack)) (tokens ++ more) =
        readTokens (.complete (.object (((name,last) :: done).reverse ++ fields)) stack) more := by
  induction fields with
  | nil =>
    refine ⟨[.closeObject],lexes_mark rfl lexes_nil,fun _ => ends_cons (by decide),by decide,?_⟩
    intro last name done stack more _
    rw [List.singleton_append, readTokens_cons]
    simp [ReadState.next]
  | cons field fields ih =>
    obtain ⟨name,value⟩ := field
    obtain ⟨tokens,hs⟩ := h (name,value) (List.mem_cons_self ..)
    obtain ⟨rest,hlexes,hends,hflat,hreads⟩ := ih (fun field hf => h field (List.mem_cons_of_mem _ hf))
    refine ⟨.comma :: .text name :: .colon :: (tokens ++ rest),?_,fun _ => ends_cons (by decide),?_,?_⟩
    · exact lexes_mark rfl (hs.lexes_field hlexes hends)
    · simp [writeFields, quote_unbroken, hs.unbroken, hflat]
    · intro last lastName done stack more hdepth
      rw [List.cons_append, readTokens_cons, ReadState.next, Option.bind_some, List.cons_append, List.cons_append,
        List.append_assoc, hs.field hdepth, hreads value name ((lastName,last) :: done) stack more hdepth]
      simp

theorem exists_writeFields (fields : List (Text × Json)) : ∃ front, writeFields fields = front ++ ['\x7d'] := by
  induction fields with
  | nil => exact ⟨[],rfl⟩
  | cons field fields ih =>
    obtain ⟨front,hfront⟩ := ih
    exact ⟨',' :: (quote field.1 ++ ':' :: (write field.2 ++ front)),by rw [writeFields, hfront]; simp⟩

theorem legible_object {fields : List (Text × Json)} (h : ∀ field ∈ fields, Legible levels field.2) :
    Legible (levels + 1) (.object fields) := by
  cases fields with
  | nil =>
    refine ⟨[.openObject,.closeObject],lexes_mark rfl (lexes_mark rfl lexes_nil),by decide,⟨_,_,rfl,by decide⟩,?_⟩
    intro stack more hdepth
    have henter : stack.length < maxDepth := by omega
    simp [readTokens_cons, ReadState.next, startValue, enter, henter]
  | cons field fields =>
    obtain ⟨name,value⟩ := field
    obtain ⟨tokens,hs⟩ := h (name,value) (List.mem_cons_self ..)
    obtain ⟨rest,hlexes,hends,hflat,hreads⟩ := lexes_writeFields (fun field hf => h field (List.mem_cons_of_mem _ hf))
    refine ⟨.openObject :: .text name :: .colon :: (tokens ++ rest),?_,?_,⟨_,_,rfl,by decide⟩,?_⟩
    · exact lexes_mark rfl (hs.lexes_field hlexes hends)
    · simp [write, quote_unbroken, hs.unbroken, hflat]
    · intro stack more hdepth
      have henter : stack.length < maxDepth := by omega
      rw [List.cons_append, readTokens_cons, ReadState.next, startValue, enter, if_pos henter, Option.bind_some,
        List.cons_append, List.cons_append, List.append_assoc, hs.field hdepth, hreads value name [] stack more hdepth]
      rfl

end StatementPad.Json
