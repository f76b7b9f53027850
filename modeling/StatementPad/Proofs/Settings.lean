import Mathlib.Logic.Basic
import StatementPad.Settings

/-! # Where the value of a setting comes from

The environment comes before the file and the file before what is built in; in each of them the last entry counts. The
file is read up to its first line that is no text. So a line counts or not by the lines above it: one that is no text
takes every line below it along, and nothing else does.
-/
namespace StatementPad.Settings
open Text Text.Utf8
variable {α : Type} {tells : α → Text → Prop} {f : α → Option (Text × Text)} {entries : List α}
variable {env : List (Text × Text)} {lines : List Bytes} {key value : Text}

/-! ## Entries -/

def Silent (tells : α → Text → Prop) (entries : List α) : Prop := ∀ e ∈ entries, ∀ value, ¬ tells e value

/-- The last of the entries that tell something tells `value`. -/
def Last (tells : α → Text → Prop) (entries : List α) (value : Text) : Prop :=
  ∃ above e below, entries = above ++ e :: below ∧ tells e value ∧ Silent tells below

def Gives (key : Text) (entry : Text × Text) (value : Text) : Prop :=
  "PYPAD_".toList <+: key ∧ key ≠ "PYPAD_LOG".toList ∧ entry = (key,value)

/-- A line of the file sets the key: it is text and not a comment, and its first equals sign stands behind the key. -/
def Assigns (key : Text) (line : Bytes) (value : Text) : Prop :=
  ∃ t name rest, decode? line = some t ∧ (trim t).head? ≠ some '#' ∧ trim t = name ++ '=' :: rest ∧ '=' ∉ name ∧
    trim name = key ∧ trim rest = value

/-- What a key has to hold by the environment, the lines of the file and what is built in. -/
inductive Holds (env : List (Text × Text)) (lines : List Bytes) (key : Text) : Option Text → Prop
  | environment {value : Text} : Last (Gives key) env value → Holds env lines key (some value)
  | file {value : Text} : Silent (Gives key) env → Last (Assigns key) lines value → Holds env lines key (some value)
  | builtIn : Silent (Gives key) env → Silent (Assigns key) lines → Holds env lines key (builtIn.lookup key)

/-! ## Looking up the last entry -/

def last? (f : α → Option (Text × Text)) (entries : List α) (key : Text) : Option Text :=
  (entries.filterMap f).reverse.lookup key

theorem last?_append (front back : List α) :
    last? f (front ++ back) key = (last? f back key).or (last? f front key) := by
  rw [last?, List.filterMap_append, List.reverse_append, List.lookup_append]
  rfl

theorem last?_cons (e : α) (rest : List α) : last? f (e :: rest) key = (last? f rest key).or (last? f [e] key) :=
  last?_append [e] rest

theorem last?_singleton_eq_some {e : α} : last? f [e] key = some value ↔ f e = some (key,value) := by
  cases he : f e with
  | none => simp [last?, he]
  | some entry =>
    obtain ⟨name,v⟩ := entry
    by_cases hn : key = name
    · subst hn
      simp [last?, he]
    · simp [last?, he, List.lookup_cons, beq_eq_false_iff_ne.mpr hn, Ne.symm hn]

section
variable (hf : ∀ e value, tells e value ↔ f e = some (key,value))
include hf

theorem last?_eq_none : last? f entries key = none ↔ Silent tells entries := by
  induction entries with
  | nil => simp [last?, Silent]
  | cons e rest ih =>
    have he : last? f [e] key = none ↔ ∀ value, ¬ tells e value := by
      rw [Option.eq_none_iff_forall_ne_some]
      exact forall_congr' fun value => not_congr (last?_singleton_eq_some.trans (hf e value).symm)
    rw [last?_cons, Option.or_eq_none_iff, ih, he]
    simp only [Silent, List.forall_mem_cons]
    exact and_comm

theorem last?_eq_some : last? f entries key = some value ↔ Last tells entries value := by
  induction entries with
  | nil => simp [last?, Last]
  | cons e rest ih =>
    rw [last?_cons, Option.or_eq_some_iff, ih, last?_eq_none hf, last?_singleton_eq_some, ← hf]
    constructor
    · rintro (⟨above,l,below,rfl,hl,hbelow⟩ | ⟨hrest,he⟩)
      · exact ⟨e :: above,l,below,rfl,hl,hbelow⟩
      · exact ⟨[],e,rest,rfl,he,hrest⟩
    · rintro ⟨above,l,below,hsplit,hl,hbelow⟩
      cases above with
      | nil =>
        obtain ⟨rfl,rfl⟩ := List.cons.inj hsplit
        exact .inr ⟨hbelow,hl⟩
      | cons first above =>
        obtain ⟨rfl,rfl⟩ := List.cons.inj hsplit
        exact .inl ⟨above,l,below,rfl,hl,hbelow⟩

end

/-- Where no key stands twice, it does not matter from which end one looks. -/
theorem lookup_reverse {entries : List (Text × Text)} (h : (entries.map Prod.fst).Nodup) (key : Text) :
    entries.reverse.lookup key = entries.lookup key := by
  induction entries with
  | nil => rfl
  | cons e rest ih =>
    obtain ⟨hnew,hrest⟩ := List.nodup_cons.mp h
    rw [List.reverse_cons, List.lookup_append, ih hrest]
    by_cases he : key = e.1
    · have hnone : rest.lookup key = none := by
        rw [List.lookup_eq_none_iff]
        intro p hp
        exact bne_iff_ne.mpr fun hk => hnew (he ▸ hk ▸ List.mem_map_of_mem hp)
      rw [hnone, Option.none_or, List.lookup_cons, List.lookup_cons, beq_iff_eq.mpr he]
    · rw [List.lookup_cons, List.lookup_cons, beq_eq_false_iff_ne.mpr he]
      exact Option.or_none

/-! ## The three places -/

def environment? (entry : Text × Text) : Option (Text × Text) := if isKey entry.1 then some entry else none

theorem filter_isKey (env : List (Text × Text)) :
    (env.filter fun entry => isKey entry.1) = env.filterMap environment? := by
  induction env with
  | nil => rfl
  | cons entry rest ih =>
    by_cases h : isKey entry.1 = true
    · simp [h, ih, environment?]
    · simp [h, ih, environment?]

theorem gives_iff (entry : Text × Text) (value : Text) :
    Gives key entry value ↔ environment? entry = some (key,value) := by
  have hkey : isKey key = true ↔ "PYPAD_".toList <+: key ∧ key ≠ "PYPAD_LOG".toList := by
    rw [isKey, Bool.and_eq_true, List.isPrefixOf_iff_prefix, bne_iff_ne]
  unfold Gives environment?
  constructor
  · rintro ⟨hstart,hlog,rfl⟩
    rw [if_pos (hkey.mpr ⟨hstart,hlog⟩)]
  · intro h
    split at h
    next hk =>
      obtain rfl := Option.some.inj h
      exact ⟨(hkey.mp hk).1,(hkey.mp hk).2,rfl⟩
    next => cases h

theorem splitOnce_eq_some {c : Char} {t head tail : Text} :
    splitOnce c t = some (head,tail) ↔ t = head ++ c :: tail ∧ c ∉ head := by
  induction t generalizing head with
  | nil => simp [splitOnce]
  | cons d rest ih =>
    unfold splitOnce
    split
    next hd =>
      subst hd
      constructor
      · intro h
        obtain ⟨rfl,rfl⟩ := Prod.mk.inj (Option.some.inj h)
        exact ⟨rfl,List.not_mem_nil⟩
      · rintro ⟨h,hc⟩
        cases head with
        | nil => rw [(List.cons.inj h).2]
        | cons first head => exact absurd ((List.cons.inj h).1 ▸ List.mem_cons_self) hc
    next hd =>
      constructor
      · intro h
        obtain ⟨⟨head',tail'⟩,hrest,he⟩ := Option.map_eq_some_iff.mp h
        obtain ⟨rfl,rfl⟩ := Prod.mk.inj he
        obtain ⟨rfl,hc⟩ := ih.mp hrest
        exact ⟨rfl,List.not_mem_cons_of_ne_of_not_mem (Ne.symm hd) hc⟩
      · rintro ⟨h,hc⟩
        cases head with
        | nil => exact absurd (List.cons.inj h).1 hd
        | cons first head =>
          obtain ⟨rfl,hrest⟩ := List.cons.inj h
          rw [ih.mpr ⟨hrest,fun hm => hc (List.mem_cons_of_mem d hm)⟩]
          rfl

def setting? (line : Bytes) : Option (Text × Text) := (decode? line).bind assignment?

theorem assigns_iff (line : Bytes) (value : Text) : Assigns key line value ↔ setting? line = some (key,value) := by
  unfold Assigns setting?
  constructor
  · rintro ⟨t,name,rest,ht,hcomment,hsplit,hname,rfl,rfl⟩
    rw [ht, Option.bind_some, assignment?, if_neg hcomment, splitOnce_eq_some.mpr ⟨hsplit,hname⟩]
    rfl
  · intro h
    obtain ⟨t,ht,ha⟩ := Option.bind_eq_some_iff.mp h
    unfold assignment? at ha
    dsimp only at ha
    split at ha
    next => cases ha
    next hcomment =>
      obtain ⟨⟨name,rest⟩,hs,he⟩ := Option.map_eq_some_iff.mp ha
      obtain ⟨hsplit,hname⟩ := splitOnce_eq_some.mp hs
      obtain ⟨rfl,rfl⟩ := Prod.mk.inj he
      exact ⟨t,name,rest,ht,hcomment,hsplit,hname,rfl,rfl⟩

def isText (line : Bytes) : Bool := (decode? line).isSome

/-- Reading ends at the first line that is no text. -/
theorem assignments_eq (content : Bytes) :
    assignments content = ((breakLines content).takeWhile isText).filterMap setting? := by
  unfold assignments
  induction breakLines content with
  | nil => rfl
  | cons line rest ih =>
    unfold readableLines
    cases h : decode? line with
    | none => simp [isText, h]
    | some t => simp [isText, setting?, h, List.filterMap_cons, ih]

/-! ## All together -/

theorem holds_iff {found : Option Text} : Holds env lines key found ↔
    ((last? environment? env key).or ((last? setting? lines key).or (builtIn.lookup key))) = found := by
  constructor
  · intro h
    cases h with
    | environment h => rw [(last?_eq_some gives_iff).mpr h, Option.some_or]
    | file henv h =>
      rw [(last?_eq_none gives_iff).mpr henv, (last?_eq_some assigns_iff).mpr h, Option.none_or, Option.some_or]
    | builtIn henv hfile =>
      rw [(last?_eq_none gives_iff).mpr henv, (last?_eq_none assigns_iff).mpr hfile, Option.none_or, Option.none_or]
  · rintro rfl
    cases henv : last? environment? env key with
    | some value => exact .environment ((last?_eq_some gives_iff).mp henv)
    | none =>
      have hsilent := (last?_eq_none gives_iff).mp henv
      rw [Option.none_or]
      cases hfile : last? setting? lines key with
      | some value => exact .file hsilent ((last?_eq_some assigns_iff).mp hfile)
      | none => exact .builtIn hsilent ((last?_eq_none assigns_iff).mp hfile)

theorem get?_layered (path : Text) (dirs : UserDirs) (content : Bytes) {found : Option Text} :
    (layered path dirs content env).get? key = found ↔
      Holds env ((breakLines content).takeWhile isText) key found := by
  have hbuiltIn : builtIn.reverse.lookup key = builtIn.lookup key := lookup_reverse (by decide) key
  rw [holds_iff, get?, layered, filter_isKey, assignments_eq, List.reverse_append, List.reverse_append,
    List.lookup_append, List.lookup_append, hbuiltIn]
  rfl

/-- More lines change nothing for a key that a variable gives, or that they do not set to something else. -/
theorem holds_append_iff {above below : List Bytes} {found : Option Text} (h : Holds env above key found) :
    Holds env (above ++ below) key found ↔
      (∃ value, Last (Gives key) env value) ∨ ∀ value, Last (Assigns key) below value → found = some value := by
  rw [holds_iff] at h ⊢
  rw [last?_append]
  simp only [← last?_eq_some gives_iff, ← last?_eq_some assigns_iff]
  cases henv : last? environment? env key with
  | some value =>
    rw [henv] at h
    exact iff_of_true h (.inl ⟨value,rfl⟩)
  | none =>
    rw [henv] at h
    cases last? setting? below key with
    | none => simpa using h
    | some value => simp [eq_comm]

/-- The value of a key is the one that the environment, the lines above the first one that is no text, and what is built
in have for it. That is what all the lines have for it unless the lines from there on set it to something else. -/
theorem get?_load (fs : Files) (home : Text) (env : List (Text × Text)) (key : Text) :
    let s := load fs home env
    let lines := breakLines ((fs.read s.path).toOption.getD [])
    (∀ found, s.get? key = found ↔ Holds env (lines.takeWhile isText) key found) ∧
      (Holds env lines key (s.get? key) ↔
        (∃ value, Last (Gives key) env value) ∨
          ∀ value, Last (Assigns key) (lines.dropWhile isText) value → s.get? key = some value) := by
  intro s lines
  have hget : ∀ found, s.get? key = found ↔ Holds env (lines.takeWhile isText) key found := fun _ => get?_layered ..
  refine ⟨hget,?_⟩
  rw [← holds_append_iff ((hget _).mp rfl), List.takeWhile_append_dropWhile]

def accented : Files :=
  (Files.emptyAt ["home".toList]).plant "/home/.config/pypad/.pypadrc"
    (.file (encode "# caf" ++ 0xE9 :: encode "\nPYPAD_PYTHON=/opt/py\n"))

/-- The comment above it takes the setting away. -/
theorem get?_load_accented :
    let s := load accented "/home" []
    ¬ Holds [] (breakLines ((accented.read s.path).toOption.getD [])) "PYPAD_PYTHON" (s.get? "PYPAD_PYTHON") := by
  intro s h
  have hfile : (accented.read s.path).toOption.getD [] =
      encode "# caf" ++ 0xE9 :: encode "\nPYPAD_PYTHON=/opt/py\n" := by decide +kernel
  have hget : s.get? "PYPAD_PYTHON" = none := by decide +kernel
  rw [hfile, hget] at h
  exact absurd (holds_iff.mp h) (by decide +kernel)

end StatementPad.Settings
