import StatementPad.Proofs.Json.Reader
import StatementPad.Proofs.Text.Joined
import StatementPad.Proofs.Text.Utf8
import StatementPad.Wire

/-! # Messages that are read back

An envelope whose numbers fit a word is one line, and that line is read as the envelope. So a stream of envelopes
can be cut at its line breaks. Whatever is read from a line fits, so it is read back from the line written for it.
-/
namespace StatementPad.Wire
open Json Text.Decimal
variable {α : Type} [Body α]

/-! ## Fields -/

section Fields
variable {name : Text} {value : Json} {fields : Fields}

theorem fieldsNamed_of_absent (h : ∀ field ∈ fields, field.1 ≠ name) : fieldsNamed name fields = [] := by
  rw [fieldsNamed, List.filter_eq_nil_iff.mpr (fun field hf => by simpa using h field hf)]
  rfl

theorem required?_cons (h : ∀ field ∈ fields, field.1 ≠ name) :
    required? name ((name,value) :: fields) = some value := by
  have hrest := fieldsNamed_of_absent h
  rw [fieldsNamed] at hrest
  simp [required?, once?, fieldsNamed, hrest]

theorem filter_cons (h : ∀ field ∈ fields, field.1 ≠ name) :
    ((name,value) :: fields).filter (fun field => field.1 ≠ name) = fields := by
  rw [List.filter_cons_of_neg (by simp), List.filter_eq_self]
  exact fun field hf => by simpa using h field hf

end Fields

theorem word?_nat {n : Nat} (h : n < wordBound) : word? (.nat n) = some n := if_pos h

theorem lt_of_word? {j : Json} {n : Nat} (h : word? j = some n) : n < wordBound := by
  unfold word? at h
  split at h
  · split at h
    · cases h
      assumption
    · cases h
  · cases h

theorem chunk?_chunkJson (c : Chunk) : chunk? (chunkJson c) = some c := by
  obtain ⟨stream,text⟩ := c
  cases stream <;> rfl

theorem output?_chunks (output : List Chunk) : output? (.list (output.map chunkJson)) = some output := by
  induction output with
  | nil => rfl
  | cons c output ih =>
    rw [output?] at ih ⊢
    rw [List.map_cons, List.mapM_cons, chunk?_chunkJson, ih]
    rfl

theorem legible_output (output : List Chunk) : Legible 2 (outputField output).2 := by
  refine legible_list fun item hitem => ?_
  obtain ⟨c,-,rfl⟩ := List.mem_map.mp hitem
  refine legible_object fun field hf => ?_
  rcases List.mem_pair.mp hf with rfl | rfl <;> exact legible_text 0 _

/-! ## Bodies -/

structure Faithful (α : Type) [Body α] (Fits : α → Prop) : Prop where
  tag : Body.tag α ≠ "id".toList
  apart : ∀ body : α, ∀ name ∈ (Body.fields body).map Prod.fst, name ≠ "id".toList ∧ name ≠ Body.tag α
  legible : ∀ body : α, Fits body → ∀ value ∈ (Body.fields body).map Prod.snd, Legible 2 value
  reads : ∀ body : α, Fits body → ∃ read, (Body.readers (α := α)).lookup (Body.name body) = some read ∧
    read (Body.fields body) = some body
  fits : ∀ reader ∈ Body.readers (α := α), ∀ fields body, reader.2 fields = some body → Fits body

def Request.Fits : Request → Prop
  | tryCompile offset _ _ | executeSource offset _ _ => offset < wordBound
  | evaluate | execute | setWorkingDir _ | flush | shutdown => True

theorem source?_sourceFields {make : Nat → Text → Text → Request} {offset : Nat} {filename source : Text}
    (h : offset < wordBound) :
    source? make (sourceFields offset filename source) = some (make offset filename source) := by
  have hoffset : required? "line_offset" (sourceFields offset filename source) = some (.nat offset) := rfl
  simp only [source?, hoffset, Option.bind_some, word?_nat h]
  rfl

theorem exists_of_source? {make : Nat → Text → Text → Request} {fields : Fields} {request : Request}
    (h : source? make fields = some request) :
    ∃ offset filename source, offset < wordBound ∧ request = make offset filename source := by
  simp only [source?, Option.bind_eq_bind, Option.bind_eq_some_iff] at h
  obtain ⟨offset,⟨j,-,hj⟩,filename,-,source,-,he⟩ := h
  exact ⟨offset,filename,source,lt_of_word? hj,(Option.some.inj he).symm⟩

theorem legible_sourceFields {offset : Nat} {filename source : Text} (h : offset < wordBound) :
    ∀ value ∈ (sourceFields offset filename source).map Prod.snd, Legible 2 value := by
  simp only [sourceFields, List.map_cons, List.map_nil, List.forall_mem_cons]
  exact ⟨legible_nat 2 h,legible_text 2 _,legible_text 2 _,fun _ hv => by cases hv⟩

theorem faithful_request : Faithful Request Request.Fits where
  tag := by decide
  apart body := by
    cases body with
    | tryCompile offset filename source | executeSource offset filename source =>
      exact (by decide : ∀ name ∈ ["line_offset".toList, "filename".toList, "source".toList],
        name ≠ "id".toList ∧ name ≠ "op".toList)
    | setWorkingDir path => exact (by decide : ∀ name ∈ ["path".toList], name ≠ "id".toList ∧ name ≠ "op".toList)
    | evaluate | execute | flush | shutdown => exact fun _ h => by cases h
  legible body hfits := by
    cases body with
    | tryCompile offset filename source | executeSource offset filename source => exact legible_sourceFields hfits
    | setWorkingDir path => exact List.forall_mem_singleton.mpr (legible_text 2 path)
    | evaluate | execute | flush | shutdown => exact fun _ h => by cases h
  reads body hfits := by
    cases body with
    | tryCompile offset filename source | executeSource offset filename source =>
      exact ⟨_,rfl,source?_sourceFields hfits⟩
    | evaluate | execute | setWorkingDir path | flush | shutdown => exact ⟨_,rfl,rfl⟩
  fits reader hr fields body h := by
    have hsource {make : Nat → Text → Text → Request} (hmake : ∀ n f s, n < wordBound → (make n f s).Fits)
        (h : source? make fields = some body) : body.Fits := by
      obtain ⟨offset,filename,source,hlt,rfl⟩ := exists_of_source? h
      exact hmake offset filename source hlt
    have hplain (request : Request) (hfits : request.Fits) (h : some request = some body) : body.Fits :=
      Option.some.inj h ▸ hfits
    simp only [Body.readers, requestReaders, List.mem_cons, List.not_mem_nil, or_false] at hr
    rcases hr with rfl | rfl | rfl | rfl | rfl | rfl | rfl
    · exact hsource (fun _ _ _ => id) h
    · exact hplain .evaluate trivial h
    · exact hplain .execute trivial h
    · exact hsource (fun _ _ _ => id) h
    · obtain ⟨path,-,rfl⟩ := Option.map_eq_some_iff.mp h
      exact trivial
    · exact hplain .flush trivial h
    · exact hplain .shutdown trivial h

theorem faithful_reply : Faithful Reply fun _ => True where
  tag := by decide
  apart body := by
    have houtput : ∀ name ∈ ["output".toList], name ≠ "id".toList ∧ name ≠ "kind".toList := by decide
    cases body with
    | compiled isValue => exact (by decide : ∀ name ∈ ["is_value".toList], name ≠ "id".toList ∧ name ≠ "kind".toList)
    | evaluated value output =>
      exact (by decide : ∀ name ∈ ["repr".toList, "output".toList], name ≠ "id".toList ∧ name ≠ "kind".toList)
    | syntaxError output | executed output | raised output | flushed output => exact houtput
    | failed message => exact (by decide : ∀ name ∈ ["message".toList], name ≠ "id".toList ∧ name ≠ "kind".toList)
    | incomplete | ack => exact fun _ h => by cases h
  legible body _ := by
    cases body with
    | compiled isValue => exact List.forall_mem_singleton.mpr (legible_bool 2 isValue)
    | evaluated value output =>
      refine List.forall_mem_cons.mpr ⟨?_,List.forall_mem_singleton.mpr (legible_output output)⟩
      cases value with
      | none => exact legible_null 2
      | some t => exact legible_text 2 t
    | syntaxError output | executed output | raised output | flushed output =>
      exact List.forall_mem_singleton.mpr (legible_output output)
    | failed message => exact List.forall_mem_singleton.mpr (legible_text 2 message)
    | incomplete | ack => exact fun _ h => by cases h
  reads body _ := by
    cases body with
    | evaluated value output =>
      have hvalue : optionalText? "repr" (Body.fields (Reply.evaluated value output)) = some value := by
        cases value <;> rfl
      have houtput : optionalOutput? (Body.fields (Reply.evaluated value output)) = some output :=
        output?_chunks output
      refine ⟨_,rfl,?_⟩
      simp only [hvalue, houtput, Option.bind_eq_bind, Option.bind_some]
    | syntaxError output | executed output | raised output | flushed output =>
      exact ⟨_,rfl,congrArg (Option.map _) (output?_chunks output)⟩
    | compiled isValue | incomplete | ack | failed message => exact ⟨_,rfl,rfl⟩
  fits _ _ _ _ _ := trivial

omit [Body α] in
theorem mem_of_reader? {readers : List (Text × (Fields → Option α))} {tag : Json} {read : Fields → Option α}
    (h : reader? readers tag = some read) : ∃ name, (name,read) ∈ readers := by
  unfold reader? at h
  split at h
  next name =>
    obtain ⟨above,below,he,-⟩ := List.lookup_eq_some_iff.mp h
    exact ⟨name,he ▸ List.mem_append_right above (List.mem_cons_self ..)⟩
  next n =>
    obtain ⟨entry,hentry,rfl⟩ := Option.map_eq_some_iff.mp h
    exact ⟨entry.1,List.mem_of_getElem? hentry⟩
  next => cases h

/-! ## Envelopes -/

namespace Envelope
variable {Fits : α → Prop} {e : Envelope α}

theorem legible_json (hf : Faithful α Fits) (hid : e.id < wordBound) (hfits : Fits e.body) : Legible 3 e.json := by
  refine legible_object fun field hmem => ?_
  rcases List.mem_cons.mp hmem with rfl | hmem
  · exact legible_nat 2 hid
  · rcases List.mem_cons.mp hmem with rfl | hmem
    · exact legible_text 2 _
    · exact hf.legible e.body hfits _ (List.mem_map_of_mem hmem)

/-- The fields of an envelope are found again, whatever their values. -/
theorem ofFields?_fields (hf : Faithful α Fits) (hid : e.id < wordBound) (hfits : Fits e.body) :
    ofFields? (("id".toList,.nat e.id) :: (Body.tag α,.text (Body.name e.body)) :: Body.fields e.body) = some e := by
  have hbody (field : Text × Json) (h : field ∈ Body.fields e.body) := hf.apart e.body field.1 (List.mem_map_of_mem h)
  have hbelow : ∀ field ∈ (Body.tag α,Json.text (Body.name e.body)) :: Body.fields e.body,
      field.1 ≠ "id".toList := List.forall_mem_cons.mpr ⟨hf.tag,fun field h => (hbody field h).1⟩
  have hrest : ∀ field ∈ Body.fields e.body, field.1 ≠ Body.tag α := fun field h => (hbody field h).2
  obtain ⟨read,hlookup,hread⟩ := hf.reads e.body hfits
  have hreader : reader? (Body.readers (α := α)) (.text (Body.name e.body)) = some read := hlookup
  simp only [ofFields?, required?_cons hbelow, filter_cons hbelow, required?_cons hrest, filter_cons hrest,
    Option.bind_eq_bind, Option.bind_some, word?_nat hid, hreader, hread]

theorem read?_write (hf : Faithful α Fits) (hid : e.id < wordBound) (hfits : Fits e.body) :
    read? (Json.write e.json) = some e ∧ read? e.write = some e := by
  obtain ⟨hbare,hline⟩ := (legible_json hf hid hfits).read? (by decide)
  have hfields := ofFields?_fields hf hid hfits
  constructor
  · rw [read?, hbare]
    exact hfields
  · rw [read?, write, hline]
    exact hfields

/-- Whatever is read fits. -/
theorem fits_of_read? (hf : Faithful α Fits) {line : Text} (h : read? line = some e) :
    e.id < wordBound ∧ Fits e.body := by
  unfold read? at h
  split at h
  next fields hj =>
    simp only [ofFields?, Option.bind_eq_bind, Option.bind_eq_some_iff] at h
    obtain ⟨id,⟨j,-,hid⟩,read,⟨tag,-,hread⟩,body,hbody,he⟩ := h
    cases he
    obtain ⟨name,hmem⟩ := mem_of_reader? hread
    exact ⟨lt_of_word? hid,hf.fits _ hmem _ _ hbody⟩
  next => cases h

theorem json_unbroken (hf : Faithful α Fits) (hid : e.id < wordBound) (hfits : Fits e.body) :
    '\n' ∉ Json.write e.json := by
  obtain ⟨tokens,hs⟩ := legible_json hf hid hfits
  exact hs.unbroken

theorem flatMap_write (es : List (Envelope α)) :
    es.flatMap write = (es.map fun e => Json.write e.json).flatMap (· ++ ['\n']) := by
  rw [List.flatMap_map]
  rfl

theorem pieces_unbroken (hf : Faithful α Fits) {es : List (Envelope α)}
    (h : ∀ e ∈ es, e.id < wordBound ∧ Fits e.body) : ∀ piece ∈ es.map fun e => Json.write e.json, '\n' ∉ piece :=
  List.forall_mem_map.mpr fun e he => json_unbroken hf (h e he).1 (h e he).2

theorem dropReturn_json (e : Envelope α) : Text.dropReturn (Json.write e.json) = Json.write e.json := by
  obtain ⟨front,hfront⟩ := exists_writeFields ((Body.tag α,.text (Body.name e.body)) :: Body.fields e.body)
  have hlast : (Json.write e.json).getLast? = some '\x7d' := by
    simp [json, Json.write, hfront, List.getLast?_append, List.getLast?_cons]
  rw [Text.dropReturn, Text.endsWith, hlast]
  rfl

end Envelope

/-! ## Streams -/

/-- Envelopes with numbers of 64 bits and bodies that `Fits` are read back, one by one and from a stream. -/
structure ReadBack (α : Type) [Body α] (Fits : α → Prop) : Prop where
  line : ∀ e : Envelope α, e.id < wordBound → Fits e.body →
    e.write.count '\n' = 1 ∧ e.write.getLast? = some '\n' ∧ Envelope.read? e.write = some e
  stream : ∀ es : List (Envelope α), (∀ e ∈ es, e.id < wordBound ∧ Fits e.body) →
    ∃ pieces, Text.breakLines (es.flatMap Envelope.write) = pieces ++ [[]] ∧ pieces.map Envelope.read? = es.map some
  /-- The same of the bytes that come through a pipe. -/
  bytes : ∀ es : List (Envelope α), (∀ e ∈ es, e.id < wordBound ∧ Fits e.body) →
    ∃ pieces, Text.Utf8.breakLines (Text.Utf8.encode (es.flatMap Envelope.write)) = pieces ++ [[]] ∧
      pieces.map (fun bytes => (Text.Utf8.decode? bytes).bind fun t => Envelope.read? (Text.dropReturn t)) = es.map some
  normal : ∀ (line : Text) (e : Envelope α), Envelope.read? line = some e → Envelope.read? e.write = some e

theorem Faithful.readBack {Fits : α → Prop} (hf : Faithful α Fits) : ReadBack α Fits where
  line e hid hfits := by
    have hflat := List.count_eq_zero.mpr (Envelope.json_unbroken hf hid hfits)
    refine ⟨?_,by simp [Envelope.write],(Envelope.read?_write hf hid hfits).2⟩
    rw [Envelope.write, List.count_append, hflat]
    rfl
  stream es hes := by
    refine ⟨es.map fun e => Json.write e.json,?_,?_⟩
    · rw [Envelope.flatMap_write, Text.breakLines_ended (Envelope.pieces_unbroken hf hes)]
    · rw [List.map_map]
      exact List.map_congr_left fun e he => (Envelope.read?_write hf (hes e he).1 (hes e he).2).1
  bytes es hes := by
    refine ⟨(es.map fun e => Json.write e.json).map Text.Utf8.encode,?_,?_⟩
    · rw [Envelope.flatMap_write, Text.Utf8.breakLines_encode (Envelope.pieces_unbroken hf hes)]
    · rw [List.map_map, List.map_map]
      refine List.map_congr_left fun e he => ?_
      dsimp only [Function.comp_apply]
      rw [Text.Utf8.decode?_encode, Option.bind_some, Envelope.dropReturn_json,
        (Envelope.read?_write hf (hes e he).1 (hes e he).2).1]
  normal line e h := by
    obtain ⟨hid,hfits⟩ := Envelope.fits_of_read? hf h
    exact (Envelope.read?_write hf hid hfits).2

/-- Requests and replies are read back, whatever texts they carry. -/
theorem messages_readBack : ReadBack Request Request.Fits ∧ ReadBack Reply fun _ => True :=
  ⟨faithful_request.readBack,faithful_reply.readBack⟩

def awkward : List (Envelope Request) :=
  [⟨wordBound - 1,.tryCompile 3 "a.py" "if x:\n\tprint(\"\\n\", '\x01\u2028')\r\n"⟩, ⟨0,.flush⟩]

theorem messages_readBack_awkward : ∃ pieces, Text.breakLines (awkward.flatMap Envelope.write) = pieces ++ [[]] ∧
    pieces.map Envelope.read? = awkward.map some :=
  messages_readBack.1.stream awkward (by
    simp only [awkward, List.forall_mem_cons]
    exact ⟨⟨by decide,show 3 < wordBound by decide⟩,⟨by decide,trivial⟩,fun _ h => by cases h⟩)

end StatementPad.Wire
