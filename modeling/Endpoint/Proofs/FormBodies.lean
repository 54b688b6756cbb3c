import Endpoint.Converter.Form
import Endpoint.Proofs.Percent
import Endpoint.Proofs.SchemaCodec

/-!
Forms that are written, and what a reader of forms makes of them. `Json.isFlat` says what a field
may hold, `expanded` which pairs the fields of an object stand for, and `readForm?` is how any
reader takes a form apart: at every ampersand, then at the first equals sign, and then the escapes
are undone on both sides.

What is proved:
  1. `formPairs_eq`: the pairs of flat fields are found, and the first field that is not flat is
     named in the error;
  2. `readForm?_formText`: escaped parts hold none of the marks, so pairs that are joined are read
     one by one, also by a reader that takes plus signs for spaces;
  3. `ordered_documentOf`: the fields of the document of a body are in the order of their octets;
  4. `forms_are_faithful`: all of it, about bodies and the converter for forms.
-/
namespace Endpoint
open Text

namespace Json

def isScalar : Json → Bool
  | .text _ | .int _ | .float _ | .flag _ => true
  | .null | .array _ | .object _ => false

/-- Null, a scalar, or an array of scalars. -/
def isFlat : Json → Bool
  | .null => true
  | .array items => items.all isScalar
  | j => j.isScalar

/-- A string stands for itself, and anything else for the text of its document. -/
def spelled : Json → String
  | .text s => s
  | j => j.render

/-- The values of a field: none for null, every element of an array, and anything else once. -/
def values : Json → List String
  | .null => []
  | .array items => items.map spelled
  | j => [j.spelled]

end Json

namespace Converter

/-! ## The pairs of an object -/

/-- The pairs that fields stand for: a name for each of its values, in their order. -/
def expanded (fields : List (String × Json)) : List (String × String) :=
  fields.flatMap fun f => f.2.values.map fun s => (f.1, s)

def complaint (name : String) : Json → String
  | .array _ => s!"field '{name}' contains a nested value"
  | _ => s!"field '{name}' is a nested object"

theorem scalar?_eq (j : Json) : scalar? j = if j.isScalar then some j.spelled else none := by
  cases j with
  | flag b => cases b <;> rfl
  | _ => rfl

theorem scalarItems_eq (name : String) (items : List Json) :
    scalarItems name items = if items.all Json.isScalar then
      .ok (items.map fun j => (name, j.spelled))
    else .error s!"field '{name}' contains a nested value" := by
  induction items with
  | nil => rfl
  | cons j items ih =>
    rw [scalarItems, scalar?_eq, ih, List.all_cons]
    cases j.isScalar with
    | false => rfl
    | true => cases items.all Json.isScalar <;> rfl

theorem fieldPairs_eq (name : String) (j : Json) : fieldPairs name j =
    if j.isFlat then .ok (j.values.map fun s => (name, s)) else .error (complaint name j) := by
  cases j with
  | null => rfl
  | array items => simp only [fieldPairs, scalarItems_eq, Json.isFlat, Json.values, List.map_map,
      Function.comp_def, complaint]
  | flag b => cases b <;> rfl
  | _ => rfl

/-- Flat fields have their pairs, and otherwise the first one that is not flat is complained of. -/
theorem formPairs_eq (fields : List (String × Json)) : formPairs fields =
    match fields.find? fun f => !f.2.isFlat with
    | none => .ok (expanded fields)
    | some f => .error (complaint f.1 f.2) := by
  induction fields with
  | nil => rfl
  | cons f fields ih =>
    obtain ⟨name, j⟩ := f
    rw [formPairs, fieldPairs_eq, ih, List.find?_cons]
    cases j.isFlat with
    | false => rfl
    | true => cases fields.find? fun f => !f.2.isFlat <;> rfl

theorem find?_not_flat_eq_none_iff {fields : List (String × Json)} :
    (fields.find? fun f => !f.2.isFlat) = none ↔ ∀ f ∈ fields, f.2.isFlat = true := by
  simp only [List.find?_eq_none, Bool.not_eq_true', Bool.not_eq_false]

/-! ## Readers of forms -/

/-- The text that an escaped part stands for, if it is one. -/
def unescape? (part : List Char) : Option String :=
  (textOfUtf8 (percentDecode (utf8OfChars part))).toOption

/-- A pair is cut at its first equals sign. What `before` does to the characters of a part comes
before its escapes are undone. -/
def readPair? (before : Char → Char) (piece : List Char) : Option (String × String) := do
  let (name, value) ← cut '=' piece
  return (← unescape? (name.map before), ← unescape? (value.map before))

/-- The pairs that a reader finds in a form: one between every two ampersands. -/
def readForm? (before : Char → Char) (bytes : Octets) : Option (List (String × String)) := do
  let text ← (decodeUtf8 bytes).toOption
  (pieces '&' text).mapM (readPair? before)

def plusAsSpace (c : Char) : Char := if c = '+' then ' ' else c

theorem unescape?_percentField (s : String) : unescape? (percentField s) = some s := by
  have hplain : ∀ b, isUnreserved b = true → b.toNat < 128 ∧ b ≠ 0x25 := fun b hb =>
    ⟨(unreserved_ne hb).1, (unreserved_ne hb).2.1⟩
  rw [unescape?, percentField, percentDecode_percentEncode hplain, textOfUtf8_utf8]
  rfl

theorem not_mem_percentField {c : Char} (hc : isUnreserved (UInt8.ofNat c.toNat) = false)
    (hne : c ≠ '%') (s : String) : c ∉ percentField s := by
  intro hmem
  obtain ⟨b, hb | rfl, rfl⟩ := mem_percentField hmem
  · have hlt := b.toNat_lt
    rw [toNat_ofNat (by omega), UInt8.ofNat_toNat, hb] at hc
    cases hc
  · exact hne rfl

theorem not_mem_formPair (p : String × String) : '&' ∉ formPair p := by
  rw [formPair, List.mem_append, List.mem_cons, not_or, not_or]
  have hfield := not_mem_percentField (c := '&') (by decide) (by decide)
  exact ⟨hfield p.1, by decide, hfield p.2⟩

/-- A reader that leaves the characters of escaped parts alone reads a pair from what it is written
as. -/
theorem readPair?_formPair {before : Char → Char}
    (h : ∀ s, (percentField s).map before = percentField s) (p : String × String) :
    readPair? before (formPair p) = some p := by
  have hcut : cut '=' (formPair p) = some (percentField p.1, percentField p.2) :=
    cut_eq_some_iff.mpr ⟨rfl, not_mem_percentField (by decide) (by decide) p.1⟩
  simp only [readPair?, hcut, h, unescape?_percentField, bind, Option.bind_some, pure]

theorem mapM_map_eq_some {α β : Type} {f : α → β} {g : β → Option α}
    (h : ∀ a, g (f a) = some a) (as : List α) : (as.map f).mapM g = some as := by
  induction as with
  | nil => rfl
  | cons a as ih => rw [List.map_cons, List.mapM_cons, h a, ih]; rfl

/-- **Pairs that are joined are read one by one.** -/
theorem readForm?_formText {before : Char → Char}
    (h : ∀ s, (percentField s).map before = percentField s) {ps : List (String × String)}
    (hne : ps ≠ []) : readForm? before (utf8OfChars (formText ps)) = some ps := by
  have hmarks : ∀ t ∈ ps.map formPair, '&' ∉ t := List.forall_mem_map.mpr fun p _ =>
    not_mem_formPair p
  have hpieces : pieces '&' (formText ps) = ps.map formPair :=
    pieces_join (mt List.map_eq_nil_iff.mp hne) hmarks
  rw [readForm?, decodeUtf8_utf8OfChars]
  show (pieces '&' (formText ps)).mapM (readPair? before) = some ps
  rw [hpieces, mapM_map_eq_some (readPair?_formPair h)]

theorem map_plusAsSpace_percentField (s : String) :
    (percentField s).map plusAsSpace = percentField s := by
  have hplus : '+' ∉ percentField s := not_mem_percentField (by decide) (by decide) s
  calc (percentField s).map plusAsSpace = (percentField s).map id :=
        List.map_congr_left fun c hc => if_neg fun heq : c = '+' => hplus (heq ▸ hc)
    _ = percentField s := List.map_id _

theorem mem_formText {ps : List (String × String)} {b : UInt8}
    (h : b ∈ utf8OfChars (formText ps)) :
    isUnreserved b = true ∨ b = 0x25 ∨ b = 0x26 ∨ b = 0x3D := by
  obtain ⟨c, hc, hb⟩ := List.mem_flatMap.mp h
  have hfield {s : String} (hc : c ∈ percentField s) : isUnreserved b = true ∨ b = 0x25 := by
    obtain ⟨b', hb', rfl⟩ := mem_percentField hc
    have hascii : b'.toNat < 128 := by
      rcases hb' with hb' | rfl
      · exact (unreserved_ne hb').1
      · decide
    rw [utf8EncodeChar_ofNat hascii, List.mem_singleton] at hb
    rwa [hb]
  rcases mem_join hc with hc | ⟨t, ht, hc⟩
  · rw [List.mem_singleton.mp hc] at hb
    exact .inr (.inr (.inl (List.mem_singleton.mp hb)))
  · obtain ⟨p, -, rfl⟩ := List.mem_map.mp ht
    rw [formPair, List.mem_append, List.mem_cons] at hc
    rcases hc with hc | rfl | hc
    · exact (hfield hc).imp_right .inl
    · exact .inr (.inr (.inr (List.mem_singleton.mp hb)))
    · exact (hfield hc).imp_right .inl

/-! ## Bodies -/

variable {body : Body}

/-- Documents of bodies are proper: those of values always are, and a body that is a document has
to be. -/
theorem proper_documentOf (hbody : ∀ j, body.value = .tree j → j.Proper) {j : Json}
    (h : documentOf body = .ok j) : j.Proper := by
  unfold documentOf at h
  split at h
  · split at h
    · next schema _ _ x _ => exact Schema.proper_of_encode schema x h
    · cases h
  · split at h
    · next htree =>
      cases h
      exact hbody _ htree
    · cases h

/-- The fields of the document of a body are in the order of the octets of their names. -/
theorem ordered_documentOf (hbody : ∀ j, body.value = .tree j → j.Proper)
    {fields : List (String × Json)} (h : documentOf body = .ok (.object fields)) :
    fields.Pairwise fun f g => utf8 f.1 < utf8 g.1 := by
  cases proper_documentOf hbody h with
  | object hordered _ => exact hordered.imp utf8_lt

/-- What is written spells the pairs: any reader of forms finds them, and nothing else is in it. -/
structure SpellsPairs (bytes : Octets) (ps : List (String × String)) : Prop where
  empty : ps = [] → bytes = []
  pairs : ps ≠ [] → readForm? id bytes = some ps
  pluses : ps ≠ [] → readForm? plusAsSpace bytes = some ps
  octets : ∀ b ∈ bytes, isUnreserved b = true ∨ b = 0x25 ∨ b = 0x26 ∨ b = 0x3D

theorem spellsPairs_formText (ps : List (String × String)) :
    SpellsPairs (utf8OfChars (formText ps)) ps where
  empty := by
    rintro rfl
    rfl
  pairs := readForm?_formText fun s => List.map_id _
  pluses := readForm?_formText map_plusAsSpace_percentField
  octets _ := mem_formText

theorem writeForm_eq {m : MediaType} {fields : List (String × Json)}
    (h : documentOf body = .ok (.object fields)) : form.write body m =
    match fields.find? fun f => !f.2.isFlat with
    | none => .ok (utf8OfChars (formText (expanded fields)))
    | some f => .error (.encode body.type.display m.display (complaint f.1 f.2)) := by
  show writeForm body m = _
  simp only [writeForm, h, formPairs_eq]
  cases fields.find? fun f => !f.2.isFlat <;> rfl

/-- What is true of writing a body as a form when its document is an object. -/
structure FormLaws (body : Body) (m : MediaType) (fields : List (String × Json)) : Prop where
  writes_iff : (∃ bytes, form.write body m = .ok bytes) ↔ ∀ f ∈ fields, f.2.isFlat = true
  refuses : ∀ f, (fields.find? fun f => !f.2.isFlat) = some f →
    form.write body m = .error (.encode body.type.display m.display (complaint f.1 f.2))
  ordered : fields.Pairwise fun f g => utf8 f.1 < utf8 g.1
  written : ∀ bytes, form.write body m = .ok bytes → SpellsPairs bytes (expanded fields)

theorem formLaws_of_object (m : MediaType) (hbody : ∀ j, body.value = .tree j → j.Proper)
    {fields : List (String × Json)} (h : documentOf body = .ok (.object fields)) :
    FormLaws body m fields := by
  have hwrite := writeForm_eq (m := m) h
  refine ⟨?_, fun f hf => ?_, ordered_documentOf hbody h, fun bytes hbytes => ?_⟩
  · rw [hwrite, ← find?_not_flat_eq_none_iff]
    cases fields.find? fun f => !f.2.isFlat with
    | none => exact iff_of_true ⟨_, rfl⟩ rfl
    | some f => exact iff_of_false (fun ⟨bytes, hbytes⟩ => nomatch hbytes) nofun
  · rw [hwrite, hf]
  · rw [hwrite] at hbytes
    split at hbytes
    · cases hbytes
      exact spellsPairs_formText (expanded fields)
    · cases hbytes

/-- **Forms are faithful.** A body whose document is an object is written as a form exactly if
every field is null, a scalar or an array of scalars, and otherwise the error names the first field
that is not. What is written spells the pairs that the fields stand for, in the order of the octets
of their names, to any reader of forms, also to one that takes plus signs for spaces. A body with
any other document is not written. -/
theorem forms_are_faithful (body : Body) (m : MediaType)
    (hbody : ∀ j, body.value = .tree j → j.Proper) :
    (∀ fields, documentOf body = .ok (.object fields) → FormLaws body m fields) ∧
    ∀ j, documentOf body = .ok j → (∀ fields, j ≠ .object fields) →
      form.write body m = .error (.encode body.type.display m.display
        "form bodies must serialize to an object") := by
  refine ⟨fun fields h => formLaws_of_object m hbody h, fun j h hj => ?_⟩
  show writeForm body m = _
  unfold writeForm
  rw [h]
  cases j with
  | object fields => exact (hj fields rfl).elim
  | _ => rfl

/-- An empty name with all the marks in its value, and an array of a number, a truth value and a
text of two octets. -/
theorem forms_are_faithful_of_marks :
    let fields : List (String × Json) :=
      [("", .text "+ &=%"), ("n", .array [.int (-1), .flag true, .text "é"]), ("none", .null)]
    let body : Body := ⟨0, .tree (.object fields), .any⟩
    (∀ j, body.value = .tree j → j.Proper) ∧
      ∃ bytes, form.write body .form = .ok bytes ∧
        readForm? plusAsSpace bytes =
          some [("", "+ &=%"), ("n", "-1"), ("n", "true"), ("n", "é")] := by
  intro fields body
  have hproper : (Json.object fields).Proper := by
    refine .object (by simp only [Dictionary.Ordered]; decide) ?_
    simp only [fields, List.forall_mem_cons]
    refine ⟨.text _, .array ?_, .null, nofun⟩
    simp only [List.forall_mem_cons]
    exact ⟨.int (by decide) (by decide), .flag _, .text _, nofun⟩
  have hbody : ∀ j, body.value = .tree j → j.Proper := by
    intro j hj
    cases hj
    exact hproper
  have hlaws : FormLaws body .form fields := (forms_are_faithful body .form hbody).1 fields rfl
  obtain ⟨bytes, hbytes⟩ := hlaws.writes_iff.mpr (by decide)
  exact ⟨hbody, bytes, hbytes, (hlaws.written bytes hbytes).pluses (by decide)⟩

end Converter
end Endpoint
