import Endpoint.Proofs.SchemaCodec
import Endpoint.Schema.Samples

/-!
Bodies that JSON is chosen for, written and read again. `Body.Matches` says what a body has to be:
what its type says, with a document that a reader goes through.

What is proved:
  1. `Converter.reader?_of_writer?`: JSON is chosen for reading wherever it is chosen for writing,
     also under media types that stand for several formats;
  2. `Converter.read_written`: a body that matches its type is written, and what is written is read
     as its value;
  3. `json_bodies_survive`: both for the standard registry, and which schemas have no other values
     than such.
-/
namespace Endpoint
open Text

/-- The body is what its type says, and its document holds no floating-point number and nests no
deeper than a reader goes: any such document for a type that is not bound, and for a bound type any
value that is read back from its own document. -/
inductive Body.Matches : Body → Prop where
  | document {identity : Nat} {j : Json} {type : TypeExpr} : type.binding = none → j.Proper →
    j.Nests Json.maxDepth → Matches ⟨identity, .tree j, type⟩
  | bound {identity : Nat} {s : Schema} {x : s.Carrier} {type : TypeExpr} :
    type.binding = some s → s.Returns x Json.maxDepth → Matches ⟨identity, .typed s x, type⟩

namespace Converter

variable {m : MediaType} {type : TypeExpr} {body : Body} {j : Json}

theorem readsDocument_of_writesDocument (h : writesDocument type = true) :
    readsDocument type = true := by
  obtain ⟨name, args, binding⟩ := type
  simp only [writesDocument, TypeExpr.isNamed] at h
  simp only [readsDocument, h, Bool.true_or]

theorem json_of_writer? (h : Registry.standard.writer? m type = some json) :
    json.mediaType.compatible m = true ∧ writesDocument type = true := by
  have hwrites : Registry.writes m type json = true := List.find?_some h
  exact Bool.and_eq_true_iff.mp hwrites

/-- Where JSON is chosen for writing it is chosen for reading: it is the first converter, and it
reads whatever it writes. -/
theorem reader?_of_writer? (h : Registry.standard.writer? m type = some json) :
    Registry.standard.reader? m type = some json := by
  obtain ⟨hcompatible, hwrites⟩ := json_of_writer? h
  refine List.find?_cons_of_pos ?_
  exact Bool.and_eq_true_iff.mpr ⟨hcompatible, readsDocument_of_writesDocument hwrites⟩

theorem write_json (h : documentOf body = .ok j) : json.write body m = .ok j.octets := by
  show writeDocument body m = _
  rw [writeDocument, h]
  rfl

theorem read_json {v : Value} (hj : j.Proper) (hnests : j.Nests Json.maxDepth)
    (h : decodeNode type j = .ok v) : json.read j.octets type m = .ok v := by
  show readDocument j.octets type m = _
  simp only [readDocument, Json.parse_octets hnests hj, h]

theorem decodeNode_bound {s : Schema} (h : type.binding = some s) (j : Json) :
    decodeNode type j = (Value.typed s ·) <$> s.decode j := by
  obtain ⟨name, args, binding⟩ := type
  cases h
  rw [decodeNode]

/-- A type that is written without a binding is `Any`, and is read as the document that is there. -/
theorem decodeNode_any (hwrites : writesDocument type = true) (h : type.binding = none) (j : Json) :
    decodeNode type j = .ok (.tree j) := by
  obtain ⟨name, args, binding⟩ := type
  cases h
  have hname : name = TypeExpr.anyName := eq_of_beq hwrites
  subst hname
  cases j <;> rfl

/-- A body that matches its type is written, and what is written is read as its value. -/
theorem read_written (hwrites : writesDocument body.type = true) (hbody : body.Matches) :
    ∃ bytes, json.write body m = .ok bytes ∧
      json.read bytes body.type m = .ok (.datum body.value) := by
  cases hbody with
  | @document _ j type hbinding hj hnests =>
    refine ⟨j.octets, write_json ?_, read_json hj hnests (decodeNode_any hwrites hbinding j)⟩
    simp only [documentOf, hbinding]
  | @bound _ s x type hbinding hx =>
    obtain ⟨j, hencode, hdecode, hnests⟩ := hx
    have hj := Schema.proper_of_encode s x hencode
    refine ⟨j.octets, write_json ?_, read_json hj hnests ?_⟩
    · simp only [documentOf, hbinding, Datum.typed?, Schema.cast?_self]
      exact hencode
    · rw [decodeNode_bound hbinding, hdecode]
      rfl

end Converter

open Schema Samples in
/-- **JSON bodies survive the standard registry.** Take a media type and a declared type for which
JSON is chosen for writing, and a body of this type that matches it. The body is written, JSON is
chosen for reading as well, and it reads from what was written the value that the body had. All
texts, truth values, integers of eight and sixty-four bits, users and orders, and all lists and
options of the kinds named below, are values that bound types read back from their own documents;
so are all tables of integers. -/
theorem json_bodies_survive :
    (∀ (body : Body) (m : MediaType), Registry.standard.writer? m body.type = some .json →
      body.Matches → ∃ bytes, Converter.json.write body m = .ok bytes ∧
        Registry.standard.reader? m body.type = some .json ∧
        Converter.json.read bytes body.type m = .ok (.datum body.value)) ∧
    (∀ s ∈ [.text, user, order, .nat8, .int64, .nat64, .flag, .list .nat8, .list .text,
      .option .text], ∀ x : s.Carrier, s.Returns x Json.maxDepth) ∧
    ∀ entries : List (String × Int64), Dictionary.Ordered entries →
      Returns (.table .int64) entries Json.maxDepth := by
  refine ⟨fun body m hwriter hbody => ?_, fun s hs x => ?_, fun entries hordered => ?_⟩
  · obtain ⟨-, hwrites⟩ := Converter.json_of_writer? hwriter
    obtain ⟨bytes, hwrite, hread⟩ := Converter.read_written (m := m) hwrites hbody
    exact ⟨bytes, hwrite, Converter.reader?_of_writer? hwriter, hread⟩
  · have hcovered : ∀ s ∈ [.text, user, order, .nat8, .int64, .nat64, .flag, .list .nat8,
        .list .text, .option .text], s.exact ∧ s.depth ≤ Json.maxDepth ∧ s.tableless := by
      decide
    obtain ⟨hexact, hdepth, htableless⟩ := hcovered s hs
    exact Returns.of_exact hexact hdepth (tidy_of_tableless s htableless x)
  · exact Returns.of_exact (by decide) (by decide) ⟨hordered, fun _ _ => trivial⟩

open Schema Samples in
/-- Under a media type that leaves the subtype open: a document with an empty array, a name of
characters that need escapes, of one that needs four octets, and the integers at both limits; an
order; and how far it has come, which a codec of its own reads and writes. -/
theorem json_bodies_survive_of_wildcard :
    let m := MediaType.of "application" "*"
    let tree := Json.object [("", .array []), ("\"\\\n\u0001😀", .int 18446744073709551615),
      ("low", .int (-9223372036854775808))]
    let placed : order.Carrier :=
      ((7 : UInt64), "A\"1", (4294967295 : UInt32), none, ["\t", ""], ())
    (∃ bytes, Converter.json.write ⟨0, .tree tree, .any⟩ m = .ok bytes ∧
      Registry.standard.reader? m .any = some .json ∧
      Converter.json.read bytes .any m = .ok (.tree tree)) ∧
    (∃ bytes, Converter.json.write ⟨1, .typed order placed, .bound "Order" order⟩ m = .ok bytes ∧
      Registry.standard.reader? m (.bound "Order" order) = some .json ∧
      Converter.json.read bytes (.bound "Order" order) m = .ok (.typed order placed)) ∧
    ∃ bytes, Converter.json.write ⟨2, .typed (.own stage) [1], .bound "Stage" (.own stage)⟩ m =
        .ok bytes ∧
      Registry.standard.reader? m (.bound "Stage" (.own stage)) = some .json ∧
      Converter.json.read bytes (.bound "Stage" (.own stage)) m =
        .ok (.typed (.own stage) [1]) := by
  intro m tree placed
  have hproper : tree.Proper := by
    refine .object (by simp only [Dictionary.Ordered]; decide) ?_
    simp only [List.forall_mem_cons]
    exact ⟨.array nofun, .int (by decide) (by decide), .int (by decide) (by decide), nofun⟩
  have hnests : tree.Nests Json.maxDepth := by
    refine .object ?_
    simp only [List.forall_mem_cons]
    exact ⟨.array nofun, .int _, .int _, nofun⟩
  have horder : order.Returns placed Json.maxDepth :=
    json_bodies_survive.2.1 order (by simp) placed
  have hstage : Returns (.own stage) [1] Json.maxDepth := returns_own rfl rfl (.text "shipped")
  exact ⟨json_bodies_survive.1 ⟨0, .tree tree, .any⟩ m rfl (.document rfl hproper hnests),
    json_bodies_survive.1 ⟨1, .typed order placed, .bound "Order" order⟩ m rfl (.bound rfl horder),
    json_bodies_survive.1 ⟨2, .typed (.own stage) [1], .bound "Stage" (.own stage)⟩ m rfl
      (.bound rfl hstage)⟩

end Endpoint
