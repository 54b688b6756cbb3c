import Endpoint.Converter.Standard
import Endpoint.Exchange
import Mathlib.Data.List.Forall2

/-!
The shapes of declared types, and what the built-in converters read. A `Shape` is a declared type
that is put together from the names with a meaning of their own and from bound types under other
names; `Holds` says which values have a shape.

What is proved:
  1. `decodeNode_holds`: by induction on the shape, what a document is read as has the shape, for
     every shape that JSON is read as;
  2. `decode_holds`: so has what an exchange reads from an answer, whichever built-in converters the
     registry lists in whatever order;
  3. `encode_not_mistyped` and `decode_not_mistyped`: neither writing nor reading blames a type.
-/
namespace Endpoint
open Text

def TypeExpr.vocabulary : List String :=
  [anyName, voidName, stringName, bytesName, listName, responseName, headersName, futureName,
    callbackName, singleName, streamName, documentName]

/-- The shape of a declared type. -/
inductive Shape where
  | any
  | void
  | string
  | bytes
  | document
  | headers
  | bound (name : String) (schema : Schema) (fresh : name ∉ TypeExpr.vocabulary)
  | list (element : Shape)
  | response (body : Shape)
  | future (value : Shape)
  | callback (value : Shape)
  | single (value : Shape)
  | stream (element : Shape)

namespace Shape

/-- The declared type of a shape. -/
def expr : Shape → TypeExpr
  | any => .any
  | void => .void
  | string => .string
  | bytes => .bytes
  | document => .document
  | headers => .headers
  | bound name schema _ => .bound name schema
  | list s => .list s.expr
  | response s => .response s.expr
  | future s => .future s.expr
  | callback s => .callback s.expr
  | single s => .single s.expr
  | stream s => .stream s.expr

/-- A complete value has a shape. No complete value has the shape of one that is under way. -/
def Holds : Shape → Value → Prop
  | any, v => ∃ j, v = .tree j
  | void, v => v = .unit
  | string, v => ∃ t, v = .text t
  | bytes, v => ∃ bs, v = .octets bs
  | document, v => ∃ j, v = .tree j
  | headers, v => ∃ h, v = .headers h
  | bound _ schema _, v => ∃ x, v = .typed schema x
  | list s, v => ∃ items, v = .list items ∧ ∀ item ∈ items, s.Holds item
  | response s, v =>
    ∃ r : Response Value, v = .envelope r ∧ ∀ body, r.body = some body → s.Holds body
  | future _, _ | callback _, _ | single _, _ | stream _, _ => False

theorem not_isNamed_bound {name known : String} {schema : Schema}
    (fresh : name ∉ TypeExpr.vocabulary) (hknown : known ∈ TypeExpr.vocabulary) :
    (TypeExpr.bound name schema).isNamed known = false := by
  refine Bool.eq_false_iff.mpr fun h => fresh ?_
  have hname : name = known := eq_of_beq h
  rw [hname]
  exact hknown

/-- The name tells whether a shape is one of those that are not read through a schema. -/
theorem eq_of_isNamed {s k : Shape} (hk : k = void ∨ k = string ∨ k = bytes)
    (h : s.expr.isNamed k.expr.name = true) : s = k := by
  have hknown : k.expr.name ∈ TypeExpr.vocabulary := by
    rcases hk with rfl | rfl | rfl <;> decide
  cases s with
  | bound name schema fresh =>
    rw [expr, not_isNamed_bound fresh hknown] at h
    cases h
  | _ => rcases hk with rfl | rfl | rfl <;> first | rfl | exact absurd h Bool.false_ne_true

end Shape

/-! ## Reading documents -/

theorem eq_ok_of_map {ε α β : Type} {f : α → β} {x : Except ε α} {y : β} (h : f <$> x = .ok y) :
    ∃ a, x = .ok a ∧ f a = y := by
  cases x with
  | error e => cases h
  | ok a => exact ⟨a, rfl, Except.ok.inj h⟩

theorem eq_ok_of_bind {ε α β : Type} {f : α → Except ε β} {x : Except ε α} {y : β}
    (h : x >>= f = .ok y) : ∃ a, x = .ok a ∧ f a = .ok y := by
  cases x with
  | error e => cases h
  | ok a => exact ⟨a, rfl, h⟩

theorem eq_error_of_bind {ε α β : Type} {f : α → Except ε β} {x : Except ε α} {e : ε}
    (h : x >>= f = .error e) : x = .error e ∨ ∃ a, x = .ok a ∧ f a = .error e := by
  cases x with
  | error e =>
    cases h
    exact .inl rfl
  | ok a => exact .inr ⟨a, rfl, h⟩

/-- A list is read when every element is, and each stands in its place. -/
theorem Schema.decodeAll_eq_ok_iff {α β : Type} {f : α → Except Mismatch β} {xs : List α}
    {ys : List β} : decodeAll f xs = .ok ys ↔ List.Forall₂ (fun x y => f x = .ok y) xs ys := by
  constructor
  · intro h
    induction xs generalizing ys with
    | nil =>
      cases h
      exact .nil
    | cons x xs ih =>
      obtain ⟨y, hy, h⟩ := eq_ok_of_bind h
      obtain ⟨rest, hrest, h⟩ := eq_ok_of_bind h
      cases h
      exact .cons hy (ih hrest)
  · intro h
    induction h with
    | nil => rfl
    | cons hy _ ih =>
      simp only [decodeAll, hy, ih, bind, Except.bind]
      rfl

theorem Schema.mem_of_decodeAll {α β : Type} {f : α → Except Mismatch β} {xs : List α} {ys : List β}
    (h : decodeAll f xs = .ok ys) : ∀ y ∈ ys, ∃ x ∈ xs, f x = .ok y := by
  have hread := decodeAll_eq_ok_iff.mp h
  clear h
  induction hread with
  | nil => exact fun y hy => (List.not_mem_nil hy).elim
  | @cons x y xs ys hy _ ih =>
    intro z hz
    rcases List.mem_cons.mp hz with rfl | hz
    · exact ⟨x, List.mem_cons_self, hy⟩
    · obtain ⟨u, hu, hfu⟩ := ih z hz
      exact ⟨u, List.mem_cons_of_mem _ hu, hfu⟩

namespace Converter

/-- A document that is read as a shape gives a value of the shape. -/
theorem decodeNode_holds {s : Shape} (hreads : readsDocument s.expr = true) {j : Json} {v : Value}
    (h : decodeNode s.expr j = .ok v) : s.Holds v := by
  induction s generalizing j v with
  | any =>
    cases h
    exact ⟨j, rfl⟩
  | string | bound =>
    simp only [Shape.expr, TypeExpr.string, TypeExpr.bound, decodeNode] at h
    obtain ⟨x, -, rfl⟩ := eq_ok_of_map h
    exact ⟨x, rfl⟩
  | list s ih =>
    cases j with
    | array items =>
      -- every item is read as the element, which JSON is read as too
      obtain ⟨vs, hvs, rfl⟩ := eq_ok_of_map h
      refine ⟨vs, rfl, fun v hv => ?_⟩
      obtain ⟨item, -, hitem⟩ := Schema.mem_of_decodeAll hvs v hv
      exact ih hreads hitem
    | _ => cases h
  | _ => exact absurd hreads Bool.false_ne_true

/-! ## Built-in converters -/

/-- One of the converters that come with the program; JSON may advertise any media type. -/
inductive BuiltIn : Converter → Prop where
  | json (m : MediaType) : BuiltIn (jsonAs m)
  | text : BuiltIn Converter.text
  | octets : BuiltIn Converter.octets
  | form : BuiltIn Converter.form

end Converter

/-- The error blames a type: a value was not of it, or no handler could be found for it. -/
def Error.isMistyped : Error → Bool
  | mismatch _ | unresolved _ _ => true
  | _ => false

namespace Converter

/-- What a built-in converter reads as a shape that it says it can read is a value of the shape. -/
theorem BuiltIn.read_holds {c : Converter} (hc : c.BuiltIn) {s : Shape}
    (hreads : c.canRead s.expr = true) {body : Octets} {m : MediaType} {v : Value}
    (h : c.read body s.expr m = .ok v) : s.Holds v := by
  cases hc with
  | json =>
    simp only [jsonAs, readDocument] at h
    split at h
    · cases h
    · split at h
      · cases h
      · rename_i hnode
        cases h
        exact decodeNode_holds hreads hnode
  | text =>
    obtain rfl : s = .string := Shape.eq_of_isNamed (by simp) hreads
    simp only [Converter.text, readText] at h
    split at h
    · cases h
    · split at h
      · cases h
        exact ⟨_, rfl⟩
      · cases h
  | octets =>
    obtain rfl : s = .bytes := Shape.eq_of_isNamed (by simp) hreads
    cases h
    exact ⟨body, rfl⟩
  | form => exact absurd hreads Bool.false_ne_true

theorem BuiltIn.read_not_mistyped {c : Converter} (hc : c.BuiltIn) {type : TypeExpr} {body : Octets}
    {m : MediaType} {e : Error} (h : c.read body type m = .error e) : e.isMistyped = false := by
  cases hc with
  | json =>
    simp only [jsonAs, readDocument] at h
    split at h
    · cases h
      rfl
    · split at h
      · cases h
        rfl
      · cases h
  | text =>
    simp only [Converter.text, readText] at h
    split at h
    · cases h
      rfl
    · split at h
      · cases h
      · cases h
        rfl
  | octets => cases h
  | form =>
    cases h
    rfl

theorem BuiltIn.write_not_mistyped {c : Converter} (hc : c.BuiltIn) {body : Body} {m : MediaType}
    {e : Error} (h : c.write body m = .error e) : e.isMistyped = false := by
  cases hc with
  | json =>
    simp only [jsonAs, writeDocument] at h
    split at h <;> cases h
    rfl
  | text =>
    simp only [Converter.text, writeText] at h
    split at h <;> cases h
    rfl
  | octets =>
    simp only [Converter.octets, writeOctets] at h
    split at h <;> cases h
    rfl
  | form =>
    simp only [Converter.form, writeForm] at h
    split at h
    · cases h
      rfl
    · split at h <;> cases h
      rfl
    · cases h
      rfl

end Converter

/-! ## Exchanges over built-in converters -/

namespace Exchange
variable {x : Exchange}

/-- The registry lists built-in converters only. -/
def BuiltIn (x : Exchange) : Prop := ∀ c ∈ x.registry.converters, c.BuiltIn

/-- What an exchange reads from an answer as a shape is a value of the shape. -/
theorem decode_holds (hx : x.BuiltIn) {s : Shape} {a : WireResponse} {v : Value}
    (h : x.decode s.expr a = .ok v) : s.Holds v := by
  unfold decode at h
  split at h
  · rename_i hvoid
    obtain rfl : s = .void := Shape.eq_of_isNamed (by simp) hvoid
    cases h
    rfl
  · simp only at h
    split at h
    · cases h
    · rename_i reader hreader
      have hreads := List.find?_some hreader
      rw [Registry.reads, Bool.and_eq_true] at hreads
      exact (hx reader (List.mem_of_find?_eq_some hreader)).read_holds hreads.2 h

theorem decode_not_mistyped (hx : x.BuiltIn) {type : TypeExpr} {a : WireResponse} {e : Error}
    (h : x.decode type a = .error e) : e.isMistyped = false := by
  unfold decode at h
  split at h
  · cases h
  · simp only at h
    split at h
    · cases h
      rfl
    · rename_i reader hreader
      exact (hx reader (List.mem_of_find?_eq_some hreader)).read_not_mistyped h

theorem encodeBody_not_mistyped (hx : x.BuiltIn) {headers : Headers} {body : Body} {e : Error}
    (h : x.encodeBody headers body = .error e) : e.isMistyped = false := by
  simp only [encodeBody] at h
  split at h
  · cases h
    rfl
  · rename_i writer hwriter
    rcases eq_error_of_bind h with hwrite | ⟨bytes, -, h⟩
    · exact (hx writer (List.mem_of_find?_eq_some hwriter)).write_not_mistyped hwrite
    · split at h
      · cases h
      · split at h
        · cases h
        · cases h
          rfl

theorem encode_not_mistyped (hx : x.BuiltIn) {r : Request} {e : Error}
    (h : x.encode r = .error e) : e.isMistyped = false := by
  unfold encode at h
  split at h
  · cases h
  · rcases eq_error_of_bind h with hbody | ⟨_, -, h⟩
    · exact encodeBody_not_mistyped hx hbody
    · cases h

end Exchange
end Endpoint
