import Mathlib.Data.List.Forall2
import Mathlib.Logic.Function.Iterate
import Endpoint.Proofs.JsonBodies
import Endpoint.Proofs.Shape

/-!
Lists of lists, read from JSON. A type is a leaf when it is bound or `Any`, and then `Spells` says
which node of a document gives which value of it. Whatever the leaf, the list of lists around it is
read level by level, and nothing but the nodes at its bottom is read by the leaf.

What is proved:
  1. `decodeNode_lists`: lists of lists are read element by element, each in its place, by induction
     on how many there are (`Mirrors`);
  2. `exists_mirrors_iff`: such a value is there exactly if arrays stand on every level (`Layered`)
     and every node below them (`Below`) can be read;
  3. `decodeNode_list_bound`: a list of bound values is read where the bound list of them is;
  4. `lists_are_read_level_by_level`: what JSON makes of any octets for any such type.
-/
namespace Endpoint
open Text

namespace Json

/-- The first so many levels of a document are arrays. -/
def Layered : Nat → Json → Prop
  | 0, _ => True
  | k + 1, j => ∃ items, j = .array items ∧ ∀ item ∈ items, Layered k item

/-- A node stands so many levels of arrays below a document. -/
def Below : Nat → Json → Json → Prop
  | 0, j, node => node = j
  | k + 1, j, node => ∃ items, j = .array items ∧ ∃ item ∈ items, Below k item node

end Json

/-- The value is a tree of lists of the shape of the document down to a level, and in the place of
every node of this level it has what the relation gives for this node. -/
def Mirrors (R : Json → Value → Prop) : Nat → Json → Value → Prop
  | 0, j, v => R j v
  | k + 1, j, v => ∃ items vs, j = .array items ∧ v = .list vs ∧ List.Forall₂ (Mirrors R k) items vs

namespace TypeExpr

/-- A type whose values are read whole: it is bound, or it is `Any`. -/
def Leaf (t : TypeExpr) : Prop := t.binding.isSome = true ∨ t.isNamed anyName = true

/-- What a node on its own gives for a leaf: the value of the schema that the leaf is bound to, or
else the node itself. -/
inductive Spells : TypeExpr → Json → Value → Prop where
  | bound {t : TypeExpr} {s : Schema} {j : Json} {x : s.Carrier} : t.binding = some s →
    s.decode j = .ok x → Spells t j (.typed s x)
  | any {t : TypeExpr} {j : Json} : t.binding = none → t.isNamed anyName = true →
    Spells t j (.tree j)

end TypeExpr

variable {t : TypeExpr} {j : Json} {v : Value} {k : Nat} {R : Json → Value → Prop}

/-! ## Lists -/

/-- What is made of every element can be made of the list that was read. -/
theorem Schema.decodeAll_map {α β γ : Type} (f : α → Except Mismatch β) (g : β → γ) (xs : List α) :
    decodeAll (fun x => g <$> f x) xs = List.map g <$> decodeAll f xs := by
  induction xs with
  | nil => rfl
  | cons x xs ih =>
    simp only [decodeAll, ih]
    cases f x with
    | error e => rfl
    | ok y => cases decodeAll f xs <;> rfl

theorem forall₂_exists_iff {α β : Type} {P : α → β → Prop} {xs : List α} :
    (∃ ys, List.Forall₂ P xs ys) ↔ ∀ x ∈ xs, ∃ y, P x y := by
  induction xs with
  | nil => exact ⟨fun _ _ hx => absurd hx List.not_mem_nil, fun _ => ⟨[], .nil⟩⟩
  | cons x xs ih =>
    rw [List.forall_mem_cons, ← ih]
    constructor
    · rintro ⟨_, _ | ⟨hx, hxs⟩⟩
      exact ⟨⟨_, hx⟩, _, hxs⟩
    · rintro ⟨⟨y, hy⟩, ys, hys⟩
      exact ⟨y :: ys, .cons hy hys⟩

/-- A tree can be made exactly if its levels are arrays and each node below them can. -/
theorem exists_mirrors_iff :
    (∃ v, Mirrors R k j v) ↔ j.Layered k ∧ ∀ node, j.Below k node → ∃ v, R node v := by
  induction k generalizing j with
  | zero =>
    constructor
    · rintro ⟨v, hv⟩
      refine ⟨trivial, ?_⟩
      rintro node rfl
      exact ⟨v, hv⟩
    · rintro ⟨-, h⟩
      exact h j rfl
  | succ k ih =>
    constructor
    · rintro ⟨v, items, vs, rfl, rfl, hvs⟩
      have hitems := forall₂_exists_iff.mp ⟨vs, hvs⟩
      refine ⟨⟨items, rfl, fun item hitem => (ih.mp (hitems item hitem)).1⟩, ?_⟩
      rintro node ⟨_, hsame, item, hitem, hnode⟩
      cases hsame
      exact (ih.mp (hitems item hitem)).2 node hnode
    · rintro ⟨⟨items, rfl, hlayered⟩, h⟩
      have hitems : ∀ item ∈ items, ∃ v, Mirrors R k item v := fun item hitem =>
        ih.mpr ⟨hlayered item hitem, fun node hnode => h node ⟨items, rfl, item, hitem, hnode⟩⟩
      obtain ⟨vs, hvs⟩ := forall₂_exists_iff.mpr hitems
      exact ⟨.list vs, items, vs, rfl, rfl, hvs⟩

namespace Converter

/-! ## Reading lists -/

theorem decodeNode_list_array (t : TypeExpr) (items : List Json) :
    decodeNode (.list t) (.array items) = .list <$> Schema.decodeAll (decodeNode t) items := rfl

theorem decodeNode_list_eq_ok_iff : decodeNode (.list t) j = .ok v ↔
    ∃ items vs, j = .array items ∧ v = .list vs ∧
      List.Forall₂ (fun j v => decodeNode t j = .ok v) items vs := by
  constructor
  · intro h
    cases j with
    | array items =>
      rw [decodeNode_list_array] at h
      obtain ⟨vs, hvs, rfl⟩ := eq_ok_of_map h
      exact ⟨items, vs, rfl, rfl, Schema.decodeAll_eq_ok_iff.mp hvs⟩
    | _ => cases h
  · rintro ⟨items, vs, rfl, rfl, hvs⟩
    rw [decodeNode_list_array, Schema.decodeAll_eq_ok_iff.mpr hvs]
    rfl

theorem decodeNode_leaf (ht : t.Leaf) : decodeNode t j = .ok v ↔ t.Spells j v := by
  cases hbinding : t.binding with
  | some s =>
    rw [decodeNode_bound hbinding]
    constructor
    · intro h
      obtain ⟨x, hx, rfl⟩ := eq_ok_of_map h
      exact .bound hbinding hx
    · intro h
      cases h with
      | bound hs hx =>
        rw [hbinding] at hs
        cases hs
        rw [hx]
        rfl
      | any hnone =>
        rw [hbinding] at hnone
        cases hnone
  | none =>
    have hnamed : t.isNamed TypeExpr.anyName = true := by
      rcases ht with h | h
      · rw [hbinding] at h
        cases h
      · exact h
    have hwrites : writesDocument t = true := by
      rw [writesDocument, hnamed, Bool.or_true]
    rw [decodeNode_any hwrites hbinding]
    constructor
    · intro h
      cases h
      exact .any hbinding hnamed
    · intro h
      cases h with
      | bound hs =>
        rw [hbinding] at hs
        cases hs
      | any => rfl

/-- Lists of lists are read level by level, and the leaf reads what is below them. -/
theorem decodeNode_lists (ht : t.Leaf) (k : Nat) (j : Json) (v : Value) :
    decodeNode (TypeExpr.list^[k] t) j = .ok v ↔ Mirrors t.Spells k j v := by
  induction k generalizing j v with
  | zero => exact decodeNode_leaf ht
  | succ k ih =>
    rw [Function.iterate_succ_apply', decodeNode_list_eq_ok_iff, Mirrors]
    simp only [ih]

theorem decode_list_eq_ok_iff {s : Schema} {xs : List s.Carrier} :
    (Schema.list s).decode j = .ok xs ↔
      ∃ items, j = .array items ∧ Schema.decodeAll s.decode items = .ok xs := by
  constructor
  · intro h
    cases j with
    | array items => exact ⟨items, rfl, h⟩
    | _ => cases h
  · rintro ⟨items, rfl, h⟩
    exact h

theorem typed_inj {s : Schema} {x y : s.Carrier} (h : Value.typed s x = Value.typed s y) : x = y :=
  eq_of_heq (Datum.typed.inj (Value.datum.inj h)).2

/-- A list of values of a schema is read from what the schema of such lists is read from. -/
theorem decodeNode_list_bound {type : TypeExpr} {s : Schema} (ht : t.binding = some s)
    (htype : type.binding = some (.list s)) :
    decodeNode (.list t) j = .ok v ↔
      ∃ xs : List s.Carrier, decodeNode type j = .ok (.typed (.list s) xs) ∧
        v = .list (xs.map (Value.typed s)) := by
  have helement : decodeNode t = fun j => Value.typed s <$> s.decode j :=
    funext (decodeNode_bound ht)
  constructor
  · intro h
    cases j with
    | array items =>
      rw [decodeNode_list_array, helement, Schema.decodeAll_map] at h
      obtain ⟨vs, hvs, rfl⟩ := eq_ok_of_map h
      obtain ⟨xs, hxs, rfl⟩ := eq_ok_of_map hvs
      have hdecode : (Schema.list s).decode (.array items) = .ok xs :=
        decode_list_eq_ok_iff.mpr ⟨items, rfl, hxs⟩
      refine ⟨xs, ?_, rfl⟩
      rw [decodeNode_bound htype, hdecode]
      rfl
    | _ => cases h
  · rintro ⟨xs, h, rfl⟩
    rw [decodeNode_bound htype] at h
    obtain ⟨ys, hys, hsame⟩ := eq_ok_of_map h
    obtain rfl := typed_inj hsame
    obtain ⟨items, rfl, hitems⟩ := decode_list_eq_ok_iff.mp hys
    rw [decodeNode_list_array, helement, Schema.decodeAll_map, hitems]
    rfl

theorem readsDocument_list (t : TypeExpr) : readsDocument (.list t) = readsDocument t := rfl

theorem readsDocument_lists (t : TypeExpr) (k : Nat) :
    readsDocument (TypeExpr.list^[k] t) = readsDocument t := by
  induction k with
  | zero => rfl
  | succ k ih => rw [Function.iterate_succ_apply', readsDocument_list, ih]

theorem readsDocument_of_leaf (ht : t.Leaf) : readsDocument t = true := by
  apply readsDocument_of_writesDocument
  rw [writesDocument, Bool.or_eq_true]
  exact ht

/-- A type that is neither bound nor `Any` nor a list cannot be read. -/
theorem readsDocument_of_other (hbinding : t.binding = none)
    (hany : t.isNamed TypeExpr.anyName = false) (hlist : t.isNamed TypeExpr.listName = false) :
    readsDocument t = false := by
  obtain ⟨name, args, binding⟩ := t
  cases hbinding
  simp only [TypeExpr.isNamed] at hany hlist
  simp only [readsDocument, hany, hlist]
  rfl

theorem decodeNode_bareList :
    decodeNode (.plain TypeExpr.listName) = decodeNode (.list .any) := by
  funext j
  cases j with
  | array items =>
    have hany : decodeFirst [] = decodeNode .any := rfl
    show Value.list <$> Schema.decodeAll (decodeFirst []) items = _
    rw [hany, decodeNode_list_array]
  | _ => rfl

theorem decodeNode_lists_congr {u : TypeExpr} (h : decodeNode t = decodeNode u) (k : Nat) :
    decodeNode (TypeExpr.list^[k] t) = decodeNode (TypeExpr.list^[k] u) := by
  induction k with
  | zero => exact h
  | succ k ih =>
    funext j
    rw [Function.iterate_succ_apply', Function.iterate_succ_apply']
    cases j with
    | array items => rw [decodeNode_list_array, decodeNode_list_array, ih]
    | _ => rfl

/-! ## Reading octets -/

variable {body : Octets} {m : MediaType} {type : TypeExpr}

theorem readDocument_eq_ok_iff :
    readDocument body type m = .ok v ↔
      ∃ j, Json.parse body = .ok j ∧ decodeNode type j = .ok v := by
  unfold readDocument
  cases Json.parse body with
  | error message => simp
  | ok j => cases h : decodeNode type j <;> simp [h]

theorem readDocument_error {e : Error} (h : readDocument body type m = .error e) :
    ∃ message, e = .decode type.display m.display message := by
  unfold readDocument at h
  split at h
  · exact ⟨_, (Except.error.inj h).symm⟩
  · split at h
    · exact ⟨_, (Except.error.inj h).symm⟩
    · cases h

/-- **Lists are read element by element, whatever their depth.** JSON can read any number of lists
around a leaf. It reads octets as this type exactly if they are a document whose levels are arrays
as often as there are lists, and the leaf can be read from each node below. What is read is then the
same tree of lists, with what each of these nodes gives in its place; and otherwise there is one
error, which names the whole type. A list of bound values is read exactly if the list of them that
is bound as a whole is, and with the same elements. Lists around a type that is neither bound nor
`Any` nor a list cannot be read, and a list without an argument is one of `Any`. -/
theorem lists_are_read_level_by_level (advertised : MediaType) (body : Octets) (m : MediaType) :
    let json := jsonAs advertised
    (∀ t : TypeExpr, t.Leaf → ∀ k : Nat,
      json.canRead (TypeExpr.list^[k] t) = true ∧
      ((∃ v, json.read body (TypeExpr.list^[k] t) m = .ok v) ↔
        ∃ j, Json.parse body = .ok j ∧ j.Layered k ∧
          ∀ node, j.Below k node → ∃ v, t.Spells node v) ∧
      (∀ v, json.read body (TypeExpr.list^[k] t) m = .ok v ↔
        ∃ j, Json.parse body = .ok j ∧ Mirrors t.Spells k j v) ∧
      (∀ e, json.read body (TypeExpr.list^[k] t) m = .error e →
        ∃ message, e = .decode (TypeExpr.list^[k] t).display m.display message)) ∧
    (∀ (t whole : TypeExpr) (s : Schema), t.binding = some s → whole.binding = some (.list s) →
      (∀ v, json.read body (.list t) m = .ok v → ∃ xs : List s.Carrier,
        v = .list (xs.map (Value.typed s)) ∧
          json.read body whole m = .ok (.typed (.list s) xs)) ∧
      (∀ v, json.read body whole m = .ok v → ∃ xs : List s.Carrier,
        v = .typed (.list s) xs ∧
          json.read body (.list t) m = .ok (.list (xs.map (Value.typed s))))) ∧
    (∀ t : TypeExpr, t.binding = none → t.isNamed TypeExpr.anyName = false →
      t.isNamed TypeExpr.listName = false → ∀ k, json.canRead (TypeExpr.list^[k] t) = false) ∧
    (∀ k, json.canRead (TypeExpr.list^[k] (.plain TypeExpr.listName)) = true ∧
      ∀ v, json.read body (TypeExpr.list^[k] (.plain TypeExpr.listName)) m = .ok v ↔
        json.read body (TypeExpr.list^[k] (.list .any)) m = .ok v) := by
  intro json
  have hread (type : TypeExpr) (v : Value) : json.read body type m = .ok v ↔
      ∃ j, Json.parse body = .ok j ∧ decodeNode type j = .ok v := readDocument_eq_ok_iff
  refine ⟨fun t ht k => ⟨?_, ?_, fun v => ?_, fun e he => readDocument_error he⟩,
    fun t whole s ht hwhole => ⟨fun v hv => ?_, fun v hv => ?_⟩,
    fun t hbinding hany hlist k => ?_, fun k => ⟨?_, fun v => ?_⟩⟩
  · show readsDocument _ = true
    rw [readsDocument_lists, readsDocument_of_leaf ht]
  · simp only [hread, decodeNode_lists ht]
    constructor
    · rintro ⟨v, j, hj, hv⟩
      exact ⟨j, hj, exists_mirrors_iff.mp ⟨v, hv⟩⟩
    · rintro ⟨j, hj, hlevels⟩
      obtain ⟨v, hv⟩ := exists_mirrors_iff.mpr hlevels
      exact ⟨v, j, hj, hv⟩
  · simp only [hread, decodeNode_lists ht]
  · obtain ⟨j, hj, hv⟩ := (hread _ v).mp hv
    obtain ⟨xs, hxs, hlist⟩ := (decodeNode_list_bound ht hwhole).mp hv
    exact ⟨xs, hlist, (hread _ _).mpr ⟨j, hj, hxs⟩⟩
  · obtain ⟨j, hj, hv⟩ := (hread _ v).mp hv
    have hbound := hv
    rw [decodeNode_bound hwhole] at hbound
    obtain ⟨xs, -, rfl⟩ := eq_ok_of_map hbound
    exact ⟨xs, rfl, (hread _ _).mpr ⟨j, hj, (decodeNode_list_bound ht hwhole).mpr ⟨xs, hv, rfl⟩⟩⟩
  · show readsDocument _ = false
    rw [readsDocument_lists, readsDocument_of_other hbinding hany hlist]
  · show readsDocument _ = true
    rw [readsDocument_lists]
    rfl
  · rw [hread, hread, decodeNode_lists_congr decodeNode_bareList]

/-- Two levels of small numbers, read from octets of two levels; from octets in which one number
deep inside is out of range; and one level of them, bound as a whole. -/
theorem lists_are_read_level_by_level_of_small :
    let json := jsonAs .json
    let small : TypeExpr := .bound "u8" .nat8
    let whole : TypeExpr := .bound "VecU8" (.list .nat8)
    let lists := TypeExpr.list^[2] small
    let opened : TypeExpr := .plain "Opaque"
    small.Leaf ∧ small.binding = some .nat8 ∧ whole.binding = some (.list .nat8) ∧
      opened.binding = none ∧ opened.isNamed TypeExpr.anyName = false ∧
      opened.isNamed TypeExpr.listName = false ∧
      json.canRead lists = true ∧
      (∃ v, json.read (utf8 "[[7],[]]") lists .json = .ok v) ∧
      (∃ message, json.read (utf8 "[[7],[256]]") lists .json =
        .error (.decode "List<List<u8>>" "application/json" message)) ∧
      json.read (utf8 "[7,0]") (.list small) .json =
        .ok (.list [.typed .nat8 (7 : UInt8), .typed .nat8 (0 : UInt8)]) ∧
      json.canRead (TypeExpr.list^[2] opened) = false := by
  intro json small whole lists opened
  have hleaf : small.Leaf := .inl rfl
  have hparse : Json.parse (utf8 "[[7],[]]") = .ok (.array [.array [.int 7], .array []]) := by rfl
  have hparse' : Json.parse (utf8 "[[7],[256]]") =
      .ok (.array [.array [.int 7], .array [.int 256]]) := by rfl
  have hwhole : json.read (utf8 "[7,0]") whole .json =
      .ok (.typed (.list .nat8) ([7, 0] : List UInt8)) := by rfl
  obtain ⟨hcan, hiff, -⟩ :=
    (lists_are_read_level_by_level .json (utf8 "[[7],[]]") .json).1 small hleaf 2
  obtain ⟨-, hiff', -, herror⟩ :=
    (lists_are_read_level_by_level .json (utf8 "[[7],[256]]") .json).1 small hleaf 2
  obtain ⟨-, hlist, hother, -⟩ := lists_are_read_level_by_level .json (utf8 "[7,0]") .json
  refine ⟨hleaf, rfl, rfl, rfl, rfl, rfl, hcan, hiff.mpr ⟨_, hparse, ?_, ?_⟩, ?_, ?_,
    hother opened rfl rfl rfl 2⟩
  · refine ⟨_, rfl, ?_⟩
    simp [Json.Layered]
  · intro node hnode
    have hseven : node = .int 7 := by simpa [Json.Below] using hnode
    subst hseven
    exact ⟨_, .bound rfl rfl⟩
  · cases hresult : json.read (utf8 "[[7],[256]]") lists .json with
    | error e =>
      obtain ⟨message, rfl⟩ := herror e hresult
      exact ⟨message, rfl⟩
    | ok v =>
      obtain ⟨j, hj, -, hnodes⟩ := hiff'.mp ⟨v, hresult⟩
      rw [hparse'] at hj
      cases hj
      obtain ⟨v, hv⟩ := hnodes (.int 256) (by simp [Json.Below])
      cases hv with
      | bound hbinding hdecode =>
        cases hbinding
        cases hdecode
      | any hbinding => cases hbinding
  · obtain ⟨xs, hsame, hxs⟩ := (hlist small whole .nat8 rfl rfl).2 _ hwhole
    obtain rfl := typed_inj hsame
    exact hxs

end Converter
end Endpoint
