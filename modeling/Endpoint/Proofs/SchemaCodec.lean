import Endpoint.Proofs.JsonReading
import Endpoint.Proofs.Shape

/-!
Values and their documents. Whatever a value is written as is a proper document. It is read back as
the value if the schema is `exact`, so that no two values have one document, and the value is
`Tidy`, so that a table is the list of its entries in the order in which an object has them.

What is proved, each by induction on schemas and the fields of records together:
  1. `proper_of_encode`: documents of values are proper, for every schema;
  2. `returns_of_exact`: tidy values of exact schemas are written and read back, from documents that
     nest as deep as the schema (`depth`) at most;
  3. `tidy_of_tableless`: a value without tables is tidy.

The fields of a record are written in the order of their declaration and read by their names, from
an object that has sorted them (`Written`).
-/
namespace Endpoint

def Fields.names : Fields → List String
  | .nil => []
  | .cons name _ rest => name :: rest.names

namespace Schema

/-! ## Documents of values are proper -/

theorem of_encodeAll {α : Type} {f : α → Except String Json} {xs : List α} {js : List Json}
    (h : encodeAll f xs = .ok js) : ∀ j ∈ js, ∃ x, f x = .ok j := by
  induction xs generalizing js with
  | nil =>
    cases h
    intro j hj
    cases hj
  | cons x xs ih =>
    obtain ⟨y, hy, h⟩ := eq_ok_of_bind h
    obtain ⟨ys, hys, h⟩ := eq_ok_of_bind h
    cases h
    exact List.forall_mem_cons.mpr ⟨⟨x, hy⟩, ih hys⟩

theorem of_encodeEntries {α : Type} {f : α → Except String Json} {l : List (String × α)}
    {es : List (String × Json)} (h : encodeEntries f l = .ok es) :
    ∀ e ∈ es, ∃ x, f x = .ok e.2 := by
  induction l generalizing es with
  | nil =>
    cases h
    intro e he
    cases he
  | cons e l ih =>
    obtain ⟨y, hy, h⟩ := eq_ok_of_bind h
    obtain ⟨ys, hys, h⟩ := eq_ok_of_bind h
    cases h
    exact List.forall_mem_cons.mpr ⟨⟨e.2, hy⟩, ih hys⟩

theorem proper_objectOf {l : List (String × Json)} (h : ∀ e ∈ l, e.2.Proper) :
    (Json.objectOf l).Proper :=
  .object (Dictionary.ordered_ofEntries l) fun e he => h e (Dictionary.mem_of_mem_ofEntries he)

mutual
theorem proper_of_encode : (s : Schema) → (x : s.Carrier) → {j : Json} →
    encode s x = .ok j → j.Proper
  | .text, _, _, h => by cases h; exact .text _
  | .flag, _, _, h => by cases h; exact .flag _
  | .nat8, x, _, h => by
    cases h
    have := UInt8.toNat_lt x
    exact .int (by omega) (by omega)
  | .nat32, x, _, h => by
    cases h
    have := UInt32.toNat_lt x
    exact .int (by omega) (by omega)
  | .nat64, x, _, h => by
    cases h
    have := UInt64.toNat_lt x
    exact .int (by omega) (by omega)
  | .int64, x, _, h => by
    cases h
    have hlow := Int64.le_toInt x
    have hhigh := Int64.toInt_lt x
    exact .int (by omega) (by omega)
  | .double, x, _, h => by
    cases h
    unfold encodeDouble
    split
    · exact .float x
    · exact .null
  | .list s, xs, _, h => by
    obtain ⟨js, hjs, rfl⟩ := eq_ok_of_map h
    refine .array fun j hj => ?_
    obtain ⟨x, hx⟩ := of_encodeAll hjs j hj
    exact proper_of_encode s x hx
  | .option s, x, j, h => by
    cases x with
    | none => cases h; exact .null
    | some x => exact proper_of_encode s x h
  | .table s, entries, _, h => by
    obtain ⟨es, hes, rfl⟩ := eq_ok_of_map h
    refine proper_objectOf fun e he => ?_
    obtain ⟨x, hx⟩ := of_encodeEntries hes e he
    exact proper_of_encode s x hx
  | .record _ fields, row, _, h => by
    obtain ⟨es, hes, rfl⟩ := eq_ok_of_map h
    exact proper_objectOf (proper_of_encodeRow fields row hes)
  | .refusing _, _, _, h => by cases h
  | .own codec, x, j, h => codec.proper x j h

theorem proper_of_encodeRow : (fields : Fields) → (row : Row fields) →
    {l : List (String × Json)} → encodeRow Json.objectOf fields row = .ok l →
    ∀ e ∈ l, e.2.Proper
  | .nil, _, _, h => by
    cases h
    intro e he
    cases he
  | .cons name s rest, (x, row), l, h => by
    obtain ⟨j, hj, h⟩ := eq_ok_of_bind h
    obtain ⟨tail, htail, h⟩ := eq_ok_of_bind h
    cases h
    exact List.forall_mem_cons.mpr ⟨proper_of_encode s x hj, proper_of_encodeRow rest row htail⟩
end

/-! ## Exact schemas -/

/-- No value of the schema is written as null. -/
def neverNull : Schema → Bool
  | .double | .option _ | .refusing _ | .own _ => false
  | _ => true

mutual
/-- The document of a value tells the value: there is no floating-point number in it, null stands
for an absent value only, and a record has no two fields of one name. What a codec of the program's
own does is not known. -/
def exact : Schema → Bool
  | .double | .refusing _ | .own _ => false
  | .text | .flag | .nat8 | .nat32 | .nat64 | .int64 => true
  | .list s | .table s => s.exact
  | .option s => s.neverNull && s.exact
  | .record _ fields => decide fields.names.Nodup && exactFields fields

@[inherit_doc exact]
def exactFields : Fields → Bool
  | .nil => true
  | .cons _ s rest => s.exact && exactFields rest
end

mutual
/-- How deep the documents of values nest. -/
def depth : Schema → Nat
  | .list s | .table s => s.depth + 1
  | .option s => s.depth
  | .record _ fields => depthOfFields fields + 1
  | _ => 0

@[inherit_doc depth]
def depthOfFields : Fields → Nat
  | .nil => 0
  | .cons _ s rest => max s.depth (depthOfFields rest)
end

/-- Every element of a list is so. -/
def Each {α : Type} (P : α → Prop) (l : List α) : Prop := ∀ x ∈ l, P x

mutual
/-- The tables in a value have their entries in the order of the names, each name once. -/
def Tidy : (s : Schema) → s.Carrier → Prop
  | .list s, xs => Each (Tidy s) xs
  | .option s, x => match x with
    | none => True
    | some x => Tidy s x
  | .table s, entries => Dictionary.Ordered entries ∧ Each (fun e => Tidy s e.2) entries
  | .record _ fields, row => TidyRow fields row
  | _, _ => True

@[inherit_doc Tidy]
def TidyRow : (fields : Fields) → Row fields → Prop
  | .nil, _ => True
  | .cons _ s rest, (x, row) => Tidy s x ∧ TidyRow rest row
end

mutual
/-- No table is part of the schema. -/
def tableless : Schema → Bool
  | .table _ => false
  | .list s | .option s => s.tableless
  | .record _ fields => tablelessFields fields
  | _ => true

@[inherit_doc tableless]
def tablelessFields : Fields → Bool
  | .nil => true
  | .cons _ s rest => s.tableless && tablelessFields rest
end

mutual
theorem tidy_of_tableless : (s : Schema) → s.tableless → (x : s.Carrier) → Tidy s x
  | .text, _, _ | .flag, _, _ | .nat8, _, _ | .nat32, _, _ | .nat64, _, _ | .int64, _, _
  | .double, _, _ | .refusing _, _, _ | .own _, _, _ => trivial
  | .list s, hs, _ => fun x _ => tidy_of_tableless s hs x
  | .option s, hs, x => by
    cases x with
    | none => exact trivial
    | some x => exact tidy_of_tableless s hs x
  | .record _ fields, hs, row => tidyRow_of_tableless fields hs row

theorem tidyRow_of_tableless : (fields : Fields) → tablelessFields fields → (row : Row fields) →
    TidyRow fields row
  | .nil, _, _ => trivial
  | .cons _ s rest, hs, (x, row) => by
    obtain ⟨hs, hrest⟩ := Bool.and_eq_true_iff.mp hs
    exact ⟨tidy_of_tableless s hs x, tidyRow_of_tableless rest hrest row⟩
end

/-! ## Values of exact schemas are read back -/

/-- The value is written as a document that nests at most so deep, and is read back from it. -/
def Returns (s : Schema) (x : s.Carrier) (depth : Nat) : Prop :=
  ∃ j, encode s x = .ok j ∧ decode s j = .ok x ∧ j.Nests depth

section
variable {s : Schema} {d : Nat}

theorem ne_null_of_encode (hs : s.neverNull) {x : s.Carrier} {j : Json}
    (h : encode s x = .ok j) : j ≠ .null := by
  cases s with
  | double | option | refusing | own => cases hs
  | text | flag | nat8 | nat32 | nat64 | int64 =>
    cases h
    intro hnull
    cases hnull
  | list | table | record =>
    obtain ⟨_, -, rfl⟩ := eq_ok_of_map h
    intro hnull
    cases hnull

theorem returns_own {codec : Codec} {x : Text.Octets} {j : Json} (hwrite : codec.write x = .ok j)
    (hread : codec.read j = .ok x) (hnests : j.Nests d) : Returns (.own codec) x d := by
  refine ⟨j, hwrite, ?_, hnests⟩
  show (codec.read j).mapError Mismatch.refused = .ok x
  rw [hread]
  rfl

/-- An integer in its range is read back when the conversion undoes the one that wrote it. -/
theorem returns_of_integer {x : s.Carrier} {n low high : Int} {name : String}
    (f : Int → s.Carrier) (hencode : encode s x = .ok (.int n))
    (hdecode : ∀ j, decode s j = f <$> integer low high name j)
    (hlow : low ≤ n) (hhigh : n ≤ high) (hf : f n = x) : Returns s x d := by
  have hinteger : integer low high name (.int n) = .ok n := if_pos ⟨hlow, hhigh⟩
  refine ⟨.int n, hencode, ?_, .int n⟩
  rw [hdecode, hinteger, ← hf]
  rfl

theorem returns_nat8 (x : UInt8) : Returns .nat8 x d := by
  have hx := UInt8.toNat_lt x
  refine returns_of_integer (fun n => UInt8.ofNat n.toNat) rfl (fun _ => rfl) ?_ ?_
    UInt8.ofNat_toNat <;> omega

theorem returns_nat32 (x : UInt32) : Returns .nat32 x d := by
  have hx := UInt32.toNat_lt x
  refine returns_of_integer (fun n => UInt32.ofNat n.toNat) rfl (fun _ => rfl) ?_ ?_
    UInt32.ofNat_toNat <;> omega

theorem returns_nat64 (x : UInt64) : Returns .nat64 x d := by
  have hx := UInt64.toNat_lt x
  refine returns_of_integer (fun n => UInt64.ofNat n.toNat) rfl (fun _ => rfl) ?_ ?_
    UInt64.ofNat_toNat <;> omega

theorem returns_int64 (x : Int64) : Returns .int64 x d :=
  returns_of_integer Int64.ofInt rfl (fun _ => rfl) (Int64.minValue_le_toInt x) (Int64.toInt_le x)
    (Int64.ofInt_toInt x)

theorem returns_list {xs : List s.Carrier} (h : ∀ x ∈ xs, Returns s x d) :
    Returns (.list s) xs (d + 1) := by
  suffices ∃ js, encodeAll (encode s) xs = .ok js ∧ decodeAll (decode s) js = .ok xs ∧
      ∀ j ∈ js, j.Nests d by
    obtain ⟨js, hencode, hdecode, hnests⟩ := this
    exact ⟨.array js, congrArg (Json.array <$> ·) hencode, hdecode, .array hnests⟩
  induction xs with
  | nil => exact ⟨[], rfl, rfl, fun j hj => absurd hj List.not_mem_nil⟩
  | cons x xs ih =>
    obtain ⟨⟨j, hencode, hdecode, hnests⟩, h⟩ := List.forall_mem_cons.mp h
    obtain ⟨js, hencodes, hdecodes, hnest⟩ := ih h
    refine ⟨j :: js, ?_, ?_, List.forall_mem_cons.mpr ⟨hnests, hnest⟩⟩
    · simp only [encodeAll, hencode, hencodes]
      rfl
    · simp only [decodeAll, hdecode, hdecodes]
      rfl

theorem returns_option (hs : s.neverNull) {x : Option s.Carrier} (h : ∀ y ∈ x, Returns s y d) :
    Returns (.option s) x d := by
  cases x with
  | none => exact ⟨.null, rfl, rfl, .null⟩
  | some y =>
    obtain ⟨j, hencode, hdecode, hnests⟩ := h y rfl
    -- null would be read as an absent value
    have hnull := ne_null_of_encode hs hencode
    refine ⟨j, hencode, ?_, hnests⟩
    cases j with
    | null => exact absurd rfl hnull
    | _ => exact congrArg (some <$> ·) hdecode

theorem returns_table {entries : List (String × s.Carrier)} (hordered : Dictionary.Ordered entries)
    (h : ∀ e ∈ entries, Returns s e.2 d) : Returns (.table s) entries (d + 1) := by
  suffices ∃ es, encodeEntries (encode s) entries = .ok es ∧
      decodeEntries (decode s) es = .ok entries ∧ es.map (·.1) = entries.map (·.1) ∧
      ∀ e ∈ es, e.2.Nests d by
    obtain ⟨es, hencode, hdecode, hnames, hnests⟩ := this
    have hes : Dictionary.Ordered es := by
      refine List.pairwise_map.mp ?_
      rw [hnames]
      exact List.pairwise_map.mpr hordered
    have hobject : Json.objectOf es = .object es :=
      congrArg Json.object (Dictionary.ofEntries_of_ordered hes)
    refine ⟨.object es, ?_, hdecode, .object hnests⟩
    rw [← hobject]
    exact congrArg (Json.objectOf <$> ·) hencode
  clear hordered
  induction entries with
  | nil => exact ⟨[], rfl, rfl, rfl, fun e he => absurd he List.not_mem_nil⟩
  | cons e entries ih =>
    obtain ⟨⟨j, hencode, hdecode, hnests⟩, h⟩ := List.forall_mem_cons.mp h
    obtain ⟨es, hencodes, hdecodes, hnames, hnest⟩ := ih h
    refine ⟨(e.1, j) :: es, ?_, ?_, ?_, List.forall_mem_cons.mpr ⟨hnests, hnest⟩⟩
    · simp only [encodeEntries, hencode, hencodes]
      rfl
    · simp only [decodeEntries, hdecode, hdecodes]
      rfl
    · rw [List.map_cons, List.map_cons, hnames]

end

/-- The entries are those of a row, which is read back from any object that has them. -/
structure Written (fields : Fields) (row : Row fields) (l : List (String × Json)) (d : Nat) :
    Prop where
  encoded : encodeRow Json.objectOf fields row = .ok l
  names : l.map (·.1) = fields.names
  nests : ∀ e ∈ l, e.2.Nests d
  checked : fields.names.Nodup → ∀ e ∈ l, checkField e.1 e.2 fields = .ok ()
  read : ∀ entries, (∀ e ∈ l, Dictionary.find? e.1 entries = some e.2) →
    decodeFields fields entries = .ok row

theorem written_nil : Written .nil () [] 0 where
  encoded := rfl
  names := rfl
  nests := fun _ he => absurd he List.not_mem_nil
  checked := fun _ _ he => absurd he List.not_mem_nil
  read := fun _ _ => rfl

theorem written_cons {name : String} {s : Schema} {rest : Fields} {x : s.Carrier} {row : Row rest}
    {l : List (String × Json)} {d d' : Nat} (hx : Returns s x d) (hrow : Written rest row l d') :
    ∃ j, Written (.cons name s rest) (x, row) ((name, j) :: l) (max d d') := by
  obtain ⟨j, hencode, hdecode, hnests⟩ := hx
  refine ⟨j, ?_, ?_, ?_, ?_, ?_⟩
  · rw [encode] at hencode
    simp only [encodeRow, hencode, hrow.encoded]
    rfl
  · rw [List.map_cons, hrow.names, Fields.names]
  · refine List.forall_mem_cons.mpr ⟨hnests.mono (Nat.le_max_left d d'), fun e he => ?_⟩
    exact (hrow.nests e he).mono (Nat.le_max_right d d')
  · intro hnames
    obtain ⟨hfresh, hnames⟩ := List.nodup_cons.mp hnames
    refine List.forall_mem_cons.mpr ⟨?_, fun e he => ?_⟩
    · simp only [checkField, if_true, hdecode]
      rfl
    · -- the first field has another name
      have hne : name ≠ e.1 := by
        rintro rfl
        refine hfresh ?_
        rw [← hrow.names]
        exact List.mem_map_of_mem he
      simp only [checkField, if_neg hne]
      exact hrow.checked hnames e he
  · intro entries hfound
    obtain ⟨hhead, htail⟩ := List.forall_mem_cons.mp hfound
    simp only [decodeFields, hhead, hdecode, hrow.read entries htail]
    rfl

theorem checkEntries_ok {check : String → Json → Except Mismatch Unit}
    {entries : List (String × Json)} (h : ∀ e ∈ entries, check e.1 e.2 = .ok ()) :
    checkEntries check entries = .ok () := by
  induction entries with
  | nil => rfl
  | cons e entries ih =>
    obtain ⟨he, h⟩ := List.forall_mem_cons.mp h
    simp only [checkEntries, he]
    exact ih h

theorem decode_object (name : String) (fields : Fields) (entries : List (String × Json)) :
    decode (.record name fields) (.object entries) = (do
      checkEntries (fun field j => checkField field j fields) entries
      decodeFields fields entries) := rfl

theorem returns_record {name : String} {fields : Fields} {row : Row fields}
    {l : List (String × Json)} {d : Nat} (hnames : fields.names.Nodup)
    (hrow : Written fields row l d) : Returns (.record name fields) row (d + 1) := by
  -- sorting the fields keeps which there are and what is found under a name
  have hmem {e} (he : e ∈ Dictionary.ofEntries l) : e ∈ l := Dictionary.mem_of_mem_ofEntries he
  refine ⟨Json.objectOf l, congrArg (Json.objectOf <$> ·) hrow.encoded, ?_,
    .object fun e he => hrow.nests e (hmem he)⟩
  have hchecked : checkEntries (fun field j => checkField field j fields)
      (Dictionary.ofEntries l) = .ok () :=
    checkEntries_ok fun e he => hrow.checked hnames e (hmem he)
  have hread : decodeFields fields (Dictionary.ofEntries l) = .ok row := by
    refine hrow.read _ fun e he => Dictionary.find?_ofEntries ?_ he
    rw [hrow.names]
    exact hnames
  rw [Json.objectOf, decode_object, hchecked]
  exact hread

mutual
/-- Every tidy value of an exact schema is read back from its document. -/
theorem returns_of_exact : (s : Schema) → s.exact → (x : s.Carrier) → Tidy s x →
    Returns s x s.depth
  | .text, _, x, _ => ⟨.text x, rfl, rfl, .text x⟩
  | .flag, _, b, _ => ⟨.flag b, rfl, rfl, .flag b⟩
  | .nat8, _, x, _ => returns_nat8 x
  | .nat32, _, x, _ => returns_nat32 x
  | .nat64, _, x, _ => returns_nat64 x
  | .int64, _, x, _ => returns_int64 x
  | .list s, hs, xs, hxs => returns_list fun x hx => returns_of_exact s hs x (hxs x hx)
  | .option s, hs, x, hx => by
    obtain ⟨hnull, hs⟩ := Bool.and_eq_true_iff.mp hs
    refine returns_option hnull fun y hy => returns_of_exact s hs y ?_
    cases hy
    exact hx
  | .table s, hs, entries, ⟨hordered, hentries⟩ =>
    returns_table hordered fun e he => returns_of_exact s hs e.2 (hentries e he)
  | .record name fields, hs, row, hrow => by
    obtain ⟨hnames, hs⟩ := Bool.and_eq_true_iff.mp hs
    obtain ⟨l, hwritten⟩ := written_of_exact fields hs row hrow
    exact returns_record (of_decide_eq_true hnames) hwritten

theorem written_of_exact : (fields : Fields) → exactFields fields → (row : Row fields) →
    TidyRow fields row → ∃ l, Written fields row l (depthOfFields fields)
  | .nil, _, _, _ => ⟨[], written_nil⟩
  | .cons name s rest, hs, (x, row), ⟨hx, hrow⟩ => by
    obtain ⟨hs, hrest⟩ := Bool.and_eq_true_iff.mp hs
    obtain ⟨l, hwritten⟩ := written_of_exact rest hrest row hrow
    obtain ⟨j, hwritten⟩ := written_cons (returns_of_exact s hs x hx) hwritten
    exact ⟨(name, j) :: l, hwritten⟩
end

/-- Every tidy value of an exact schema is read back, if its documents nest no deeper than a
limit. -/
theorem Returns.of_exact {s : Schema} {x : s.Carrier} {limit : Nat} (hs : s.exact)
    (hdepth : s.depth ≤ limit) (hx : Tidy s x) : Returns s x limit := by
  obtain ⟨j, hencode, hdecode, hnests⟩ := returns_of_exact s hs x hx
  exact ⟨j, hencode, hdecode, hnests.mono hdepth⟩

end Schema
end Endpoint
