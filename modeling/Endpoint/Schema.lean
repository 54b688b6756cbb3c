import Endpoint.Json

/-!
Schemas: the data types a declared type can be bound to. A schema is a code, and `Carrier` is the
type that it stands for, so a bound value is a schema with an element of its carrier. A record lists
its fields in the order of their declaration. What no other code stands for is a type of the
program's `own`, with the codec that the program gives it. Two bound values have the same type when
their schemas are the `same`, and codecs are told apart by their names.
-/
namespace Endpoint

/-- How the values of a type are read from documents and written as documents, or why they are not.
A value is kept as octets, which mean something to its codec alone. -/
structure Codec where
  name : String
  read : Json → Except String Text.Octets
  write : Text.Octets → Except String Json
  proper : ∀ x j, write x = .ok j → j.Proper

mutual
/-- A data type. A `refusing` type takes any document and refuses to be written. -/
inductive Schema where
  | text
  | flag
  | nat8
  | nat32
  | nat64
  | int64
  | double
  | list (item : Schema)
  | option (item : Schema)
  | table (item : Schema)
  | record (name : String) (fields : Fields)
  | refusing (message : String)
  | own (codec : Codec)

/-- The fields of a record. -/
inductive Fields where
  | nil
  | cons (name : String) (schema : Schema) (rest : Fields)
end

instance : Inhabited Schema := ⟨.text⟩

namespace Schema

mutual
/-- The type that a schema stands for. A table is its entries in the order of their names. -/
def Carrier : Schema → Type
  | .text => String
  | .flag => Bool
  | .nat8 => UInt8
  | .nat32 => UInt32
  | .nat64 => UInt64
  | .int64 => Int64
  | .double => Float
  | .list s => List s.Carrier
  | .option s => Option s.Carrier
  | .table s => List (String × s.Carrier)
  | .record _ fields => Row fields
  | .refusing _ => Unit
  | .own _ => Text.Octets

/-- The values of the fields of a record. -/
def Row : Fields → Type
  | .nil => Unit
  | .cons _ s rest => s.Carrier × Row rest
end

mutual
/-- The schemas stand for the same type. -/
def same : Schema → Schema → Bool
  | .text, .text | .flag, .flag | .double, .double => true
  | .nat8, .nat8 | .nat32, .nat32 | .nat64, .nat64 | .int64, .int64 => true
  | .list s, .list t | .option s, .option t | .table s, .table t => same s t
  | .record n fields, .record m others => n == m && sameFields fields others
  | .refusing m, .refusing n => m == n
  | .own c, .own d => c.name == d.name
  | _, _ => false

@[inherit_doc same]
def sameFields : Fields → Fields → Bool
  | .nil, .nil => true
  | .cons n s rest, .cons m t others => n == m && same s t && sameFields rest others
  | _, _ => false
end

mutual
theorem same_self : (s : Schema) → s.same s = true
  | .text | .flag | .nat8 | .nat32 | .nat64 | .int64 | .double => rfl
  | .list s | .option s | .table s => same_self s
  | .record n fields => by rw [same, sameFields_self fields, beq_self_eq_true, Bool.and_true]
  | .refusing m => beq_self_eq_true m
  | .own c => beq_self_eq_true c.name

theorem sameFields_self : (fields : Fields) → sameFields fields fields = true
  | .nil => rfl
  | .cons n s rest => by
    rw [sameFields, same_self s, sameFields_self rest, beq_self_eq_true]
    rfl
end

mutual
theorem carrier_eq_of_same : (s t : Schema) → s.same t = true → s.Carrier = t.Carrier
  | .text, .text, _ | .flag, .flag, _ | .double, .double, _ => rfl
  | .nat8, .nat8, _ | .nat32, .nat32, _ | .nat64, .nat64, _ | .int64, .int64, _ => rfl
  | .list s, .list t, h => congrArg List (carrier_eq_of_same s t h)
  | .option s, .option t, h => congrArg Option (carrier_eq_of_same s t h)
  | .table s, .table t, h => congrArg (fun α => List (String × α)) (carrier_eq_of_same s t h)
  | .record _ fields, .record _ others, h =>
    row_eq_of_same fields others (Bool.and_eq_true_iff.mp h).2
  | .refusing _, .refusing _, _ | .own _, .own _, _ => rfl

theorem row_eq_of_same : (fields others : Fields) → sameFields fields others = true →
    Row fields = Row others
  | .nil, .nil, _ => rfl
  | .cons _ s rest, .cons _ t others, h => by
    obtain ⟨h, hrest⟩ := Bool.and_eq_true_iff.mp h
    have hs := carrier_eq_of_same s t (Bool.and_eq_true_iff.mp h).2
    show (s.Carrier × Row rest) = (t.Carrier × Row others)
    rw [hs, row_eq_of_same rest others hrest]
end

/-- The value of one schema as a value of another one that stands for the same type. -/
def cast? (s t : Schema) (x : s.Carrier) : Option t.Carrier :=
  if h : s.same t = true then some (cast (carrier_eq_of_same s t h) x) else none

@[simp] theorem cast?_self (s : Schema) (x : s.Carrier) : s.cast? s x = some x :=
  dif_pos (same_self s)

end Schema

def Fields.count : Fields → Nat
  | .nil => 0
  | .cons _ _ rest => rest.count + 1

end Endpoint
