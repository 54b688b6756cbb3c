import Endpoint.Dictionary
import Endpoint.Text.Hex

/-!
JSON documents as trees. Integers and floating-point numbers are apart: a literal without point and
exponent that fits sixty-four bits is an integer. An object holds its fields in the order of
their names, each name once; `objectOf` builds one from fields in any order, and of two fields
with one name it keeps the later.
-/
namespace Endpoint

/-- A JSON document. -/
inductive Json where
  | null
  | flag (b : Bool)
  | int (n : Int)
  | float (x : Float)
  | text (s : String)
  | array (items : List Json)
  | object (fields : List (String × Json))
deriving Inhabited

namespace Json

/-- The object of the given fields, of which a later one replaces an earlier one of its name. -/
def objectOf (fields : List (String × Json)) : Json := .object (Dictionary.ofEntries fields)

/-- A tree that a document can stand for: its integers fit sixty-four bits, with or without a sign,
and the fields of its objects are in the order of their names, each name once. -/
inductive Proper : Json → Prop where
  | null : Proper .null
  | flag (b : Bool) : Proper (.flag b)
  | int {n : Int} : -9223372036854775808 ≤ n → n ≤ 18446744073709551615 → Proper (.int n)
  | float (x : Float) : Proper (.float x)
  | text (s : String) : Proper (.text s)
  | array {items : List Json} : (∀ j ∈ items, Proper j) → Proper (.array items)
  | object {fields : List (String × Json)} : Dictionary.Ordered fields →
    (∀ f ∈ fields, Proper f.2) → Proper (.object fields)

end Json
end Endpoint
