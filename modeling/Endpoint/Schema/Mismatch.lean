import Endpoint.Json.Printer

/-!
Why a document does not fit a schema, and the wording of it.
-/
namespace Endpoint
open Endpoint.Text

/-- A document that is not what its place asks for: of another kind, of the right kind but out of
range, an array of the wrong length, an object without a field it must have, one with a
field twice, or a document that a codec refuses with a message of its own. -/
inductive Mismatch where
  | kind (found : Json) (expected : String)
  | range (found : Int) (expected : String)
  | length (found : Nat) (expected : String)
  | missing (field : String)
  | repeated (field : String)
  | refused (message : String)

namespace Mismatch

/-- What a document is, in a message. -/
def describe : Json → String
  | .null => "null"
  | .flag b => s!"boolean `{b}`"
  | .int n => "integer `" ++ String.ofList (decimalInt n) ++ "`"
  | .float x => "floating point `" ++ String.ofList (Json.floatText x) ++ "`"
  | .text s => "string " ++ quoted s
  | .array _ => "sequence"
  | .object _ => "map"

/-- The wording of a mismatch. -/
def message : Mismatch → String
  | kind found expected => s!"invalid type: {describe found}, expected {expected}"
  | range found expected =>
    "invalid value: integer `" ++ String.ofList (decimalInt found) ++ "`, expected " ++ expected
  | length found expected => s!"invalid length {found}, expected {expected}"
  | missing field => s!"missing field `{field}`"
  | repeated field => s!"duplicate field `{field}`"
  | refused message => message

end Mismatch
end Endpoint
