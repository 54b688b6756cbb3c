import Endpoint.Converter

/-!
The converter for forms, which only writes. A body must be an object of scalars and arrays of
scalars: a scalar gives one pair, an array one pair for each element, and null none. Names and
values are escaped and the pairs joined by ampersands.
-/
namespace Endpoint.Converter
open Text

/-- The text of a string, a number or a truth value. -/
def scalar? : Json → Option String
  | .text s => some s
  | .int n => some (String.ofList (decimalInt n))
  | .float x => some (String.ofList (Json.floatText x))
  | .flag b => some (if b then "true" else "false")
  | _ => none

/-- The texts of the elements of an array under a name. -/
def scalarItems (name : String) : List Json → Except String (List (String × String))
  | [] => .ok []
  | j :: js => do
    let s ← match scalar? j with
      | some s => pure s
      | none => throw s!"field '{name}' contains a nested value"
    let rest ← scalarItems name js
    return (name, s) :: rest

/-- The pairs of one field. -/
def fieldPairs (name : String) : Json → Except String (List (String × String))
  | .null => .ok []
  | .array items => scalarItems name items
  | j => match scalar? j with
    | some s => .ok [(name, s)]
    | none => .error s!"field '{name}' is a nested object"

/-- The pairs of all fields in their order. -/
def formPairs : List (String × Json) → Except String (List (String × String))
  | [] => .ok []
  | (name, j) :: fields => do
    let ps ← fieldPairs name j
    let rest ← formPairs fields
    return ps ++ rest

/-- A pair with an equals sign between its escaped parts. -/
def formPair (p : String × String) : List Char := percentField p.1 ++ '=' :: percentField p.2

def formText (ps : List (String × String)) : List Char := join ['&'] (ps.map formPair)

/-- Writes a body as a form. -/
def writeForm (body : Body) (m : MediaType) : Except Error Octets :=
  match documentOf body with
  | .error message => .error (encodeError body.type m message)
  | .ok (.object fields) => match formPairs fields with
    | .error message => .error (encodeError body.type m message)
    | .ok ps => .ok (utf8OfChars (formText ps))
  | .ok _ => .error (encodeError body.type m "form bodies must serialize to an object")

def form : Converter :=
  ⟨.form, fun _ => false, fun type => type.binding.isSome || type.isNamed TypeExpr.anyName,
    fun _ type m => .error (unreadable type m), writeForm⟩

end Endpoint.Converter
