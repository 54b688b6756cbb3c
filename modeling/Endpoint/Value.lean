import Endpoint.Response
import Endpoint.Schema.Codec

/-!
Values: what a call ends in. A `Datum` is complete in itself and is also what a request body holds;
the other values are built of values, or stand for work that is under way or has not been started.
`Kind` names the types that a value can be taken out as.
-/
namespace Endpoint
open Text

/-- A piece of data: a text that is part of the program, octets, a document, or a value of a
schema. -/
inductive Datum where
  | literal (s : String)
  | octets (bs : Octets)
  | tree (j : Json)
  | typed (schema : Schema) (x : schema.Carrier)

/-- What a call ends in. A future is the ticket of work on the pool; a single and a stream are work
that is done when they are asked. -/
inductive Value where
  | unit
  | datum (d : Datum)
  | list (items : List Value)
  | headers (h : Headers)
  | envelope (r : Response Value)
  | future (ticket : Nat)
  | single (work : Work Value)
  | stream (work : Work Value)

instance : Inhabited Value := ⟨.unit⟩

namespace Value

/-- A text. -/
@[match_pattern] abbrev text (s : String) : Value := .datum (.typed .text s)
/-- Octets as they are. -/
@[match_pattern] abbrev octets (bs : Octets) : Value := .datum (.octets bs)
/-- A document. -/
@[match_pattern] abbrev tree (j : Json) : Value := .datum (.tree j)
/-- A value of a schema. -/
@[match_pattern] abbrev typed (schema : Schema) (x : schema.Carrier) : Value :=
  .datum (.typed schema x)

end Value

namespace Datum

def typed? (schema : Schema) : Datum → Option schema.Carrier
  | .typed s x => s.cast? schema x
  | _ => none

def text? (d : Datum) : Option String := d.typed? .text

end Datum

namespace Value

def typed? (schema : Schema) : Value → Option schema.Carrier
  | .datum d => d.typed? schema
  | _ => none

def text? (v : Value) : Option String := v.typed? .text

/-- How a value is shown in diagnostics: a text and a document as they are, anything else closed. -/
def debug : Value → String
  | .text s => "Value(" ++ quoted s ++ ")"
  | .tree j => "Value(" ++ j.outline ++ ")"
  | _ => "Value(..)"

end Value

/-- The types that a value can be taken out as. -/
inductive Kind where
  | unit
  | text
  | nat8
  | nat64
  | document
  | headers
deriving DecidableEq, Repr

namespace Kind

/-- The name of a type in messages. -/
def name : Kind → String
  | unit => "()"
  | text => "alloc::string::String"
  | nat8 => "u8"
  | nat64 => "u64"
  | document => "serde_json::value::Value"
  | headers => "restcall::types::headers::Headers"

/-- A value is of a type. -/
def holds : Kind → Value → Bool
  | unit, .unit => true
  | text, v => (v.typed? .text).isSome
  | nat8, v => (v.typed? .nat8).isSome
  | nat64, v => (v.typed? .nat64).isSome
  | document, .tree _ => true
  | headers, .headers _ => true
  | _, _ => false

end Kind

def Value.take (kind : Kind) (v : Value) : Except Error Value :=
  if kind.holds v then .ok v else .error (.mismatch kind.name)

/-- The work of the program: it ends in a value. -/
abbrev Task := Work Value

/-- A call: starting it hands out the work that it consists of. -/
abbrev Call := Launch Value

namespace Call

/-- A call whose work ends as given, counting one execution on the way. -/
def counted (result : Except Error Value) : Call := .ready (.count (.done result))

/-- A call whose work ends as given at once. -/
def immediate (result : Except Error Value) : Call := .ready (.done result)

def panicking (payload : Payload) : Call := .ready (.count (.panic payload))

end Call
end Endpoint
