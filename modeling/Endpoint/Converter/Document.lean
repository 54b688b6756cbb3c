import Endpoint.Converter
import Endpoint.Json.Reader

/-!
The JSON converter. It reads bound types, any document, and sequences of what it can read, and
writes bound types and any document. A type that is bound is read through its schema whatever its
name; only then does the name decide.
-/
namespace Endpoint.Converter
open Text

mutual
/-- A type that JSON can be read as: bound, `Any`, or a sequence of such. -/
def readsDocument : TypeExpr → Bool
  | ⟨name, args, binding⟩ =>
    binding.isSome || name == TypeExpr.anyName ||
      (name == TypeExpr.listName && readsFirst args)

/-- The first argument is a type that JSON can be read as; a missing one is `Any`. -/
def readsFirst : List TypeExpr → Bool
  | [] => true
  | t :: _ => readsDocument t
end

mutual
/-- The value of a type that a document spells. -/
def decodeNode : TypeExpr → Json → Except Mismatch Value
  | ⟨name, args, binding⟩, j =>
    match binding with
    | some schema => (Value.typed schema ·) <$> schema.decode j
    | none =>
      if name == TypeExpr.listName then
        match j with
        | .array items => .list <$> Schema.decodeAll (decodeFirst args) items
        | j => .error (.kind j "a sequence")
      else .ok (.tree j)

/-- The value of the first argument that a document spells; a missing one is `Any`. -/
def decodeFirst : List TypeExpr → Json → Except Mismatch Value
  | [], j => .ok (.tree j)
  | t :: _, j => decodeNode t j
end

def writesDocument (type : TypeExpr) : Bool := type.binding.isSome || type.isNamed TypeExpr.anyName

/-- Reads a body as a document and the document as a type. -/
def readDocument (body : Octets) (type : TypeExpr) (m : MediaType) : Except Error Value :=
  match Json.parse body with
  | .error message => .error (decodeError type m message)
  | .ok j => match decodeNode type j with
    | .error mismatch => .error (decodeError type m mismatch.message)
    | .ok v => .ok v

/-- Writes a body as a document. -/
def writeDocument (body : Body) (m : MediaType) : Except Error Octets :=
  match documentOf body with
  | .error message => .error (encodeError body.type m message)
  | .ok j => .ok (utf8OfChars j.chars)

/-- The JSON converter under a media type. -/
def jsonAs (mediaType : MediaType) : Converter :=
  ⟨mediaType, readsDocument, writesDocument, readDocument, writeDocument⟩

def json : Converter := jsonAs .json

end Endpoint.Converter
