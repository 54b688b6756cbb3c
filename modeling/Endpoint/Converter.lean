import Endpoint.Request

/-!
Converters and the registry that chooses among them. A converter advertises a media type and can
read bodies of some types, write bodies of some types, or both. The registry is a list: the first
converter that is compatible with a media type and can do what is asked is taken.
-/
namespace Endpoint
open Text

/-- A codec for bodies. -/
structure Converter where
  mediaType : MediaType
  canRead : TypeExpr → Bool
  canWrite : TypeExpr → Bool
  read : Octets → TypeExpr → MediaType → Except Error Value
  write : Body → MediaType → Except Error Octets

namespace Converter

def unreadable (type : TypeExpr) (m : MediaType) : Error :=
  .noConverter .read type.display m.display

def unwritable (type : TypeExpr) (m : MediaType) : Error :=
  .noConverter .write type.display m.display

/-- A converter that neither reads nor writes, whatever it claims to be able to. -/
def idle (mediaType : MediaType) (claimsReading claimsWriting : Bool) : Converter :=
  ⟨mediaType, fun _ => claimsReading, fun _ => claimsWriting,
    fun _ type m => .error (unreadable type m),
    fun body m => .error (unwritable body.type m)⟩

def decodeError (type : TypeExpr) (m : MediaType) (message : String) : Error :=
  .decode type.display m.display message

def encodeError (type : TypeExpr) (m : MediaType) (message : String) : Error :=
  .encode type.display m.display message

/-- The document of a body: that of its value when its type is bound, else the document it is. -/
def documentOf (body : Body) : Except String Json :=
  match body.type.binding with
  | some schema => match body.value.typed? schema with
    | some x => schema.encode x
    | none => .error "body value does not match its descriptor"
  | none => match body.value with
    | .tree j => .ok j
    | _ => .error "expected a serde_json::Value body"

end Converter

/-- The converters in their order. -/
structure Registry where
  converters : List Converter

namespace Registry

/-- The converter is compatible with the media type and can read the type. -/
def reads (m : MediaType) (type : TypeExpr) (c : Converter) : Bool :=
  c.mediaType.compatible m && c.canRead type

/-- The converter is compatible with the media type and can write the type. -/
def writes (m : MediaType) (type : TypeExpr) (c : Converter) : Bool :=
  c.mediaType.compatible m && c.canWrite type

def reader? (r : Registry) (m : MediaType) (type : TypeExpr) : Option Converter :=
  r.converters.find? (reads m type)

def writer? (r : Registry) (m : MediaType) (type : TypeExpr) : Option Converter :=
  r.converters.find? (writes m type)

/-- The converters that can read a type, whatever they advertise. -/
def readers (r : Registry) (type : TypeExpr) : List Converter :=
  r.converters.filter (·.canRead type)

def size (r : Registry) : Nat := r.converters.length

/-- How a registry is shown in diagnostics: the media types of its converters. -/
def debug (r : Registry) : String :=
  let shown := r.converters.map fun c => (quoted c.mediaType.display).toList
  String.ofList ('[' :: join [',', ' '] shown ++ [']'])

end Registry
end Endpoint
