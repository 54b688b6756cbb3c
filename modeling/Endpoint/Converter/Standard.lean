import Endpoint.Converter.Document
import Endpoint.Converter.Form

/-!
The converters for text and for octets as they are, and the registry that is used when no other is
given. Text is UTF-8: a reader refuses a charset that is neither that nor ASCII, and a writer takes
any.
-/
namespace Endpoint.Converter
open Text

def isUtf8Charset (charset : String) : Bool :=
  ["utf-8", "utf8", "us-ascii", "ascii"].any (sameIgnoringCase charset)

/-- Reads a body as a text. -/
def readText (body : Octets) (type : TypeExpr) (m : MediaType) : Except Error Value :=
  match m.charset?.filter (fun c => !isUtf8Charset c) with
  | some charset => .error (decodeError type m s!"unsupported charset '{charset}'")
  | none => match textOfUtf8 body with
    | .ok t => .ok (.text t)
    | .error fault => .error (decodeError type m fault.message)

/-- Writes a text. -/
def writeText (body : Body) (m : MediaType) : Except Error Octets :=
  match body.value with
  | .typed .text s => .ok (utf8 s)
  | .literal s => .ok (utf8 s)
  | _ => .error (encodeError body.type m "expected a String body")

def text : Converter :=
  ⟨.plainText, (·.isNamed TypeExpr.stringName), (·.isNamed TypeExpr.stringName), readText, writeText⟩

/-- Writes octets, kept as they are or as a list of small numbers. -/
def writeOctets (body : Body) (m : MediaType) : Except Error Octets :=
  match body.value with
  | .octets bs => .ok bs
  | .typed (.list .nat8) bs => .ok bs
  | _ => .error (encodeError body.type m "expected a Bytes or Vec<u8> body")

def octets : Converter :=
  ⟨.octetStream, (·.isNamed TypeExpr.bytesName), (·.isNamed TypeExpr.bytesName),
    fun body _ _ => .ok (.octets body), writeOctets⟩

end Endpoint.Converter

namespace Endpoint.Registry

def standard : Registry := ⟨[.json, .text, .octets, .form]⟩

def withAhead (r : Registry) (converters : List Converter) : Registry :=
  ⟨converters ++ r.converters⟩

end Endpoint.Registry
