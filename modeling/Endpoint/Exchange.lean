import Endpoint.Converter
import Endpoint.Network

/-!
Exchanges: the call that a request stands for. The body is written by the first converter that can,
the request goes out, and the answer is read as the type that is expected. A status that is no
success is an error, unless a whole response is expected: then it becomes part of that response.
-/
namespace Endpoint
open Text

/-- What calls are made with: who carries requests, the converters, and the media type of a body that
declares none. -/
structure Exchange where
  transport : Transport
  registry : Registry
  defaultType : MediaType

namespace Exchange

def debug (x : Exchange) : String :=
  "CallFactory \x7b converters: " ++ x.registry.debug ++ ", default_content_type: " ++
    quoted x.defaultType.display ++ ", .. \x7d"

/-- The media type that is declared for a body which a converter wrote as `m`. -/
def advertised (writer : Converter) (m : MediaType) : MediaType :=
  if writer.mediaType.isConcrete then writer.mediaType else m

/-- The headers and the octets that a body is sent as. -/
def encodeBody (x : Exchange) (headers : Headers) (body : Body) : Except Error (Headers × Octets) :=
  let declared := declaredType? headers
  let m := declared.getD x.defaultType
  match x.registry.writer? m body.type with
  | none => .error (Converter.unwritable body.type m)
  | some writer => do
    let bytes ← writer.write body m
    match declared with
    | some _ => return (headers, bytes)
    | none =>
      match headers.set contentTypeName (advertised writer m).display with
      | .ok headers => return (headers, bytes)
      | .error flaw => .error (.configuration (.header contentTypeName flaw))

/-- The request as it goes out. -/
def encode (x : Exchange) (r : Request) : Except Error WireRequest :=
  match r.body with
  | none => .ok ⟨r.method, r.endpoint, r.headers, none⟩
  | some body => do
    let (headers, bytes) ← x.encodeBody r.headers body
    return ⟨r.method, r.endpoint, headers, some bytes⟩

/-- The media type of an answer; one that is missing or malformed may be anything. -/
def answeredType (headers : Headers) : MediaType := (declaredType? headers).getD .any

/-- The value of a type that an answer holds. -/
def decode (x : Exchange) (type : TypeExpr) (answer : WireResponse) : Except Error Value :=
  if type.isNamed TypeExpr.voidName then .ok .unit
  else
    let m := answeredType answer.headers
    match x.registry.reader? m type with
    | none => .error (Converter.unreadable type m)
    | some reader => reader.read answer.body type m

/-- The error of an answer whose status is no success. -/
def refusal (answer : WireResponse) : Error :=
  .response answer.status answer.headers (lossy answer.body)

/-- Sends a request and goes on with the answer, whose status is a success, or with the error. -/
def perform (x : Exchange) (r : Request) (next : Except Error WireResponse → Task) : Task :=
  match x.encode r with
  | .error e => next (.error e)
  | .ok request => x.transport.carry request fun
    | .error e => next (.error e)
    | .ok answer =>
      if isSuccess answer.status then next (.ok answer)
      else .report (.errorStatus answer.status) (next (.error (refusal answer)))

/-- Ends in the value of the expected type. -/
def intoValue (x : Exchange) (type : TypeExpr) : Except Error WireResponse → Task
  | .error e => .fail e
  | .ok answer => .done (x.decode type answer)

/-- The body of a whole response: none if it is empty or not wanted. -/
def envelopeBody (x : Exchange) (type : TypeExpr) (answer : WireResponse) :
    Except Error (Option Value) :=
  if answer.body.isEmpty || type.isNamed TypeExpr.voidName then .ok none
  else some <$> x.decode type answer

/-- The response that a status which is no success becomes part of. Where a text is expected, the
text of the body is the body. -/
def recovered (type : TypeExpr) (status : Nat) (headers : Headers) (text : String) :
    Response Value :=
  ⟨status, headers, if type.isNamed TypeExpr.stringName then some (.text text) else none, some text⟩

/-- Ends in a whole response. -/
def intoEnvelope (x : Exchange) (type : TypeExpr) : Except Error WireResponse → Task
  | .ok answer => match x.envelopeBody type answer with
    | .ok body => .ok (.envelope ⟨answer.status, answer.headers, body, none⟩)
    | .error e => .fail e
  | .error (.response status headers text) =>
    .report (.recoveredStatus status) (.ok (.envelope (recovered type status headers text)))
  | .error e => .fail e

/-- The work of the call that a request stands for when a type is expected. -/
def work (x : Exchange) (r : Request) (expected : TypeExpr) : Task :=
  if expected.isNamed TypeExpr.responseName then
    x.perform r (x.intoEnvelope expected.firstArgOrAny)
  else x.perform r (x.intoValue expected)

/-- The call that a request stands for when a type is expected. -/
def call (x : Exchange) (r : Request) (expected : TypeExpr) : Call := .ready (x.work r expected)

def event (expected : TypeExpr) : Event :=
  if expected.isNamed TypeExpr.responseName then .buildingEnvelope expected.firstArgOrAny.display
  else .buildingDecoding expected.display

end Exchange
end Endpoint
