import Endpoint.MediaType
import Endpoint.TypeExpr
import Endpoint.Value

/-!
Requests. A request is a value: a change gives a new one and leaves the old one as it was. A body
is a piece of data with the type that describes it; two bodies are the same when they are one
allocation, known by its number, under the same type.
-/
namespace Endpoint

/-- The body of a request. -/
structure Body where
  identity : Nat
  value : Datum
  type : TypeExpr

namespace Body

/-- The same allocation under the same type. -/
def same (a b : Body) : Bool := a.identity == b.identity && a.type.same b.type

def debug (b : Body) : String := "RequestBody \x7b ty: " ++ b.type.debug ++ ", .. \x7d"

end Body

/-- The description of one remote call. -/
structure Request where
  endpoint : Url
  method : String
  headers : Headers
  body : Option Body
  expected : TypeExpr

def contentTypeName : String := "content-type"
def acceptName : String := "accept"
def authorizationName : String := "authorization"
/-- The name of the header that says with what the request was made. -/
def userAgentName : String := "user-agent"

def endpointOf (text : String) : Except Error Url :=
  (Url.ofText text).mapError fun flaw => .configuration (.endpoint text flaw)

/-- The media type that headers declare, if the first value is a text and well formed. -/
def declaredType? (headers : Headers) : Option MediaType :=
  (headers.get? contentTypeName).bind fun text => (MediaType.ofText text).toOption

namespace Request

/-- A request without headers and body. -/
def plain (endpoint : Url) (method : String) (expected : TypeExpr) : Request :=
  ⟨endpoint, method, .empty, none, expected⟩

def mediaType? (r : Request) : Option MediaType := declaredType? r.headers

/-- The request with one more value of a header. -/
def withHeader (r : Request) (name value : String) : Except Error Request :=
  match r.headers.add name value with
  | .ok headers => .ok { r with headers }
  | .error flaw => .error (.configuration (.header name flaw))

/-- The request with the only value of a header set. -/
def withReplacedHeader (r : Request) (name value : String) : Except Error Request :=
  match r.headers.set name value with
  | .ok headers => .ok { r with headers }
  | .error flaw => .error (.configuration (.header name flaw))

def withHeaders (r : Request) (headers : Headers) : Request := { r with headers }

/-- The request with a pair added to the query of its endpoint. -/
def withQuery (r : Request) (name value : String) : Request :=
  { r with endpoint := r.endpoint.withQueryPair name value }

def withEndpoint (r : Request) (endpoint : Url) : Request := { r with endpoint }

def withMethod (r : Request) (method : String) : Request := { r with method }

def withBody (r : Request) (body : Body) : Request := { r with body := some body }

def withoutBody (r : Request) : Request := { r with body := none }

def withExpected (r : Request) (expected : TypeExpr) : Request := { r with expected }

/-- The bodies are the same, or there is none on either side. -/
def sameBody : Option Body → Option Body → Bool
  | none, none => true
  | some a, some b => a.same b
  | _, _ => false

/-- The requests are the same. -/
def same (a b : Request) : Bool :=
  a.endpoint == b.endpoint && a.method == b.method && a.headers.same b.headers &&
    sameBody a.body b.body && a.expected.same b.expected

end Request
end Endpoint
