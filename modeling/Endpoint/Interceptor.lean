import Endpoint.Authentication
import Endpoint.Converter
import Endpoint.Event
import Endpoint.Text.Basic

/-!
Interceptors: changes of every request before it is sent. Headers can be added that the request
lacks, credentials, and the media types that could be read; anything else is a function on
requests. A chain applies its interceptors one after another. None of them can fail: a header that
is not legal is left out, and `reports` tells of it.
-/
namespace Endpoint
open Text

/-- The headers with the lines of `defaults` whose names they lack. -/
def Headers.fill (h defaults : Headers) : Headers :=
  ⟨h.lines ++ defaults.grouped.filter fun l => !h.contains l.name⟩

/-- The media types from which a type can be read, each once, in the order of the converters. -/
def Registry.acceptable (r : Registry) (type : TypeExpr) : List String :=
  Headers.firsts ((r.readers type).map (·.mediaType.display))

def acceptValue (mediaTypes : List String) : String :=
  String.ofList (join [',', ' '] (mediaTypes.map String.toList))

/-- A change of every request. -/
inductive Interceptor where
  | credentials (authentication : Authentication)
  | defaults (headers : Headers)
  | accept (registry : Registry)
  | change (f : Request → Request)

namespace Interceptor

/-- The content of credentials, unless it is blank. -/
def presented? (a : Authentication) : Option String :=
  a.content.filter fun content => trim content.toList ≠ []

/-- The request with its credentials: refused if they are no legal value, and as it was if there are
none. -/
def authorize (a : Authentication) (r : Request) : Except Error Request :=
  match presented? a with
  | some content => r.withHeader authorizationName content
  | none => .ok r

/-- The request with the list of the media types that its expected type can be read from. A request
that has such a list keeps it, and an empty list is not sent. -/
def negotiate (registry : Registry) (r : Request) : Except Error Request :=
  if r.headers.contains acceptName then .ok r
  else match registry.acceptable r.expected.unwrapEnvelope with
    | [] => .ok r
    | mediaTypes => r.withReplacedHeader acceptName (acceptValue mediaTypes)

/-- The request that an interceptor makes of a request. -/
def apply : Interceptor → Request → Request
  | credentials a, r => match authorize a r with
    | .ok changed => changed
    | .error _ => r
  | defaults headers, r => r.withHeaders (r.headers.fill headers)
  | accept registry, r => match negotiate registry r with
    | .ok changed => changed
    | .error _ => r
  | change f, r => f r

/-- What an interceptor reports about a request. -/
def reports : Interceptor → Request → List Event
  | credentials a, r => match authorize a r with
    | .ok _ => []
    | .error _ => [.credentialsSkipped]
  | defaults _, _ => []
  | accept registry, r => match negotiate registry r with
    | .ok _ => []
    | .error e => [.acceptSkipped e.message]
  | change _, _ => []

def applyAll (chain : List Interceptor) (r : Request) : Request :=
  chain.foldl (fun r i => i.apply r) r

/-- What a chain reports about a request, every interceptor about what those before it made. -/
def reportsAll : List Interceptor → Request → List Event
  | [], _ => []
  | i :: chain, r => i.reports r ++ reportsAll chain (i.apply r)

theorem applyAll_append (first second : List Interceptor) (r : Request) :
    applyAll (first ++ second) r = applyAll second (applyAll first r) := by
  simp [applyAll]

def debugAll (chain : List Interceptor) : String :=
  "InterceptorChain \x7b len: " ++ toString chain.length ++ " \x7d"

end Interceptor
end Endpoint
