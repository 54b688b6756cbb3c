import Endpoint.World

/-!
Who carries requests. A transport that the program brings along reports nothing. The network reports
that a request goes out and what came of it, and it refuses a URL that is not on the web before
anything goes out.
-/
namespace Endpoint
open Text

/-- Who carries requests. A `late` error of the network comes up while the body of an answer is read;
which errors these are is known to the network alone. -/
inductive Transport where
  | own
  | network (late : Error → Bool)

namespace Transport
variable {V : Type}

def isNetwork : Transport → Bool
  | own => false
  | network _ => true

/-- What is reported before a request is carried. -/
def announces : Transport → WireRequest → List Event
  | own, _ => []
  | network _, r => [.sending r.method r.url.display]

/-- What the network says of an error. -/
def complaint : Error → String
  | .transport message | .timeout message => message
  | .configuration cause => cause.message
  | e => e.message

/-- What is reported of the answer to a request; a late error is not reported. -/
def tells : Transport → Except Error WireResponse → List Event
  | own, _ => []
  | network _, .ok answer => [.received answer.status answer.body.length]
  | network late, .error e => if late e then [] else [.sendFailed (complaint e)]

/-- Carries a request and goes on with the answer. -/
def carry (t : Transport) (r : WireRequest) (next : Except Error WireResponse → Work V) : Work V :=
  .reportAll (t.announces r) (.send r fun answer => .reportAll (t.tells answer) (next answer))

end Transport

namespace Network

/-- The user's name and password of a URL can be taken out of it to be sent apart: there are some,
and the name is a text. -/
def hasUser (a : Authority) : Bool :=
  let isText (s : String) : Bool := (textOfUtf8 (percentDecode (utf8 s))).isOk
  isText a.username && (a.username != "" || a.password.any isText)

/-- The URL as it is requested, with the user's name and password taken out. -/
def requested (u : Url) : Url := if u.authority.any hasUser then u.withoutUser else u

def refusal? (u : Url) : Option Misconfiguration :=
  if u.isWeb then none else some (.unsendable (requested u).display)

/-- The other side as the network reaches it: a URL that is not on the web is refused, and `others`
answer the rest. -/
def reply (others : Nat → WireRequest → Reply) (n : Nat) (r : WireRequest) : Reply :=
  match refusal? r.url with
  | some why => .fail (.configuration why)
  | none => others n r

end Network
end Endpoint
