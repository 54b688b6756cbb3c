import Endpoint.Duration
import Endpoint.Json.Typed
import Endpoint.Request
import Endpoint.Text.Basic

/-!
The configuration of an invoker. It is read from a document in which every field may be missing,
or built field by field; a field that is not given has its default, and the default timeout comes
from the surroundings, which is what `timeout` stands for below. `document` writes a configuration,
with durations in whole seconds.
-/
namespace Endpoint
open Text

/-- The configuration of an invoker. The headers are a dictionary. -/
structure Config where
  timeout : Option Duration
  connectTimeout : Option Duration
  headers : List (String × String)
  proxy : Option String
  userAgent : Option String
  defaultContentType : String
  acceptNegotiation : Bool
deriving DecidableEq

namespace Config

/-! ## Defaults -/

/-- The variable of the surroundings that holds the default timeout in seconds. -/
def timeoutVariable : String := "RESTCALL_TIMEOUT_SECS"

def standardTimeout : Duration := .ofSeconds 30

def standardConnectTimeout : Duration := .ofSeconds 10

def standardUserAgent : String := "restcall/0.1.0"

/-- The timeout that the surroundings give: a number of seconds between blanks. -/
def timeoutFrom (setting : Option String) : Duration :=
  match setting.bind fun s => wordOfDigits? (trim s.toList) with
  | some n => .ofSeconds n
  | none => standardTimeout

/-- The configuration in which nothing is given. -/
def standard (timeout : Option String) : Config :=
  ⟨some (timeoutFrom timeout), some standardConnectTimeout, [], none, some standardUserAgent,
    MediaType.json.display, true⟩

/-! ## Building -/

/-- One thing that is given when a configuration is built. -/
inductive Setting where
  | timeout (d : Duration)
  | connectTimeout (d : Duration)
  | header (name value : String)
  | proxy (url : String)
  | userAgent (s : String)
  | defaultContentType (s : String)
  | acceptNegotiation (b : Bool)

/-- The configuration with one thing given. -/
def set (c : Config) : Setting → Config
  | .timeout d => { c with timeout := some d }
  | .connectTimeout d => { c with connectTimeout := some d }
  | .header name value => { c with headers := Dictionary.insert name value c.headers }
  | .proxy url => { c with proxy := some url }
  | .userAgent s => { c with userAgent := some s }
  | .defaultContentType s => { c with defaultContentType := s }
  | .acceptNegotiation b => { c with acceptNegotiation := b }

/-- The configuration of the given settings, of which a later one counts. -/
def ofSettings (timeout : Option String) (settings : List Setting) : Config :=
  settings.foldl Config.set (standard timeout)

/-! ## Documents -/

def secondsJson : Option Duration → Json
  | some d => .int d.seconds.toNat
  | none => .null

def textJson : Option String → Json
  | some s => .text s
  | none => .null

/-- The document of a configuration. -/
def document (c : Config) : Json :=
  .object [
    ("timeout", secondsJson c.timeout),
    ("connect_timeout", secondsJson c.connectTimeout),
    ("headers", .object (c.headers.map fun h => (h.1, .text h.2))),
    ("proxy", textJson c.proxy),
    ("user_agent", textJson c.userAgent),
    ("default_content_type", .text c.defaultContentType),
    ("accept_negotiation", .flag c.acceptNegotiation)]

def render (c : Config) : String := c.document.render

def secondsReader : Json.Reader (Option Duration) := fun s => do
  let (n, rest) ← Json.Typed.optional Json.Typed.word s
  return (n.map .ofSeconds, rest)

/-- How the fields of a configuration are read. -/
def slots : List (Json.Typed.Slot Config) := [
  .of "timeout" secondsReader fun c d => { c with timeout := d },
  .of "connect_timeout" secondsReader fun c d => { c with connectTimeout := d },
  .of "headers" (Json.Typed.dictionary Json.Typed.text) fun c h => { c with headers := h },
  .of "proxy" (Json.Typed.optional Json.Typed.text) fun c p => { c with proxy := p },
  .of "user_agent" (Json.Typed.optional Json.Typed.text) fun c u => { c with userAgent := u },
  .of "default_content_type" Json.Typed.text fun c m => { c with defaultContentType := m },
  .of "accept_negotiation" Json.Typed.flag fun c b => { c with acceptNegotiation := b }]

def reader (timeout : Option String) : Json.Reader Config :=
  Json.Typed.record "struct EndpointConfig" slots (standard timeout)

/-- The configuration that a text spells, or the report of what is wrong with it. -/
def parse (timeout : Option String) (text : String) : Except String Config :=
  (Json.whole (reader timeout) (utf8 text)).mapError (·.message (utf8 text))

/-! ## What a configuration says -/

def contentType (c : Config) : Except Error MediaType := MediaType.ofText c.defaultContentType

/-- The headers with what the program calls itself, unless they say it already. -/
def addUserAgent (c : Config) (h : Headers) : Except Error Headers :=
  match c.userAgent with
  | none => .ok h
  | some s =>
    if h.contains userAgentName then .ok h
    else (h.set userAgentName s).mapError fun flaw => .configuration (.header userAgentName flaw)

/-- The headers of every request that lacks them. -/
def defaultHeaders (c : Config) : Except Error Headers :=
  match Headers.ofPairs c.headers with
  | .error (name, flaw) => .error (.configuration (.header name flaw))
  | .ok h => c.addUserAgent h

/-! ## The network client -/

/-- A proxy: a URL with a host. Where that is only for want of a scheme, it is HTTP. -/
def isProxy (text : String) : Bool :=
  let named (s : String) : Bool := match Url.ofText s with
    | .ok u => u.hasHost
    | .error _ => false
  match Url.ofText text with
  | .ok u => u.hasHost || named ("http://" ++ text)
  | .error .relative => named ("http://" ++ text)
  | .error _ => false

/-- Whether a network client can be made: the proxy is one, and what the program calls itself can be
sent. -/
def checkClient (c : Config) : Except Error Unit :=
  if c.proxy.any fun p => !isProxy p then .error (.configuration .proxy)
  else if c.userAgent.any fun s => (Headers.value? s).isNone then .error (.configuration .client)
  else .ok ()

end Config
end Endpoint
