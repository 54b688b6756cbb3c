import Endpoint.Headers
import Endpoint.Text.Shown
import Endpoint.Url.Reader

/-!
What can go wrong with a call. An `Error` is a cause; `message` is its wording, `category` the part
of the program that failed, and `isRetryable` says whether the same call could succeed later.
-/
namespace Endpoint
open Text

/-- What a panic carried: a text, or something that is none. -/
inductive Payload where
  | text (s : String)
  | other
deriving DecidableEq, Repr, Inhabited

def Payload.message : Payload → String
  | text s => s
  | other => "unknown panic"

/-- Whether a reader or a writer was looked for. -/
inductive Direction where
  | read
  | write
deriving DecidableEq, Repr

def Direction.word : Direction → String
  | read => "reader"
  | write => "writer"

/-- Causes that lie in how a call was set up. -/
inductive Misconfiguration where
  | mediaType (text why : String)
  | header (name : String) (flaw : Headers.Flaw)
  | endpoint (text : String) (flaw : Url.Flaw)
  | noCallback
  | noRuntime
  | proxy
  | client
  | unsendable (url : String)
  | logLevel (text : String)
  | logFormat (text : String)
  | other (message : String)
deriving DecidableEq, Repr

/-- The wording of a cause in the setup. -/
def Misconfiguration.message : Misconfiguration → String
  | mediaType text why => s!"Invalid content type '{text}': {why}"
  | header name flaw => flaw.message name
  | endpoint text flaw => s!"Invalid endpoint '{text}': {flaw.message}"
  | noCallback => "callback invocation without an EndpointCallback argument"
  | noRuntime =>
    "No tokio runtime: there is no reactor running, must be called from the context of a Tokio 1.x runtime"
  | proxy => "Invalid proxy URL: builder error"
  | client => "Failed to create HTTP client: builder error"
  | unsendable url => s!"builder error for url ({url})"
  | logLevel text => s!"Invalid log level: {text}. Valid options: trace, debug, info, warn, error"
  | logFormat text => s!"Invalid log format: {text}. Valid options: text, json, json-compact"
  | other message => message

/-- Causes that lie in how a call was run. -/
inductive Failure where
  | panicked (payload : Payload)
  | wouldBlock
  | lost
  | taskPanicked (payload : Payload)
  | taskCancelled
  | other (message : String)
deriving DecidableEq, Repr

/-- The wording of a cause in the running. -/
def Failure.message : Failure → String
  | panicked payload => "call panicked: " ++ payload.message
  | wouldBlock => "cannot block inside an async context; await the future instead"
  | lost => "worker pool dropped the call"
  | taskPanicked (.text s) => "task panicked: task N panicked with message " ++ quoted s
  | taskPanicked .other => "task panicked: task N panicked"
  | taskCancelled => "task cancelled: task N was cancelled"
  | other message => message

/-- Why no handler could be resolved for a declared type. -/
inductive Unresolved where
  | missingArgument
  | tooDeep (levels : Nat)
  | unwrapsToItself (type : String)
  | other (message : String)
deriving DecidableEq, Repr

/-- The wording of why a type was not resolved. -/
def Unresolved.message : Unresolved → String
  | missingArgument => "missing type argument"
  | tooDeep levels => s!"nesting exceeds {levels} levels"
  | unwrapsToItself type => s!"{type} unwraps to itself"
  | other message => message

/-- What went wrong with a call. -/
inductive Error where
  | decode (type mediaType message : String)
  | encode (type mediaType message : String)
  | noConverter (direction : Direction) (type mediaType : String)
  | response (status : Nat) (headers : Headers) (body : String)
  | transport (message : String)
  | timeout (message : String)
  | configuration (cause : Misconfiguration)
  | unresolved (declared : String) (why : Unresolved)
  | execution (cause : Failure)
  | mismatch (expected : String)
deriving DecidableEq, Repr

/-- The part of the program that an error comes from. -/
inductive Category where
  | decode
  | encode
  | negotiation
  | response
  | transport
  | configuration
  | execution
deriving DecidableEq, Repr

/-- The name of a category. -/
def Category.name : Category → String
  | decode => "Decode"
  | encode => "Encode"
  | negotiation => "Negotiation"
  | response => "Response"
  | transport => "Transport"
  | configuration => "Configuration"
  | execution => "Execution"

namespace Error

/-- The name of the kind of an error. -/
def kind : Error → String
  | decode .. => "DecodeError"
  | encode .. => "EncodeError"
  | noConverter .. => "NoConverter"
  | response .. => "ResponseError"
  | transport .. => "TransportError"
  | timeout .. => "TimeoutError"
  | configuration .. => "ConfigurationError"
  | unresolved .. => "HandlerResolution"
  | execution .. => "ExecutionError"
  | mismatch .. => "TypeMismatch"

/-- The wording of an error. -/
def message : Error → String
  | decode type mediaType message => s!"Decode error: cannot read {type} from {mediaType}: {message}"
  | encode type mediaType message => s!"Encode error: cannot write {type} as {mediaType}: {message}"
  | noConverter direction type mediaType =>
    s!"No {direction.word} available for {type} with content type {mediaType}"
  | response status _ body => s!"HTTP {status}: {body}"
  | transport message => s!"Transport error: {message}"
  | timeout message => s!"Timeout: {message}"
  | configuration cause => "Configuration error: " ++ cause.message
  | unresolved declared why => s!"Cannot resolve a handler for {declared}: {why.message}"
  | execution cause => "Execution error: " ++ cause.message
  | mismatch expected => s!"Type mismatch: expected {expected}"

/-- The part of the program that an error comes from. -/
def category : Error → Category
  | decode .. | mismatch .. => .decode
  | encode .. => .encode
  | noConverter .. => .negotiation
  | response .. => .response
  | transport .. | timeout .. => .transport
  | configuration .. | unresolved .. => .configuration
  | execution .. => .execution

def ofDocument (message : String) : Error := .decode "json" "application/json" message

def status? : Error → Option Nat
  | response status _ _ => some status
  | _ => none

def isResponse (e : Error) : Bool := e.status?.isSome

/-- The same call could succeed later. -/
def isRetryable : Error → Bool
  | transport _ | timeout _ => true
  | response status _ _ => status == 408 || status == 429 || (500 ≤ status && status ≤ 599)
  | _ => false

end Error
end Endpoint
