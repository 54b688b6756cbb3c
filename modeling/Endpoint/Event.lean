/-!
What the program reports about itself. An event has a level, a target, a message and fields; the
start of an invocation is reported as a span, which has fields but no message.
-/
namespace Endpoint

/-- How much an event matters, from the most to the least. -/
inductive Level where
  | error
  | warn
  | info
  | debug
  | trace
deriving DecidableEq, Repr, Inhabited

/-- The word for a level. -/
def Level.word : Level → String
  | error => "ERROR"
  | warn => "WARN"
  | info => "INFO"
  | debug => "DEBUG"
  | trace => "TRACE"

/-- An event, or the start of a span when there is no message. -/
structure Event where
  level : Level
  target : String
  message : Option String
  fields : List (String × String)
deriving DecidableEq, Repr, Inhabited

namespace Event

def report (level : Level) (target message : String) (fields : List (String × String)) : Event :=
  ⟨level, target, some message, fields⟩

/-- The line of an event: what it is, its level and target, the message and the fields. -/
def line (e : Event) : String :=
  let head := match e.message with
    | some m => "event " ++ e.level.word ++ " " ++ e.target ++ " " ++ m
    | none => "span " ++ e.level.word ++ " " ++ e.target
  e.fields.foldl (fun acc f => acc ++ " " ++ f.1 ++ "=" ++ f.2) head

def panicked (message : String) : Event :=
  report .error "restcall::bridge" "dispatched call panicked" [("panic", message)]

def resultDropped : Event := report .trace "restcall::bridge" "result dropped by caller" []

def dispatching : Event := report .debug "restcall::bridge" "dispatching call" []

def enqueueing : Event := report .debug "restcall::bridge" "enqueueing call" []

def resolved (declared callType : String) : Event :=
  report .debug "restcall::handlers" "resolved handler"
    [("declared", declared), ("call_type", callType)]

def buildingEnvelope (bodyType : String) : Event :=
  report .debug "restcall::call" "building envelope call" [("body_type", bodyType)]

def buildingDecoding (expected : String) : Event :=
  report .debug "restcall::call" "building decoding call" [("expected", expected)]

def errorStatus (status : Nat) : Event :=
  report .debug "restcall::call" "endpoint answered with an error status" [("status", toString status)]

def recoveredStatus (status : Nat) : Event :=
  report .debug "restcall::call" "recovered error status into response envelope"
    [("status", toString status)]

def invocationFailed (error : String) : Event :=
  report .debug "restcall::call" "invocation failed" [("error", error)]

def invocation (method endpoint declared : String) : Event :=
  ⟨.info, "restcall::call", none,
    [("method", method), ("endpoint", endpoint), ("declared", declared)]⟩

/-- An invoker was built. -/
def builtInvoker (converters interceptors adapters : Nat) : Event :=
  report .debug "restcall::call" "built endpoint invoker"
    [("converters", toString converters), ("interceptors", toString interceptors),
      ("adapters", toString adapters)]

def acceptSkipped (error : String) : Event :=
  report .warn "restcall::accept" "skipping Accept negotiation" [("error", error)]

def credentialsSkipped : Event :=
  report .warn "restcall::auth"
    "credentials are not a legal header value; sending without Authorization" []

def sending (method url : String) : Event :=
  report .debug "restcall::http" "sending request" [("method", method), ("url", url)]

def received (status length : Nat) : Event :=
  report .debug "restcall::http" "received response"
    [("status", toString status), ("body_len", toString length)]

def sendFailed (error : String) : Event :=
  report .warn "restcall::http" "request failed" [("error", error)]

end Event
end Endpoint
