import Endpoint.Adapter
import Endpoint.Arguments
import Endpoint.Bridge
import Endpoint.Json.Reader
import Endpoint.MediaType

/-!
Handlers: how a call becomes the value that the caller declared. `Handler.terminal` does the call;
every other handler is made of the one below it by an adapter. `Future` and `Callback` put the work
below them on the pool as soon as they run; `Single` and `Stream` do nothing until they are asked;
`Headers` and `JsonDocument` change the value that comes from below.
-/
namespace Endpoint

/-- What turns a call into a value, given the arguments of the invocation. -/
abbrev Handler := Call → Arguments → Task

namespace Handler

/-- Does the call. -/
def terminal : Handler := fun call _ => call.perform

/-- Puts the work below on the pool. -/
def future (inner : Handler) : Handler := fun call args => Bridge.submit (inner call args)

/-- Puts the work below on the pool, for the first callback among the arguments. -/
def callback (inner : Handler) : Handler := fun call args =>
  match args.callback? with
  | none => .fail (.configuration .noCallback)
  | some id => Bridge.enqueueTask (inner call args) id

/-- A value that does the work below when it is asked for. -/
def single (inner : Handler) : Handler := fun call args => .ok (.single (inner call args))

/-- Values that do the work below when they are asked for. -/
def stream (inner : Handler) : Handler := fun call args => .ok (.stream (inner call args))

/-- The headers of a response. -/
def headersOf : Except Error Value → Task
  | .error e => .fail e
  | .ok (.envelope r) => .ok (.headers r.headers)
  | .ok v => .release v (.fail (.mismatch "EndpointResponse"))

/-- The headers of the response that comes from below. -/
def headers (inner : Handler) : Handler := fun call args => (inner call args).andThen headersOf

/-- The document that a value is, or that its text spells. -/
def documentOf : Except Error Value → Task
  | .error e => .fail e
  | .ok (.tree j) => .ok (.tree j)
  | .ok v => match v.text? with
    | some s => match Json.parseText s with
      | .ok j => .ok (.tree j)
      | .error message =>
        .fail (.decode TypeExpr.documentName MediaType.plainText.display message)
    | none => .release v (.fail (.mismatch "serde_json::Value"))

/-- The document that comes from below. -/
def document (inner : Handler) : Handler := fun call args => (inner call args).andThen documentOf

/-- Writes a line to the log and hands on to the handler below. -/
def logged (line : String) (inner : Handler) : Handler := fun call args =>
  .log line (inner call args)

end Handler

namespace Adapter

/-- The first argument of a declared type, which must have one. -/
def requiredArg (type : TypeExpr) : Except Error TypeExpr :=
  match type.args with
  | t :: _ => .ok t
  | [] => .error (.unresolved type.display .missingArgument)

def named (name : String) (innerType : TypeExpr → Except Error TypeExpr)
    (wrap : Handler → Handler) : Adapter Handler :=
  ⟨(·.isNamed name), innerType, fun _ inner => wrap inner⟩

/-- A value that is under way. -/
def future : Adapter Handler := named TypeExpr.futureName requiredArg Handler.future
def callback : Adapter Handler := named TypeExpr.callbackName requiredArg Handler.callback
/-- The headers of a response, whose body is not read. -/
def headers : Adapter Handler :=
  named TypeExpr.headersName (fun _ => .ok (.response .void)) Handler.headers
def single : Adapter Handler := named TypeExpr.singleName requiredArg Handler.single
/-- Values that are fetched as a list when they are asked for. -/
def stream : Adapter Handler :=
  named TypeExpr.streamName (fun type => TypeExpr.list <$> requiredArg type) Handler.stream
/-- A document read from JSON or text. -/
def document : Adapter Handler :=
  named TypeExpr.documentName (fun _ => .ok .any) Handler.document

/-- The adapters that there are in any case. -/
def standard : List (Adapter Handler) := [future, callback, headers, single, stream, document]

end Adapter

def Handler.resolve (adapters : List (Adapter Handler)) (declared : TypeExpr) :
    Except Error (Resolved Handler) :=
  Adapter.resolve adapters Handler.terminal declared

/-- What is reported when a declared type has been resolved. -/
def Resolved.event (r : Resolved Handler) : Event :=
  .resolved r.declared.display r.callType.display

end Endpoint
