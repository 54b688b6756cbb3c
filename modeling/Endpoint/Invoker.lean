import Endpoint.Config
import Endpoint.Converter.Standard
import Endpoint.Exchange
import Endpoint.Handler
import Endpoint.Interceptor

/-!
Invoking endpoints. An `Invoker` is built once from a configuration and what is registered with it;
a declared type gives a `Method`, whose handler is resolved then and there; and a method is invoked
with a request as often as one likes. Default headers are filled in first, then come the registered
interceptors in their order, and the accepted media types last. Registered adapters are looked at
before the standard ones.
-/
namespace Endpoint

/-- What an invoker is built from. Where requests go over the network, a client for it has to be
made. -/
structure Invoker.Parts where
  config : Config
  transport : Transport
  registry : Registry
  interceptors : List Interceptor
  adapters : List (Adapter Handler)

/-- What invokes endpoints. -/
structure Invoker where
  config : Config
  interceptors : List Interceptor
  adapters : List (Adapter Handler)
  exchange : Exchange

/-- One declared type with its handler. -/
structure Method where
  resolved : Resolved Handler
  interceptors : List Interceptor
  exchange : Exchange

namespace Invoker

/-- The interceptor that fills in default headers, if there are any. -/
def fillers (defaults : Headers) : List Interceptor :=
  if defaults.isEmpty then [] else [.defaults defaults]

/-- The interceptor that lists the accepted media types, if it is wanted. -/
def negotiators (config : Config) (registry : Registry) : List Interceptor :=
  if config.acceptNegotiation then [.accept registry] else []

/-- Builds an invoker. -/
def build (p : Parts) : Except Error Invoker := do
  let defaultType ← p.config.contentType
  if p.transport.isNetwork then p.config.checkClient
  let defaults ← p.config.defaultHeaders
  return ⟨p.config, fillers defaults ++ p.interceptors ++ negotiators p.config p.registry,
    p.adapters ++ Adapter.standard, ⟨p.transport, p.registry, defaultType⟩⟩

/-- An invoker is built when the media type of its configuration is one, its headers are legal and,
for the network, a client can be made. -/
theorem build_eq_ok_iff {p : Parts} {i : Invoker} :
    build p = .ok i ↔ ∃ defaultType defaults, p.config.contentType = .ok defaultType ∧
      (p.transport.isNetwork = true → p.config.checkClient = .ok ()) ∧
      p.config.defaultHeaders = .ok defaults ∧
      i = ⟨p.config, fillers defaults ++ p.interceptors ++ negotiators p.config p.registry,
        p.adapters ++ Adapter.standard, ⟨p.transport, p.registry, defaultType⟩⟩ := by
  simp only [build, bind, Except.bind, pure, Except.pure]
  cases p.config.contentType <;> cases p.transport.isNetwork <;> cases p.config.checkClient <;>
    cases p.config.defaultHeaders <;> simp [eq_comm]

def event (i : Invoker) : Event :=
  .builtInvoker i.exchange.registry.size i.interceptors.length i.adapters.length

/-- The method of a declared type. -/
def method (i : Invoker) (declared : TypeExpr) : Except Error Method := do
  let resolved ← Handler.resolve i.adapters declared
  return ⟨resolved, i.interceptors, i.exchange⟩

end Invoker

namespace Method

def callType (m : Method) : TypeExpr := m.resolved.callType

/-- The request before any interceptor has seen it. -/
def expecting (m : Method) (r : Request) : Request := r.withExpected m.callType

/-- The request as it will be sent. -/
def prepare (m : Method) (r : Request) : Request :=
  Interceptor.applyAll m.interceptors (m.expecting r)

def prepareEvents (m : Method) (r : Request) : List Event :=
  Interceptor.reportsAll m.interceptors (m.expecting r)

def span (m : Method) (r : Request) : Event :=
  .invocation r.method r.endpoint.display m.resolved.declared.display

def reportFailure : Except Error Value → Task
  | .ok v => .ok v
  | .error e => .report (.invocationFailed e.message) (.fail e)

def call (m : Method) (r : Request) : Call := m.exchange.call (m.prepare r) m.callType

/-- Invokes a method with a request. -/
def invoke (m : Method) (r : Request) (args : Arguments) : Task :=
  .report (m.span r) <|
    .reportAll (m.prepareEvents r) <|
      .report (Exchange.event m.callType) <|
        (m.resolved.handler (m.call r) args).andThen reportFailure

/-- The value, if it is of a type; else it is let go. -/
def taking (kind : Kind) : Except Error Value → Task
  | .error e => .fail e
  | .ok v => match v.take kind with
    | .ok v => .ok v
    | .error e => .release v (.fail e)

def invokeAs (m : Method) (r : Request) (args : Arguments) (kind : Kind) : Task :=
  (m.invoke r args).andThen (taking kind)

end Method

/-- Resolves a declared type and invokes it without arguments. -/
def Invoker.invoke (i : Invoker) (r : Request) (declared : TypeExpr) : Task :=
  match i.method declared with
  | .error e => .fail e
  | .ok m => .report m.resolved.event (m.invoke r .empty)

end Endpoint
