import Endpoint.Error
import Endpoint.TypeExpr

/-!
Resolving declared types. An adapter recognises one shape of declared types, says which type the
handler below it must give, and wraps that handler. A declared type is resolved by unfolding: the
first adapter that supports the type names the next one, until no adapter supports what is left.
That is the type the call is made for, and the handlers are wrapped from there outwards.

`resolve` is stated for any kind of handler, since resolving never looks into one.
-/
namespace Endpoint

/-- What recognises one shape of declared types. -/
structure Adapter (Handler : Type) where
  supports : TypeExpr → Bool
  innerType : TypeExpr → Except Error TypeExpr
  adapt : TypeExpr → Handler → Handler

/-- A handler for a declared type, and the type that the call must be made for. -/
structure Resolved (Handler : Type) where
  handler : Handler
  declared : TypeExpr
  callType : TypeExpr

namespace Resolved
variable {Handler : Type}

def debug (r : Resolved Handler) : String :=
  "ResolvedHandler \x7b declared: " ++ r.declared.debug ++ ", call_type: " ++ r.callType.debug ++
    ", .. \x7d"

end Resolved

namespace Adapter
variable {Handler : Type}

/-- How many adapters a declared type may need. -/
def maxNesting : Nat := 16

/-- Resolves what is left of a declared type, when so many more types may be looked at. -/
def resolveFrom (adapters : List (Adapter Handler)) (terminal : Handler) (declared : TypeExpr) :
    Nat → TypeExpr → Except Error (Resolved Handler)
  | 0, _ => .error (.unresolved declared.display (.tooDeep maxNesting))
  | left + 1, type =>
    match adapters.find? (·.supports type) with
    | none => .ok ⟨terminal, declared, type⟩
    | some adapter =>
      match adapter.innerType type with
      | .error e => .error e
      | .ok inner =>
        if inner.same type then .error (.unresolved declared.display (.unwrapsToItself type.display))
        else match resolveFrom adapters terminal declared left inner with
          | .error e => .error e
          | .ok r => .ok { r with handler := adapter.adapt type r.handler }

/-- The handler for a declared type, given the one that does a call as it is. -/
def resolve (adapters : List (Adapter Handler)) (terminal : Handler) (declared : TypeExpr) :
    Except Error (Resolved Handler) :=
  resolveFrom adapters terminal declared (maxNesting + 1) declared

def debugAll (adapters : List (Adapter Handler)) : String :=
  "HandlerChain \x7b adapters: " ++ toString adapters.length ++ " \x7d"

end Adapter
end Endpoint
