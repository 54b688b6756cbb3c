import Endpoint.Value

/-!
The arguments of an invocation, which handlers look up by type. A callback is known by a number.
-/
namespace Endpoint

/-- An argument: a callback, or a value of a schema. -/
inductive Argument where
  | callback (id : Nat)
  | typed (schema : Schema) (x : schema.Carrier)

/-- The arguments in their order. -/
structure Arguments where
  values : List Argument

namespace Arguments

def empty : Arguments := ⟨[]⟩

def push (a : Arguments) (x : Argument) : Arguments := ⟨a.values ++ [x]⟩

/-- The first argument of a schema. -/
def find? (a : Arguments) (schema : Schema) : Option schema.Carrier :=
  a.values.findSome? fun
    | .typed s x => s.cast? schema x
    | .callback _ => none

/-- The first callback. -/
def callback? (a : Arguments) : Option Nat :=
  a.values.findSome? fun
    | .callback id => some id
    | .typed _ _ => none

def size (a : Arguments) : Nat := a.values.length

def debug (a : Arguments) : String :=
  "Arguments \x7b len: " ++ toString a.size ++ " \x7d"

end Arguments
end Endpoint
