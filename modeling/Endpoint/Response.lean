import Endpoint.Work

/-!
The response envelope: a status, headers and perhaps a body. An exchange that failed keeps the text
of its body apart.
-/
namespace Endpoint

/-- A response with a body of some type. -/
structure Response (α : Type) where
  status : Nat
  headers : Headers
  body : Option α
  errorBody : Option String
deriving Inhabited

namespace Response
variable {α β : Type}

def failed (status : Nat) (headers : Headers) (text : String) : Response α :=
  ⟨status, headers, none, some text⟩

def isSuccess (r : Response α) : Bool := Endpoint.isSuccess r.status

def map (f : α → β) (r : Response α) : Response β :=
  ⟨r.status, r.headers, r.body.map f, r.errorBody⟩

/-- The response with its body changed, unless that fails. -/
def mapM (f : α → Except Error β) (r : Response α) : Except Error (Response β) :=
  match r.body with
  | none => .ok ⟨r.status, r.headers, none, r.errorBody⟩
  | some x => (f x).map fun y => ⟨r.status, r.headers, some y, r.errorBody⟩

end Response
end Endpoint
