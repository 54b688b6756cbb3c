import Endpoint.Schema

/-!
Declared types. A declared type is a name with arguments, such as `Future<List<User>>`, and a leaf
may be bound to a schema. The binding is no part of what the type is: two type expressions are the
same when their names and arguments are, and a type is shown without its binding.
-/
namespace Endpoint

/-- A declared type. -/
structure TypeExpr where
  name : String
  args : List TypeExpr
  binding : Option Schema
deriving Inhabited

namespace TypeExpr

/-! ## The names with a meaning of their own -/

def anyName : String := "Any"
def voidName : String := "Void"
def stringName : String := "String"
def bytesName : String := "Bytes"
def listName : String := "List"
def responseName : String := "Response"
def headersName : String := "Headers"
def futureName : String := "Future"
def callbackName : String := "Callback"
def singleName : String := "Single"
def streamName : String := "Stream"
def documentName : String := "JsonDocument"

/-! ## Building types -/

def plain (name : String) : TypeExpr := ⟨name, [], none⟩

def generic (name : String) (args : List TypeExpr) : TypeExpr := ⟨name, args, none⟩

def bound (name : String) (schema : Schema) : TypeExpr := ⟨name, [], some schema⟩

def any : TypeExpr := plain anyName
def void : TypeExpr := plain voidName
def string : TypeExpr := bound stringName .text
def bytes : TypeExpr := plain bytesName
def headers : TypeExpr := plain headersName
def document : TypeExpr := plain documentName
def list (element : TypeExpr) : TypeExpr := generic listName [element]
def response (body : TypeExpr) : TypeExpr := generic responseName [body]
def future (value : TypeExpr) : TypeExpr := generic futureName [value]
def callback (value : TypeExpr) : TypeExpr := generic callbackName [value]
def single (value : TypeExpr) : TypeExpr := generic singleName [value]
def stream (element : TypeExpr) : TypeExpr := generic streamName [element]

/-- The type of a schema under the schema's own name; a text is the well-known one. -/
def ofSchema (name : String) : Schema → TypeExpr
  | .text => string
  | schema => bound name schema

/-- The type that a name alone stands for, if it has a meaning of its own. -/
def wellKnown? (name : String) : Option TypeExpr :=
  [any, void, string, bytes, headers, document].find? fun t => t.name == name

/-- So many types of one name around a type. -/
def wrap (name : String) : Nat → TypeExpr → TypeExpr
  | 0, t => t
  | n + 1, t => wrap name n (generic name [t])

/-! ## Looking at types -/

def isNamed (t : TypeExpr) (name : String) : Bool := t.name == name

def arg? (t : TypeExpr) (index : Nat) : Option TypeExpr := t.args[index]?

def firstArgOrAny (t : TypeExpr) : TypeExpr := t.args.head?.getD any

def isBoundTo (t : TypeExpr) (schema : Schema) : Bool := t.binding.any (·.same schema)

def withArgs (t : TypeExpr) (args : List TypeExpr) : TypeExpr := { t with args }

/-- The type of the body of a response; any other type is left as it is. -/
def unwrapEnvelope (t : TypeExpr) : TypeExpr :=
  if t.isNamed responseName then t.firstArgOrAny else t

mutual
/-- The types are the same, whatever they are bound to. -/
def same : TypeExpr → TypeExpr → Bool
  | ⟨n, as, _⟩, ⟨m, bs, _⟩ => n == m && sameAll as bs

@[inherit_doc same]
def sameAll : List TypeExpr → List TypeExpr → Bool
  | [], [] => true
  | a :: as, b :: bs => same a b && sameAll as bs
  | [], _ :: _ => false
  | _ :: _, [] => false
end

/-- What is fed to a hash function. -/
inductive Feed where
  | name (s : String)
  | count (n : Nat)
deriving DecidableEq, Repr

mutual
/-- What a type feeds to a hash function: its name, the number of its arguments, and theirs. -/
def feed : TypeExpr → List Feed
  | ⟨n, args, _⟩ => .name n :: .count args.length :: feedAll args

@[inherit_doc feed]
def feedAll : List TypeExpr → List Feed
  | [] => []
  | t :: ts => feed t ++ feedAll ts
end

mutual
/-- How a type is shown: its name, and its arguments between angle brackets. -/
def display : TypeExpr → String
  | ⟨n, [], _⟩ => n
  | ⟨n, t :: ts, _⟩ => n ++ "<" ++ display t ++ displayRest ts ++ ">"

def displayRest : List TypeExpr → String
  | [] => ""
  | t :: ts => ", " ++ display t ++ displayRest ts
end

def debug (t : TypeExpr) : String := "TypeDescriptor(" ++ t.display ++ ")"

end TypeExpr
end Endpoint
