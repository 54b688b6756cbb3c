import Endpoint.Schema
import Endpoint.Schema.Mismatch

/-!
Between documents and the values of a schema. `decode` makes a value from a document or says why
the document does not fit; `encode` makes a document from a value, which only a refusing type and
a codec of the program's own fail to do. A record reads an object by the names of its fields, whatever else the object holds,
and an array by position; an optional field that is missing reads as absent.
-/
namespace Endpoint.Schema

/-- What a record of so many fields asks for when it reads an array. -/
def lengthWanted (name : String) (count : Nat) : String :=
  if count = 1 then s!"struct {name} with 1 element" else s!"struct {name} with {count} elements"

def integer (low high : Int) (name : String) : Json → Except Mismatch Int
  | .int n => if low ≤ n ∧ n ≤ high then .ok n else .error (.range n name)
  | j => .error (.kind j name)

/-- Reads every element of a list. -/
def decodeAll {α β : Type} (f : α → Except Mismatch β) : List α → Except Mismatch (List β)
  | [] => .ok []
  | x :: xs => do
    let y ← f x
    let ys ← decodeAll f xs
    return y :: ys

/-- Reads the value of every field. -/
def decodeEntries {β : Type} (f : Json → Except Mismatch β) :
    List (String × Json) → Except Mismatch (List (String × β))
  | [] => .ok []
  | (name, j) :: rest => do
    let y ← f j
    let ys ← decodeEntries f rest
    return (name, y) :: ys

/-- Goes through the entries of an object in their order and refuses at the first that `check`
refuses. -/
def checkEntries (check : String → Json → Except Mismatch Unit) :
    List (String × Json) → Except Mismatch Unit
  | [] => .ok ()
  | (name, j) :: entries => do
    check name j
    checkEntries check entries

/-- The value of a field that an object lacks: absent if the field is optional. -/
def absent : (s : Schema) → (field : String) → Except Mismatch s.Carrier
  | .option _, _ => .ok none
  | _, field => .error (.missing field)

mutual
/-- The value of a schema that a document spells. -/
def decode : (s : Schema) → Json → Except Mismatch s.Carrier
  | .text, j => match j with
    | .text t => .ok t
    | j => .error (.kind j "a string")
  | .flag, j => match j with
    | .flag b => .ok b
    | j => .error (.kind j "a boolean")
  | .nat8, j => (fun n => UInt8.ofNat n.toNat) <$> integer 0 255 "u8" j
  | .nat32, j => (fun n => UInt32.ofNat n.toNat) <$> integer 0 4294967295 "u32" j
  | .nat64, j => (fun n => UInt64.ofNat n.toNat) <$> integer 0 18446744073709551615 "u64" j
  | .int64, j => Int64.ofInt <$> integer Int64.minValue.toInt Int64.maxValue.toInt "i64" j
  | .double, j => match j with
    | .int n => .ok (Float.ofInt n)
    | .float x => .ok x
    | j => .error (.kind j "f64")
  | .list s, j => match j with
    | .array items => decodeAll (decode s) items
    | j => .error (.kind j "a sequence")
  | .option s, j => match j with
    | .null => .ok none
    | j => some <$> decode s j
  | .table s, j => match j with
    | .object fields => decodeEntries (decode s) fields
    | j => .error (.kind j "a map")
  | .record name fields, j => match j with
    | .array items =>
      match decodeRow name fields.count 0 fields items with
      | .error e => .error e
      | .ok (row, []) => .ok row
      | .ok (_, _ :: _) => .error (.length items.length "fewer elements in array")
    | .object entries => do
      checkEntries (fun field j => checkField field j fields) entries
      decodeFields fields entries
    | j => .error (.kind j s!"struct {name}")
  | .refusing _, _ => .ok ()
  | .own codec, j => (codec.read j).mapError .refused
termination_by structural s => s

/-- Reads the fields of a record from the front of an array. -/
def decodeRow (name : String) (count : Nat) : Nat → (fields : Fields) → List Json →
    Except Mismatch (Row fields × List Json)
  | _, .nil, items => .ok ((), items)
  | read, .cons _ _ _, [] => .error (.length read (lengthWanted name count))
  | read, .cons _ s rest, item :: items => do
    let x ← decode s item
    let (row, left) ← decodeRow name count (read + 1) rest items
    return ((x, row), left)
termination_by structural _ fields => fields

/-- Refuses a document that does not fit the field of the given name. -/
def checkField (name : String) (j : Json) : Fields → Except Mismatch Unit
  | .nil => .ok ()
  | .cons field s rest =>
    if field = name then (fun _ => ()) <$> decode s j else checkField name j rest
termination_by structural fields => fields

/-- Reads the fields of a record from an object by their names. -/
def decodeFields : (fields : Fields) → List (String × Json) → Except Mismatch (Row fields)
  | .nil, _ => .ok ()
  | .cons name s rest, entries => do
    let x ← match Dictionary.find? name entries with
      | some j => decode s j
      | none => absent s name
    let row ← decodeFields rest entries
    return (x, row)
termination_by structural fields => fields
end

/-- Writes every value of a list. -/
def encodeAll {α : Type} (f : α → Except String Json) : List α → Except String (List Json)
  | [] => .ok []
  | x :: xs => do
    let y ← f x
    let ys ← encodeAll f xs
    return y :: ys

/-- Writes the value of every entry. -/
def encodeEntries {α : Type} (f : α → Except String Json) :
    List (String × α) → Except String (List (String × Json))
  | [] => .ok []
  | (name, x) :: rest => do
    let y ← f x
    let ys ← encodeEntries f rest
    return (name, y) :: ys

/-- The document of a double; what is no finite number is null. -/
def encodeDouble (x : Float) : Json := if x.isFinite then .float x else .null

mutual
/-- The document of a value, records and tables made objects by `build`. -/
def encodeWith (build : List (String × Json) → Json) :
    (s : Schema) → s.Carrier → Except String Json
  | .text, x => .ok (.text x)
  | .flag, x => .ok (.flag x)
  | .nat8, x => .ok (.int (UInt8.toNat x))
  | .nat32, x => .ok (.int (UInt32.toNat x))
  | .nat64, x => .ok (.int (UInt64.toNat x))
  | .int64, x => .ok (.int (Int64.toInt x))
  | .double, x => .ok (encodeDouble x)
  | .list s, xs => .array <$> encodeAll (encodeWith build s) xs
  | .option s, x => match x with
    | none => .ok .null
    | some x => encodeWith build s x
  | .table s, entries => build <$> encodeEntries (encodeWith build s) entries
  | .record _ fields, row => build <$> encodeRow build fields row
  | .refusing message, _ => .error message
  | .own codec, x => codec.write x

/-- The fields of a record with their documents. -/
def encodeRow (build : List (String × Json) → Json) : (fields : Fields) → Row fields →
    Except String (List (String × Json))
  | .nil, _ => .ok []
  | .cons name s rest, (x, row) => do
    let j ← encodeWith build s x
    let tail ← encodeRow build rest row
    return (name, j) :: tail
end

def encode (s : Schema) (x : s.Carrier) : Except String Json := encodeWith Json.objectOf s x

/-- The document of a value with the fields of records in the order of their declaration, for
showing it. -/
def declared (s : Schema) (x : s.Carrier) : Except String Json := encodeWith .object s x

end Endpoint.Schema
