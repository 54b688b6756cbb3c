import Endpoint.Json.Ignored
import Endpoint.Schema.Mismatch

/-!
Reading values of a known kind from octets. A value of another kind is a fault of its own, noticed
after the value, or in front of it if it is an array or an object. `record` reads a record with
default values: from an object by the names of its fields, skipping what it does not know, or from
an array by position.
-/
namespace Endpoint.Json.Typed
open Endpoint.Text

/-- The fault of a value that is not what its place asks for. -/
def misfit {α : Type} (expected : String) : Octets → Except Fault α
  | [] => failPast .wantValue []
  | b :: rest =>
    if b = 0x5B then failAt (.unfit (Mismatch.kind (.array []) expected).message) (b :: rest)
    else if b = 0x7B then failAt (.unfit (Mismatch.kind (.object []) expected).message) (b :: rest)
    else do
      let (j, rest) ← scalar b rest
      failAt (.unfit (Mismatch.kind j expected).message) rest

/-- Reads a string. -/
def text : Reader String := fun s =>
  match skipBlank s with
  | [] => failPast .endInValue []
  | b :: rest => if b = 0x22 then textBody rest else misfit "a string" (b :: rest)

/-- Reads a truth value. -/
def flag : Reader Bool := fun s =>
  match skipBlank s with
  | [] => failPast .endInValue []
  | b :: rest =>
    if b = 0x74 then do
      let ((), rest) ← identifier [0x72, 0x75, 0x65] rest
      return (true, rest)
    else if b = 0x66 then do
      let ((), rest) ← identifier [0x61, 0x6C, 0x73, 0x65] rest
      return (false, rest)
    else misfit "a boolean" (b :: rest)

/-- The word of sixty-four bits that a number is. -/
def wordOf : Number → Octets → Except Fault (UInt64 × Octets)
  | .int n, rest =>
    if 0 ≤ n ∧ n < UInt64.size then .ok (UInt64.ofNat n.toNat, rest)
    else failAt (.unfit (Mismatch.range n "u64").message) rest
  | .float x, rest => failAt (.unfit (Mismatch.kind (.float x) "u64").message) rest

/-- Reads a word of sixty-four bits. -/
def word : Reader UInt64 := fun s =>
  match skipBlank s with
  | [] => failPast .endInValue []
  | b :: rest =>
    if b = 0x2D then do
      let (n, rest) ← number true rest
      wordOf n rest
    else if (digit? b).isSome then do
      let (n, rest) ← number false (b :: rest)
      wordOf n rest
    else misfit "u64" (b :: rest)

/-- Reads null or a value. -/
def optional {α : Type} (element : Reader α) : Reader (Option α) := fun s =>
  match skipBlank s with
  | [] => do
    let (x, rest) ← element []
    return (some x, rest)
  | b :: rest =>
    if b = 0x6E then do
      let ((), rest) ← identifier [0x75, 0x6C, 0x6C] rest
      return (none, rest)
    else do
      let (x, rest) ← element (b :: rest)
      return (some x, rest)

/-- Reads a dictionary. -/
def dictionary {α : Type} (element : Reader α) : Reader (List (String × α)) := fun s =>
  match skipBlank s with
  | [] => failPast .endInValue []
  | b :: rest =>
    if b = 0x7B then do
      let (entries, rest) ← fields element (rest.length + 1) true rest
      return (Dictionary.ofEntries entries, rest)
    else misfit "a map" (b :: rest)

/-! ## Records -/

/-- A field of a record: its name, and how its value is read and put into the record. -/
structure Slot (σ : Type) where
  name : String
  read : σ → Reader σ

/-- A slot for a value that is read by `element` and put into the record by `put`. -/
def Slot.of {σ α : Type} (name : String) (element : Reader α) (put : σ → α → σ) : Slot σ :=
  ⟨name, fun x s => do
    let (v, rest) ← element s
    return (put x v, rest)⟩

variable {σ : Type}

/-- Where a field that comes twice is noticed: after its name, past the brace if that ends the
object. -/
def afterName (s : Octets) : Octets :=
  match skipBlank s with
  | [] => []
  | b :: rest => if b = 0x7D then rest else b :: rest

/-- Reads the value of a field after its name, given the names of the fields that were read before.
A field that the record does not have is skipped. -/
def member (slots : List (Slot σ)) (seen : List String) (name : String) (x : σ) :
    Reader (σ × List String) := fun s =>
  match slots.find? (·.name == name) with
  | some slot =>
    if seen.contains name then failAt (.unfit (Mismatch.repeated name).message) (afterName s)
    else do
      let ((), rest) ← colon s
      let (x, rest) ← slot.read x rest
      return ((x, name :: seen), rest)
  | none => do
    let ((), rest) ← colon s
    let ((), rest) ← ignored rest
    return ((x, seen), rest)

/-- Reads the fields of a record from an object after its brace, commas and closing brace
included. -/
def members (slots : List (Slot σ)) : Nat → Bool → List String → σ → Reader σ
  | 0, _, _, _, s => failPast .endInObject s
  | fuel + 1, first, seen, x, s =>
    match skipBlank s with
    | [] => failPast .endInObject []
    | b :: rest =>
      if b = 0x7D then .ok (x, rest)
      else if first then
        if b = 0x22 then do
          let (name, rest) ← textBody rest
          let ((x, seen), rest) ← member slots seen name x rest
          members slots fuel false seen x rest
        else failPast .keyNotText (b :: rest)
      else if b = 0x2C then
        match skipBlank rest with
        | [] => failPast .endInValue []
        | c :: rest =>
          if c = 0x22 then do
            let (name, rest) ← textBody rest
            let ((x, seen), rest) ← member slots seen name x rest
            members slots fuel false seen x rest
          else if c = 0x7D then failPast .trailingComma (c :: rest)
          else failPast .keyNotText (c :: rest)
      else failPast .wantObjectSeparator (b :: rest)

/-- Reads the fields of a record from an array after its bracket, by position, as far as the array
goes; the closing bracket is left. -/
def elements : List (Slot σ) → Bool → σ → Reader σ
  | [], _, x, s => .ok (x, s)
  | slot :: slots, first, x, s =>
    match skipBlank s with
    | [] => failPast .endInArray []
    | b :: rest =>
      if b = 0x5D then .ok (x, b :: rest)
      else if first then do
        let (x, rest) ← slot.read x (b :: rest)
        elements slots false x rest
      else if b = 0x2C then
        match skipBlank rest with
        | [] => failPast .endInValue []
        | c :: rest =>
          if c = 0x5D then failPast .trailingComma (c :: rest)
          else do
            let (x, rest) ← slot.read x (c :: rest)
            elements slots false x rest
      else failPast .wantArraySeparator (b :: rest)

/-- Reads the bracket that closes an array of which no more is wanted. -/
def closing : Reader Unit := fun s =>
  match skipBlank s with
  | [] => failPast .endInArray []
  | b :: rest =>
    if b = 0x5D then .ok ((), rest)
    else if b = 0x2C then
      match skipBlank rest with
      | [] => failPast .trailingText []
      | c :: rest =>
        if c = 0x5D then failPast .trailingComma (c :: rest) else failPast .trailingText (c :: rest)
    else failPast .trailingText (b :: rest)

/-- Reads a record; a field that is missing keeps the value it has in `start`. -/
def record (expected : String) (slots : List (Slot σ)) (start : σ) : Reader σ := fun s =>
  match skipBlank s with
  | [] => failPast .endInValue []
  | b :: rest =>
    if b = 0x5B then do
      let (x, rest) ← elements slots true start rest
      let ((), rest) ← closing rest
      return (x, rest)
    else if b = 0x7B then members slots (rest.length + 1) true [] start rest
    else misfit expected (b :: rest)

end Endpoint.Json.Typed
