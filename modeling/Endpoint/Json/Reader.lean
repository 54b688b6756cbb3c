import Endpoint.Json
import Endpoint.Json.Fault
import Endpoint.Text.Utf8

/-!
Reading a document from octets. Every reader takes its part off the front and returns the rest, or
says what is wrong and where. `value` reads one value whose arrays and objects nest no deeper than
a limit, and `ofOctets` a whole document of at most `maxDepth` levels with nothing after it but
blanks.
-/
namespace Endpoint.Json
open Endpoint.Text

def isBlankOctet (b : UInt8) : Bool := b == 0x20 || b == 0x0A || b == 0x0D || b == 0x09

def skipBlank (s : Octets) : Octets := s.dropWhile isBlankOctet

def digit? (b : UInt8) : Option Nat :=
  if 0x30 ≤ b ∧ b ≤ 0x39 then some (b.toNat - 48) else none

/-- Reads the given octets. -/
def identifier : Octets → Reader Unit
  | [], s => .ok ((), s)
  | _ :: _, [] => failAt .endInValue []
  | w :: word, b :: rest => if b = w then identifier word rest else failAt .wantIdentifier rest

/-! ## Strings -/

/-- Reads the four digits of an escape by number. -/
def hexQuad : Octets → Except Fault (Nat × Octets)
  | a :: b :: c :: d :: rest =>
    match hexValue? a.toNat, hexValue? b.toNat, hexValue? c.toNat, hexValue? d.toNat with
    | some a, some b, some c, some d => .ok (((a * 16 + b) * 16 + c) * 16 + d, rest)
    | _, _, _, _ => failAt .badEscape rest
  | _ => failAt .endInText []

/-- Reads an escape by number after its letter: the octets of the character and how many octets
were taken. A leading surrogate wants a trailing one after it. -/
def numberEscape (s : Octets) : Except Fault (Octets × Nat) := do
  let (n, rest) ← hexQuad s
  if 0xDC00 ≤ n ∧ n ≤ 0xDFFF then failAt .loneSurrogate rest
  else if n < 0xD800 ∨ 0xDBFF < n then return (utf8OfChars [Char.ofNat n], 4)
  else match rest with
    | [] => failAt .endInText []
    | b :: rest =>
      if b ≠ 0x5C then failAt .cutSurrogate rest
      else match rest with
        | [] => failAt .endInText []
        | b :: rest =>
          if b ≠ 0x75 then failAt .cutSurrogate rest
          else do
            let (m, rest) ← hexQuad rest
            if m < 0xDC00 ∨ 0xDFFF < m then failAt .loneSurrogate rest
            else
              return (utf8OfChars [Char.ofNat ((n - 0xD800) * 0x400 + (m - 0xDC00) + 0x10000)], 10)

/-- Reads an escape after its backslash: the octets it stands for and how many were taken. -/
def escape : Octets → Except Fault (Octets × Nat)
  | [] => failAt .endInText []
  | b :: rest =>
    if b = 0x22 ∨ b = 0x5C ∨ b = 0x2F then .ok ([b], 1)
    else if b = 0x62 then .ok ([8], 1)
    else if b = 0x66 then .ok ([12], 1)
    else if b = 0x6E then .ok ([10], 1)
    else if b = 0x72 then .ok ([13], 1)
    else if b = 0x74 then .ok ([9], 1)
    else if b = 0x75 then do
      let (bytes, n) ← numberEscape rest
      return (bytes, n + 1)
    else failAt .badEscape rest

/-- Reads the octets of a string up to its closing quote; `skip` counts the octets of an escape
that has been read already. -/
def textOctets : Nat → Reader Octets
  | _, [] => failAt .endInText []
  | skip + 1, _ :: rest => textOctets skip rest
  | 0, b :: rest =>
    if b = 0x22 then .ok ([], rest)
    else if b = 0x5C then do
      let (bytes, n) ← escape rest
      let (tail, rest) ← textOctets n rest
      return (bytes ++ tail, rest)
    else if b < 0x20 then failAt .controlInText rest
    else do
      let (tail, rest) ← textOctets 0 rest
      return (b :: tail, rest)

/-- Reads a string after its opening quote. When what it stands for is no text, the fault lies as far
before the end of the string as those octets go on from where they stop being one. -/
def textBody : Reader String := fun s => do
  let (bytes, rest) ← textOctets 0 s
  match decodeUtf8 bytes with
  | .ok cs => return (String.ofList cs, rest)
  | .error fault => .error ⟨.badCodePoint, rest.length + (bytes.length - fault.index)⟩

/-! ## Numbers -/

/-- A number as it is read: an integer, or a double. -/
inductive Number where
  | int (n : Int)
  | float (x : Float)

def Number.toJson : Number → Json
  | .int n => .int n
  | .float x => .float x

/-- The largest significand. -/
def significandLimit : Nat := UInt64.size - 1

/-- Ten to a power, for powers up to 308. -/
def tenTo (k : Nat) : Float := Float.ofScientific 1 false k

/-- Divides by ten to 308 until the rest of the exponent is in reach or nothing is left. -/
def scaleDown : Nat → Float → Int → Float
  | 0, x, _ => x
  | tries + 1, x, e =>
    if -308 ≤ e then x / tenTo (-e).toNat
    else if x == 0 then x
    else scaleDown tries (x / tenTo 308) (e + 308)

/-- The double of a significand and a power of ten, if it is in range: one multiplication or
division of doubles, so the last bit may differ from the nearest double. -/
def scaled? (significand : Nat) (e : Int) : Option Float :=
  let x := (UInt64.ofNat significand).toFloat
  if 0 ≤ e then
    if e ≤ 308 then
      let y := x * tenTo e.toNat
      if y.isInf then none else some y
    else if x == 0 then some x
    else none
  else some (scaleDown 4 x e)

/-- Ends a number of the given parts in front of the given octets. -/
def finishFloat (negative : Bool) (significand : Nat) (e : Int) : Reader Number := fun s =>
  match scaled? significand e with
  | some x => .ok (.float (if negative then -x else x), s)
  | none => failAt .numberTooLarge s

def skipDigits (s : Octets) : Octets := s.dropWhile fun b => (digit? b).isSome

/-- Reads the further digits of an exponent and ends the number. -/
def exponentDigits (negative positive : Bool) (significand : Nat) (e : Int) (power : Nat) :
    Reader Number
  | [] => finishFloat negative significand (if positive then e + power else e - power) []
  | b :: rest =>
    match digit? b with
    | none => finishFloat negative significand (if positive then e + power else e - power) (b :: rest)
    | some d =>
      if power * 10 + d > 2147483647 then
        if significand ≠ 0 ∧ positive then failAt .numberTooLarge rest
        else .ok (.float (if negative then -0.0 else 0.0), skipDigits rest)
      else exponentDigits negative positive significand e (power * 10 + d) rest

/-- Reads an exponent after its letter and ends the number. -/
def exponent (negative : Bool) (significand : Nat) (e : Int) : Reader Number := fun s =>
  let (positive, s) := match s with
    | 0x2B :: rest => (true, rest)
    | 0x2D :: rest => (false, rest)
    | s => (true, s)
  match s with
  | [] => failAt .endInValue []
  | b :: rest =>
    match digit? b with
    | none => failAt .badNumber rest
    | some d => exponentDigits negative positive significand e d rest

/-- An exponent if one follows, and the end of the number. -/
def exponentOrEnd (negative : Bool) (significand : Nat) (e : Int) : Reader Number
  | 0x65 :: rest => exponent negative significand e rest
  | 0x45 :: rest => exponent negative significand e rest
  | s => finishFloat negative significand e s

/-- Reads digits after the point. Digits beyond what the significand can hold are dropped. -/
def fraction (negative : Bool) (significand : Nat) (e : Int) (any : Bool) : Reader Number
  | [] =>
    if any then finishFloat negative significand e []
    else failPast .endInValue []
  | b :: rest =>
    match digit? b with
    | some d =>
      if significand * 10 + d > significandLimit then
        exponentOrEnd negative significand e (skipDigits rest)
      else fraction negative (significand * 10 + d) (e - 1) true rest
    | none =>
      if any then exponentOrEnd negative significand e (b :: rest)
      else failPast .badNumber (b :: rest)

/-- Reads on in an integer that the significand cannot hold; every further digit counts as a power
of ten. -/
def longInteger (negative : Bool) (significand : Nat) (e : Int) : Reader Number
  | [] => finishFloat negative significand e []
  | b :: rest =>
    match digit? b with
    | some _ => longInteger negative significand (e + 1) rest
    | none =>
      if b = 0x2E then fraction negative significand e false rest
      else exponentOrEnd negative significand e (b :: rest)

/-- Ends an integer, unless a point or an exponent follows. A negative integer below the range of
sixty-four bits, and minus zero, are doubles. -/
def afterInteger (negative : Bool) (significand : Nat) : Reader Number
  | 0x2E :: rest => fraction negative significand 0 false rest
  | 0x65 :: rest => exponent negative significand 0 rest
  | 0x45 :: rest => exponent negative significand 0 rest
  | s =>
    if !negative then .ok (.int significand, s)
    else if significand = 0 ∨ significand > Nat.pow 2 63 then
      .ok (.float (-(UInt64.ofNat significand).toFloat), s)
    else .ok (.int (-significand), s)

/-- Reads the further digits of an integer. -/
def integerDigits (negative : Bool) (significand : Nat) : Reader Number
  | [] => afterInteger negative significand []
  | b :: rest =>
    match digit? b with
    | some d =>
      if significand * 10 + d > significandLimit then
        longInteger negative significand 1 rest
      else integerDigits negative (significand * 10 + d) rest
    | none => afterInteger negative significand (b :: rest)

/-- Reads a number after its sign. -/
def number (negative : Bool) : Reader Number
  | [] => failAt .endInValue []
  | b :: rest =>
    match digit? b with
    | none => failAt .badNumber rest
    | some 0 =>
      match rest with
      | c :: _ => if (digit? c).isSome then failPast .badNumber rest else afterInteger negative 0 rest
      | [] => afterInteger negative 0 rest
    | some d => integerDigits negative d rest

/-! ## Values -/

/-- Reads the elements of an array after its bracket, commas and closing bracket included. -/
def items {α : Type} (element : Reader α) : Nat → Bool → Reader (List α)
  | 0, _, s => failPast .endInArray s
  | fuel + 1, first, s =>
    match skipBlank s with
    | [] => failPast .endInArray []
    | b :: rest =>
      if b = 0x5D then .ok ([], rest)
      else if first then do
        let (x, rest) ← element (b :: rest)
        let (xs, rest) ← items element fuel false rest
        return (x :: xs, rest)
      else if b = 0x2C then
        match skipBlank rest with
        | [] => failPast .endInValue []
        | c :: rest =>
          if c = 0x5D then failPast .trailingComma (c :: rest)
          else do
            let (x, rest) ← element (c :: rest)
            let (xs, rest) ← items element fuel false rest
            return (x :: xs, rest)
      else failPast .wantArraySeparator (b :: rest)

/-- Reads the colon between a name and its value. -/
def colon : Reader Unit := fun s =>
  match skipBlank s with
  | [] => failPast .endInObject []
  | b :: rest => if b = 0x3A then .ok ((), rest) else failPast .wantColon (b :: rest)

/-- Reads a field after the quote that opens its name. -/
def field {α : Type} (element : Reader α) : Reader (String × α) := fun s => do
  let (name, rest) ← textBody s
  let ((), rest) ← colon rest
  let (x, rest) ← element rest
  return ((name, x), rest)

/-- Reads the fields of an object after its brace, commas and closing brace included. -/
def fields {α : Type} (element : Reader α) : Nat → Bool → Reader (List (String × α))
  | 0, _, s => failPast .endInObject s
  | fuel + 1, first, s =>
    match skipBlank s with
    | [] => failPast .endInObject []
    | b :: rest =>
      if b = 0x7D then .ok ([], rest)
      else if first then
        if b = 0x22 then do
          let (x, rest) ← field element rest
          let (xs, rest) ← fields element fuel false rest
          return (x :: xs, rest)
        else failPast .keyNotText (b :: rest)
      else if b = 0x2C then
        match skipBlank rest with
        | [] => failPast .endInValue []
        | c :: rest =>
          if c = 0x22 then do
            let (x, rest) ← field element rest
            let (xs, rest) ← fields element fuel false rest
            return (x :: xs, rest)
          else if c = 0x7D then failPast .trailingComma (c :: rest)
          else failPast .keyNotText (c :: rest)
      else failPast .wantObjectSeparator (b :: rest)

/-- Reads a value that is neither array nor object, given its first octet and what follows. -/
def scalar (b : UInt8) (rest : Octets) : Except Fault (Json × Octets) :=
  if b = 0x6E then do
    let ((), rest) ← identifier [0x75, 0x6C, 0x6C] rest
    return (.null, rest)
  else if b = 0x74 then do
    let ((), rest) ← identifier [0x72, 0x75, 0x65] rest
    return (.flag true, rest)
  else if b = 0x66 then do
    let ((), rest) ← identifier [0x61, 0x6C, 0x73, 0x65] rest
    return (.flag false, rest)
  else if b = 0x2D then do
    let (n, rest) ← number true rest
    return (n.toJson, rest)
  else if (digit? b).isSome then do
    let (n, rest) ← number false (b :: rest)
    return (n.toJson, rest)
  else if b = 0x22 then do
    let (t, rest) ← textBody rest
    return (.text t, rest)
  else failPast .wantValue (b :: rest)

/-- Reads a value whose arrays and objects nest at most so many levels. -/
def value : Nat → Reader Json
  | 0, s =>
    match skipBlank s with
    | [] => failPast .endInValue []
    | b :: rest =>
      if b = 0x5B ∨ b = 0x7B then failPast .tooDeep (b :: rest) else scalar b rest
  | depth + 1, s =>
    match skipBlank s with
    | [] => failPast .endInValue []
    | b :: rest =>
      if b = 0x5B then do
        let (xs, rest) ← items (value depth) (rest.length + 1) true rest
        return (.array xs, rest)
      else if b = 0x7B then do
        let (fs, rest) ← fields (value depth) (rest.length + 1) true rest
        return (objectOf fs, rest)
      else scalar b rest

/-- How many levels of arrays and objects a document may have. -/
def maxDepth : Nat := 127

/-- Reads one value and refuses anything but blanks after it. -/
def whole {α : Type} (reader : Reader α) (s : Octets) : Except Fault α := do
  let (x, rest) ← reader s
  match skipBlank rest with
  | [] => return x
  | b :: rest => failPast .trailingText (b :: rest)

def ofOctets (s : Octets) : Except Fault Json := whole (value maxDepth) s

/-- The document that octets spell, or the report of what is wrong with them. -/
def parse (s : Octets) : Except String Json := (ofOctets s).mapError (·.message s)

/-- The document that a text spells, or the report of what is wrong with it. -/
def parseText (s : String) : Except String Json := parse (utf8 s)

end Endpoint.Json
