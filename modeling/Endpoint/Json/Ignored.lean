import Endpoint.Json.Reader

/-!
Reading past a value without making anything of it. Its arrays and objects may nest to any depth,
its strings need not be text, and its numbers need not be in range; what is open is kept on a stack.
-/
namespace Endpoint.Json
open Endpoint.Text

/-- An array or an object that has not been closed. -/
inductive Open where
  | array
  | object
deriving DecidableEq, Repr

/-- Reads past a string after its opening quote; `skip` counts the octets of an escape that has been
read already. -/
def ignoreText : Nat → Octets → Except Fault Octets
  | _, [] => failAt .endInText []
  | skip + 1, _ :: rest => ignoreText skip rest
  | 0, b :: rest =>
    if b = 0x22 then .ok rest
    else if b = 0x5C then
      match rest with
      | [] => failAt .endInText []
      | c :: after =>
        if c = 0x75 then do
          let _ ← hexQuad after
          ignoreText 5 rest
        else if [0x22, 0x5C, 0x2F, 0x62, 0x66, 0x6E, 0x72, 0x74].contains c then ignoreText 1 rest
        else failAt .badEscape after
    else if b < 0x20 then failAt .controlInText (b :: rest)
    else ignoreText 0 rest

/-- Reads past an exponent after its letter. -/
def ignoreExponent (s : Octets) : Except Fault Octets :=
  let s := match s with
    | 0x2B :: rest => rest
    | 0x2D :: rest => rest
    | s => s
  match s with
  | [] => failAt .badNumber []
  | b :: rest => if (digit? b).isSome then .ok (skipDigits rest) else failAt .badNumber rest

/-- Reads past the exponent if one follows. -/
def ignoreExponentOrEnd : Octets → Except Fault Octets
  | 0x65 :: rest => ignoreExponent rest
  | 0x45 :: rest => ignoreExponent rest
  | s => .ok s

/-- Reads past the digits after a point. -/
def ignoreFraction (s : Octets) : Except Fault Octets :=
  match s with
  | [] => failPast .badNumber []
  | b :: _ =>
    if (digit? b).isSome then ignoreExponentOrEnd (skipDigits s) else failPast .badNumber s

def ignoreFractionOrEnd : Octets → Except Fault Octets
  | 0x2E :: rest => ignoreFraction rest
  | s => ignoreExponentOrEnd s

/-- Reads past a number after its sign. -/
def ignoreNumber : Octets → Except Fault Octets
  | [] => failAt .badNumber []
  | b :: rest =>
    match digit? b with
    | none => failAt .badNumber rest
    | some 0 =>
      match rest with
      | c :: _ => if (digit? c).isSome then failPast .badNumber rest else ignoreFractionOrEnd rest
      | [] => .ok []
    | some _ => ignoreFractionOrEnd (skipDigits rest)

/-- Reads past a value that is neither array nor object, given its first octet. -/
def ignoreScalar (b : UInt8) (rest : Octets) : Except Fault Octets :=
  if b = 0x22 then ignoreText 0 rest
  else if b = 0x2D then ignoreNumber rest
  else if (digit? b).isSome then ignoreNumber (b :: rest)
  else (·.2) <$> scalar b rest

/-- Reads past the name of a field and its colon. -/
def ignoreName (s : Octets) : Except Fault Octets :=
  match skipBlank s with
  | [] => failPast .endInObject []
  | b :: rest =>
    if b = 0x22 then do
      let rest ← ignoreText 0 rest
      let ((), rest) ← colon rest
      return rest
    else failPast .keyNotText (b :: rest)

/-- What stands in front of the next value: the field's name in an object, nothing in an array. -/
def ignoreLead : List Open → Octets → Except Fault Octets
  | .object :: _, s => ignoreName s
  | _, s => .ok s

def Open.unended : Open → Flaw
  | array => .endInArray
  | object => .endInObject

/-- The fault of an element or a field without a comma in front. -/
def Open.unseparated : Open → Flaw
  | array => .wantArraySeparator
  | object => .wantObjectSeparator

def Open.closer : Open → UInt8
  | array => 0x5D
  | object => 0x7D

mutual
/-- Reads past a value inside what is open, and everything up to where that ends. -/
def ignoreValue : Nat → List Open → Octets → Except Fault Octets
  | 0, _, s => failPast .endInValue s
  | fuel + 1, stack, s =>
    match skipBlank s with
    | [] => failPast .endInValue []
    | b :: rest =>
      if b = 0x5B then ignoreRest fuel false (.array :: stack) rest
      else if b = 0x7B then ignoreRest fuel false (.object :: stack) rest
      else do
        let rest ← ignoreScalar b rest
        ignoreRest fuel true stack rest

/-- Goes on after the opening of what is on top, or after a value in it. -/
def ignoreRest : Nat → Bool → List Open → Octets → Except Fault Octets
  | 0, _, _, s => failPast .endInValue s
  | _ + 1, _, [], s => .ok s
  | fuel + 1, afterValue, top :: stack, s =>
    match skipBlank s with
    | [] => failPast top.unended []
    | b :: rest =>
      if b = top.closer then ignoreRest fuel true stack rest
      else if afterValue then
        if b = 0x2C then do
          let rest ← ignoreLead (top :: stack) rest
          ignoreValue fuel (top :: stack) rest
        else failPast top.unseparated (b :: rest)
      else do
        let rest ← ignoreLead (top :: stack) (b :: rest)
        ignoreValue fuel (top :: stack) rest
end

def ignored : Reader Unit := fun s => do
  let rest ← ignoreValue (2 * s.length + 2) [] s
  return ((), rest)

end Endpoint.Json
