import Endpoint.Text.Hex

/-!
UTF-8. `utf8 s` is the octets of a text, `decodeUtf8` reads octets back and says where they stop
being a text, and `lossy` reads any octets at all, with U+FFFD for every part that is no text.
`scan` takes one character off the front; a part that is no text is the longest run of octets
that could have started a character, or one octet.
-/
namespace Endpoint.Text

def utf8OfChars (cs : List Char) : Octets := cs.flatMap String.utf8EncodeChar

def utf8 (s : String) : Octets := utf8OfChars s.toList

/-- Why octets are no text: the index of the first one that does not fit, and how many octets the
broken part has, or none when the input ends inside a character. -/
structure Utf8Fault where
  index : Nat
  width : Option Nat
deriving DecidableEq, Repr

/-- How a broken body is reported. -/
def Utf8Fault.message (f : Utf8Fault) : String :=
  match f.width with
  | some n => s!"invalid utf-8 sequence of {n} bytes from index {f.index}"
  | none => s!"incomplete utf-8 byte sequence from index {f.index}"

/-- How many octets a character has whose first octet is `b`, if one can start so. -/
def utf8Width (b : UInt8) : Option Nat :=
  if b < 0x80 then some 1
  else if 0xC2 ≤ b ∧ b ≤ 0xDF then some 2
  else if 0xE0 ≤ b ∧ b ≤ 0xEF then some 3
  else if 0xF0 ≤ b ∧ b ≤ 0xF4 then some 4
  else none

def isContinuation (b : UInt8) : Bool := 0x80 ≤ b && b ≤ 0xBF

/-- A second octet that may follow `first`: no overlong form, no surrogate, nothing above
U+10FFFF. -/
def isSecond (first b : UInt8) : Bool :=
  if first == 0xE0 then 0xA0 ≤ b && b ≤ 0xBF
  else if first == 0xED then 0x80 ≤ b && b ≤ 0x9F
  else if first == 0xF0 then 0x90 ≤ b && b ≤ 0xBF
  else if first == 0xF4 then 0x80 ≤ b && b ≤ 0x8F
  else isContinuation b

/-- What stands at the front of a run of octets. -/
inductive Utf8Front where
  | finished
  | character (c : Char) (width : Nat)
  | broken (width : Option Nat)
deriving DecidableEq, Repr

/-- The first character, or how many octets of the front are no text. -/
def scan : Octets → Utf8Front
  | [] => .finished
  | b0 :: rest =>
    match utf8Width b0 with
    | none => .broken (some 1)
    | some 1 => .character (Char.ofNat b0.toNat) 1
    | some n =>
      match rest with
      | [] => .broken none
      | b1 :: rest =>
        if !isSecond b0 b1 then .broken (some 1)
        else if n = 2 then
          .character (Char.ofNat (b0.toNat % 32 * 64 + b1.toNat % 64)) 2
        else match rest with
          | [] => .broken none
          | b2 :: rest =>
            if !isContinuation b2 then .broken (some 2)
            else if n = 3 then
              .character (Char.ofNat ((b0.toNat % 16 * 64 + b1.toNat % 64) * 64 + b2.toNat % 64)) 3
            else match rest with
              | [] => .broken none
              | b3 :: _ =>
                if !isContinuation b3 then .broken (some 3)
                else
                  .character (Char.ofNat
                    (((b0.toNat % 8 * 64 + b1.toNat % 64) * 64 + b2.toNat % 64) * 64
                      + b3.toNat % 64)) 4

/-- Reads octets character by character; `skip` counts the octets that belong to a character
already read, `index` the octets passed. -/
def decodeFrom : Nat → Nat → Octets → Except Utf8Fault (List Char)
  | _, _, [] => .ok []
  | skip + 1, index, _ :: rest => decodeFrom skip (index + 1) rest
  | 0, index, b :: rest =>
    match scan (b :: rest) with
    | .finished => .ok []
    | .character c width => (c :: ·) <$> decodeFrom (width - 1) (index + 1) rest
    | .broken width => .error ⟨index, width⟩

/-- The characters that octets spell, or where they stop being a text. -/
def decodeUtf8 (bs : Octets) : Except Utf8Fault (List Char) := decodeFrom 0 0 bs

def textOfUtf8 (bs : Octets) : Except Utf8Fault String := String.ofList <$> decodeUtf8 bs

/-- Reads octets that need not be a text, as `decodeFrom` does. -/
def lossyFrom : Nat → Octets → List Char
  | _, [] => []
  | skip + 1, _ :: rest => lossyFrom skip rest
  | 0, b :: rest =>
    match scan (b :: rest) with
    | .finished => []
    | .character c width => c :: lossyFrom (width - 1) rest
    | .broken (some width) => '\uFFFD' :: lossyFrom (width - 1) rest
    | .broken none => ['\uFFFD']

/-- The text of any octets, with U+FFFD in the place of every part that is none. -/
def lossy (bs : Octets) : String := String.ofList (lossyFrom 0 bs)

end Endpoint.Text
