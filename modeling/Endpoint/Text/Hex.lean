/-!
Digits of base ten and sixteen, as characters and as octets.
-/
namespace Endpoint.Text

/-- A body, a header value or any other run of octets. -/
abbrev Octets := List UInt8

def hexDigit (n : Nat) : Char :=
  if n < 10 then Char.ofNat (48 + n) else Char.ofNat (87 + n)

def hexDigitCapital (n : Nat) : Char :=
  if n < 10 then Char.ofNat (48 + n) else Char.ofNat (55 + n)

/-- The number that a digit of base sixteen stands for. -/
def hexValue? (n : Nat) : Option Nat :=
  if 48 ≤ n ∧ n ≤ 57 then some (n - 48)
  else if 97 ≤ n ∧ n ≤ 102 then some (n - 87)
  else if 65 ≤ n ∧ n ≤ 70 then some (n - 55)
  else none

/-- The digits of a number in base sixteen, without leading zeros. -/
def hexDigits (n : Nat) : List Char := (Nat.toDigits 16 n)

def hexOctets (bs : Octets) : List Char :=
  bs.flatMap fun b => [hexDigit (b.toNat / 16), hexDigit (b.toNat % 16)]

/-- Reads pairs of digits of base sixteen back into octets. -/
def octetsOfHex? : List Char → Option Octets
  | [] => some []
  | [_] => none
  | a :: b :: rest => do
    let hi ← hexValue? a.toNat
    let lo ← hexValue? b.toNat
    let tail ← octetsOfHex? rest
    return UInt8.ofNat (hi * 16 + lo) :: tail

def decimal (n : Nat) : List Char := Nat.toDigits 10 n

/-- The decimal text of an integer, with a minus sign in front of a negative one. -/
def decimalInt (n : Int) : List Char :=
  if n < 0 then '-' :: decimal n.natAbs else decimal n.natAbs

end Endpoint.Text
