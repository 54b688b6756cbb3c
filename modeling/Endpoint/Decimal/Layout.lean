import Endpoint.Decimal.Shortest

/-!
How a shortest decimal is written. A `Layout` is the format's decisions in one record: between
which powers of ten a number is written out, and how an exponent looks beyond them.
-/
namespace Endpoint.Decimal
open Endpoint.Text

/-- The decisions of a number format. A number whose first digit has weight `10^p` is written out
for `lowest ≤ p < highest`; elsewhere it has an exponent, with a plus sign if `plus` says so. -/
structure Layout where
  lowest : Int
  highest : Int
  plus : Bool

def zeros (n : Nat) : List Char := List.replicate n '0'

/-- A number written out with a point and at least one digit on either side of it. -/
def positional (digits : List Char) (exponent : Int) : List Char :=
  let point := (digits.length : Int) + exponent
  if 0 ≤ exponent then digits ++ zeros exponent.toNat ++ ['.', '0']
  else if 0 < point then digits.take point.toNat ++ '.' :: digits.drop point.toNat
  else '0' :: '.' :: zeros (-point).toNat ++ digits

/-- One digit, a point if more follow, and the power of ten of the first digit. -/
def withExponent (layout : Layout) (digits : List Char) (power : Int) : List Char :=
  let head := match digits with
    | [] => []
    | [d] => [d]
    | d :: ds => d :: '.' :: ds
  let sign := if power < 0 then ['-'] else if layout.plus then ['+'] else []
  head ++ 'e' :: sign ++ decimal power.natAbs

/-- The text of a positive decimal. -/
def Layout.write (layout : Layout) (s : Scaled) : List Char :=
  let digits := decimal s.digits
  let power := (digits.length : Int) + s.exponent - 1
  if layout.lowest ≤ power ∧ power < layout.highest then positional digits s.exponent
  else withExponent layout digits power

/-- The text of a double given by its bits; what is no finite number has no decimal text. -/
def Layout.writeBits? (layout : Layout) (bits : Nat) : Option (List Char) :=
  match Reading.ofBits bits with
  | .zero negative => some ((if negative then ['-'] else []) ++ ['0', '.', '0'])
  | .finite negative b =>
    some ((if negative then ['-'] else []) ++ layout.write (shortest b))
  | .infinite _ | .undefined => none

end Endpoint.Decimal
