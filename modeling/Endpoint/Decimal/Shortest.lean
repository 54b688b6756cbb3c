import Endpoint.Text.Hex

/-!
The shortest decimal of a double. A finite positive double is `m · 2^q`; the reals that round to it
form an interval, ends included when `m` is even. For one digit, two digits and so on the two
neighbours of the value on that decimal grid are tried; the first grid with a neighbour inside the
interval wins, the nearer of two is taken, and a tie goes to the even digit. All of it is exact
arithmetic on natural numbers.
-/
namespace Endpoint.Decimal

/-- A finite positive double as `mantissa · 2^exponent`; `narrowBelow` says that the gap to the
next smaller double is half the gap to the next larger one. -/
structure Binary where
  mantissa : Nat
  exponent : Int
  narrowBelow : Bool
deriving DecidableEq, Repr

/-- What a bit pattern stands for: a sign and a zero, a finite value, or no number. -/
inductive Reading where
  | zero (negative : Bool)
  | finite (negative : Bool) (value : Binary)
  | infinite (negative : Bool)
  | undefined
deriving DecidableEq, Repr

/-- Reads the sixty-four bits of a double. -/
def Reading.ofBits (bits : Nat) : Reading :=
  let negative := bits / Nat.pow 2 63 % 2 == 1
  let biased : Nat := bits / Nat.pow 2 52 % 2048
  let fraction : Nat := bits % Nat.pow 2 52
  if biased = 2047 then if fraction = 0 then .infinite negative else .undefined
  else if biased = 0 then
    if fraction = 0 then .zero negative else .finite negative ⟨fraction, -1074, false⟩
  else
    .finite negative
      ⟨Nat.pow 2 52 + fraction, (biased : Int) - 1075, fraction == 0 && biased != 1⟩

/-- A decimal `digits · 10^exponent`, digits without a trailing zero. -/
structure Scaled where
  digits : Nat
  exponent : Int
deriving DecidableEq, Repr

/-- The value, the interval and its step over one denominator: the double is `value / unit`, and
`low / unit` and `high / unit` are the ends of its interval. -/
structure Window where
  low : Nat
  value : Nat
  high : Nat
  unit : Nat
  closed : Bool

/-- The interval of the reals that round to a double. -/
def Binary.window (b : Binary) : Window :=
  let scale := if 0 ≤ b.exponent then Nat.pow 2 b.exponent.toNat else 1
  let unit := if 0 ≤ b.exponent then 4 else 4 * Nat.pow 2 (-b.exponent).toNat
  let below := if b.narrowBelow then 1 else 2
  ⟨(4 * b.mantissa - below) * scale, 4 * b.mantissa * scale, (4 * b.mantissa + 2) * scale, unit,
    b.mantissa % 2 == 0⟩

/-- A point `n · 10^e` lies in the interval. -/
def Window.holds (w : Window) (n : Nat) (e : Int) : Bool :=
  let left := if 0 ≤ e then n * Nat.pow 10 e.toNat * w.unit else n * w.unit
  let scale := if 0 ≤ e then 1 else Nat.pow 10 (-e).toNat
  if w.closed then w.low * scale ≤ left && left ≤ w.high * scale
  else w.low * scale < left && left < w.high * scale

/-- The largest multiple of `10^e` that is no larger than the value, divided by `10^e`. -/
def Window.floorAt (w : Window) (e : Int) : Nat :=
  if 0 ≤ e then w.value / (w.unit * Nat.pow 10 e.toNat)
  else w.value * Nat.pow 10 (-e).toNat / w.unit

/-- The neighbour of the value on the grid of `10^e` that is nearer to it; a tie goes to the even
one. -/
def Window.upperNearer (w : Window) (n : Nat) (e : Int) : Bool :=
  let value := if 0 ≤ e then 2 * w.value else 2 * w.value * Nat.pow 10 (-e).toNat
  let middle := if 0 ≤ e then (2 * n + 1) * Nat.pow 10 e.toNat * w.unit else (2 * n + 1) * w.unit
  middle < value || (middle == value && n % 2 == 1)

/-- The neighbour of the value on the grid of `10^e` that lies in the interval, if one does. -/
def Window.pointAt? (w : Window) (e : Int) : Option Scaled :=
  let n := w.floorAt e
  let down := n != 0 && w.holds n e
  let up := w.holds (n + 1) e
  if down && up then some ⟨if w.upperNearer n e then n + 1 else n, e⟩
  else if down then some ⟨n, e⟩
  else if up then some ⟨n + 1, e⟩
  else none

/-- Tries the grids of `10^e`, `10^(e-1)` and so on. -/
def Window.search (w : Window) : Nat → Int → Scaled
  | 0, e => ⟨w.floorAt e, e⟩
  | tries + 1, e =>
    match w.pointAt? e with
    | some p => p
    | none => w.search tries (e - 1)

def digitCount (n : Nat) : Nat := (Nat.toDigits 10 n).length

/-- The exponent of the first digit of a value, or one more. -/
def Window.magnitude (w : Window) : Int :=
  (digitCount w.value : Int) - (digitCount w.unit : Int) + 1

/-- Moves trailing zeros from the digits into the exponent. -/
def trimZeros : Nat → Scaled → Scaled
  | 0, s => s
  | fuel + 1, s =>
    if s.digits != 0 && s.digits % 10 == 0 then trimZeros fuel ⟨s.digits / 10, s.exponent + 1⟩
    else s

/-- The shortest decimal that rounds to a finite positive double. -/
def shortest (b : Binary) : Scaled :=
  let w := b.window
  trimZeros 20 (w.search 25 w.magnitude)

end Endpoint.Decimal
