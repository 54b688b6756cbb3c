import Endpoint.Text.Basic
import Endpoint.Url

/-!
Numeric hosts. A host whose last label is a number is an address of four parts or fewer, each in
base ten, eight or sixteen; a host between brackets is an address of eight pieces with at most one
gap, the last two pieces of which may be written as four decimal numbers.
-/
namespace Endpoint.Url
open Text

/-! ## Addresses of four numbers -/

/-- The number that digits of a base spell, if there is one. -/
def numberOf? (base : Nat) (digits : List Char) : Option Nat :=
  digits.foldl (fun acc c => do
    let n ← acc
    let d ← hexValue? c.toNat
    if d < base then some (n * base + d) else none) (some 0)

/-- A part of an address: a base mark and digits. A mark alone stands for zero. -/
def v4Number? : List Char → Option Nat
  | [] => none
  | '0' :: 'x' :: rest => numberOf? 16 rest
  | '0' :: 'X' :: rest => numberOf? 16 rest
  | '0' :: c :: rest => numberOf? 8 (c :: rest)
  | cs => numberOf? 10 cs

/-- The labels of a host, without the empty one after a final point. -/
def labels (host : List Char) : List (List Char) :=
  let ls := pieces '.' host
  if ls.length > 1 && ls.getLast? == some [] then ls.dropLast else ls

/-- The last label is a number, or at least all digits. -/
def endsInNumber (host : List Char) : Bool :=
  match (labels host).getLast? with
  | none | some [] => false
  | some last => last.all isAsciiDigit || (v4Number? last).isSome

/-- The address of a host that ends in a number: every part but the last is an octet, and the last
fills what is left. -/
def v4Address? (host : List Char) : Option Nat := do
  let parts := labels host
  if parts.length > 4 then none
  let numbers ← parts.mapM v4Number?
  let last ← numbers.getLast?
  let front := numbers.dropLast
  if last ≥ Nat.pow 256 (4 - front.length) then none
  if front.any (· > 255) then none
  return front.zipIdx.foldl (fun acc p => acc + p.1 * Nat.pow 256 (3 - p.2)) last

/-! ## Addresses of eight pieces -/

/-- The digits of a piece in front, at most four, and the rest. -/
def hexRun : Nat → List Char → List Char × List Char
  | 0, cs => ([], cs)
  | _, [] => ([], [])
  | n + 1, c :: cs =>
    if (hexValue? c.toNat).isSome then
      let (ds, rest) := hexRun n cs
      (c :: ds, rest)
    else ([], c :: cs)

/-- A decimal number below 256 without leading zeros. -/
def octet? (cs : List Char) : Option Nat :=
  match cs with
  | [] => none
  | '0' :: _ :: _ => none
  | cs => if cs.length ≤ 3 then (numberOf? 10 cs).filter (· < 256) else none

/-- The two pieces that four decimal numbers spell. -/
def v4Tail? (cs : List Char) : Option (List Nat) :=
  match (pieces '.' cs).mapM octet? with
  | some [a, b, c, d] => some [a * 256 + b, c * 256 + d]
  | _ => none

/-- The pieces in front of the gap and, if there is one, behind it. -/
structure Gapped where
  front : List Nat
  back : Option (List Nat)

/-- Adds a piece at the end. -/
def Gapped.push (g : Gapped) (n : Nat) : Gapped :=
  match g.back with
  | none => { g with front := g.front ++ [n] }
  | some b => { g with back := some (b ++ [n]) }

/-- The number of places taken so far; a gap takes at least one. -/
def Gapped.places (g : Gapped) : Nat :=
  match g.back with
  | none => g.front.length
  | some b => g.front.length + 1 + b.length

/-- Reads pieces with colons between them; the fuel bounds the number of steps. -/
def v6Pieces? : Nat → Gapped → List Char → Option Gapped
  | 0, _, _ => none
  | _, g, [] => some g
  | fuel + 1, g, cs =>
    if g.places ≥ 8 then none
    else match cs with
      | ':' :: rest =>
        if g.back.isSome then none
        else v6Pieces? fuel { g with back := some [] } rest
      | cs =>
        let (digits, rest) := hexRun 4 cs
        match rest with
        | '.' :: _ =>
          if digits = [] ∨ g.places > 6 then none
          else do
            let tail ← v4Tail? cs
            return tail.foldl Gapped.push g
        | ':' :: rest' =>
          if digits = [] ∨ rest' = [] then none
          else do
            let n ← numberOf? 16 digits
            v6Pieces? fuel (g.push n) rest'
        | [] => do
          let n ← numberOf? 16 digits
          return g.push n
        | _ => none

/-- The eight pieces of an address between brackets. -/
def v6Address? (cs : List Char) : Option (List Nat) := do
  let start ← match cs with
    | ':' :: ':' :: rest => some (⟨[], some []⟩, rest)
    | ':' :: _ => none
    | cs => some (⟨[], none⟩, cs)
  let g ← v6Pieces? (cs.length + 1) start.1 start.2
  match g.back with
  | none => if g.front.length = 8 then some g.front else none
  | some back =>
    some (g.front ++ List.replicate (8 - (g.front.length + back.length)) 0 ++ back)

end Endpoint.Url
