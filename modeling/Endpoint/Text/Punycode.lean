import Endpoint.Text.Basic

/-!
Punycode: a text of any characters written with ASCII letters, digits and hyphens. What stands
before the last hyphen are the ASCII characters of the text; what follows says, in numbers of mixed
radix, which other characters are inserted and where, in the order of their code points. A number's
last digit lies below a threshold that its place and a bias decide, and the bias follows the size of
the numbers read so far. `decode?` reads such a text back.
-/
namespace Endpoint.Text.Punycode

/-- The value of a digit: the letters count from zero, the ten digits go on from twenty-six. -/
def digitValue? (c : Char) : Option Nat :=
  if isAsciiLetter c then some ((lowerAscii c).toNat - 97)
  else if isAsciiDigit c then some (c.toNat - 22)
  else none

/-- The digits below it end a number. -/
def threshold (bias place : Nat) : Nat := min 26 (max 1 (place - bias))

/-- The number in front, its lowest digit first, and what follows it. -/
def readNumber? (bias : Nat) : Nat → Nat → List Char → Option (Nat × List Char)
  | _, _, [] => none
  | place, weight, c :: cs =>
    match digitValue? c with
    | none => none
    | some d =>
      let t := threshold bias place
      if d < t then some (d * weight, cs)
      else (readNumber? bias (place + 36) (weight * (36 - t)) cs).map fun (n, rest) =>
        (d * weight + n, rest)

theorem readNumber?_shorter {bias place weight : Nat} {cs rest : List Char} {n : Nat}
    (h : readNumber? bias place weight cs = some (n, rest)) : rest.length < cs.length := by
  induction cs generalizing place weight n with
  | nil => simp [readNumber?] at h
  | cons c cs ih =>
    simp only [readNumber?] at h
    split at h
    · simp at h
    · split at h
      · simp only [Option.some.injEq, Prod.mk.injEq] at h
        simp [h.2]
      · obtain ⟨p, hp, e⟩ := Option.map_eq_some_iff.mp h
        have shorter := ih (n := p.1) (by rw [hp, ← (Prod.mk.inj e).2])
        exact Nat.lt_succ_of_lt shorter

/-- Divides down to the range in which a bias grows slowly. -/
def settle (bias delta : Nat) : Nat :=
  if 455 < delta then settle (bias + 36) (delta / 35) else bias + 36 * delta / (delta + 38)
termination_by delta
decreasing_by omega

/-- The bias after a number, for a text that now has the given length. -/
def nextBias (number length : Nat) (first : Bool) : Nat :=
  let delta := if first then number / 700 else number / 2
  settle 0 (delta + delta / length)

/-- Inserts the characters that the numbers name. A number counts on from the last insertion, and
every round through the text raises the code point by one. -/
def insertAll? (bias code start : Nat) (text cs : List Char) : Option (List Char) :=
  match cs with
  | [] => some text
  | c :: cs =>
    match h : readNumber? bias 36 1 (c :: cs) with
    | none => none
    | some (number, rest) =>
      let length := text.length + 1
      let code := code + (start + number) / length
      let place := (start + number) % length
      if code < 0xD800 || (0xDFFF < code && code < 0x110000) then
        insertAll? (nextBias number length (start == 0)) code (place + 1)
          (text.insertIdx place (Char.ofNat code)) rest
      else none
termination_by cs.length
decreasing_by exact readNumber?_shorter h

/-- The text that an ASCII text encodes, if it is well formed. A hyphen in front of everything ends
no ASCII part. -/
def decode? (cs : List Char) : Option (List Char) :=
  let tail := (cs.reverse.takeWhile (· != '-')).reverse
  let front := cs.take (cs.length - tail.length - 1)
  if front = [] then insertAll? 72 128 0 [] cs else insertAll? 72 128 0 front tail

end Endpoint.Text.Punycode
