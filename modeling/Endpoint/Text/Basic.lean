/-!
Characters and runs of them. A text is worked on as its list of characters. Letter case is folded
among the ASCII letters only: media types, header names and charset labels are compared without
regard to it. Blank is the property White_Space of the Unicode standard, which is wider than what
ASCII calls a space; `trim` drops the blank characters at both ends and nothing else, `pieces` cuts
at every occurrence of a separator, and `cut` cuts at the first one only.
-/
namespace Endpoint.Text

/-! ## ASCII letters and digits -/

/-- The small letter of an ASCII capital; every other character is left alone. -/
def lowerAscii (c : Char) : Char :=
  if 'A'.toNat ≤ c.toNat ∧ c.toNat ≤ 'Z'.toNat then Char.ofNat (c.toNat + 32) else c

/-- A text with its ASCII capitals made small. -/
def lowerText (s : String) : String := String.ofList (s.toList.map lowerAscii)

def sameIgnoringCase (a b : String) : Bool :=
  a.toList.map lowerAscii == b.toList.map lowerAscii

def isAsciiLetter (c : Char) : Bool :=
  ('a'.toNat ≤ c.toNat && c.toNat ≤ 'z'.toNat) || ('A'.toNat ≤ c.toNat && c.toNat ≤ 'Z'.toNat)

def isAsciiDigit (c : Char) : Bool := '0'.toNat ≤ c.toNat && c.toNat ≤ '9'.toNat

/-! ## Blank characters and separators -/

/-- The property White_Space: the twenty-five characters that separate words and lines. -/
def isBlank (c : Char) : Bool :=
  let n := c.toNat
  (9 ≤ n && n ≤ 13) || n == 0x20 || n == 0x85 || n == 0xA0 || n == 0x1680 ||
    (0x2000 ≤ n && n ≤ 0x200A) || n == 0x2028 || n == 0x2029 || n == 0x202F || n == 0x205F ||
    n == 0x3000

def trimStart (cs : List Char) : List Char := cs.dropWhile isBlank

def trimEnd (cs : List Char) : List Char := (cs.reverse.dropWhile isBlank).reverse

/-- Drops the blank characters at both ends. -/
def trim (cs : List Char) : List Char := trimEnd (trimStart cs)

/-- The parts before and after the first separator, if there is one. -/
def cut (sep : Char) : List Char → Option (List Char × List Char)
  | [] => none
  | c :: cs => if c = sep then some ([], cs) else (cut sep cs).map fun (a, b) => (c :: a, b)

/-- The part after the last separator, if there is one. -/
def afterLast (sep : Char) : List Char → Option (List Char)
  | [] => none
  | c :: cs =>
    match afterLast sep cs with
    | some tail => some tail
    | none => if c = sep then some cs else none

/-- The parts between the separators, one more than there are separators. -/
def pieces (sep : Char) : List Char → List (List Char)
  | [] => [[]]
  | c :: cs =>
    if c = sep then [] :: pieces sep cs
    else match pieces sep cs with
      | [] => [[c]]
      | p :: ps => (c :: p) :: ps

/-- The texts one after another with the separator between them. -/
def join (sep : List Char) : List (List Char) → List Char
  | [] => []
  | [t] => t
  | t :: ts => t ++ sep ++ join sep ts

/-- The text without one leading `mark`, if it starts with it. -/
def stripStart? (mark : Char) : List Char → Option (List Char)
  | [] => none
  | c :: cs => if c = mark then some cs else none

def stripEnd? (mark : Char) (cs : List Char) : Option (List Char) :=
  (stripStart? mark cs.reverse).map List.reverse

/-! ## Numbers written in settings -/

/-- The number below two to the sixty-fourth that decimal digits spell; there may be a plus sign in
front of them. -/
def wordOfDigits? (cs : List Char) : Option UInt64 :=
  let digits := (stripStart? '+' cs).getD cs
  if digits ≠ [] ∧ digits.all isAsciiDigit then
    let n := digits.foldl (fun acc c => acc * 10 + (c.toNat - '0'.toNat)) 0
    if n < UInt64.size then some (UInt64.ofNat n) else none
  else none

end Endpoint.Text
