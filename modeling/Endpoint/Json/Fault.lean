import Endpoint.Text.Hex

/-!
What can be wrong with the text of a document. A `Fault` is a flaw and the number of octets that
were left when it was noticed, so a reader needs to know nothing but the octets before it; the line
and the column are worked out from the whole input when the fault is reported.
-/
namespace Endpoint.Json
open Endpoint.Text

/-- The kinds of flaw. `unfit` is a well-formed part that is not what its place asks for. -/
inductive Flaw where
  | endInArray
  | endInObject
  | endInText
  | endInValue
  | wantColon
  | wantArraySeparator
  | wantObjectSeparator
  | wantIdentifier
  | wantValue
  | badEscape
  | badNumber
  | numberTooLarge
  | badCodePoint
  | controlInText
  | keyNotText
  | loneSurrogate
  | cutSurrogate
  | trailingComma
  | trailingText
  | tooDeep
  | unfit (message : String)
deriving DecidableEq, Repr, Inhabited

/-- The wording of a flaw. -/
def Flaw.message : Flaw → String
  | endInArray => "EOF while parsing a list"
  | endInObject => "EOF while parsing an object"
  | endInText => "EOF while parsing a string"
  | endInValue => "EOF while parsing a value"
  | wantColon => "expected `:`"
  | wantArraySeparator => "expected `,` or `]`"
  | wantObjectSeparator => "expected `,` or `\x7d`"
  | wantIdentifier => "expected ident"
  | wantValue => "expected value"
  | badEscape => "invalid escape"
  | badNumber => "invalid number"
  | numberTooLarge => "number out of range"
  | badCodePoint => "invalid unicode code point"
  | controlInText => "control character (\\u0000-\\u001F) found while parsing a string"
  | keyNotText => "key must be a string"
  | loneSurrogate => "lone leading surrogate in hex escape"
  | cutSurrogate => "unexpected end of hex escape"
  | trailingComma => "trailing comma"
  | trailingText => "trailing characters"
  | tooDeep => "recursion limit exceeded"
  | unfit message => message

/-- A flaw and how many octets were left where it was noticed. -/
structure Fault where
  flaw : Flaw
  left : Nat
deriving DecidableEq, Repr, Inhabited

/-- The line, from one, and the column of the octet after the given ones. -/
def place (passed : Octets) : Nat × Nat :=
  passed.foldl (fun p b => if b == 10 then (p.1 + 1, 0) else (p.1, p.2 + 1)) (1, 0)

def Fault.message (f : Fault) (input : Octets) : String :=
  let (line, column) := place (input.take (input.length - f.left))
  s!"{f.flaw.message} at line {line} column {column}"

/-- A reader takes a part off the front of the octets. -/
abbrev Reader (α : Type) := Octets → Except Fault (α × Octets)

def failAt {α : Type} (flaw : Flaw) (rest : Octets) : Except Fault α := .error ⟨flaw, rest.length⟩

/-- A flaw noticed by looking at the next octet, which is counted as passed. -/
def failPast {α : Type} (flaw : Flaw) (rest : Octets) : Except Fault α :=
  .error ⟨flaw, rest.length - 1⟩

end Endpoint.Json
