import Endpoint.Json
import Endpoint.Decimal.Layout
import Endpoint.Text.Shown

/-!
Documents as text. `render` writes no blanks; in a string the quote, the backslash and the control
characters are escaped and nothing else is. `outline` is the tree with the name of each kind of
node, for diagnostics.
-/
namespace Endpoint.Json
open Endpoint.Text

/-- Numbers are written out from a hundred thousandth up to, but not including, ten to the
sixteenth; beyond that they have an exponent with a sign. -/
def numberLayout : Decimal.Layout := ⟨-5, 16, true⟩

/-- The text of a number that is no integer; a document has no text for what is no number. -/
def floatText (x : Float) : List Char :=
  (numberLayout.writeBits? x.toBits.toNat).getD ['n', 'u', 'l', 'l']

/-- One character of a string. -/
def escapeChar (c : Char) : List Char :=
  let n := c.toNat
  if c == '"' then ['\\', '"']
  else if c == '\\' then ['\\', '\\']
  else if n == 8 then ['\\', 'b']
  else if n == 9 then ['\\', 't']
  else if n == 10 then ['\\', 'n']
  else if n == 12 then ['\\', 'f']
  else if n == 13 then ['\\', 'r']
  else if n < 0x20 then ['\\', 'u', '0', '0', hexDigit (n / 16), hexDigit (n % 16)]
  else [c]

def textLiteral (s : String) : List Char := '"' :: s.toList.flatMap escapeChar ++ ['"']

mutual
/-- The characters of a document. -/
def chars : Json → List Char
  | null => ['n', 'u', 'l', 'l']
  | flag true => ['t', 'r', 'u', 'e']
  | flag false => ['f', 'a', 'l', 's', 'e']
  | int n => decimalInt n
  | float x => floatText x
  | text s => textLiteral s
  | array items => '[' :: itemChars items ++ [']']
  | object fields => '\x7b' :: fieldChars fields ++ ['\x7d']

/-- The elements of an array with commas between them. -/
def itemChars : List Json → List Char
  | [] => []
  | [j] => chars j
  | j :: rest => chars j ++ ',' :: itemChars rest

/-- The fields of an object with commas between them. -/
def fieldChars : List (String × Json) → List Char
  | [] => []
  | [(name, j)] => textLiteral name ++ ':' :: chars j
  | (name, j) :: rest => textLiteral name ++ ':' :: chars j ++ ',' :: fieldChars rest
end

def render (j : Json) : String := String.ofList (chars j)

mutual
/-- The tree with the name of each node's kind. -/
def outline : Json → String
  | null => "Null"
  | flag b => s!"Bool({b})"
  | int n => "Number(" ++ String.ofList (decimalInt n) ++ ")"
  | float x => "Number(" ++ String.ofList (floatText x) ++ ")"
  | text s => "String(" ++ quoted s ++ ")"
  | array items => "Array [" ++ outlineItems items ++ "]"
  | object fields => "Object \x7b" ++ outlineFields fields ++ "\x7d"

@[inherit_doc outline]
def outlineItems : List Json → String
  | [] => ""
  | [j] => outline j
  | j :: rest => outline j ++ ", " ++ outlineItems rest

@[inherit_doc outline]
def outlineFields : List (String × Json) → String
  | [] => ""
  | [(name, j)] => quoted name ++ ": " ++ outline j
  | (name, j) :: rest => quoted name ++ ": " ++ outline j ++ ", " ++ outlineFields rest
end

end Endpoint.Json
