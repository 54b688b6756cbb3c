import Endpoint.Text.Basic
import Endpoint.Error

/-!
Media types: `main/subtype` with parameters. Main type, subtype and parameter names are in small
letters; parameters are in the order in which their names were first set, each name once, and take
no part in compatibility. `ofText` reads the value of a header; `display` writes one.
-/
namespace Endpoint
open Text

/-- A media type. -/
structure MediaType where
  main : String
  subtype : String
  params : List (String × String)
deriving DecidableEq, Inhabited, Repr

namespace MediaType

def wildcard : String := "*"

/-- A media type without parameters, in small letters. -/
def of (main subtype : String) : MediaType := ⟨lowerText main, lowerText subtype, []⟩

/-- Sets a parameter in a list: in its place if the name is there, else at the end. -/
def setParam (name value : String) : List (String × String) → List (String × String)
  | [] => [(name, value)]
  | (n, v) :: rest => if n = name then (n, value) :: rest else (n, v) :: setParam name value rest

def withParam (m : MediaType) (name value : String) : MediaType :=
  { m with params := setParam (lowerText name) value m.params }

def any : MediaType := of wildcard wildcard
def json : MediaType := of "application" "json"
def plainText : MediaType := of "text" "plain"
def octetStream : MediaType := of "application" "octet-stream"
def form : MediaType := of "application" "x-www-form-urlencoded"

/-! ## Reading -/

/-- What can be wrong with the text of a media type. -/
inductive Flaw where
  | noSlash
  | emptyPart
  | wildcardMain
  | paramWithoutEquals
deriving DecidableEq, Repr

/-- The wording of a flaw. -/
def Flaw.message : Flaw → String
  | noSlash => "missing '/'"
  | emptyPart => "empty type or subtype"
  | wildcardMain => "wildcard type requires wildcard subtype"
  | paramWithoutEquals => "parameter without '='"

def unquote (value : List Char) : List Char :=
  ((stripStart? '"' value).bind (stripEnd? '"')).getD value

/-- Reads the part before the first semicolon. A lone star stands for every type. -/
def readEssence (essence : List Char) : Except Flaw MediaType := do
  let essence := trim essence
  let (main, subtype) ←
    if essence = ['*'] then pure (['*'], ['*'])
    else match cut '/' essence with
      | some parts => pure parts
      | none => throw .noSlash
  let main := trim main
  let subtype := trim subtype
  if main = [] ∨ subtype = [] then throw .emptyPart
  if main = ['*'] ∧ subtype ≠ ['*'] then throw .wildcardMain
  return of (String.ofList main) (String.ofList subtype)

/-- Reads the parameters, one between every two semicolons; a blank one is skipped. -/
def readParams (m : MediaType) : List (List Char) → Except Flaw MediaType
  | [] => .ok m
  | piece :: rest =>
    let piece := trim piece
    if piece = [] then readParams m rest
    else match cut '=' piece with
      | none => .error .paramWithoutEquals
      | some (name, value) =>
        readParams
          (m.withParam (String.ofList (trim name)) (String.ofList (unquote (trim value)))) rest

/-- Reads a media type. -/
def read (text : List Char) : Except Flaw MediaType :=
  match pieces ';' text with
  | [] => .error .noSlash
  | essence :: params => do
    let m ← readEssence essence
    readParams m params

def ofText (text : String) : Except Error MediaType :=
  (read text.toList).mapError fun flaw => .configuration (.mediaType text flaw.message)

/-! ## Writing and looking -/

def essence (m : MediaType) : String := m.main ++ "/" ++ m.subtype

/-- The parameters, each with a semicolon and a space in front. -/
def displayParams : List (String × String) → String
  | [] => ""
  | (n, v) :: rest => "; " ++ n ++ "=" ++ v ++ displayParams rest

def display (m : MediaType) : String := m.essence ++ displayParams m.params

/-- The value of a parameter, by its name in any case. -/
def param? (m : MediaType) (name : String) : Option String :=
  (m.params.find? fun p => sameIgnoringCase p.1 name).map (·.2)

def charset? (m : MediaType) : Option String := m.param? "charset"

def isWildcardMain (m : MediaType) : Bool := m.main == wildcard

/-- Stands for every subtype, or for every subtype with one structured suffix. -/
def isWildcardSubtype (m : MediaType) : Bool :=
  m.subtype == wildcard || ['*', '+'].isPrefixOf m.subtype.toList

/-- Names one format. -/
def isConcrete (m : MediaType) : Bool := !m.isWildcardMain && !m.isWildcardSubtype

/-- The structured suffix: what follows the last plus sign of the subtype. -/
def suffix? (m : MediaType) : Option (List Char) := afterLast '+' m.subtype.toList

/-- The media types can stand for one format. -/
def compatible (a b : MediaType) : Bool :=
  if a.isWildcardMain || b.isWildcardMain then true
  else if a.main != b.main then false
  else if a.subtype == b.subtype || a.subtype == wildcard || b.subtype == wildcard then true
  else if a.isWildcardSubtype != b.isWildcardSubtype then a.suffix? == b.suffix?
  else false

end MediaType
end Endpoint
