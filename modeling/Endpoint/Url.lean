import Endpoint.Text.Basic
import Endpoint.Text.Percent

/-!
Absolute URLs in their normal form. Every part is kept as it is written: escaped where the URL
standard escapes it, the scheme and the host in small letters, no port that the scheme implies.
Two URLs are equal when they are written alike.
-/
namespace Endpoint
open Text

/-- A host: a name, or an address. -/
inductive Host where
  | name (text : String)
  | v4 (address : Nat)
  | v6 (pieces : List Nat)
deriving DecidableEq, Repr, Inhabited

/-- What stands between the two slashes and the path. -/
structure Authority where
  username : String
  password : Option String
  host : Host
  port : Option Nat
deriving DecidableEq, Repr, Inhabited

/-- An absolute URL. -/
structure Url where
  scheme : String
  authority : Option Authority
  path : String
  query : Option String
  fragment : Option String
deriving DecidableEq, Repr, Inhabited

namespace Host

def displayV4 (n : Nat) : String :=
  let part (k : Nat) := toString (n / Nat.pow 256 k % 256)
  part 3 ++ "." ++ part 2 ++ "." ++ part 1 ++ "." ++ part 0

def zeroRun (pieces : List Nat) : Nat := (pieces.takeWhile (· == 0)).length

/-- Where the longest run of zero pieces starts and how long it is; the first of equals. -/
def longestZeros : Nat → List Nat → Nat × Nat
  | _, [] => (0, 0)
  | index, p :: ps =>
    let here := zeroRun (p :: ps)
    let later := longestZeros (index + 1) ps
    if here ≥ later.2 then (index, here) else later

def joinPieces (ps : List Nat) : List Char := join [':'] (ps.map hexDigits)

/-- An address of eight pieces; the longest run of at least two zero pieces is left out. -/
def displayV6 (pieces : List Nat) : String :=
  let (start, width) := longestZeros 0 pieces
  String.ofList <|
    if width < 2 then joinPieces pieces
    else joinPieces (pieces.take start) ++ [':', ':'] ++ joinPieces (pieces.drop (start + width))

/-- The text of a host. -/
def display : Host → String
  | name text => text
  | v4 n => displayV4 n
  | v6 pieces => "[" ++ displayV6 pieces ++ "]"

def isEmpty : Host → Bool
  | name text => text == ""
  | _ => false

end Host

namespace Authority

def empty : Authority := ⟨"", none, .name "", none⟩

/-- The user's name and password with the sign that ends them. -/
def userinfo (a : Authority) : String :=
  match a.password with
  | some p => a.username ++ ":" ++ p ++ "@"
  | none => if a.username == "" then "" else a.username ++ "@"

def display (a : Authority) : String :=
  a.userinfo ++ a.host.display ++ (match a.port with | some p => ":" ++ toString p | none => "")

end Authority

namespace Url

/-- The text of a URL. A path that starts with two slashes gets a dot segment in front when there
is no authority, or it would read as one. -/
def display (u : Url) : String :=
  let authority := match u.authority with
    | some a => "//" ++ a.display
    | none => if u.path.startsWith "//" then "/." else ""
  let query := match u.query with | some q => "?" ++ q | none => ""
  let fragment := match u.fragment with | some f => "#" ++ f | none => ""
  u.scheme ++ ":" ++ authority ++ u.path ++ query ++ fragment

/-- The URL with a name and a value added to its query. -/
def withQueryPair (u : Url) (name value : String) : Url :=
  let pair := String.ofList (queryPart name ++ '=' :: queryPart value)
  { u with query := some <| match u.query with
      | some q => if q == "" then pair else q ++ "&" ++ pair
      | none => pair }

/-- The URL names a host. -/
def hasHost (u : Url) : Bool :=
  match u.authority with
  | some a => !a.host.isEmpty
  | none => false

def isWeb (u : Url) : Bool := u.scheme == "http" || u.scheme == "https"

def withoutUser (u : Url) : Url :=
  { u with authority := u.authority.map fun a => { a with username := "", password := none } }

end Url
end Endpoint
