import Endpoint.Url.Address
import Endpoint.Url.Label
import Endpoint.Url.Path

/-!
Reading absolute URLs. `ofText` takes the scheme and reads on by its kind: a web scheme has an
authority whatever slashes are there, a file has a path and perhaps a host, and any other scheme
has an authority only after two slashes and a path of segments only after one. What is ignored is
taken out, and every part is brought to its normal form as it is read. Of a file, the ignored
characters stay until its path is cut into segments, because they can part its drive from the rest.
-/
namespace Endpoint.Url
open Text

/-- What can be wrong with a URL. -/
inductive Flaw where
  | relative
  | emptyHost
  | badPort
  | badV4
  | badV6
  | badDomain
  | badHostCharacter
deriving DecidableEq, Repr

/-- The wording of a flaw. -/
def Flaw.message : Flaw → String
  | relative => "relative URL without a base"
  | emptyHost => "empty host"
  | badPort => "invalid port number"
  | badV4 => "invalid IPv4 address"
  | badV6 => "invalid IPv6 address"
  | badDomain => "invalid international domain name"
  | badHostCharacter => "invalid domain character"

/-! ## Schemes -/

/-- The kinds of scheme. -/
inductive Kind where
  | web
  | file
  | other
deriving DecidableEq, Repr

/-- The kind of a scheme. -/
def kindOf (scheme : String) : Kind :=
  if scheme == "file" then .file
  else if ["http", "https", "ws", "wss", "ftp"].contains scheme then .web
  else .other

/-- The port that a scheme implies. -/
def impliedPort? (scheme : String) : Option Nat :=
  if scheme == "http" || scheme == "ws" then some 80
  else if scheme == "https" || scheme == "wss" then some 443
  else if scheme == "ftp" then some 21
  else none

def isSchemeChar (c : Char) : Bool :=
  isAsciiLetter c || isAsciiDigit c || c == '+' || c == '-' || c == '.'

/-- The scheme in small letters and what follows its colon. -/
def scheme? (cs : List Char) : Option (String × List Char) :=
  match cut ':' cs with
  | none => none
  | some (front, rest) =>
    let name := bare front
    if (name.head?.any isAsciiLetter) && name.all isSchemeChar then
      some (String.ofList (name.map lowerAscii), rest)
    else none

/-! ## Authorities -/

def endsAuthority (special : Bool) (c : Char) : Bool :=
  isSlash special c || c == '?' || c == '#'

/-- What stands before and after the last sign that ends the user's name and password. -/
def cutUser (authority : List Char) : Option (List Char × List Char) :=
  (cut '@' authority.reverse).map fun (after, before) => (before.reverse, after.reverse)

/-- The name and the password before the at sign. -/
def readUser (cs : List Char) : String × Option String :=
  match cut ':' cs with
  | none => (String.ofList (escaped escapedInUser cs), none)
  | some (name, password) =>
    (String.ofList (escaped escapedInUser name),
      if password = [] then none else some (String.ofList (escaped escapedInUser password)))

/-- What stands before and after the colon of a port; a colon between brackets is none. -/
def cutPort : Bool → List Char → List Char × Option (List Char)
  | _, [] => ([], none)
  | inside, c :: cs =>
    if c == ':' && !inside then ([], some cs)
    else
      let inside := if c == '[' then true else if c == ']' then false else inside
      let (host, port) := cutPort inside cs
      (c :: host, port)

def isForbiddenInDomain (c : Char) : Bool :=
  c.toNat ≤ 0x20 || c.toNat == 0x7F ||
    ['%', '#', '/', ':', '<', '>', '?', '@', '[', '\\', ']', '^', '|'].contains c

def isForbiddenInHost (c : Char) : Bool :=
  c.toNat == 0 || c == '\t' || c == '\n' || c == '\r' ||
    [' ', '#', '/', ':', '<', '>', '?', '@', '[', '\\', ']', '^', '|'].contains c

/-- An address between brackets. -/
def readBracketed (cs : List Char) : Except Flaw Host :=
  match (stripStart? '[' cs).bind (stripEnd? ']') with
  | none => .error .badV6
  | some inner => match v6Address? inner with
    | some pieces => .ok (.v6 pieces)
    | none => .error .badV6

/-- The host of a web or file URL. Names hold ASCII characters only. -/
def readDomain (cs : List Char) : Except Flaw Host :=
  if cs.head? == some '[' then readBracketed cs
  else match decodeUtf8 (percentDecode (utf8OfChars cs)) with
    | .error _ => .error .badDomain
    | .ok name =>
      if name.any fun c => isForbiddenInDomain c || c.toNat ≥ 0x80 then .error .badDomain
      else if name = [] then .error .emptyHost
      else
        let name := name.map lowerAscii
        if !areLabels (pieces '.' name) then .error .badDomain
        else if endsInNumber name then match v4Address? name with
          | some n => .ok (.v4 n)
          | none => .error .badV4
        else .ok (.name (String.ofList name))

/-- The host of any other URL, kept as it is. -/
def readPlainHost (cs : List Char) : Except Flaw Host :=
  if cs.head? == some '[' then readBracketed cs
  else if cs.any isForbiddenInHost then .error .badHostCharacter
  else .ok (.name (String.ofList (escaped isEscapedAlways cs)))

/-- A port of at most sixteen bits; no digits, and the port that the scheme implies, are none. -/
def readPort (scheme : String) (cs : List Char) : Except Flaw (Option Nat) :=
  let step (acc : Except Flaw Nat) (c : Char) : Except Flaw Nat := do
    let n ← acc
    if isAsciiDigit c then
      let n := n * 10 + (c.toNat - 48)
      if n > 65535 then throw .badPort else return n
    else throw .badPort
  do
    let n ← cs.foldl step (.ok 0)
    return if cs = [] ∨ some n = impliedPort? scheme then none else some n

/-- Reads host and port. A backslash ends the port, and what it keeps out is left over. -/
def readHostPort (scheme : String) (special : Bool) (cs : List Char) :
    Except Flaw (Host × Option Nat × List Char) := do
  let (hostText, portText) := cutPort false cs
  if special && hostText = [] then throw .emptyHost
  let host ← if special then readDomain hostText else readPlainHost hostText
  match portText with
  | none => return (host, none, [])
  | some text =>
    if hostText = [] then throw .emptyHost
    let port ← readPort scheme (text.takeWhile (· != '\\'))
    return (host, port, text.dropWhile (· != '\\'))

/-- Reads the authority, which ends before the path, the query or the fragment. -/
def readAuthority (scheme : String) (special : Bool) (cs : List Char) :
    Except Flaw (Authority × List Char) := do
  let text := cs.takeWhile fun c => !endsAuthority special c
  let rest := cs.dropWhile fun c => !endsAuthority special c
  match cutUser text with
  | none =>
    let (host, port, left) ← readHostPort scheme special text
    return (⟨"", none, host, port⟩, left ++ rest)
  | some (user, hostPort) =>
    if user = [] && hostPort = [] && rest ≠ [] then throw .emptyHost
    let (username, password) := readUser user
    let (host, port, left) ← readHostPort scheme special hostPort
    if host.isEmpty && (username ≠ "" || password.isSome) then throw .emptyHost
    return (⟨username, password, host, port⟩, left ++ rest)

/-! ## Queries and fragments -/

def cutPath (cs : List Char) : List Char × List Char :=
  (cs.takeWhile fun c => c != '?' && c != '#', cs.dropWhile fun c => c != '?' && c != '#')

/-- Reads the query and the fragment. -/
def readTail (special : Bool) (cs : List Char) : Option String × Option String :=
  let fragment (cs : List Char) := String.ofList (escaped escapedInFragment cs)
  match cs with
  | '?' :: rest =>
    let query := String.ofList (escaped (escapedInQuery special) (rest.takeWhile (· != '#')))
    match rest.dropWhile (· != '#') with
    | _ :: f => (some query, some (fragment f))
    | [] => (some query, none)
  | '#' :: f => (none, some (fragment f))
  | _ => (none, none)

/-! ## Whole URLs -/

/-- The text after one slash in front, if there is one. -/
def stripSlash? (special : Bool) (cs : List Char) : Option (List Char) :=
  match cs.dropWhile isIgnored with
  | [] => none
  | c :: rest => if isSlash special c then some rest else none

/-- The URL of a scheme that has an authority. -/
def readWithAuthority (scheme : String) (special : Bool) (cs : List Char) : Except Flaw Url := do
  let (authority, rest) ← readAuthority scheme special cs
  let (path, tail) := cutPath rest
  let (query, fragment) := readTail special tail
  let path :=
    if path = [] && !special then ""
    else (Path.ofText special false ((stripSlash? special path).getD path)).display
  return ⟨scheme, some authority, path, query, fragment⟩

/-- The URL of a file at a host. A path that starts with a drive leaves the host out. -/
def fileAt (host : Host) (cs : List Char) : Url :=
  let (path, tail) := cutPath cs
  let (query, fragment) := readTail true (bare tail)
  let path := Path.ofText true true path
  ⟨"file", some ⟨"", none, if path.hasDrive then .name "" else host, none⟩,
    path.trimmed.display, query, fragment⟩

/-- The URL of a file. A host comes after two slashes, and the slash behind it starts the path. No
host is there when it would be empty, the name of a drive or the local one; then the path is all
that follows. -/
def readFile (cs : List Char) : Except Flaw Url := do
  let path := (stripSlash? true cs).getD cs
  match (stripSlash? true cs).bind (stripSlash? true) with
  | none => return fileAt (.name "") path
  | some rest =>
    let text := bare (rest.takeWhile fun c => !endsAuthority true c)
    let after := rest.dropWhile fun c => !endsAuthority true c
    if isDrive text then return fileAt (.name "") rest
    else if text = [] then return fileAt (.name "") after
    else
      let host ← readDomain text
      if host = .name "localhost" then return fileAt (.name "") after
      else return fileAt host ((stripSlash? true after).getD after)

/-- The URL of a scheme of no special kind. -/
def readOther (scheme : String) (cs : List Char) : Except Flaw Url :=
  match cs with
  | '/' :: '/' :: rest => readWithAuthority scheme false rest
  | cs =>
    let (path, tail) := cutPath cs
    let (query, fragment) := readTail false tail
    let path := match path with
      | '/' :: cs => (Path.ofText false false cs).display
      | cs => String.ofList (escaped isEscapedAlways cs)
    .ok ⟨scheme, none, path, query, fragment⟩

def trimOuter (cs : List Char) : List Char :=
  let isOuter (c : Char) := c.toNat ≤ 0x20
  ((cs.dropWhile isOuter).reverse.dropWhile isOuter).reverse

/-- The absolute URL that a text spells. -/
def ofText (text : String) : Except Flaw Url :=
  match scheme? (trimOuter text.toList) with
  | none => .error .relative
  | some (scheme, rest) =>
    match kindOf scheme with
    | .web => readWithAuthority scheme true ((bare rest).dropWhile (isSlash true))
    | .file => readFile rest
    | .other => readOther scheme (bare rest)

end Endpoint.Url
