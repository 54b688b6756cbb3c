import Endpoint.Text.Basic
import Endpoint.Url.Escape

/-!
Paths of segments, read from the text after their first slash. A dot segment stands for the place
where it is, or for the one above; no dot segment leads above a drive. The drive of a file is the
first segment of its path and is written with a colon.
-/
namespace Endpoint.Url
open Text

/-! ## Segments -/

/-- A slash; a web or file URL takes a backslash for one too. -/
def isSlash (special : Bool) (c : Char) : Bool := c == '/' || (special && c == '\\')

/-- The segments between the slashes of a text. -/
def cutSegments (special : Bool) : List Char → List (List Char)
  | [] => [[]]
  | c :: cs =>
    if isSlash special c then [] :: cutSegments special cs
    else match cutSegments special cs with
      | [] => [[c]]
      | s :: ss => (c :: s) :: ss

def isSingleDot (segment : List Char) : Bool :=
  let s := segment.map lowerAscii
  s == ['.'] || s == ['%', '2', 'e']

/-- A segment that stands for the place above. -/
def isDoubleDot (segment : List Char) : Bool :=
  let s := segment.map lowerAscii
  s == ['.', '.'] || s == ['.', '%', '2', 'e'] || s == ['%', '2', 'e', '.'] ||
    s == ['%', '2', 'e', '%', '2', 'e']

/-! ## Drives -/

/-- A letter and a colon or bar, and nothing else unless a backslash comes next. -/
def startsWithDrive : List Char → Bool
  | c :: d :: rest =>
    isAsciiLetter c && (d == ':' || d == '|') && (rest = [] || rest.head? == some '\\')
  | _ => false

/-- A letter and a colon or bar: the name of a drive. -/
def isDrive (segment : List Char) : Bool := startsWithDrive segment && segment.length == 2

/-- The drive and the rest of a segment that an ignored character parts after the colon. -/
def partDrive? (segment : List Char) : Option (List Char × List Char) :=
  match segment.dropWhile isIgnored with
  | [] => none
  | letter :: rest =>
    match rest.dropWhile isIgnored with
    | ':' :: c :: rest =>
      if isAsciiLetter letter && isIgnored c && bare rest ≠ [] then
        some ([letter, ':'], bare rest)
      else none
    | _ => none

/-! ## Paths -/

/-- A path as far as it is read: its segments, and whether the first is the drive of a file. -/
structure Path where
  segments : List (List Char)
  hasDrive : Bool
deriving DecidableEq, Repr

namespace Path

def root : Path := ⟨[], false⟩

def push (p : Path) (segment : List Char) : Path := { p with segments := p.segments ++ [segment] }

/-- The place above, which is the same place below a drive and at the root. -/
def up (p : Path) : Path :=
  match p.segments.getLast? with
  | none => p
  | some s => if startsWithDrive s then p else { p with segments := p.segments.dropLast }

/-- Reads a segment, which `slash` says is followed by another. A dot segment at the end leaves an
empty one. -/
def read (file : Bool) (p : Path) (segment : List Char) (slash : Bool) : Path :=
  let atRoot := file && p.segments = []
  match if atRoot then partDrive? segment else none with
  | some (drive, rest) => (p.push drive).push (escaped escapedInPath rest)
  | none =>
    let s := escaped escapedInPath (bare segment)
    if isDoubleDot s then if slash then p.up else p.up.push []
    else if isSingleDot s then if slash then p else p.push []
    else if atRoot && isDrive s then ⟨[s.take 1 ++ [':']], true⟩
    else p.push s

/-- Reads every segment; all but the last are followed by another. -/
def readAll (file : Bool) (p : Path) : List (List Char) → Path
  | [] => p
  | [s] => p.read file s false
  | s :: ss => readAll file (p.read file s true) ss

def ofText (special file : Bool) (cs : List Char) : Path :=
  root.readAll file (cutSegments special cs)

/-- The path without empty segments in front. -/
def trimmed (p : Path) : Path :=
  match p.segments.dropWhile (· = []) with
  | [] => { p with segments := [[]] }
  | ss => { p with segments := ss }

def display (p : Path) : String := String.ofList (p.segments.flatMap fun s => '/' :: s)

end Path
end Endpoint.Url
