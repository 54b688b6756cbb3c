import Endpoint.Text.Percent

/-!
What a URL leaves out and what it escapes. Tabs and line ends are ignored wherever they stand. Each
part has its own set of octets that are escaped: a fragment the fewest, a user's name the most.
-/
namespace Endpoint.Url
open Text

/-- A character that is ignored wherever it stands. -/
def isIgnored (c : Char) : Bool := c == '\t' || c == '\n' || c == '\r'

def bare (cs : List Char) : List Char := cs.filter fun c => !isIgnored c

/-- A control octet or one above ASCII: escaped everywhere. -/
def isEscapedAlways (b : UInt8) : Bool := b < 0x20 || b ≥ 0x7F

def isOneOf (marks : List Char) (b : UInt8) : Bool := marks.any fun c => c.toNat == b.toNat

def escapedInFragment (b : UInt8) : Bool :=
  isEscapedAlways b || isOneOf [' ', '"', '<', '>', Char.ofNat 0x60] b

/-- What is escaped in a query; a web scheme escapes the apostrophe too. -/
def escapedInQuery (special : Bool) (b : UInt8) : Bool :=
  isEscapedAlways b || isOneOf [' ', '"', '#', '<', '>'] b || (special && b == 0x27)

def escapedInPath (b : UInt8) : Bool :=
  escapedInFragment b || isOneOf ['#', '?', '\x7b', '\x7d'] b

def escapedInUser (b : UInt8) : Bool :=
  escapedInPath b || isOneOf ['/', ':', ';', '=', '@', '[', '\\', ']', '^', '|'] b

def escaped (set : UInt8 → Bool) (cs : List Char) : List Char :=
  percentEncode (fun b => !set b) (utf8OfChars cs)

end Endpoint.Url
