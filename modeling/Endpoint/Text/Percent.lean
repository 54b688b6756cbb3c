import Endpoint.Text.Utf8

/-!
Percent-encoding. An octet outside a set of plain octets is written as a percent sign and two
capital digits. Three sets are in use: the unreserved characters for form fields, the characters
a query parameter keeps, and the sets of the URL standard, which live with the URLs.
-/
namespace Endpoint.Text

def percentOctet (b : UInt8) : List Char :=
  ['%', hexDigitCapital (b.toNat / 16), hexDigitCapital (b.toNat % 16)]

/-- Writes the octets for which `plain` holds as they are and escapes the others. -/
def percentEncode (plain : UInt8 → Bool) (bs : Octets) : List Char :=
  bs.flatMap fun b => if plain b then [Char.ofNat b.toNat] else percentOctet b

def isAlphanumeric (b : UInt8) : Bool :=
  (0x30 ≤ b && b ≤ 0x39) || (0x41 ≤ b && b ≤ 0x5A) || (0x61 ≤ b && b ≤ 0x7A)

/-- The unreserved characters: letters, digits, hyphen, full stop, low line and tilde. -/
def isUnreserved (b : UInt8) : Bool :=
  isAlphanumeric b || b == 0x2D || b == 0x2E || b == 0x5F || b == 0x7E

/-- A form field, in which only unreserved characters stand for themselves. -/
def percentField (s : String) : List Char := percentEncode isUnreserved (utf8 s)

/-- A name or value of a query: letters, digits and `*-._` stand for themselves, a space is
written as a plus sign. -/
def queryPart (s : String) : List Char :=
  (utf8 s).flatMap fun b =>
    if isAlphanumeric b || b == 0x2A || b == 0x2D || b == 0x2E || b == 0x5F then
      [Char.ofNat b.toNat]
    else if b == 0x20 then ['+']
    else percentOctet b

/-- Octets with every well-formed escape replaced by the octet it stands for. -/
def percentDecode : Octets → Octets
  | [] => []
  | b :: rest =>
    if b == 0x25 then
      match rest with
      | h :: l :: rest' =>
        match hexValue? h.toNat, hexValue? l.toNat with
        | some hi, some lo => UInt8.ofNat (hi * 16 + lo) :: percentDecode rest'
        | _, _ => b :: percentDecode (h :: l :: rest')
      | rest => b :: percentDecode rest
    else b :: percentDecode rest

end Endpoint.Text
