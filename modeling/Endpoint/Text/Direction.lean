import Endpoint.Text.Basic
import Endpoint.Text.Mark

/-!
The direction of writing. Every character that can be part of a host's name has one of six
directions; where names of both directions meet, a label has to keep to one of them, or a reader
could not tell where it starts and ends.
-/
namespace Endpoint.Text

/-- How a character is written among others. -/
inductive Direction where
  | left
  | right
  | digit
  | arabicDigit
  | mark
  | neutral
deriving DecidableEq, Repr

/-- Characters written from right to left. The ranges run on over digits and marks. -/
def rightward : List (Nat × Nat) :=
  [(0x5BE, 0x5F4), (0x608, 0x608), (0x60B, 0x60B), (0x60D, 0x60D), (0x61B, 0x64A), (0x66D, 0x6D5),
   (0x6E5, 0x6E6), (0x6EE, 0x7F5), (0x7FA, 0x8C9), (0xFBB2, 0xFBC2), (0xFE73, 0xFE73),
   (0x10800, 0x1091B), (0x10920, 0x10B35), (0x10B40, 0x10D4F), (0x10D6F, 0x10D85),
   (0x10E80, 0x10EC7), (0x10F00, 0x10FF6), (0x1E800, 0x1ED3D)]

/-- Characters above ASCII without a direction. The ranges run on over all that have been told
apart before. -/
def neutrals : List (Nat × Nat) :=
  [(0xA1, 0xD7), (0xF7, 0xF7), (0x2B9, 0x2BA), (0x2C2, 0x2CF), (0x2D2, 0x2ED), (0x2EF, 0x2FF),
   (0x375, 0x375), (0x3F6, 0x3F6), (0x58A, 0x7F9), (0x9F2, 0x9F3), (0x9FB, 0x9FB), (0xAF1, 0xAF1),
   (0xBF3, 0xBFA), (0xC78, 0xC7E), (0xE3F, 0xE3F), (0xF3A, 0xF3D), (0x1390, 0x1399),
   (0x1400, 0x1400), (0x169B, 0x169C), (0x17DB, 0x17DB), (0x17F0, 0x180A), (0x1940, 0x1945),
   (0x19DE, 0x19FF), (0x1B4E, 0x1B4F), (0x1B7F, 0x1B7F), (0x2010, 0x214D), (0x218A, 0x2335),
   (0x237B, 0x2394), (0x2396, 0x26AB), (0x26AD, 0x27FF), (0x2900, 0x2BFF), (0x2CE5, 0x2CEA),
   (0x2CF9, 0x2CFF), (0x2E00, 0x3004), (0x3008, 0x3020), (0x3030, 0x3030), (0x3037, 0x3037),
   (0x303D, 0x303F), (0x30A0, 0x30A0), (0x30FB, 0x30FB), (0x31C0, 0x31E5), (0x4DC0, 0x4DFF),
   (0xA490, 0xA4C6), (0xA60D, 0xA60F), (0xA673, 0xA67F), (0xA700, 0xA721), (0xA788, 0xA788),
   (0xA828, 0xA82B), (0xA838, 0xA839), (0xA874, 0xA877), (0xAB6A, 0xAB6B), (0xFBC3, 0xFE46),
   (0x10101, 0x10101), (0x10140, 0x1018C), (0x10190, 0x101A0), (0x1091F, 0x10ED8),
   (0x11052, 0x11065), (0x113D4, 0x113D8), (0x11660, 0x1166C), (0x11BE1, 0x11BE1),
   (0x11FD5, 0x11FF1), (0x16D6D, 0x16D6F), (0x16FE2, 0x16FE2), (0x1CC00, 0x1CEF0),
   (0x1D1E9, 0x1D245), (0x1D300, 0x1D356), (0x1E2FF, 0x1E2FF), (0x1E5FF, 0x1E5FF),
   (0x1EEF0, 0x1F12F), (0x1F16D, 0x1F16F), (0x1F1AD, 0x1F1AD), (0x1F260, 0x1FBFA)]

def digits : List (Nat × Nat) := [(0x6F0, 0x6F9), (0x102E1, 0x102FB)]

def arabicDigits : List (Nat × Nat) :=
  [(0x660, 0x669), (0x66B, 0x66C), (0x10D30, 0x10D49), (0x10E60, 0x10E7E)]

/-- The direction of a character. -/
def direction (c : Char) : Direction :=
  let n := c.toNat
  if n < 0x80 then
    if isAsciiLetter c then .left else if isAsciiDigit c then .digit else .neutral
  else if n == 0x200C || n == 0x200D then .neutral
  else if isNonspacing c then .mark
  else if inRanges digits n then .digit
  else if inRanges arabicDigits n then .arabicDigit
  else if inRanges rightward n then .right
  else if inRanges neutrals n then .neutral
  else .left

/-- A direction that makes the direction of a whole name matter. -/
def Direction.isRightward : Direction → Bool
  | right | arabicDigit => true
  | _ => false

/-- The last direction that is no mark, if there is one, is among the given ones. -/
def endsWith (allowed rest : List Direction) : Bool :=
  match rest.reverse.dropWhile (· == .mark) with
  | [] => true
  | d :: _ => allowed.contains d

/-- A text keeps to one direction: it starts with a letter, holds none of the other direction, ends
with a letter or a digit, and its digits are of one kind. -/
def keepsDirection (cs : List Char) : Bool :=
  match cs.map direction with
  | [] => true
  | .left :: rest => !rest.any Direction.isRightward && endsWith [.left, .digit] rest
  | .right :: rest =>
    !rest.contains .left && endsWith [.right, .digit, .arabicDigit] rest &&
      !(rest.contains .digit && rest.contains .arabicDigit)
  | _ => false

end Endpoint.Text
