import Endpoint.Text.Composition
import Endpoint.Text.Direction
import Endpoint.Text.Joiner
import Endpoint.Text.Lower
import Endpoint.Text.Punycode

/-!
Labels of a host's name. A label that starts with `xn--` spells an international name in Punycode
and has to be the one spelling of it: something is encoded, it decodes, and the name is in composed
form and made of characters that a host may hold as they are, neither replaced nor dropped nor
refused by the rules for international names. Any other label is taken as it stands. Where one label
is written from right to left, every label has to keep to one direction.
-/
namespace Endpoint.Url
open Text

/-- Visible characters above ASCII that no international name holds: they are refused there, or
another form stands for them. The ranges run on over capitals and over what has no visible form. -/
def unnameable : List (Nat × Nat) :=
  [(0xA8, 0xA8), (0xAA, 0xAA), (0xAF, 0xAF), (0xB2, 0xB5), (0xB8, 0xBA), (0xBC, 0xBE),
   (0x133, 0x133), (0x140, 0x140), (0x149, 0x149), (0x17F, 0x17F), (0x1C6, 0x1CC), (0x1F3, 0x1F3),
   (0x2B0, 0x2B8), (0x2D8, 0x2DD), (0x2E0, 0x2E4), (0x340, 0x341), (0x343, 0x345), (0x374, 0x374),
   (0x37A, 0x37A), (0x37E, 0x387), (0x3D0, 0x3D6), (0x3F0, 0x3F2), (0x3F5, 0x3F5), (0x587, 0x587),
   (0x675, 0x678), (0x958, 0x95F), (0x9DC, 0x9DF), (0xA33, 0xA33), (0xA36, 0xA36), (0xA59, 0xA5B),
   (0xA5E, 0xA5E), (0xB5C, 0xB5D), (0xE33, 0xE33), (0xEB3, 0xEB3), (0xEDC, 0xEDD), (0xF0C, 0xF0C),
   (0xF43, 0xF43), (0xF4D, 0xF4D), (0xF52, 0xF52), (0xF57, 0xF57), (0xF5C, 0xF5C), (0xF69, 0xF69),
   (0xF73, 0xF73), (0xF75, 0xF79), (0xF81, 0xF81), (0xF93, 0xF93), (0xF9D, 0xF9D), (0xFA2, 0xFA2),
   (0xFA7, 0xFA7), (0xFAC, 0xFAC), (0xFB9, 0xFB9), (0x10FC, 0x10FC), (0x13F8, 0x13FD),
   (0x1C80, 0x1C88), (0x1D2C, 0x1D2E), (0x1D30, 0x1D3A), (0x1D3C, 0x1D4D), (0x1D4F, 0x1D6A),
   (0x1D78, 0x1D78), (0x1D9B, 0x1DBF), (0x1E9A, 0x1E9B), (0x1F71, 0x1F71), (0x1F73, 0x1F73),
   (0x1F75, 0x1F75), (0x1F77, 0x1F77), (0x1F79, 0x1F79), (0x1F7B, 0x1F7B), (0x1F7D, 0x1FA7),
   (0x1FB2, 0x1FB4), (0x1FB7, 0x1FC4), (0x1FC7, 0x1FCF), (0x1FD3, 0x1FD3), (0x1FDD, 0x1FDF),
   (0x1FE3, 0x1FE3), (0x1FED, 0x1FF4), (0x1FF7, 0x1FFE), (0x2011, 0x2011), (0x2017, 0x2017),
   (0x2024, 0x2026), (0x2033, 0x2034), (0x2036, 0x2037), (0x203C, 0x203C), (0x203E, 0x203E),
   (0x2047, 0x2049), (0x2057, 0x2057), (0x2070, 0x209C), (0x20A8, 0x20A8), (0x2100, 0x2103),
   (0x2105, 0x2107), (0x2109, 0x2113), (0x2115, 0x2116), (0x2119, 0x211D), (0x2120, 0x2122),
   (0x2124, 0x2124), (0x2128, 0x2128), (0x212C, 0x212D), (0x212F, 0x2139), (0x213B, 0x2140),
   (0x2145, 0x2149), (0x2150, 0x217F), (0x2189, 0x2189), (0x222C, 0x222D), (0x222F, 0x2230),
   (0x2329, 0x232A), (0x2460, 0x24EA), (0x2A0C, 0x2A0C), (0x2A74, 0x2A76), (0x2ADC, 0x2ADC),
   (0x2C7C, 0x2C7D), (0x2D6F, 0x2D6F), (0x2E9F, 0x2E9F), (0x2EF3, 0x2FFF), (0x3002, 0x3002),
   (0x3036, 0x3036), (0x3038, 0x303A), (0x309B, 0x309C), (0x309F, 0x309F), (0x30FF, 0x30FF),
   (0x3131, 0x318E), (0x3192, 0x319F), (0x31EF, 0x31EF), (0x3200, 0x3247), (0x3250, 0x327E),
   (0x3280, 0x33FF), (0xA69C, 0xA69D), (0xA770, 0xA770), (0xA7F1, 0xA7F4), (0xA7F8, 0xA7F9),
   (0xAB5C, 0xAB5F), (0xAB69, 0xAB69), (0xAB70, 0xABBF), (0xF900, 0xFA0D), (0xFA10, 0xFA10),
   (0xFA12, 0xFA12), (0xFA15, 0xFA1E), (0xFA20, 0xFA20), (0xFA22, 0xFA22), (0xFA25, 0xFA26),
   (0xFA2A, 0xFB1D), (0xFB1F, 0xFBB1), (0xFBD3, 0xFD3D), (0xFD50, 0xFD8F), (0xFD92, 0xFDC7),
   (0xFDF0, 0xFDFC), (0xFE10, 0xFE19), (0xFE30, 0xFE44), (0xFE47, 0xFE72), (0xFE74, 0xFFFD),
   (0x10781, 0x107BA), (0x1CCD6, 0x1CCF9), (0x1D15E, 0x1D164), (0x1D1BB, 0x1D1C0),
   (0x1D400, 0x1D7FF), (0x1E030, 0x1E06D), (0x1EE00, 0x1EEBB), (0x1F100, 0x1F10A),
   (0x1F110, 0x1F12E), (0x1F130, 0x1F14F), (0x1F16A, 0x1F16C), (0x1F190, 0x1F190),
   (0x1F200, 0x1F251), (0x1FBF0, 0x1FBF9), (0x2F800, 0x2FA1D)]

/-- A character that an international name may hold. The capitals of Cherokee are the one exception
to small letters. -/
def isNameable (c : Char) : Bool :=
  let n := c.toNat
  n < 0x80 || (!inRanges invisible n && !inRanges unnameable n &&
    (lowerChar c == [c] || (0x13A0 ≤ n && n ≤ 0x13F5)))

/-- A text that an international label can spell. -/
def isName : List Char → Bool
  | [] => false
  | c :: cs =>
    !isMark c && (c :: cs).all (fun d => isNameable d || isJoiner d) && joinersFit [] (c :: cs) &&
      isComposed (c :: cs)

/-- The name that is spelled by what follows the mark of an international label. -/
def spelled? (encoded : List Char) : Option (List Char) :=
  if encoded.length ≤ 2000 && encoded.getLast? != some '-' then
    (Punycode.decode? encoded).filter isName
  else none

/-- The name that a label in small letters spells, if it may stand in a host. -/
def nameOf? : List Char → Option (List Char)
  | 'x' :: 'n' :: '-' :: '-' :: encoded => spelled? encoded
  | cs => some cs

/-- The labels may stand together in a host. -/
def areLabels (labels : List (List Char)) : Bool :=
  match labels.mapM nameOf? with
  | none => false
  | some names =>
    !names.any (·.any fun c => (direction c).isRightward) || names.all keepsDirection

end Endpoint.Url
