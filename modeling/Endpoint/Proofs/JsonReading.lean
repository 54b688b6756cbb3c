import Endpoint.Json.Printer
import Endpoint.Json.Reader
import Endpoint.Proofs.Dictionary
import Endpoint.Proofs.Utf8

/-!
Documents are read back. A printed document has no blanks, so every part of it ends where the next
one starts; the readers take their parts off the front, and what may follow a value (`Ends`) keeps
them from reading on.

What is proved:
  1. `textBody_escaped`: what a text is written as between its quotes is read as this text, whatever
     characters are in it;
  2. `number_decimal`: a decimal number is read as this number as long as sixty-four bits hold it;
  3. `items_itemChars` and `fields_fieldChars`: an array is read if all its elements are, and an
     object if all its fields are; the octets behind the bracket are fuel enough;
  4. `reads_of_nests`: by induction on a tree (`Proper`, `Nests`), its document is read as this tree
     by any reader that goes as deep as the tree nests;
  5. `parse_octets`: so is the whole document if it nests no deeper than `maxDepth`.
-/
namespace Endpoint
open Text

namespace Json

/-! ## Strings -/

section
variable {s tail rest : Octets}

theorem textOctets_skip (bs s : Octets) : textOctets bs.length (bs ++ s) = textOctets 0 s := by
  induction bs with
  | nil => rfl
  | cons b bs ih => exact ih

theorem textOctets_plain {bs : Octets} (hbs : ∀ b ∈ bs, ¬ b < 0x20 ∧ b ≠ 0x22 ∧ b ≠ 0x5C)
    (hs : textOctets 0 s = .ok (tail, rest)) :
    textOctets 0 (bs ++ s) = .ok (bs ++ tail, rest) := by
  induction bs with
  | nil => exact hs
  | cons b bs ih =>
    rw [List.forall_mem_cons] at hbs
    obtain ⟨⟨hctl, hquote, hslash⟩, hbs⟩ := hbs
    simp only [List.cons_append, textOctets, if_neg hquote, if_neg hslash, if_neg hctl, ih hbs]
    rfl

theorem textOctets_escape {x bytes : Octets} (hx : escape (x ++ s) = .ok (bytes, x.length))
    (hs : textOctets 0 s = .ok (tail, rest)) :
    textOctets 0 (0x5C :: (x ++ s)) = .ok (bytes ++ tail, rest) := by
  have hskip := textOctets_skip x s
  rw [hs] at hskip
  simp only [textOctets, if_neg (by decide : (0x5C : UInt8) ≠ 0x22), if_pos, hx, bind, Except.bind,
    hskip, pure, Except.pure]

theorem le_of_mem_utf8EncodeChar {c : Char} (h : 128 ≤ c.toNat) {b : UInt8}
    (hb : b ∈ String.utf8EncodeChar c) : 128 ≤ b.toNat := by
  have hlarge : ¬ c.val.toNat ≤ 127 := Nat.not_le_of_lt h
  simp only [String.utf8EncodeChar, if_neg hlarge] at hb
  split at hb
  · simp only [List.mem_cons, List.not_mem_nil, or_false] at hb
    obtain rfl | rfl := hb <;> rw [toNat_ofNat_of_lt (by omega)] <;> omega
  split at hb
  · simp only [List.mem_cons, List.not_mem_nil, or_false] at hb
    obtain rfl | rfl | rfl := hb <;> rw [toNat_ofNat_of_lt (by omega)] <;> omega
  · simp only [List.mem_cons, List.not_mem_nil, or_false] at hb
    obtain rfl | rfl | rfl | rfl := hb <;> rw [toNat_ofNat_of_lt (by omega)] <;> omega

/-- The octets of a character that needs no escape need none either. -/
theorem plain_utf8EncodeChar {c : Char} (hctl : ¬ c.toNat < 0x20) (hquote : c ≠ '"')
    (hslash : c ≠ '\\') :
    ∀ b ∈ String.utf8EncodeChar c, ¬ b < 0x20 ∧ b ≠ 0x22 ∧ b ≠ 0x5C := by
  intro b hb
  -- the code point of an octet below 128, and no such octet in a longer character
  have hcode : b.toNat < 128 → b.toNat = c.toNat := by
    intro hsmall
    rcases Nat.lt_or_ge c.toNat 128 with hlt | hge
    · rw [utf8EncodeChar_ascii hlt, List.mem_singleton] at hb
      rw [hb, toNat_ofNat_of_lt (by omega)]
    · exact absurd (le_of_mem_utf8EncodeChar hge hb) (Nat.not_le_of_lt hsmall)
  refine ⟨fun hlt => ?_, ?_, ?_⟩
  · have hlt : b.toNat < 0x20 := UInt8.lt_iff_toNat_lt.mp hlt
    have := hcode (by omega)
    omega
  · rintro rfl
    exact hquote (Char.toNat_inj.mp (hcode (by decide)).symm)
  · rintro rfl
    exact hslash (Char.toNat_inj.mp (hcode (by decide)).symm)

theorem hexValue?_hexDigit : ∀ n < 16,
    String.utf8EncodeChar (hexDigit n) = [UInt8.ofNat (hexDigit n).toNat] ∧
      hexValue? (UInt8.ofNat (hexDigit n).toNat).toNat = some n := by
  decide

theorem numberEscape_of_hexQuad {n : Nat} (h : hexQuad s = .ok (n, rest)) (hn : n < 0xD800) :
    numberEscape s = .ok (String.utf8EncodeChar (Char.ofNat n), 4) := by
  simp only [numberEscape, h, bind, Except.bind]
  rw [if_neg (by omega), if_pos (.inl hn)]
  simp only [utf8OfChars_cons]
  exact congrArg (fun bs => Except.ok (bs, 4)) (List.append_nil _)

theorem escape_number {n : Nat} (s : Octets) (hn : n < 256) :
    escape (0x75 :: 0x30 :: 0x30 :: UInt8.ofNat (hexDigit (n / 16)).toNat ::
      UInt8.ofNat (hexDigit (n % 16)).toNat :: s) =
        .ok (String.utf8EncodeChar (Char.ofNat n), 5) := by
  obtain ⟨-, hhigh⟩ := hexValue?_hexDigit (n / 16) (by omega)
  obtain ⟨-, hlow⟩ := hexValue?_hexDigit (n % 16) (by omega)
  have hzero : hexValue? (0x30 : UInt8).toNat = some 0 := rfl
  have hquad : hexQuad (0x30 :: 0x30 :: UInt8.ofNat (hexDigit (n / 16)).toNat ::
      UInt8.ofNat (hexDigit (n % 16)).toNat :: s) = .ok (n, s) := by
    simp only [hexQuad, hzero, hhigh, hlow]
    congr 2
    omega
  have hescape := numberEscape_of_hexQuad hquad (by omega)
  simp only [escape, hescape, bind, Except.bind]
  rfl

/-- What a character is written as in a string is read as this character. -/
theorem textOctets_escapeChar (c : Char) (hs : textOctets 0 s = .ok (tail, rest)) :
    textOctets 0 (utf8OfChars (escapeChar c) ++ s) =
      .ok (String.utf8EncodeChar c ++ tail, rest) := by
  have hascii {n : Nat} (hc : c.toNat = n) (hn : n < 128) :
      String.utf8EncodeChar c = [UInt8.ofNat n] := by
    rw [utf8EncodeChar_ascii (by omega), hc]
  simp only [escapeChar, beq_iff_eq]
  split
  · next hc =>
    subst hc
    exact textOctets_escape (x := [0x22]) rfl hs
  split
  · next hc =>
    subst hc
    exact textOctets_escape (x := [0x5C]) rfl hs
  split
  · next hc =>
    rw [hascii hc (by decide)]
    exact textOctets_escape (x := [0x62]) rfl hs
  split
  · next hc =>
    rw [hascii hc (by decide)]
    exact textOctets_escape (x := [0x74]) rfl hs
  split
  · next hc =>
    rw [hascii hc (by decide)]
    exact textOctets_escape (x := [0x6E]) rfl hs
  split
  · next hc =>
    rw [hascii hc (by decide)]
    exact textOctets_escape (x := [0x66]) rfl hs
  split
  · next hc =>
    rw [hascii hc (by decide)]
    exact textOctets_escape (x := [0x72]) rfl hs
  split
  · next hctl =>
    obtain ⟨hhigh, -⟩ := hexValue?_hexDigit (c.toNat / 16) (by omega)
    obtain ⟨hlow, -⟩ := hexValue?_hexDigit (c.toNat % 16) (by omega)
    have hnumber := escape_number s (Nat.lt_trans hctl (by decide))
    rw [Char.ofNat_toNat] at hnumber
    simp only [utf8OfChars_cons, hhigh, hlow]
    exact textOctets_escape (x := [0x75, 0x30, 0x30, UInt8.ofNat (hexDigit (c.toNat / 16)).toNat,
      UInt8.ofNat (hexDigit (c.toNat % 16)).toNat]) hnumber hs
  · next hquote hslash _ _ _ _ _ hctl =>
    -- any other character stands for itself
    rw [utf8OfChars_cons, show utf8OfChars [] = [] from rfl, List.append_nil]
    exact textOctets_plain (plain_utf8EncodeChar hctl hquote hslash) hs

end

theorem textBody_escaped (t : String) (rest : Octets) :
    textBody (utf8OfChars (t.toList.flatMap escapeChar) ++ 0x22 :: rest) = .ok (t, rest) := by
  have hoctets (cs : List Char) :
      textOctets 0 (utf8OfChars (cs.flatMap escapeChar) ++ 0x22 :: rest) =
        .ok (utf8OfChars cs, rest) := by
    induction cs with
    | nil => rfl
    | cons c cs ih =>
      rw [List.flatMap_cons, utf8OfChars_append, List.append_assoc, utf8OfChars_cons]
      exact textOctets_escapeChar c ih
  simp only [textBody, hoctets, bind, Except.bind, decodeUtf8_utf8OfChars, String.ofList_toList]
  rfl

/-! ## Numbers -/

/-- What can stand behind a value: nothing, a comma, or what closes an array or an object. -/
inductive Ends : Octets → Prop where
  | nil : Ends []
  | comma (s : Octets) : Ends (0x2C :: s)
  | bracket (s : Octets) : Ends (0x5D :: s)
  | brace (s : Octets) : Ends (0x7D :: s)

section
variable {negative : Bool} {n : Nat} {rest : Octets}

theorem afterInteger_of_ends (hrest : Ends rest) :
    afterInteger negative n rest =
      if !negative then .ok (.int n, rest)
      else if n = 0 ∨ n > Nat.pow 2 63 then .ok (.float (-(UInt64.ofNat n).toFloat), rest)
      else .ok (.int (-n), rest) := by
  cases hrest <;> rfl

theorem integerDigits_of_ends (hrest : Ends rest) :
    integerDigits negative n rest = afterInteger negative n rest := by
  cases hrest <;> rfl

theorem digit?_of_isDigit {c : Char} (h : c.isDigit) :
    ∃ b, String.utf8EncodeChar c = [b] ∧ digit? b = some (c.toNat - 48) := by
  have hrange := Char.isDigit_iff_toNat.mp h
  have hrange : 48 ≤ c.toNat ∧ c.toNat ≤ 57 := hrange
  have hb : (UInt8.ofNat c.toNat).toNat = c.toNat := toNat_ofNat_of_lt (by omega)
  refine ⟨UInt8.ofNat c.toNat, utf8EncodeChar_ascii (by omega), ?_⟩
  simp only [digit?, UInt8.le_iff_toNat_le, hb, UInt8.reduceToNat]
  rw [if_pos hrange]

theorem le_ofDigitChars (ds : List Char) (n : Nat) : n ≤ Nat.ofDigitChars 10 ds n := by
  induction ds generalizing n with
  | nil => simp
  | cons c ds ih =>
    rw [Nat.ofDigitChars_cons]
    have := ih (10 * n + (c.toNat - '0'.toNat))
    omega

/-- Digits are read as the number that they write, as long as it can be held. -/
theorem integerDigits_digits {ds : List Char} (hds : ∀ c ∈ ds, c.isDigit)
    (hlimit : Nat.ofDigitChars 10 ds n ≤ significandLimit) (hrest : Ends rest) :
    integerDigits negative n (utf8OfChars ds ++ rest) =
      afterInteger negative (Nat.ofDigitChars 10 ds n) rest := by
  induction ds generalizing n with
  | nil => exact integerDigits_of_ends hrest
  | cons c ds ih =>
    rw [List.forall_mem_cons] at hds
    obtain ⟨b, hb, hdigit⟩ := digit?_of_isDigit hds.1
    rw [Nat.ofDigitChars_cons, Nat.mul_comm] at hlimit ⊢
    -- what has been read so far is no more than the whole number
    have hle := le_ofDigitChars ds (n * 10 + (c.toNat - '0'.toNat))
    have hsmall : ¬ n * 10 + (c.toNat - 48) > significandLimit :=
      Nat.not_lt.mpr (Nat.le_trans hle hlimit)
    rw [utf8OfChars_cons, hb, List.append_assoc, List.singleton_append]
    simp only [integerDigits, hdigit, if_neg hsmall]
    exact ih hds.2 hlimit

theorem toDigits_of_pos (hn : 0 < n) :
    ∃ d ds, Nat.toDigits 10 n = Nat.digitChar (d + 1) :: ds ∧ d + 1 < 10 ∧
      (∀ c ∈ ds, c.isDigit) ∧ Nat.ofDigitChars 10 ds (d + 1) = n := by
  induction n using Nat.strongRecOn with
  | ind n ih =>
    rcases Nat.lt_or_ge n 10 with hlt | hge
    · obtain ⟨d, rfl⟩ : ∃ d, n = d + 1 := ⟨n - 1, by omega⟩
      refine ⟨d, [], Nat.toDigits_of_lt_base hlt, hlt, ?_, Nat.ofDigitChars_nil⟩
      intro c hc
      cases hc
    · obtain ⟨d, ds, hdigits, hd, hds, hvalue⟩ := ih (n / 10) (by omega) (by omega)
      have hlast : n % 10 < 10 := Nat.mod_lt n (by decide)
      refine ⟨d, ds ++ [Nat.digitChar (n % 10)], ?_, hd, fun c hc => ?_, ?_⟩
      · rw [Nat.toDigits_of_base_le (by decide) hge, hdigits, List.cons_append]
      · rcases List.mem_append.mp hc with hc | hc
        · exact hds c hc
        · rw [List.mem_singleton.mp hc, Nat.isDigit_digitChar]
          exact decide_eq_true hlast
      · rw [Nat.ofDigitChars_append, hvalue, Nat.ofDigitChars_cons_digitChar_of_lt_ten hlast,
          Nat.ofDigitChars_nil]
        omega

theorem number_decimal (hn : n ≤ significandLimit) (hrest : Ends rest) :
    number negative (utf8OfChars (decimal n) ++ rest) = afterInteger negative n rest := by
  rcases Nat.eq_zero_or_pos n with rfl | hpos
  · cases hrest <;> rfl
  · obtain ⟨d, ds, hdigits, hd, hds, hvalue⟩ := toDigits_of_pos hpos
    have hisDigit : (Nat.digitChar (d + 1)).isDigit := by
      rw [Nat.isDigit_digitChar]
      exact decide_eq_true hd
    obtain ⟨b, hb, hdigit⟩ := digit?_of_isDigit hisDigit
    have hcode : (Nat.digitChar (d + 1)).toNat - 48 = d + 1 :=
      Nat.toNat_digitChar_sub_48_of_lt_ten hd
    rw [decimal, hdigits, utf8OfChars_cons, hb, List.append_assoc, List.singleton_append]
    rw [hcode] at hdigit
    simp only [number, hdigit]
    rw [integerDigits_digits hds (by rw [hvalue]; exact hn) hrest, hvalue]

end

/-! ## Trees -/

/-- A tree without floating-point numbers whose arrays and objects nest at most so deep. -/
inductive Nests : Nat → Json → Prop where
  | null {depth : Nat} : Nests depth .null
  | flag {depth : Nat} (b : Bool) : Nests depth (.flag b)
  | int {depth : Nat} (n : Int) : Nests depth (.int n)
  | text {depth : Nat} (s : String) : Nests depth (.text s)
  | array {depth : Nat} {items : List Json} : (∀ j ∈ items, Nests depth j) →
    Nests (depth + 1) (.array items)
  | object {depth : Nat} {fields : List (String × Json)} : (∀ f ∈ fields, Nests depth f.2) →
    Nests (depth + 1) (.object fields)

theorem Nests.mono {depth : Nat} {j : Json} (h : Nests depth j) {limit : Nat}
    (hle : depth ≤ limit) : Nests limit j := by
  induction h generalizing limit with
  | null => exact .null
  | flag b => exact .flag b
  | int n => exact .int n
  | text s => exact .text s
  | array _ ih =>
    obtain ⟨limit, rfl⟩ : ∃ m, limit = m + 1 := ⟨limit - 1, by omega⟩
    exact .array fun j hj => ih j hj (Nat.le_of_succ_le_succ hle)
  | object _ ih =>
    obtain ⟨limit, rfl⟩ : ∃ m, limit = m + 1 := ⟨limit - 1, by omega⟩
    exact .object fun f hf => ih f hf (Nat.le_of_succ_le_succ hle)

def octets (j : Json) : Octets := utf8OfChars j.chars

/-- A reader takes the document of a tree off the front, and gives a value for it. -/
def ReadsAs {α : Type} (element : Reader α) (j : Json) (a : α) : Prop :=
  ∀ rest, Ends rest → element (j.octets ++ rest) = .ok (a, rest)

/-- A reader takes the document of a tree off the front. -/
def Reads (element : Reader Json) (j : Json) : Prop :=
  ∀ rest, Ends rest → element (j.octets ++ rest) = .ok (j, rest)

/-- The document of a tree starts with something that is no blank and closes no array. -/
def Starts (j : Json) : Prop :=
  ∃ b s, j.octets = b :: s ∧ isBlankOctet b = false ∧ b ≠ 0x5D

theorem skipBlank_cons {b : UInt8} (h : isBlankOctet b = false) (s : Octets) :
    skipBlank (b :: s) = b :: s := by
  rw [skipBlank, List.dropWhile_cons_of_neg]
  rw [h]
  exact Bool.false_ne_true

theorem octet_of_digit? {b : UInt8} {d : Nat} (h : digit? b = some d) :
    isBlankOctet b = false ∧ ∀ m, digit? m = none → b ≠ m := by
  have hne (m : UInt8) (hm : digit? m = none) : b ≠ m := by
    rintro rfl
    rw [hm] at h
    cases h
  refine ⟨?_, hne⟩
  simp only [isBlankOctet, beq_false_of_ne (hne 0x20 rfl), beq_false_of_ne (hne 0x0A rfl),
    beq_false_of_ne (hne 0x0D rfl), beq_false_of_ne (hne 0x09 rfl)]
  rfl

theorem octets_decimal (n : Nat) :
    ∃ b d s, utf8OfChars (decimal n) = b :: s ∧ digit? b = some d := by
  obtain ⟨c, cs, hcs⟩ := List.exists_cons_of_ne_nil (Nat.toDigits_ne_nil (n := n) (b := 10))
  have hc : c.isDigit := by
    refine Nat.isDigit_of_mem_toDigits (b := 10) (n := n) (by decide) (by decide) ?_
    rw [hcs]
    exact List.mem_cons_self
  obtain ⟨b, hb, hdigit⟩ := digit?_of_isDigit hc
  refine ⟨b, _, utf8OfChars cs, ?_, hdigit⟩
  rw [decimal, hcs, utf8OfChars_cons, hb, List.singleton_append]

theorem starts_of_nests {depth : Nat} {j : Json} (h : Nests depth j) : j.Starts := by
  cases h with
  | null => exact ⟨_, _, rfl, rfl, by decide⟩
  | flag b => cases b <;> exact ⟨_, _, rfl, rfl, by decide⟩
  | int n =>
    simp only [Starts, octets, chars, decimalInt]
    split
    · exact ⟨_, _, rfl, rfl, by decide⟩
    · obtain ⟨b, d, s, hs, hdigit⟩ := octets_decimal n.natAbs
      obtain ⟨hblank, hne⟩ := octet_of_digit? hdigit
      exact ⟨b, s, hs, hblank, hne 0x5D rfl⟩
  | text s => exact ⟨_, _, rfl, rfl, by decide⟩
  | array => exact ⟨_, _, rfl, rfl, by decide⟩
  | object => exact ⟨_, _, rfl, rfl, by decide⟩

/-! ## Values that hold no others -/

theorem value_eq_scalar {b : UInt8} (hblank : isBlankOctet b = false) (harray : b ≠ 0x5B)
    (hobject : b ≠ 0x7B) (depth : Nat) (s : Octets) : value depth (b :: s) = scalar b s := by
  cases depth with
  | zero =>
    simp only [value, skipBlank_cons hblank]
    rw [if_neg (not_or.mpr ⟨harray, hobject⟩)]
  | succ depth => simp only [value, skipBlank_cons hblank, if_neg harray, if_neg hobject]

theorem scalar_digit {b : UInt8} {d : Nat} (h : digit? b = some d) (s : Octets) :
    scalar b s = do
      let (n, rest) ← number false (b :: s)
      return (n.toJson, rest) := by
  obtain ⟨-, hne⟩ := octet_of_digit? h
  simp only [scalar, if_neg (hne 0x6E rfl), if_neg (hne 0x74 rfl), if_neg (hne 0x66 rfl),
    if_neg (hne 0x2D rfl), h, Option.isSome_some, if_true]

theorem scalar_minus (s : Octets) :
    scalar 0x2D s = do
      let (n, rest) ← number true s
      return (n.toJson, rest) := rfl

theorem scalar_quote (s : Octets) :
    scalar 0x22 s = do
      let (t, rest) ← textBody s
      return (.text t, rest) := rfl

theorem reads_int {n : Int} (hlow : -9223372036854775808 ≤ n) (hhigh : n ≤ 18446744073709551615)
    (depth : Nat) : Reads (value depth) (.int n) := by
  intro rest hrest
  have hlimit : n.natAbs ≤ significandLimit := by
    have : significandLimit = 2 ^ 64 - 1 := rfl
    omega
  simp only [octets, chars, decimalInt]
  split
  · next hneg =>
    -- minus zero, or a number below the range, would be read as a double
    have hrange : ¬ (n.natAbs = 0 ∨ n.natAbs > Nat.pow 2 63) := by
      have : Nat.pow 2 63 = 2 ^ 63 := rfl
      omega
    have hnumber : number true (utf8OfChars (decimal n.natAbs) ++ rest) = _ :=
      number_decimal hlimit hrest
    rw [afterInteger_of_ends hrest, if_neg (by decide), if_neg hrange] at hnumber
    have hminus : utf8OfChars ('-' :: decimal n.natAbs) = 0x2D :: utf8OfChars (decimal n.natAbs) :=
      rfl
    have hn : -(n.natAbs : Int) = n := by omega
    rw [hminus, List.cons_append, value_eq_scalar rfl (by decide) (by decide), scalar_minus,
      hnumber, hn]
    rfl
  · next hpos =>
    have hnumber : number false (utf8OfChars (decimal n.natAbs) ++ rest) = _ :=
      number_decimal hlimit hrest
    rw [afterInteger_of_ends hrest, if_pos (by decide)] at hnumber
    obtain ⟨b, d, s, hs, hdigit⟩ := octets_decimal n.natAbs
    obtain ⟨hblank, hne⟩ := octet_of_digit? hdigit
    have hn : (n.natAbs : Int) = n := by omega
    rw [hs, List.cons_append] at hnumber ⊢
    rw [value_eq_scalar hblank (hne 0x5B rfl) (hne 0x7B rfl), scalar_digit hdigit, hnumber, hn]
    rfl

theorem octets_text (t : String) (rest : Octets) :
    (Json.text t).octets ++ rest =
      0x22 :: (utf8OfChars (t.toList.flatMap escapeChar) ++ 0x22 :: rest) := by
  simp only [octets, chars, textLiteral, List.cons_append]
  rw [utf8OfChars_cons, utf8OfChars_append, List.append_assoc, List.append_assoc]
  rfl

theorem reads_text (t : String) (depth : Nat) : Reads (value depth) (.text t) := by
  intro rest hrest
  rw [octets_text, value_eq_scalar rfl (by decide) (by decide), scalar_quote, textBody_escaped]
  rfl

theorem reads_null (depth : Nat) : Reads (value depth) .null := by
  intro rest hrest
  exact value_eq_scalar (b := 0x6E) rfl (by decide) (by decide) depth _

theorem reads_flag (b : Bool) (depth : Nat) : Reads (value depth) (.flag b) := by
  intro rest hrest
  cases b with
  | true => exact value_eq_scalar (b := 0x74) rfl (by decide) (by decide) depth _
  | false => exact value_eq_scalar (b := 0x66) rfl (by decide) (by decide) depth _

/-! ## Arrays and objects -/

/-- The elements of an array after the first, each with its comma. -/
def moreItems (l : List Json) : List Char := l.flatMap fun j => ',' :: chars j

theorem itemChars_cons (j : Json) (l : List Json) :
    itemChars (j :: l) = chars j ++ moreItems l := by
  induction l generalizing j with
  | nil => simp [itemChars, moreItems]
  | cons k l ih =>
    rw [itemChars, ih]
    · simp [moreItems]
    · simp

def fieldText (f : String × Json) : List Char := textLiteral f.1 ++ ':' :: chars f.2

/-- The fields of an object after the first, each with its comma. -/
def moreFields (l : List (String × Json)) : List Char := l.flatMap fun f => ',' :: fieldText f

theorem fieldChars_cons (f : String × Json) (l : List (String × Json)) :
    fieldChars (f :: l) = fieldText f ++ moreFields l := by
  induction l generalizing f with
  | nil => simp [fieldChars, fieldText, moreFields]
  | cons g l ih =>
    rw [fieldChars, ih]
    · simp [fieldText, moreFields]
    · simp

section
variable {element : Reader Json} {rest : Octets}

theorem ends_moreItems (l : List Json) (rest : Octets) :
    Ends (utf8OfChars (moreItems l) ++ 0x5D :: rest) := by
  cases l with
  | nil => exact .bracket rest
  | cons j l => exact .comma _

theorem ends_moreFields (l : List (String × Json)) (rest : Octets) :
    Ends (utf8OfChars (moreFields l) ++ 0x7D :: rest) := by
  cases l with
  | nil => exact .brace rest
  | cons f l => exact .comma _

theorem items_more {l : List Json} (hl : ∀ j ∈ l, Reads element j ∧ j.Starts) {fuel : Nat}
    (hfuel : l.length < fuel) :
    items element fuel false (utf8OfChars (moreItems l) ++ 0x5D :: rest) = .ok (l, rest) := by
  induction l generalizing fuel with
  | nil =>
    obtain ⟨fuel, rfl⟩ : ∃ m, fuel = m + 1 := ⟨fuel - 1, by omega⟩
    rfl
  | cons j l ih =>
    obtain ⟨fuel, rfl⟩ : ∃ m, fuel = m + 1 := ⟨fuel - 1, by omega⟩
    rw [List.length_cons] at hfuel
    rw [List.forall_mem_cons] at hl
    obtain ⟨⟨hreads, b, s, hs, hblank, hclose⟩, hl⟩ := hl
    have helement := hreads _ (ends_moreItems l rest)
    have hoctets : utf8OfChars (moreItems (j :: l)) ++ 0x5D :: rest =
        0x2C :: b :: (s ++ (utf8OfChars (moreItems l) ++ 0x5D :: rest)) := by
      rw [moreItems, List.flatMap_cons, ← moreItems, List.cons_append, utf8OfChars_cons,
        utf8OfChars_append, ← octets, hs, List.append_assoc, List.append_assoc]
      rfl
    rw [hs, List.cons_append] at helement
    rw [hoctets]
    simp only [items, skipBlank_cons (b := 0x2C) rfl, skipBlank_cons hblank, hclose, if_false,
      helement, bind, Except.bind, ih hl (by omega : l.length < fuel)]
    rfl

/-- There are at least as many octets as there are elements, each with its comma. -/
theorem length_le_octets {α : Type} (f : α → List Char) (l : List α) :
    l.length ≤ (utf8OfChars (l.flatMap fun a => ',' :: f a)).length := by
  induction l with
  | nil => exact Nat.le_refl 0
  | cons a l ih =>
    rw [List.flatMap_cons, List.cons_append, utf8OfChars_cons, utf8OfChars_append]
    have hcomma : (String.utf8EncodeChar ',').length = 1 := rfl
    simp only [List.length_append, List.length_cons, hcomma]
    omega

/-- Every element after the first has a comma, so the octets are fuel enough. -/
theorem length_lt_items (s : Octets) (l : List Json) (rest : Octets) :
    l.length < (s ++ (utf8OfChars (moreItems l) ++ 0x5D :: rest)).length := by
  have hlength := length_le_octets chars l
  rw [← moreItems] at hlength
  simp only [List.length_append, List.length_cons]
  omega

/-- Every field after the first has a comma, so the octets are fuel enough. -/
theorem length_lt_fields (s : Octets) (l : List (String × Json)) (rest : Octets) :
    l.length < (s ++ (utf8OfChars (moreFields l) ++ 0x7D :: rest)).length := by
  have hlength := length_le_octets fieldText l
  rw [← moreFields] at hlength
  simp only [List.length_append, List.length_cons]
  omega

theorem items_itemChars {l : List Json} (hl : ∀ j ∈ l, Reads element j ∧ j.Starts)
    (rest : Octets) :
    items element ((utf8OfChars (itemChars l) ++ 0x5D :: rest).length + 1) true
      (utf8OfChars (itemChars l) ++ 0x5D :: rest) = .ok (l, rest) := by
  cases l with
  | nil =>
    simp only [itemChars]
    rfl
  | cons j l =>
    rw [List.forall_mem_cons] at hl
    obtain ⟨⟨hreads, b, s, hs, hblank, hclose⟩, hl⟩ := hl
    have helement := hreads _ (ends_moreItems l rest)
    have henough := length_lt_items j.octets l rest
    rw [itemChars_cons, utf8OfChars_append, List.append_assoc, ← octets]
    generalize (j.octets ++ (utf8OfChars (moreItems l) ++ 0x5D :: rest)).length = fuel at henough ⊢
    have hmore : items element fuel false (utf8OfChars (moreItems l) ++ 0x5D :: rest) =
        .ok (l, rest) := items_more hl henough
    rw [hs, List.cons_append] at helement ⊢
    simp only [items, skipBlank_cons hblank, hclose, if_false, if_true, helement, bind,
      Except.bind, hmore]
    rfl

theorem octets_fieldText (f : String × Json) (rest : Octets) :
    utf8OfChars (fieldText f) ++ rest =
      0x22 :: (utf8OfChars (f.1.toList.flatMap escapeChar) ++
        0x22 :: 0x3A :: (f.2.octets ++ rest)) := by
  simp only [fieldText, textLiteral, List.cons_append, List.append_assoc]
  rw [utf8OfChars_cons, utf8OfChars_append, List.append_assoc, List.append_assoc]
  rfl

end

section
variable {α : Type} {element : Reader α} {write : α → Json} {rest : Octets}

theorem field_fieldText {f : String × α} (hf : ReadsAs element (write f.2) f.2)
    (hrest : Ends rest) :
    field element (utf8OfChars (f.1.toList.flatMap escapeChar) ++
      0x22 :: 0x3A :: ((write f.2).octets ++ rest)) = .ok (f, rest) := by
  have hcolon :
      colon (0x3A :: ((write f.2).octets ++ rest)) = .ok ((), (write f.2).octets ++ rest) := rfl
  simp only [field, textBody_escaped, bind, Except.bind, hcolon, hf rest hrest]
  rfl

def written (write : α → Json) (l : List (String × α)) : List (String × Json) :=
  l.map fun f => (f.1, write f.2)

theorem length_written (write : α → Json) (l : List (String × α)) :
    (written write l).length = l.length := List.length_map _

theorem octets_moreFields_cons (f : String × Json) (l : List (String × Json)) (rest : Octets) :
    utf8OfChars (moreFields (f :: l)) ++ 0x7D :: rest =
      0x2C :: (utf8OfChars (fieldText f) ++ (utf8OfChars (moreFields l) ++ 0x7D :: rest)) := by
  rw [moreFields, List.flatMap_cons, ← moreFields, List.cons_append, utf8OfChars_cons,
    utf8OfChars_append, List.append_assoc, List.append_assoc]
  rfl

theorem fields_more {l : List (String × α)} (hl : ∀ f ∈ l, ReadsAs element (write f.2) f.2)
    {fuel : Nat} (hfuel : l.length < fuel) :
    fields element fuel false (utf8OfChars (moreFields (written write l)) ++ 0x7D :: rest) =
      .ok (l, rest) := by
  induction l generalizing fuel with
  | nil =>
    obtain ⟨fuel, rfl⟩ : ∃ m, fuel = m + 1 := ⟨fuel - 1, by omega⟩
    rfl
  | cons f l ih =>
    obtain ⟨fuel, rfl⟩ : ∃ m, fuel = m + 1 := ⟨fuel - 1, by omega⟩
    rw [List.length_cons] at hfuel
    rw [List.forall_mem_cons] at hl
    have hfield := field_fieldText hl.1 (ends_moreFields (written write l) rest)
    have hcons : written write (f :: l) = (f.1, write f.2) :: written write l := rfl
    rw [hcons, octets_moreFields_cons, octets_fieldText]
    simp only [fields, skipBlank_cons (b := 0x2C) rfl, skipBlank_cons (b := 0x22) rfl, if_true,
      hfield, bind, Except.bind, ih hl.2 (by omega : l.length < fuel)]
    rfl

theorem fields_fieldChars (write : α → Json) {l : List (String × α)}
    (hl : ∀ f ∈ l, ReadsAs element (write f.2) f.2) (rest : Octets) :
    fields element ((utf8OfChars (fieldChars (written write l)) ++ 0x7D :: rest).length + 1) true
      (utf8OfChars (fieldChars (written write l)) ++ 0x7D :: rest) = .ok (l, rest) := by
  cases l with
  | nil =>
    simp only [written, List.map_nil, fieldChars]
    rfl
  | cons f l =>
    rw [List.forall_mem_cons] at hl
    have hfield := field_fieldText hl.1 (ends_moreFields (written write l) rest)
    have hcons : written write (f :: l) = (f.1, write f.2) :: written write l := rfl
    have henough :=
      length_lt_fields (utf8OfChars (fieldText (f.1, write f.2))) (written write l) rest
    rw [length_written] at henough
    rw [hcons, fieldChars_cons, utf8OfChars_append, List.append_assoc]
    generalize (utf8OfChars (fieldText (f.1, write f.2)) ++
      (utf8OfChars (moreFields (written write l)) ++ 0x7D :: rest)).length = fuel at henough ⊢
    have hmore : fields element fuel false
        (utf8OfChars (moreFields (written write l)) ++ 0x7D :: rest) = .ok (l, rest) :=
      fields_more hl.2 henough
    rw [octets_fieldText]
    simp only [fields, skipBlank_cons (b := 0x22) rfl, if_true, hfield, bind, Except.bind, hmore]
    rfl

end

/-! ## Documents -/

theorem octets_object (l : List (String × Json)) (rest : Octets) :
    (Json.object l).octets ++ rest = 0x7B :: (utf8OfChars (fieldChars l) ++ 0x7D :: rest) := by
  simp only [octets, chars, List.cons_append]
  rw [utf8OfChars_cons, utf8OfChars_append, List.append_assoc, List.append_assoc]
  rfl

theorem value_array (depth : Nat) (s : Octets) :
    value (depth + 1) (0x5B :: s) = do
      let (xs, rest) ← items (value depth) (s.length + 1) true s
      return (.array xs, rest) := rfl

theorem value_object (depth : Nat) (s : Octets) :
    value (depth + 1) (0x7B :: s) = do
      let (fs, rest) ← fields (value depth) (s.length + 1) true s
      return (objectOf fs, rest) := rfl

/-- A tree that nests no deeper than the reader goes is read back. -/
theorem reads_of_nests {depth : Nat} {j : Json} (hnests : Nests depth j) (hj : Proper j) :
    Reads (value depth) j := by
  induction hnests with
  | null => exact reads_null _
  | flag b => exact reads_flag b _
  | int n =>
    cases hj with
    | int hlow hhigh => exact reads_int hlow hhigh _
  | text s => exact reads_text s _
  | @array depth l hl ih =>
    cases hj with
    | array hproper =>
      intro rest hrest
      have hitems := items_itemChars
        (fun j hj => ⟨ih j hj (hproper j hj), starts_of_nests (hl j hj)⟩) rest
      have hoctets : (Json.array l).octets ++ rest =
          0x5B :: (utf8OfChars (itemChars l) ++ 0x5D :: rest) := by
        simp only [octets, chars, List.cons_append]
        rw [utf8OfChars_cons, utf8OfChars_append, List.append_assoc, List.append_assoc]
        rfl
      rw [hoctets, value_array, hitems]
      rfl
  | @object depth l hl ih =>
    cases hj with
    | object hordered hproper =>
      intro rest hrest
      have hwritten : written id l = l := List.map_id l
      have hfields := fields_fieldChars id (fun f hf => ih f hf (hproper f hf)) rest
      rw [hwritten] at hfields
      have hobject : objectOf l = .object l :=
        congrArg Json.object (Dictionary.ofEntries_of_ordered hordered)
      rw [octets_object, value_object, hfields, ← hobject]
      rfl

/-- A proper document that nests at most `maxDepth` deep is parsed as the tree it was written
from. -/
theorem parse_octets {j : Json} (hnests : Nests maxDepth j) (hj : Proper j) :
    parse j.octets = .ok j := by
  have hvalue := reads_of_nests hnests hj [] .nil
  rw [List.append_nil] at hvalue
  simp only [parse, ofOctets, whole, hvalue, bind, Except.bind]
  rfl

end Json
end Endpoint
