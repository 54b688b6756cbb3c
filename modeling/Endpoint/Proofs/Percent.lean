import Endpoint.Proofs.Utf8
import Endpoint.Text.Percent

/-!
Percent-encoding is undone by decoding (`percentDecode_percentEncode`), as long as no octet that is
left alone is the percent sign itself. In an escaped field there are unreserved characters and
percent signs and nothing else (`mem_percentField`), so none of the marks that fields are joined
with.
-/
namespace Endpoint.Text

theorem hexValue?_hexDigitCapital : ∀ n < 16,
    (hexDigitCapital n).toNat < 128 ∧
      hexValue? (UInt8.ofNat (hexDigitCapital n).toNat).toNat = some n := by
  decide

theorem utf8OfChars_percentOctet (b : UInt8) : utf8OfChars (percentOctet b) =
    [0x25, UInt8.ofNat (hexDigitCapital (b.toNat / 16)).toNat,
      UInt8.ofNat (hexDigitCapital (b.toNat % 16)).toNat] := by
  have hb := b.toNat_lt
  obtain ⟨hhigh, -⟩ := hexValue?_hexDigitCapital (b.toNat / 16) (by omega)
  obtain ⟨hlow, -⟩ := hexValue?_hexDigitCapital (b.toNat % 16) (by omega)
  rw [percentOctet, utf8OfChars_cons, utf8OfChars_cons, utf8OfChars_cons,
    utf8EncodeChar_ascii hhigh, utf8EncodeChar_ascii hlow]
  rfl

theorem percentDecode_cons {b : UInt8} (h : b ≠ 0x25) (rest : Octets) :
    percentDecode (b :: rest) = b :: percentDecode rest := by
  have hne : (b == 0x25) = false := beq_eq_false_iff_ne.mpr h
  rw [percentDecode.eq_def]
  simp only [hne, Bool.false_eq_true, if_false]

theorem percentDecode_percentOctet (b : UInt8) (rest : Octets) :
    percentDecode (utf8OfChars (percentOctet b) ++ rest) = b :: percentDecode rest := by
  have hb := b.toNat_lt
  obtain ⟨-, hhigh⟩ := hexValue?_hexDigitCapital (b.toNat / 16) (by omega)
  obtain ⟨-, hlow⟩ := hexValue?_hexDigitCapital (b.toNat % 16) (by omega)
  have hsum : b.toNat / 16 * 16 + b.toNat % 16 = b.toNat := by omega
  rw [utf8OfChars_percentOctet]
  simp only [List.cons_append, List.nil_append, percentDecode, beq_self_eq_true, if_true, hhigh,
    hlow, hsum, UInt8.ofNat_toNat]

/-- **Escaping is undone.** -/
theorem percentDecode_percentEncode {plain : UInt8 → Bool}
    (h : ∀ b, plain b = true → b.toNat < 128 ∧ b ≠ 0x25) (bs : Octets) :
    percentDecode (utf8OfChars (percentEncode plain bs)) = bs := by
  induction bs with
  | nil => rfl
  | cons b bs ih =>
    have hcons : percentEncode plain (b :: bs) =
        (if plain b then [Char.ofNat b.toNat] else percentOctet b) ++ percentEncode plain bs := rfl
    rw [hcons, utf8OfChars_append]
    split
    · next hb =>
      obtain ⟨hascii, hpercent⟩ := h b hb
      rw [utf8OfChars_cons, utf8EncodeChar_ofNat hascii]
      exact (percentDecode_cons hpercent _).trans (congrArg (b :: ·) ih)
    · rw [percentDecode_percentOctet, ih]

/-! ## Fields -/

theorem unreserved_ne {b : UInt8} (h : isUnreserved b = true) :
    b.toNat < 128 ∧ b ≠ 0x25 ∧ b ≠ 0x26 ∧ b ≠ 0x2B ∧ b ≠ 0x3D := by
  simp only [isUnreserved, isAlphanumeric, Bool.or_eq_true, Bool.and_eq_true, decide_eq_true_eq,
    beq_iff_eq, UInt8.le_iff_toNat_le, ne_eq, ← UInt8.toNat_inj, UInt8.reduceToNat] at h ⊢
  omega

/-- What an escaped field is made of: unreserved characters and percent signs. -/
theorem mem_percentField {c : Char} {s : String} (h : c ∈ percentField s) :
    ∃ b : UInt8, (isUnreserved b = true ∨ b = 0x25) ∧ c = Char.ofNat b.toNat := by
  have hdigit : ∀ n < 16, isUnreserved (UInt8.ofNat (hexDigitCapital n).toNat) = true ∧
      hexDigitCapital n = Char.ofNat (UInt8.ofNat (hexDigitCapital n).toNat).toNat := by
    decide
  obtain ⟨b, -, hb⟩ := List.mem_flatMap.mp h
  have hlt := b.toNat_lt
  split at hb
  · next hplain => exact ⟨b, .inl hplain, List.mem_singleton.mp hb⟩
  · simp only [percentOctet, List.mem_cons, List.not_mem_nil, or_false] at hb
    rcases hb with rfl | rfl | rfl
    · exact ⟨0x25, .inr rfl, rfl⟩
    · obtain ⟨hplain, hchar⟩ := hdigit (b.toNat / 16) (by omega)
      exact ⟨_, .inl hplain, hchar⟩
    · obtain ⟨hplain, hchar⟩ := hdigit (b.toNat % 16) (by omega)
      exact ⟨_, .inl hplain, hchar⟩

end Endpoint.Text
