import Endpoint.Proofs.Text
import Endpoint.Text.Utf8

/-!
Octets of a text are read back as this text. An encoded character has one to four octets; `scan`
knows their number by the first and refuses no encoded character: the second octet of one is never
overlong, no surrogate and not out of range. Texts and their octets are in one order (`utf8_lt`).
-/
namespace Endpoint.Text

variable {b f : UInt8}

theorem utf8Width_one (h : b.toNat < 0x80) : utf8Width b = some 1 :=
  if_pos (UInt8.lt_iff_toNat_lt.mpr h)

theorem utf8Width_two (h : 0xC2 ≤ b.toNat) (h' : b.toNat ≤ 0xDF) : utf8Width b = some 2 := by
  simp only [utf8Width, UInt8.lt_iff_toNat_lt, UInt8.le_iff_toNat_le, UInt8.reduceToNat]
  rw [if_neg (by omega), if_pos (by omega)]

theorem utf8Width_three (h : 0xE0 ≤ b.toNat) (h' : b.toNat ≤ 0xEF) : utf8Width b = some 3 := by
  simp only [utf8Width, UInt8.lt_iff_toNat_lt, UInt8.le_iff_toNat_le, UInt8.reduceToNat]
  rw [if_neg (by omega), if_neg (by omega), if_pos (by omega)]

theorem utf8Width_four (h : 0xF0 ≤ b.toNat) (h' : b.toNat ≤ 0xF4) : utf8Width b = some 4 := by
  simp only [utf8Width, UInt8.lt_iff_toNat_lt, UInt8.le_iff_toNat_le, UInt8.reduceToNat]
  rw [if_neg (by omega), if_neg (by omega), if_neg (by omega), if_pos (by omega)]

theorem isContinuation_of (h : 0x80 ≤ b.toNat) (h' : b.toNat ≤ 0xBF) :
    isContinuation b = true := by
  simp only [isContinuation, UInt8.le_iff_toNat_le, UInt8.reduceToNat, Bool.and_eq_true,
    decide_eq_true_eq]
  omega

/-- A continuation may follow a first octet, unless this is one of four that want more of it. -/
theorem isSecond_of (h : 0x80 ≤ b.toNat) (h' : b.toNat ≤ 0xBF)
    (hE0 : f.toNat = 0xE0 → 0xA0 ≤ b.toNat) (hED : f.toNat = 0xED → b.toNat ≤ 0x9F)
    (hF0 : f.toNat = 0xF0 → 0x90 ≤ b.toNat) (hF4 : f.toNat = 0xF4 → b.toNat ≤ 0x8F) :
    isSecond f b = true := by
  have hne {n : UInt8} : (f == n) = true → f.toNat = n.toNat := fun heq =>
    congrArg UInt8.toNat (eq_of_beq heq)
  unfold isSecond
  split
  · next heq =>
    have := hE0 (hne heq)
    simp only [UInt8.le_iff_toNat_le, UInt8.reduceToNat, Bool.and_eq_true, decide_eq_true_eq]
    omega
  split
  · next heq =>
    have := hED (hne heq)
    simp only [UInt8.le_iff_toNat_le, UInt8.reduceToNat, Bool.and_eq_true, decide_eq_true_eq]
    omega
  split
  · next heq =>
    have := hF0 (hne heq)
    simp only [UInt8.le_iff_toNat_le, UInt8.reduceToNat, Bool.and_eq_true, decide_eq_true_eq]
    omega
  split
  · next heq =>
    have := hF4 (hne heq)
    simp only [UInt8.le_iff_toNat_le, UInt8.reduceToNat, Bool.and_eq_true, decide_eq_true_eq]
    omega
  · exact isContinuation_of h h'

/-! ## One character -/

section
variable {b0 b1 b2 b3 : UInt8} {rest : Octets}

theorem scan_one (h : b0.toNat < 0x80) :
    scan (b0 :: rest) = .character (Char.ofNat b0.toNat) 1 := by
  simp only [scan, utf8Width_one h]

theorem scan_two (hwidth : utf8Width b0 = some 2) (h1 : isSecond b0 b1 = true) :
    scan (b0 :: b1 :: rest) = .character (Char.ofNat (b0.toNat % 32 * 64 + b1.toNat % 64)) 2 := by
  simp [scan, hwidth, h1]

theorem scan_three (hwidth : utf8Width b0 = some 3) (h1 : isSecond b0 b1 = true)
    (h2 : isContinuation b2 = true) :
    scan (b0 :: b1 :: b2 :: rest) =
      .character (Char.ofNat ((b0.toNat % 16 * 64 + b1.toNat % 64) * 64 + b2.toNat % 64)) 3 := by
  simp [scan, hwidth, h1, h2]

theorem scan_four (hwidth : utf8Width b0 = some 4) (h1 : isSecond b0 b1 = true)
    (h2 : isContinuation b2 = true) (h3 : isContinuation b3 = true) :
    scan (b0 :: b1 :: b2 :: b3 :: rest) = .character (Char.ofNat
      (((b0.toNat % 8 * 64 + b1.toNat % 64) * 64 + b2.toNat % 64) * 64 + b3.toNat % 64)) 4 := by
  simp [scan, hwidth, h1, h2, h3]

end

theorem toNat_ofNat_of_lt {n : Nat} (h : n < 256) : (UInt8.ofNat n).toNat = n := by
  rw [UInt8.toNat_ofNat', Nat.mod_eq_of_lt h]

theorem scan_utf8EncodeChar (c : Char) (rest : Octets) :
    scan (String.utf8EncodeChar c ++ rest) = .character c (String.utf8EncodeChar c).length := by
  obtain ⟨v, hv⟩ : ∃ v, v = c.val.toNat := ⟨_, rfl⟩
  have hvalid : v < 0xD800 ∨ 0xDFFF < v ∧ v < 0x110000 := hv ▸ c.valid
  have hchar {n : Nat} (hn : n = v) : Char.ofNat n = c := by
    rw [hn, hv]
    exact Char.ofNat_toNat c
  simp only [String.utf8EncodeChar, ← hv]
  split
  · have h0 : (UInt8.ofNat v).toNat = v := toNat_ofNat_of_lt (by omega)
    rw [List.singleton_append, scan_one (by omega), hchar h0, List.length_singleton]
  split
  · have h0 : (UInt8.ofNat (v / 64 % 32 + 192)).toNat = v / 64 % 32 + 192 :=
      toNat_ofNat_of_lt (by omega)
    have h1 : (UInt8.ofNat (v % 64 + 128)).toNat = v % 64 + 128 := toNat_ofNat_of_lt (by omega)
    have hsecond : isSecond (UInt8.ofNat (v / 64 % 32 + 192)) (UInt8.ofNat (v % 64 + 128)) = true :=
      isSecond_of (by omega) (by omega) (by omega) (by omega) (by omega) (by omega)
    rw [List.cons_append, List.singleton_append,
      scan_two (utf8Width_two (by omega) (by omega)) hsecond, hchar (by omega)]
    rfl
  split
  · have h0 : (UInt8.ofNat (v / 4096 % 16 + 224)).toNat = v / 4096 % 16 + 224 :=
      toNat_ofNat_of_lt (by omega)
    have h1 : (UInt8.ofNat (v / 64 % 64 + 128)).toNat = v / 64 % 64 + 128 :=
      toNat_ofNat_of_lt (by omega)
    have h2 : (UInt8.ofNat (v % 64 + 128)).toNat = v % 64 + 128 := toNat_ofNat_of_lt (by omega)
    have hsecond : isSecond (UInt8.ofNat (v / 4096 % 16 + 224))
        (UInt8.ofNat (v / 64 % 64 + 128)) = true :=
      isSecond_of (by omega) (by omega) (by omega) (by omega) (by omega) (by omega)
    simp only [List.cons_append, List.nil_append]
    rw [scan_three (utf8Width_three (by omega) (by omega)) hsecond
      (isContinuation_of (by omega) (by omega)), hchar (by omega)]
    rfl
  · have h0 : (UInt8.ofNat (v / 262144 % 8 + 240)).toNat = v / 262144 % 8 + 240 :=
      toNat_ofNat_of_lt (by omega)
    have h1 : (UInt8.ofNat (v / 4096 % 64 + 128)).toNat = v / 4096 % 64 + 128 :=
      toNat_ofNat_of_lt (by omega)
    have h2 : (UInt8.ofNat (v / 64 % 64 + 128)).toNat = v / 64 % 64 + 128 :=
      toNat_ofNat_of_lt (by omega)
    have h3 : (UInt8.ofNat (v % 64 + 128)).toNat = v % 64 + 128 := toNat_ofNat_of_lt (by omega)
    have hsecond : isSecond (UInt8.ofNat (v / 262144 % 8 + 240))
        (UInt8.ofNat (v / 4096 % 64 + 128)) = true :=
      isSecond_of (by omega) (by omega) (by omega) (by omega) (by omega) (by omega)
    simp only [List.cons_append, List.nil_append]
    rw [scan_four (utf8Width_four (by omega) (by omega)) hsecond
      (isContinuation_of (by omega) (by omega)) (isContinuation_of (by omega) (by omega)),
      hchar (by omega)]
    rfl

/-! ## Texts -/

theorem utf8OfChars_cons (c : Char) (cs : List Char) :
    utf8OfChars (c :: cs) = String.utf8EncodeChar c ++ utf8OfChars cs := List.flatMap_cons

theorem utf8OfChars_append (cs cs' : List Char) :
    utf8OfChars (cs ++ cs') = utf8OfChars cs ++ utf8OfChars cs' := List.flatMap_append

theorem utf8EncodeChar_ascii {c : Char} (h : c.toNat < 128) :
    String.utf8EncodeChar c = [UInt8.ofNat c.toNat] := by
  have hle : c.val.toNat ≤ 127 := Nat.le_of_lt_succ h
  simp only [String.utf8EncodeChar, if_pos hle]
  rfl

theorem utf8EncodeChar_ofNat {b : UInt8} (h : b.toNat < 128) :
    String.utf8EncodeChar (Char.ofNat b.toNat) = [b] := by
  have hval : (Char.ofNat b.toNat).val.toNat = b.toNat := toNat_ofNat (by omega)
  simp only [String.utf8EncodeChar, hval]
  rw [if_pos (by omega), UInt8.ofNat_toNat]

theorem exists_utf8EncodeChar (c : Char) : ∃ b bs, String.utf8EncodeChar c = b :: bs := by
  have hpos : 0 < (String.utf8EncodeChar c).length := by
    rw [String.length_utf8EncodeChar]
    exact c.utf8Size_pos
  exact List.exists_cons_of_ne_nil (List.ne_nil_of_length_pos hpos)

theorem decodeFrom_skip (bs : Octets) (index : Nat) (rest : Octets) :
    decodeFrom bs.length index (bs ++ rest) = decodeFrom 0 (index + bs.length) rest := by
  induction bs generalizing index with
  | nil => rfl
  | cons b bs ih =>
    rw [List.length_cons, List.cons_append, decodeFrom, ih, Nat.add_right_comm, Nat.add_assoc]

theorem decodeFrom_utf8OfChars (cs : List Char) (index : Nat) :
    decodeFrom 0 index (utf8OfChars cs) = .ok cs := by
  induction cs generalizing index with
  | nil => rfl
  | cons c cs ih =>
    have hscan := scan_utf8EncodeChar c (utf8OfChars cs)
    obtain ⟨b, bs, hbs⟩ := exists_utf8EncodeChar c
    rw [utf8OfChars_cons]
    rw [hbs, List.cons_append] at hscan ⊢
    simp only [decodeFrom, hscan, List.length_cons, Nat.add_sub_cancel]
    rw [decodeFrom_skip, ih]
    rfl

/-- **The octets of a text spell this text.** -/
theorem decodeUtf8_utf8OfChars (cs : List Char) : decodeUtf8 (utf8OfChars cs) = .ok cs :=
  decodeFrom_utf8OfChars cs 0

theorem textOfUtf8_utf8 (s : String) : textOfUtf8 (utf8 s) = .ok s := by
  rw [textOfUtf8, utf8, decodeUtf8_utf8OfChars]
  exact congrArg Except.ok String.ofList_toList

theorem lossyFrom_skip (bs rest : Octets) :
    lossyFrom bs.length (bs ++ rest) = lossyFrom 0 rest := by
  induction bs with
  | nil => rfl
  | cons b bs ih => rw [List.length_cons, List.cons_append, lossyFrom, ih]

theorem lossyFrom_utf8OfChars (cs : List Char) : lossyFrom 0 (utf8OfChars cs) = cs := by
  induction cs with
  | nil => rfl
  | cons c cs ih =>
    have hscan := scan_utf8EncodeChar c (utf8OfChars cs)
    obtain ⟨b, bs, hbs⟩ := exists_utf8EncodeChar c
    rw [utf8OfChars_cons]
    rw [hbs, List.cons_append] at hscan ⊢
    simp only [lossyFrom, hscan, List.length_cons, Nat.add_sub_cancel]
    rw [lossyFrom_skip, ih]

theorem lossy_utf8 (s : String) : lossy (utf8 s) = s := by
  rw [lossy, utf8, lossyFrom_utf8OfChars, String.ofList_toList]

/-- No two texts have the same octets. -/
theorem utf8_injective {s t : String} (h : utf8 s = utf8 t) : s = t := by
  rw [← lossy_utf8 s, h, lossy_utf8]

/-! ## Order -/

theorem ofNat_lt_iff {m n : Nat} (hm : m < 256) (hn : n < 256) :
    UInt8.ofNat m < UInt8.ofNat n ↔ m < n := by
  rw [UInt8.lt_iff_toNat_lt, toNat_ofNat_of_lt hm, toNat_ofNat_of_lt hn]

theorem ofNat_eq_iff {m n : Nat} (hm : m < 256) (hn : n < 256) :
    UInt8.ofNat m = UInt8.ofNat n ↔ m = n := by
  rw [← UInt8.toNat_inj, toNat_ofNat_of_lt hm, toNat_ofNat_of_lt hn]

/-- The octets of two characters differ where the characters do, and before either ends. -/
theorem utf8EncodeChar_lt {c d : Char} (h : c < d) (xs ys : Octets) :
    String.utf8EncodeChar c ++ xs < String.utf8EncodeChar d ++ ys := by
  obtain ⟨v, hv⟩ : ∃ v, v = c.val.toNat := ⟨_, rfl⟩
  obtain ⟨w, hw⟩ : ∃ w, w = d.val.toNat := ⟨_, rfl⟩
  have hlt : v < w := hv ▸ hw ▸ h
  have hbound : w < 0x110000 := by
    have hvalid : w < 0xD800 ∨ 0xDFFF < w ∧ w < 0x110000 := hw ▸ d.valid
    omega
  -- every octet but the first holds one digit of base sixty-four
  have htwo (n : Nat) : n / 4096 = n / 64 / 64 := (Nat.div_div_eq_div_mul n 64 64).symm
  have hthree (n : Nat) : n / 262144 = n / 64 / 64 / 64 := by
    rw [← htwo, Nat.div_div_eq_div_mul]
  simp only [String.utf8EncodeChar, ← hv, ← hw, htwo, hthree]
  split <;> split <;> (repeat' split) <;>
    simp (disch := omega) only [List.cons_append, List.nil_append, List.cons_lt_cons_iff,
      ofNat_lt_iff, ofNat_eq_iff] <;> omega

theorem utf8OfChars_lt {cs ds : List Char} (h : cs < ds) : utf8OfChars cs < utf8OfChars ds := by
  induction cs generalizing ds with
  | nil =>
    cases ds with
    | nil => cases h
    | cons d ds =>
      obtain ⟨b, bs, hbs⟩ := exists_utf8EncodeChar d
      rw [utf8OfChars_cons, hbs]
      exact List.nil_lt_cons _ _
  | cons c cs ih =>
    cases ds with
    | nil => cases h
    | cons d ds =>
      rw [utf8OfChars_cons, utf8OfChars_cons]
      rcases List.cons_lt_cons_iff.mp h with hlt | ⟨rfl, hlt⟩
      · exact utf8EncodeChar_lt hlt _ _
      · exact List.append_left_lt (ih hlt)

theorem utf8_lt {s t : String} (h : s < t) : utf8 s < utf8 t := utf8OfChars_lt h

end Endpoint.Text
