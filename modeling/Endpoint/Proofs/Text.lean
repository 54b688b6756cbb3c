import Endpoint.Text.Basic

/-!
Laws of cutting, trimming and small letters.

What is proved:
  1. `trim_around`: a mark that is not blank stops trimming from both sides, so what stands before
     and after it is trimmed on its outer side only; `exists_trim`: blanks are all that is trimmed
     off; and `trim_trim`: trimming twice is trimming once;
  2. `pieces_append_sep` and `cut_eq_some_iff`: the pieces of texts around a separator are theirs,
     and cutting at the first separator says where it stands; `afterLast_eq_some_iff` says the same
     of the last one; `pieces_join`: what was joined is cut into the same pieces again;
  3. `lowerAscii_eq_iff`: making letters small moves nothing but letters, so it changes neither
     where a text is cut (`pieces_lowered`, `cut_lowered`) nor what is trimmed off (`trim_lowered`).
-/
namespace Endpoint.Text

/-! ## Trimming -/

variable {c sep : Char}

theorem trimStart_cons_blank (h : isBlank c = true) (cs : List Char) :
    trimStart (c :: cs) = trimStart cs := by
  rw [trimStart, List.dropWhile_cons, if_pos h]
  rfl

theorem trimStart_cons (h : isBlank c = false) (cs : List Char) : trimStart (c :: cs) = c :: cs := by
  rw [trimStart, List.dropWhile_cons, if_neg (by rw [h]; exact Bool.false_ne_true)]

theorem trim_cons_blank (h : isBlank c = true) (cs : List Char) : trim (c :: cs) = trim cs := by
  rw [trim, trimStart_cons_blank h, trim]

/-- A character stays at the end unless it is blank and nothing is left behind it. -/
theorem trimEnd_cons (c : Char) (cs : List Char) :
    trimEnd (c :: cs) = if trimEnd cs = [] ∧ isBlank c = true then [] else c :: trimEnd cs := by
  simp only [trimEnd, List.reverse_cons, List.dropWhile_append, List.reverse_eq_nil_iff,
    List.isEmpty_iff]
  by_cases hrest : List.dropWhile isBlank cs.reverse = []
  · cases hc : isBlank c <;> simp [hrest, hc]
  · simp [hrest]

theorem trimEnd_cons_of_ne_nil {cs : List Char} (h : trimEnd cs ≠ []) (c : Char) :
    trimEnd (c :: cs) = c :: trimEnd cs := by
  rw [trimEnd_cons, if_neg]
  exact fun hnil => h hnil.1

theorem trimStart_trimStart (cs : List Char) : trimStart (trimStart cs) = trimStart cs := by
  induction cs with
  | nil => rfl
  | cons c cs ih =>
    cases h : isBlank c with
    | true => rw [trimStart_cons_blank h, ih]
    | false => rw [trimStart_cons h, trimStart_cons h]

theorem trimEnd_trimEnd (cs : List Char) : trimEnd (trimEnd cs) = trimEnd cs := by
  induction cs with
  | nil => rfl
  | cons c cs ih =>
    rw [trimEnd_cons]
    split
    · rfl
    · rw [trimEnd_cons, ih, if_neg (by assumption)]

theorem trimStart_trimEnd (cs : List Char) : trimStart (trimEnd cs) = trimEnd (trimStart cs) := by
  induction cs with
  | nil => rfl
  | cons c cs ih =>
    cases h : isBlank c with
    | true =>
      rw [trimStart_cons_blank h, trimEnd_cons, ← ih]
      by_cases hrest : trimEnd cs = []
      · rw [if_pos ⟨hrest, h⟩, hrest]
      · rw [if_neg fun hnil => hrest hnil.1, trimStart_cons_blank h]
    | false =>
      have hkept : trimEnd (c :: cs) = c :: trimEnd cs := by
        rw [trimEnd_cons, if_neg]
        rw [h]
        exact fun hnil => Bool.false_ne_true hnil.2
      rw [trimStart_cons h, hkept, trimStart_cons h]

theorem trim_trimEnd (cs : List Char) : trim (trimEnd cs) = trim cs := by
  rw [trim, trimStart_trimEnd, trimEnd_trimEnd, trim]

theorem trim_trim (cs : List Char) : trim (trim cs) = trim cs := by
  calc trim (trim cs) = trim (trimStart cs) := trim_trimEnd (trimStart cs)
    _ = trim cs := by rw [trim, trimStart_trimStart, trim]

theorem trimStart_of_trim {cs : List Char} (h : trim cs = cs) : trimStart cs = cs := by
  rw [← h, trim, trimStart_trimEnd, trimStart_trimStart]

theorem trimEnd_of_trim {cs : List Char} (h : trim cs = cs) : trimEnd cs = cs := by
  rw [← h, trim, trimEnd_trimEnd]

theorem mem_trimStart {x : Char} {cs : List Char} (h : x ∈ trimStart cs) : x ∈ cs :=
  (List.dropWhile_sublist _).mem h

theorem mem_trimEnd {x : Char} {cs : List Char} (h : x ∈ trimEnd cs) : x ∈ cs := by
  rw [trimEnd, List.mem_reverse] at h
  exact List.mem_reverse.mp ((List.dropWhile_sublist _).mem h)

theorem mem_trim {x : Char} {cs : List Char} (h : x ∈ trim cs) : x ∈ cs :=
  mem_trimStart (mem_trimEnd h)

theorem trimStart_eq_self_iff {cs : List Char} :
    trimStart cs = cs ↔ ∀ c ∈ cs.head?, isBlank c = false := by
  cases cs with
  | nil => simp [trimStart]
  | cons c cs =>
    cases h : isBlank c with
    | true =>
      have hshort : (trimStart cs).length ≤ cs.length := (List.dropWhile_sublist _).length_le
      rw [trimStart_cons_blank h]
      refine iff_of_false (fun heq => ?_) (by simp [h])
      rw [heq, List.length_cons] at hshort
      omega
    | false => simp [trimStart_cons h, h]

theorem trimEnd_eq_self_iff {cs : List Char} :
    trimEnd cs = cs ↔ ∀ c ∈ cs.getLast?, isBlank c = false := by
  rw [← List.head?_reverse, ← trimStart_eq_self_iff]
  exact List.reverse_eq_iff

theorem exists_trim (cs : List Char) : ∃ front back, cs = front ++ trim cs ++ back ∧
    (∀ c ∈ front, isBlank c = true) ∧ ∀ c ∈ back, isBlank c = true := by
  have hblank (xs : List Char) : ∀ c ∈ xs.takeWhile isBlank, isBlank c = true :=
    List.all_eq_true.mp List.all_takeWhile
  have hstart : cs.takeWhile isBlank ++ trimStart cs = cs := List.takeWhile_append_dropWhile
  have hend : trim cs ++ ((trimStart cs).reverse.takeWhile isBlank).reverse = trimStart cs := by
    rw [trim, trimEnd, ← List.reverse_append, List.takeWhile_append_dropWhile, List.reverse_reverse]
  refine ⟨cs.takeWhile isBlank, ((trimStart cs).reverse.takeWhile isBlank).reverse, ?_, hblank cs,
    fun c hc => hblank _ c (List.mem_reverse.mp hc)⟩
  rw [List.append_assoc, hend, hstart]

/-- Blanks on either side are trimmed off, however many there are. -/
theorem trim_around_blanks {front back : List Char} (hfront : ∀ c ∈ front, isBlank c = true)
    (hback : ∀ c ∈ back, isBlank c = true) (cs : List Char) :
    trim (front ++ cs ++ back) = trim cs := by
  have hstart : trimStart (front ++ (cs ++ back)) = trimStart (cs ++ back) :=
    List.dropWhile_append_of_pos hfront
  have hend : trimEnd (cs ++ back) = trimEnd cs := by
    have hdrop : (back.reverse ++ cs.reverse).dropWhile isBlank = cs.reverse.dropWhile isBlank :=
      List.dropWhile_append_of_pos fun c hc => hback c (List.mem_reverse.mp hc)
    rw [trimEnd, List.reverse_append, hdrop, trimEnd]
  calc trim (front ++ cs ++ back) = trim (cs ++ back) := by
        rw [trim, List.append_assoc, hstart, trim]
    _ = trim (trimEnd (cs ++ back)) := (trim_trimEnd _).symm
    _ = trim cs := by rw [hend, trim_trimEnd]

theorem trim_around (hsep : isBlank sep = false) (a b : List Char) :
    trim (a ++ sep :: b) = trimStart a ++ sep :: trimEnd b := by
  have hkept : trimEnd (sep :: b) = sep :: trimEnd b := by
    rw [trimEnd_cons, if_neg]
    rw [hsep]
    exact fun hnil => Bool.false_ne_true hnil.2
  have hstart : trimStart (a ++ sep :: b) = trimStart a ++ sep :: b := by
    induction a with
    | nil => exact trimStart_cons hsep b
    | cons c a ih =>
      cases hc : isBlank c with
      | true => rw [List.cons_append, trimStart_cons_blank hc, trimStart_cons_blank hc, ih]
      | false => rw [List.cons_append, trimStart_cons hc, trimStart_cons hc, List.cons_append]
  have hend (x : List Char) : trimEnd (x ++ sep :: b) = x ++ sep :: trimEnd b := by
    induction x with
    | nil => exact hkept
    | cons c x ih =>
      have hne : trimEnd (x ++ sep :: b) ≠ [] := by
        rw [ih]
        simp
      rw [List.cons_append, trimEnd_cons_of_ne_nil hne, ih, List.cons_append]
  rw [trim, hstart, hend]

/-! ## Cutting -/

theorem pieces_of_not_mem {cs : List Char} (h : sep ∉ cs) : pieces sep cs = [cs] := by
  induction cs with
  | nil => rfl
  | cons c cs ih =>
    rw [List.mem_cons, not_or] at h
    rw [pieces, if_neg (Ne.symm h.1), ih h.2]

theorem pieces_ne_nil (sep : Char) (cs : List Char) : pieces sep cs ≠ [] := by
  cases cs with
  | nil => simp [pieces]
  | cons c cs =>
    rw [pieces]
    split
    · simp
    · split <;> simp

/-- The pieces of what stands before a separator come first, then those of what stands behind it. -/
theorem pieces_append_sep (cs rest : List Char) :
    pieces sep (cs ++ sep :: rest) = pieces sep cs ++ pieces sep rest := by
  induction cs with
  | nil => simp [pieces]
  | cons c cs ih =>
    rw [List.cons_append, pieces, pieces, ih]
    by_cases hc : c = sep
    · rw [if_pos hc, if_pos hc, List.cons_append]
    · rw [if_neg hc, if_neg hc]
      obtain ⟨p, ps, hps⟩ := List.exists_cons_of_ne_nil (pieces_ne_nil sep cs)
      rw [hps]
      rfl

/-- Parts without the separator, each with one in front, are pieces of their own. -/
theorem pieces_flatMap {α : Type} {f : α → List Char} (cs : List Char) {as : List α}
    (h : ∀ a ∈ as, sep ∉ f a) :
    pieces sep (cs ++ as.flatMap fun a => sep :: f a) = pieces sep cs ++ as.map f := by
  induction as generalizing cs with
  | nil => simp
  | cons a as ih =>
    have hrest := ih (f a) fun b hb => h b (List.mem_cons_of_mem _ hb)
    rw [List.flatMap_cons, List.cons_append, pieces_append_sep, hrest,
      pieces_of_not_mem (h a List.mem_cons_self), List.map_cons, List.singleton_append]

theorem join_cons (sep t : List Char) (ts : List (List Char)) :
    join sep (t :: ts) = t ++ ts.flatMap fun t => sep ++ t := by
  induction ts generalizing t with
  | nil => simp [join]
  | cons u ts ih =>
    have hjoin : join sep (t :: u :: ts) = t ++ sep ++ join sep (u :: ts) := rfl
    rw [hjoin, ih, List.flatMap_cons, List.append_assoc, List.append_assoc]

theorem pieces_join {ts : List (List Char)} (hne : ts ≠ []) (h : ∀ t ∈ ts, sep ∉ t) :
    pieces sep (join [sep] ts) = ts := by
  obtain ⟨t, ts, rfl⟩ := List.exists_cons_of_ne_nil hne
  obtain ⟨ht, hts⟩ := List.forall_mem_cons.mp h
  have hcut := pieces_flatMap (f := id) t hts
  rw [pieces_of_not_mem ht, List.map_id] at hcut
  rw [join_cons]
  exact hcut

theorem mem_join {x : Char} {sep : List Char} {ts : List (List Char)} (h : x ∈ join sep ts) :
    x ∈ sep ∨ ∃ t ∈ ts, x ∈ t := by
  cases ts with
  | nil => cases h
  | cons t ts =>
    rw [join_cons, List.mem_append, List.mem_flatMap] at h
    rcases h with h | ⟨u, hu, h⟩
    · exact .inr ⟨t, List.mem_cons_self, h⟩
    · rcases List.mem_append.mp h with h | h
      · exact .inl h
      · exact .inr ⟨u, List.mem_cons_of_mem _ hu, h⟩

theorem not_mem_of_mem_pieces {cs p : List Char} (h : p ∈ pieces sep cs) : sep ∉ p := by
  induction cs generalizing p with
  | nil =>
    rw [pieces, List.mem_singleton] at h
    subst h
    exact List.not_mem_nil
  | cons c cs ih =>
    rw [pieces] at h
    split at h
    · rcases List.mem_cons.mp h with rfl | h
      · exact List.not_mem_nil
      · exact ih h
    · rename_i hc
      split at h
      · rw [List.mem_singleton] at h
        subst h
        rw [List.mem_singleton]
        exact Ne.symm hc
      · rename_i q qs hqs
        rcases List.mem_cons.mp h with rfl | h
        · have hq : sep ∉ q := ih (hqs ▸ List.mem_cons_self)
          rw [List.mem_cons, not_or]
          exact ⟨Ne.symm hc, hq⟩
        · exact ih (hqs ▸ List.mem_cons_of_mem _ h)

/-- Cutting finds the first separator. -/
theorem cut_eq_some_iff {cs a b : List Char} :
    cut sep cs = some (a, b) ↔ cs = a ++ sep :: b ∧ sep ∉ a := by
  induction cs generalizing a with
  | nil => simp [cut]
  | cons c cs ih =>
    rw [cut]
    by_cases hc : c = sep
    · subst hc
      rw [if_pos rfl]
      constructor
      · intro h
        cases h
        exact ⟨rfl, List.not_mem_nil⟩
      · rintro ⟨h, hnot⟩
        cases a with
        | nil =>
          cases h
          rfl
        | cons x a =>
          cases h
          exact (hnot List.mem_cons_self).elim
    · rw [if_neg hc, Option.map_eq_some_iff]
      constructor
      · rintro ⟨⟨a', b'⟩, hcut, h⟩
        cases h
        obtain ⟨rfl, hnot⟩ := ih.mp hcut
        refine ⟨rfl, ?_⟩
        rw [List.mem_cons, not_or]
        exact ⟨Ne.symm hc, hnot⟩
      · rintro ⟨h, hnot⟩
        cases a with
        | nil =>
          cases h
          exact (hc rfl).elim
        | cons x a =>
          rw [List.mem_cons, not_or] at hnot
          obtain ⟨rfl, rfl⟩ := List.cons.inj h
          exact ⟨(a, b), ih.mpr ⟨rfl, hnot.2⟩, rfl⟩

/-- Two texts that are cut at the first separator have the same parts. -/
theorem eq_of_cut {a a' b b' : List Char} (ha : sep ∉ a) (ha' : sep ∉ a')
    (h : a ++ sep :: b = a' ++ sep :: b') : a = a' ∧ b = b' := by
  have hcut : some (a, b) = some (a', b') := by
    calc some (a, b) = cut sep (a ++ sep :: b) := (cut_eq_some_iff.mpr ⟨rfl, ha⟩).symm
      _ = some (a', b') := cut_eq_some_iff.mpr ⟨h, ha'⟩
  exact Prod.mk.inj (Option.some.inj hcut)

theorem afterLast_eq_none_iff {cs : List Char} : afterLast sep cs = none ↔ sep ∉ cs := by
  induction cs with
  | nil => simp [afterLast]
  | cons c cs ih =>
    rw [List.mem_cons, not_or, ← ih, afterLast]
    cases afterLast sep cs with
    | some tail => simp
    | none =>
      by_cases hc : c = sep
      · simp [hc]
      · simp [hc, Ne.symm hc]

theorem afterLast_eq_some_iff {cs tail : List Char} :
    afterLast sep cs = some tail ↔ ∃ front, cs = front ++ sep :: tail ∧ sep ∉ tail := by
  constructor
  · intro h
    induction cs with
    | nil => cases h
    | cons c cs ih =>
      rw [afterLast] at h
      split at h
      · rename_i rest hrest
        cases h
        obtain ⟨front, rfl, hnot⟩ := ih hrest
        exact ⟨c :: front, rfl, hnot⟩
      · rename_i hnone
        split at h
        · rename_i hc
          cases h
          exact ⟨[], by rw [hc, List.nil_append], afterLast_eq_none_iff.mp hnone⟩
        · cases h
  · rintro ⟨front, rfl, hnot⟩
    induction front with
    | nil => rw [List.nil_append, afterLast, afterLast_eq_none_iff.mpr hnot, if_pos rfl]
    | cons c front ih => rw [List.cons_append, afterLast, ih]

/-! ## Single marks -/

theorem stripStart?_eq_some_iff {mark : Char} {cs rest : List Char} :
    stripStart? mark cs = some rest ↔ cs = mark :: rest := by
  cases cs with
  | nil => simp [stripStart?]
  | cons c cs => simp [stripStart?]

theorem stripEnd?_eq_some_iff {mark : Char} {cs rest : List Char} :
    stripEnd? mark cs = some rest ↔ cs = rest ++ [mark] := by
  rw [stripEnd?, Option.map_eq_some_iff]
  constructor
  · rintro ⟨front, hfront, rfl⟩
    rw [stripStart?_eq_some_iff] at hfront
    rw [← List.reverse_cons, ← hfront, List.reverse_reverse]
  · rintro rfl
    exact ⟨rest.reverse, stripStart?_eq_some_iff.mpr List.reverse_concat, List.reverse_reverse rest⟩

/-! ## Small letters -/

theorem toNat_ofNat {n : Nat} (h : n < 0xD800) : (Char.ofNat n).toNat = n := by
  have hvalid : n.isValidChar := .inl h
  unfold Char.ofNat
  rw [dif_pos hvalid]
  unfold Char.ofNatAux Char.toNat
  simp

/-- A character is its own small form, or a capital whose small form is a small letter. -/
theorem lowerAscii_cases (c : Char) :
    lowerAscii c = c ∨ (65 ≤ c.toNat ∧ c.toNat ≤ 90 ∧ (lowerAscii c).toNat = c.toNat + 32) := by
  unfold lowerAscii
  split
  · rename_i h
    have hbounds : 65 ≤ c.toNat ∧ c.toNat ≤ 90 := h
    exact .inr ⟨hbounds.1, hbounds.2, toNat_ofNat (by omega)⟩
  · exact .inl rfl

theorem lowerAscii_lowerAscii (c : Char) : lowerAscii (lowerAscii c) = lowerAscii c := by
  obtain h | ⟨hlow, hhigh, hsmall⟩ := lowerAscii_cases c
  · rw [h, h]
  · obtain h' | ⟨-, hhigh', -⟩ := lowerAscii_cases (lowerAscii c)
    · exact h'
    · omega

/-- A character that is no letter is the small form of itself alone. -/
theorem lowerAscii_eq_iff (hsep : isAsciiLetter sep = false) : lowerAscii c = sep ↔ c = sep := by
  have hbounds : ¬(97 ≤ sep.toNat ∧ sep.toNat ≤ 122) ∧ ¬(65 ≤ sep.toNat ∧ sep.toNat ≤ 90) := by
    simp only [isAsciiLetter, Bool.or_eq_false_iff, Bool.and_eq_false_iff,
      decide_eq_false_iff_not] at hsep
    have ha : 'a'.toNat = 97 := rfl
    have hz : 'z'.toNat = 122 := rfl
    have hA : 'A'.toNat = 65 := rfl
    have hZ : 'Z'.toNat = 90 := rfl
    omega
  obtain h | ⟨hlow, hhigh, hsmall⟩ := lowerAscii_cases c
  · rw [h]
  · constructor
    · rintro rfl
      omega
    · rintro rfl
      omega

theorem isBlank_lowerAscii (c : Char) : isBlank (lowerAscii c) = isBlank c := by
  obtain h | ⟨hlow, hhigh, hsmall⟩ := lowerAscii_cases c
  · rw [h]
  · have hblank {x : Char} (hx : 65 ≤ x.toNat ∧ x.toNat ≤ 122) : isBlank x = false := by
      simp only [isBlank, Bool.or_eq_false_iff, Bool.and_eq_false_iff, decide_eq_false_iff_not,
        beq_eq_false_iff_ne]
      omega
    rw [hblank ⟨hlow, by omega⟩, hblank (by omega)]

theorem lowered_lowered (cs : List Char) :
    (cs.map lowerAscii).map lowerAscii = cs.map lowerAscii := by
  rw [List.map_map]
  exact List.map_congr_left fun c _ => lowerAscii_lowerAscii c

theorem not_mem_lowered (hsep : isAsciiLetter sep = false) {cs : List Char} (h : sep ∉ cs) :
    sep ∉ cs.map lowerAscii := by
  rw [List.mem_map]
  rintro ⟨c, hc, hlower⟩
  rw [lowerAscii_eq_iff hsep] at hlower
  exact h (hlower ▸ hc)

theorem pieces_lowered (hsep : isAsciiLetter sep = false) (cs : List Char) :
    pieces sep (cs.map lowerAscii) = (pieces sep cs).map (List.map lowerAscii) := by
  induction cs with
  | nil => rfl
  | cons c cs ih =>
    rw [List.map_cons, pieces, pieces, ih]
    by_cases hc : c = sep
    · rw [if_pos ((lowerAscii_eq_iff hsep).mpr hc), if_pos hc]
      rfl
    · rw [if_neg (mt (lowerAscii_eq_iff hsep).mp hc), if_neg hc]
      cases pieces sep cs <;> rfl

theorem cut_lowered (hsep : isAsciiLetter sep = false) (cs : List Char) :
    cut sep (cs.map lowerAscii) =
      (cut sep cs).map fun (a, b) => (a.map lowerAscii, b.map lowerAscii) := by
  induction cs with
  | nil => rfl
  | cons c cs ih =>
    rw [List.map_cons, cut, cut, ih]
    by_cases hc : c = sep
    · rw [if_pos ((lowerAscii_eq_iff hsep).mpr hc), if_pos hc]
      rfl
    · rw [if_neg (mt (lowerAscii_eq_iff hsep).mp hc), if_neg hc]
      cases cut sep cs <;> rfl

theorem trim_lowered (cs : List Char) : trim (cs.map lowerAscii) = (trim cs).map lowerAscii := by
  have hdrop (xs : List Char) :
      (xs.map lowerAscii).dropWhile isBlank = (xs.dropWhile isBlank).map lowerAscii := by
    rw [List.dropWhile_map]
    congr 2
    exact funext isBlank_lowerAscii
  rw [trim, trim, trimStart, trimStart, trimEnd, trimEnd, hdrop, ← List.map_reverse, hdrop,
    ← List.map_reverse]

theorem toList_lowerText (s : String) : (lowerText s).toList = s.toList.map lowerAscii := by
  rw [lowerText, String.toList_ofList]

theorem lowerText_lowerText (s : String) : lowerText (lowerText s) = lowerText s := by
  rw [← String.toList_inj, toList_lowerText, toList_lowerText, lowered_lowered]

theorem sameIgnoringCase_iff {s t : String} :
    sameIgnoringCase s t = true ↔ lowerText s = lowerText t := by
  rw [sameIgnoringCase, beq_iff_eq, ← String.toList_inj, toList_lowerText, toList_lowerText]

end Endpoint.Text
