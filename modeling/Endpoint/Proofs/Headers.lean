import Endpoint.Headers
import Endpoint.Proofs.Utf8

/-!
Headers as they are sent. A value that can be read as a text is the octets of this text
(`utf8_of_visible`). Lines that are legal are added one behind the other (`addAll_of_addable`), and
of others one is named (`addAll_of_not_addable`). Setting a header leaves one line of its name where
the first one stood, or at the end, and every other line as it was (`replaced_put`).
-/
namespace Endpoint
open Text

namespace Headers

/-- A value of visible ASCII is the octets of the text that it is read as. -/
theorem utf8_of_visible {value : Octets} {text : String} (h : visible? value = some text) :
    utf8 text = value := by
  unfold visible? at h
  split at h
  · rename_i hall
    cases h
    rw [utf8, utf8OfChars, String.toList_ofList]
    -- the text is made octet by octet, and each of its characters has this one octet
    induction value with
    | nil => rfl
    | cons b bs ih =>
      rw [List.all_cons, Bool.and_eq_true] at hall
      have hlt : b.toNat < 128 := by
        have hb := hall.1
        simp only [isVisible, Bool.or_eq_true, Bool.and_eq_true, decide_eq_true_eq, beq_iff_eq,
          UInt8.lt_iff_toNat_lt] at hb
        rcases hb with hb | rfl
        · exact Nat.lt_trans hb.2 (by decide)
        · decide
      rw [List.map_cons, List.flatMap_cons, utf8EncodeChar_ofNat hlt, ih hall.2,
        List.singleton_append]
  · cases h

theorem value?_eq_utf8 {text : String} {value : Octets} (h : value? text = some value) :
    value = utf8 text := by
  simp only [value?] at h
  split at h
  · exact (Option.some.inj h).symm
  · cases h

/-! ## Names -/

theorem mem_names {h : Headers} {name : String} :
    name ∈ h.names ↔ ∃ l ∈ h.lines, l.name = name := by
  rw [names, mem_firsts, List.mem_map]

theorem isNameChar_lowerAscii (c : Char) : isNameChar (lowerAscii c) = isNameChar c := by
  obtain h | ⟨hlow, hhigh, hsmall⟩ := lowerAscii_cases c
  · rw [h]
  · -- a capital and its small letter are letters
    have hletter {x : Char} (hx : 97 ≤ x.toNat ∧ x.toNat ≤ 122 ∨ 65 ≤ x.toNat ∧ x.toNat ≤ 90) :
        isNameChar x = true := by
      have hascii : isAsciiLetter x = true := by
        simp only [isAsciiLetter, Bool.or_eq_true, Bool.and_eq_true, decide_eq_true_eq]
        exact hx
      rw [isNameChar, hascii, Bool.true_or, Bool.true_or]
    rw [hletter (.inr ⟨hlow, hhigh⟩), hletter (.inl (by omega))]

theorem name?_lowerText (name : String) : name? (lowerText name) = name? name := by
  have hall : (name.toList.map lowerAscii).all isNameChar = name.toList.all isNameChar := by
    rw [List.all_map]
    exact congrArg name.toList.all (funext isNameChar_lowerAscii)
  simp only [name?, lowerText, String.toList_ofList, lowered_lowered, List.length_map, hall,
    ne_eq, List.map_eq_nil_iff]

theorem eq_lowerText_of_name? {name n : String} (h : name? name = some n) : n = lowerText name := by
  simp only [name?] at h
  split at h
  · exact (Option.some.inj h).symm
  · cases h

theorem name?_of_name? {name n : String} (h : name? name = some n) : name? n = some n := by
  rw [eq_lowerText_of_name? h, name?_lowerText, h, eq_lowerText_of_name? h]

theorem mem_lines_of_mem_grouped {h : Headers} {l : HeaderLine} (hl : l ∈ h.grouped) :
    l ∈ h.lines := by
  obtain ⟨name, -, hname⟩ := List.mem_flatMap.mp hl
  obtain ⟨value, hvalue, rfl⟩ := List.mem_map.mp hname
  obtain ⟨line, hline, rfl⟩ := List.mem_map.mp hvalue
  obtain ⟨hmem, hsame⟩ : line ∈ h.lines ∧ line.name = name := by simpa using hline
  rw [← hsame]
  exact hmem

theorem contains_iff_mem_names (h : Headers) (name : String) :
    h.contains name = true ↔ lowerText name ∈ h.names := by
  simp [contains, mem_names]

/-! ## Lines that are added -/

theorem add_eq (h : Headers) (name value : String) :
    h.add name value = (check name value).map fun l => h.append l.1 l.2 := by
  rw [add]
  cases check name value <;> rfl

theorem set_eq (h : Headers) (name value : String) :
    h.set name value = (check name value).map fun l => h.put l.1 l.2 := by
  rw [set]
  cases check name value <;> rfl

def Addable (e : String × String) : Prop :=
  (name? e.1).isSome = true ∧ (value? e.2).isSome = true

instance (e : String × String) : Decidable (Addable e) :=
  inferInstanceAs (Decidable (_ ∧ _))

/-- The line that a legal name and a legal value are added as. -/
def lineOf (e : String × String) : HeaderLine := ⟨lowerText e.1, utf8 e.2⟩

variable {e : String × String} {es : List (String × String)}

theorem check_of_addable (he : Addable e) : check e.1 e.2 = .ok (lowerText e.1, utf8 e.2) := by
  obtain ⟨n, hn⟩ := Option.isSome_iff_exists.mp he.1
  obtain ⟨v, hv⟩ := Option.isSome_iff_exists.mp he.2
  rw [check, hv, hn, value?_eq_utf8 hv, eq_lowerText_of_name? hn]

theorem check_of_not_addable (he : ¬Addable e) : ∃ flaw, check e.1 e.2 = .error flaw := by
  rw [check]
  cases hv : value? e.2 with
  | none => exact ⟨_, rfl⟩
  | some v =>
    cases hn : name? e.1 with
    | none => exact ⟨_, rfl⟩
    | some n => exact (he ⟨Option.isSome_of_eq_some hn, Option.isSome_of_eq_some hv⟩).elim

theorem addAll_of_addable (hes : ∀ e ∈ es, Addable e) (h : Headers) :
    h.addAll es = .ok ⟨h.lines ++ es.map lineOf⟩ := by
  induction es generalizing h with
  | nil => simp [addAll]
  | cons e es ih =>
    rw [List.forall_mem_cons] at hes
    rw [addAll, add_eq, check_of_addable hes.1]
    simp only [Except.map, ih hes.2, append, lineOf, List.map_cons, List.append_assoc,
      List.singleton_append]

theorem addAll_of_not_addable (hes : ¬∀ e ∈ es, Addable e) (h : Headers) :
    ∃ name flaw, h.addAll es = .error (name, flaw) := by
  induction es generalizing h with
  | nil => exact (hes fun e he => (List.not_mem_nil he).elim).elim
  | cons e es ih =>
    rw [addAll, add_eq]
    by_cases he : Addable e
    · rw [check_of_addable he]
      exact ih (fun hrest => hes (List.forall_mem_cons.mpr ⟨he, hrest⟩)) _
    · obtain ⟨flaw, hflaw⟩ := check_of_not_addable he
      rw [hflaw]
      exact ⟨e.1, flaw, rfl⟩

/-! ## One value in the place of all -/

/-- What comes first in two lists comes first in the first of them, or is missing there. -/
theorem firsts_append (xs ys : List String) :
    firsts (xs ++ ys) = firsts xs ++ (firsts ys).filter fun y => decide (y ∉ xs) := by
  induction xs with
  | nil => simp [firsts, List.filter_eq_self.mpr]
  | cons x xs ih =>
    rw [List.cons_append, firsts, firsts, ih, List.filter_append, List.cons_append,
      List.filter_filter]
    congr 2
    refine List.filter_congr fun y _ => ?_
    by_cases hy : y = x <;> simp [hy]

/-- A new element comes last among the first ones, and any other changes nothing. -/
theorem firsts_concat (xs : List String) (x : String) :
    firsts (xs ++ [x]) = if x ∈ xs then firsts xs else firsts xs ++ [x] := by
  have hone : firsts [x] = [x] := rfl
  rw [firsts_append, hone]
  by_cases hx : x ∈ xs
  · rw [if_pos hx, List.filter_cons_of_neg (by simpa using hx), List.filter_nil, List.append_nil]
  · rw [if_neg hx, List.filter_cons_of_pos (by simpa using hx), List.filter_nil]

theorem firsts_filter (p : String → Bool) (xs : List String) :
    firsts (xs.filter p) = (firsts xs).filter p := by
  induction xs with
  | nil => rfl
  | cons x xs ih =>
    by_cases hx : p x = true
    · rw [List.filter_cons_of_pos hx, firsts, firsts, List.filter_cons_of_pos hx, ih,
        List.filter_filter, List.filter_filter]
      congr 1
      exact List.filter_congr fun y _ => Bool.and_comm _ _
    · rw [List.filter_cons_of_neg hx, firsts, List.filter_cons_of_neg hx, ih, List.filter_filter]
      refine List.filter_congr fun y _ => ?_
      by_cases hy : y = x
      · subst hy
        simp [hx]
      · simp [hy]

theorem putLine_others (name : String) (value : Octets) (lines : List HeaderLine) :
    (putLine name value lines).filter (·.name != name) = lines.filter (·.name != name) := by
  induction lines with
  | nil => simp [putLine]
  | cons l ls ih =>
    rw [putLine]
    by_cases hl : l.name = name
    · simp [hl, List.filter_filter]
    · simp [hl, ih]

theorem putLine_names (name : String) (value : Octets) (lines : List HeaderLine) :
    firsts ((putLine name value lines).map (·.name)) =
      if name ∈ lines.map (·.name) then firsts (lines.map (·.name))
      else firsts (lines.map (·.name)) ++ [name] := by
  induction lines with
  | nil => rfl
  | cons l ls ih =>
    rw [putLine]
    by_cases hl : l.name = name
    · have hrest : (ls.filter (·.name != name)).map (·.name) =
          (ls.map (·.name)).filter (· != name) := by
        rw [List.filter_map]
        rfl
      rw [if_pos hl, List.map_cons, List.map_cons, hl, if_pos List.mem_cons_self, firsts, firsts,
        hrest, firsts_filter, List.filter_filter]
      simp
    · rw [if_neg hl, List.map_cons, List.map_cons, firsts, firsts, ih]
      by_cases hmem : name ∈ ls.map (·.name)
      · rw [if_pos hmem, if_pos (List.mem_cons_of_mem _ hmem)]
      · have hnot : name ∉ l.name :: ls.map (·.name) := by
          rw [List.mem_cons, not_or]
          exact ⟨Ne.symm hl, hmem⟩
        have hne : [name].filter (· != l.name) = [name] := by simp [Ne.symm hl]
        rw [if_neg hmem, if_neg hnot, List.filter_append, hne, List.cons_append]

theorem put_of_not_mem {h : Headers} {name : String} (hname : name ∉ h.names) (value : Octets) :
    h.put name value = ⟨h.lines ++ [⟨name, value⟩]⟩ := by
  have hnew : ∀ l ∈ h.lines, l.name ≠ name := fun l hl hsame => hname (mem_names.mpr ⟨l, hl, hsame⟩)
  rw [put, Headers.mk.injEq]
  generalize h.lines = lines at hnew
  induction lines with
  | nil => rfl
  | cons l ls ih =>
    rw [List.forall_mem_cons] at hnew
    rw [putLine, if_neg hnew.1, ih hnew.2, List.cons_append]

/-- The second headers are the first with one value in the place of all values of a name: the other
lines stand as they stood, and the name keeps its place or is the last. -/
structure Replaced (name : String) (value : Octets) (h h' : Headers) : Prop where
  only : h'.valuesOf name = [value]
  others : h'.lines.filter (·.name != name) = h.lines.filter (·.name != name)
  names : h'.names = if name ∈ h.names then h.names else h.names ++ [name]

theorem replaced_put (h : Headers) (name : String) (value : Octets) :
    Replaced name value h (h.put name value) where
  only := by rw [valuesOf_put, if_pos rfl]
  others := putLine_others name value h.lines
  names := by
    simp only [names, mem_firsts]
    exact putLine_names name value h.lines

end Headers
end Endpoint
