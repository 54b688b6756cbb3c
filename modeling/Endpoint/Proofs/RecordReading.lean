import Endpoint.Json.Typed
import Endpoint.Proofs.JsonReading
import Endpoint.Proofs.Shape

/-!
Values of a known kind, and records, are read back from what they are written as. A record is read
field by field, and each field is put into what the fields before it have made; so what comes out is
said by walking along the fields (`Filled`).

What is proved:
  1. `readsAs_text`, `readsAs_flag`, `readsAs_word`, `readsAs_some` and `readsAs_dictionary`: values
     of each kind are read from their documents;
  2. `members_fieldChars`: the fields of an object, in any order, are read as the record that they
     fill, and `readsAs_record` says it of the object;
  3. `record_keeps`: what the start of a record has and every slot keeps is there in every record
     that is read, from whatever octets.
-/
namespace Endpoint.Json.Typed
open Endpoint.Text

/-! ## Values -/

theorem readsAs_text (t : String) : ReadsAs text (.text t) t := by
  intro rest _
  rw [octets_text]
  exact textBody_escaped t rest

theorem readsAs_flag (b : Bool) : ReadsAs flag (.flag b) b := by
  intro rest _
  cases b <;> rfl

theorem octets_ofNat (n : Nat) : (Json.int n).octets = utf8OfChars (decimal n) := by
  rw [octets, chars, decimalInt, if_neg (by omega), Int.natAbs_natCast]

theorem starts_ofNat (n : Nat) :
    ∃ b d s, (Json.int n).octets = b :: s ∧ digit? b = some d := by
  rw [octets_ofNat]
  exact octets_decimal n

theorem readsAs_word (n : UInt64) : ReadsAs word (.int n.toNat) n := by
  intro rest hrest
  have hlt : n.toNat < UInt64.size := n.toNat_lt_size
  have hlimit : n.toNat ≤ significandLimit := Nat.le_sub_one_of_lt hlt
  have hnumber : number false ((Json.int n.toNat).octets ++ rest) =
      afterInteger false n.toNat rest := by
    rw [octets_ofNat]
    exact number_decimal hlimit hrest
  rw [afterInteger_of_ends hrest, if_pos (by decide)] at hnumber
  obtain ⟨b, d, s, hs, hdigit⟩ := starts_ofNat n.toNat
  obtain ⟨hblank, hne⟩ := octet_of_digit? hdigit
  rw [hs, List.cons_append] at hnumber ⊢
  have hword : wordOf (.int n.toNat) rest = .ok (n, rest) := by
    rw [wordOf, if_pos ⟨Int.natCast_nonneg _, Int.ofNat_lt.mpr hlt⟩, Int.toNat_natCast,
      UInt64.ofNat_toNat]
  simp only [word, skipBlank_cons hblank, if_neg (hne 0x2D rfl), hdigit, Option.isSome_some,
    if_true, hnumber, bind, Except.bind, hword]

section
variable {α : Type} {element : Reader α} {j : Json} {a : α}

theorem readsAs_null (element : Reader α) : ReadsAs (optional element) .null none := by
  intro rest _
  rfl

theorem readsAs_some (h : ReadsAs element j a)
    (hstarts : ∃ b s, j.octets = b :: s ∧ isBlankOctet b = false ∧ b ≠ 0x6E) :
    ReadsAs (optional element) j (some a) := by
  intro rest hrest
  have helement := h rest hrest
  obtain ⟨b, s, hs, hblank, hnull⟩ := hstarts
  rw [hs, List.cons_append] at helement ⊢
  simp only [optional, skipBlank_cons hblank, if_neg hnull, helement, bind, Except.bind]
  rfl

theorem readsAs_dictionary {write : α → Json} {l : List (String × α)}
    (hordered : Dictionary.Ordered l) (hl : ∀ f ∈ l, ReadsAs element (write f.2) f.2) :
    ReadsAs (dictionary element) (.object (written write l)) l := by
  intro rest _
  have hfields := fields_fieldChars write hl rest
  rw [octets_object]
  simp only [dictionary, skipBlank_cons (b := 0x7B) rfl, if_true, hfields, bind, Except.bind,
    Dictionary.ofEntries_of_ordered hordered]
  rfl

end

/-! ## Records -/

variable {σ : Type} {slots : List (Slot σ)}

/-- The fields of an object fill a record: each has a slot, no name comes twice, and its document is
read and put into what the fields before it have made. -/
inductive Filled (slots : List (Slot σ)) : List String → σ → List (String × Json) → σ → Prop where
  | nil (seen : List String) (x : σ) : Filled slots seen x [] x
  | cons {seen : List String} {x x' y : σ} {f : String × Json} {l : List (String × Json)}
    {slot : Slot σ} : slots.find? (·.name == f.1) = some slot → seen.contains f.1 = false →
    ReadsAs (slot.read x) f.2 x' → Filled slots (f.1 :: seen) x' l y →
    Filled slots seen x (f :: l) y

theorem readsAs_slot {α : Type} {element : Reader α} {j : Json} {a : α} (h : ReadsAs element j a)
    (name : String) (put : σ → α → σ) (x : σ) :
    ReadsAs ((Slot.of name element put).read x) j (put x a) := by
  intro rest hrest
  simp only [Slot.of, h rest hrest, bind, Except.bind]
  rfl

theorem member_of_slot {seen : List String} {x x' : σ} {f : String × Json} {slot : Slot σ}
    (hslot : slots.find? (·.name == f.1) = some slot) (hseen : seen.contains f.1 = false)
    (hreads : ReadsAs (slot.read x) f.2 x') {rest : Octets} (hrest : Ends rest) :
    member slots seen f.1 x (0x3A :: (f.2.octets ++ rest)) = .ok ((x', f.1 :: seen), rest) := by
  have hcolon : colon (0x3A :: (f.2.octets ++ rest)) = .ok ((), f.2.octets ++ rest) := rfl
  simp only [member, hslot, hseen, Bool.false_eq_true, if_false, hcolon, hreads rest hrest, bind,
    Except.bind]
  rfl

theorem members_more {seen : List String} {x y : σ} {l : List (String × Json)}
    (hl : Filled slots seen x l y) (rest : Octets) {fuel : Nat} (hfuel : l.length < fuel) :
    members slots fuel false seen x (utf8OfChars (moreFields l) ++ 0x7D :: rest) =
      .ok (y, rest) := by
  induction hl generalizing fuel with
  | nil seen x =>
    obtain ⟨fuel, rfl⟩ : ∃ m, fuel = m + 1 := ⟨fuel - 1, by omega⟩
    rfl
  | @cons seen x x' y f l slot hslot hseen hreads _ ih =>
    obtain ⟨fuel, rfl⟩ : ∃ m, fuel = m + 1 := ⟨fuel - 1, by omega⟩
    rw [List.length_cons] at hfuel
    have hmember := member_of_slot hslot hseen hreads (ends_moreFields l rest)
    rw [octets_moreFields_cons, octets_fieldText]
    simp only [members, skipBlank_cons (b := 0x2C) rfl, skipBlank_cons (b := 0x22) rfl,
      textBody_escaped, hmember, bind, Except.bind, ih (by omega : l.length < fuel)]
    rfl

theorem members_fieldChars {x y : σ} {l : List (String × Json)} (hl : Filled slots [] x l y)
    (rest : Octets) :
    members slots ((utf8OfChars (fieldChars l) ++ 0x7D :: rest).length + 1) true [] x
      (utf8OfChars (fieldChars l) ++ 0x7D :: rest) = .ok (y, rest) := by
  cases hl with
  | nil =>
    simp only [fieldChars]
    rfl
  | @cons _ _ x' _ f l slot hslot hseen hreads hl =>
    have hmember := member_of_slot hslot hseen hreads (ends_moreFields l rest)
    have henough := length_lt_fields (utf8OfChars (fieldText f)) l rest
    rw [fieldChars_cons, utf8OfChars_append, List.append_assoc]
    generalize (utf8OfChars (fieldText f) ++ (utf8OfChars (moreFields l) ++ 0x7D :: rest)).length =
      fuel at henough ⊢
    have hmore := members_more hl rest henough
    rw [octets_fieldText]
    simp only [members, skipBlank_cons (b := 0x22) rfl, if_true, textBody_escaped, hmember, bind,
      Except.bind, hmore]
    rfl

theorem readsAs_record {x y : σ} {l : List (String × Json)} (hl : Filled slots [] x l y)
    (expected : String) : ReadsAs (record expected slots x) (.object l) y := by
  intro rest _
  rw [octets_object]
  exact members_fieldChars hl rest

/-! ## What every slot keeps -/

/-- Whatever is read, a record with the property has it afterwards. -/
def Slot.Keeps (P : σ → Prop) (slot : Slot σ) : Prop :=
  ∀ x s x' rest, P x → slot.read x s = .ok (x', rest) → P x'

section
variable {P : σ → Prop} {seen : List String} {name : String} {x : σ} {s : Octets}

theorem keeps_of {α : Type} {element : Reader α} {put : σ → α → σ}
    (h : ∀ x s a rest, P x → element s = .ok (a, rest) → P (put x a)) :
    (Slot.of name element put).Keeps P := by
  intro x s x' rest hx hread
  obtain ⟨⟨a, rest'⟩, helement, hput⟩ := eq_ok_of_bind hread
  cases hput
  exact h x s a rest hx helement

theorem misfit_ne_ok {α : Type} {expected : String} {y : α × Octets} :
    misfit expected s ≠ .ok y := by
  intro h
  cases s with
  | nil => cases h
  | cons b rest =>
    rw [misfit] at h
    split at h
    · cases h
    split at h
    · cases h
    · obtain ⟨_, -, h⟩ := eq_ok_of_bind h
      cases h

theorem member_keeps (hslots : ∀ slot ∈ slots, slot.Keeps P) (hx : P x)
    {y : (σ × List String) × Octets} (h : member slots seen name x s = .ok y) : P y.1.1 := by
  rw [member] at h
  split at h
  · next slot hslot =>
    split at h
    · cases h
    · obtain ⟨_, -, h⟩ := eq_ok_of_bind h
      obtain ⟨⟨x', rest⟩, hread, h⟩ := eq_ok_of_bind h
      cases h
      exact hslots slot (List.mem_of_find?_eq_some hslot) _ _ _ _ hx hread
  · obtain ⟨_, -, h⟩ := eq_ok_of_bind h
    obtain ⟨_, -, h⟩ := eq_ok_of_bind h
    cases h
    exact hx

theorem members_keeps (hslots : ∀ slot ∈ slots, slot.Keeps P) {fuel : Nat} {first : Bool}
    (hx : P x) {y : σ × Octets} (h : members slots fuel first seen x s = .ok y) : P y.1 := by
  induction fuel generalizing first seen x s with
  | zero => cases h
  | succ fuel ih =>
    rw [members] at h
    split at h
    · cases h
    split at h
    · cases h
      exact hx
    split at h
    · split at h
      · obtain ⟨_, -, h⟩ := eq_ok_of_bind h
        obtain ⟨⟨⟨x', seen'⟩, rest⟩, hmember, h⟩ := eq_ok_of_bind h
        exact ih (member_keeps hslots hx hmember) h
      · cases h
    split at h
    · split at h
      · cases h
      split at h
      · obtain ⟨_, -, h⟩ := eq_ok_of_bind h
        obtain ⟨⟨⟨x', seen'⟩, rest⟩, hmember, h⟩ := eq_ok_of_bind h
        exact ih (member_keeps hslots hx hmember) h
      split at h
      · cases h
      · cases h
    · cases h

theorem elements_keeps (hslots : ∀ slot ∈ slots, slot.Keeps P) {first : Bool} (hx : P x)
    {y : σ × Octets} (h : elements slots first x s = .ok y) : P y.1 := by
  induction slots generalizing first x s with
  | nil =>
    cases h
    exact hx
  | cons slot slots ih =>
    rw [List.forall_mem_cons] at hslots
    rw [elements] at h
    split at h
    · cases h
    split at h
    · cases h
      exact hx
    split at h
    · obtain ⟨⟨x', rest⟩, hread, h⟩ := eq_ok_of_bind h
      exact ih hslots.2 (hslots.1 _ _ _ _ hx hread) h
    split at h
    · split at h
      · cases h
      split at h
      · cases h
      · obtain ⟨⟨x', rest⟩, hread, h⟩ := eq_ok_of_bind h
        exact ih hslots.2 (hslots.1 _ _ _ _ hx hread) h
    · cases h

/-- **What every slot keeps is in every record.** Whether the record is read from an object or from
an array, with which fields and in which order, it has what the start has. -/
theorem record_keeps (hslots : ∀ slot ∈ slots, slot.Keeps P) (hx : P x) {expected : String}
    {y : σ × Octets} (h : record expected slots x s = .ok y) : P y.1 := by
  rw [record] at h
  split at h
  · cases h
  split at h
  · obtain ⟨read, helements, h⟩ := eq_ok_of_bind h
    obtain ⟨_, -, h⟩ := eq_ok_of_bind h
    cases h
    exact elements_keeps (y := read) hslots hx helements
  split at h
  · exact members_keeps hslots hx h
  · exact (misfit_ne_ok h).elim

end

end Endpoint.Json.Typed
