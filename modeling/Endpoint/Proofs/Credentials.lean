import Endpoint.Proofs.Extension
import Endpoint.Proofs.Multimap

/-!
A user's name and password as they are sent. They are put together with a colon, written in base64
and sent behind the word `Basic`. `base64Octets?` reads base64 text and takes nothing but what the
standard allows: whole groups of four characters, padding at the end only, and no bits lost in it.

What is proved:
  1. `base64Octets?_base64`: what octets are written as is read as these octets, whatever their
     number;
  2. `value?_of_printed` and `visible?_of_printed`: a text of printed ASCII, such as base64, is a
     legal value and is read as a text, so these credentials are never refused;
  3. `basicValue_eq_iff`: the content of the header says what stands before and after the colon
     together, and nothing more;
  4. `basic_is_sent_unambiguously`: every name and password are sent, in one new line behind all
     others, and where no name holds a colon the line says which they were.
-/
namespace Endpoint
open Text

/-! ## Base64 -/

namespace Text

/-- The number that a base64 digit stands for. -/
def base64Value? (c : Char) : Option Nat :=
  let n := c.toNat
  if 65 ≤ n ∧ n ≤ 90 then some (n - 65)
  else if 97 ≤ n ∧ n ≤ 122 then some (n - 71)
  else if 48 ≤ n ∧ n ≤ 57 then some (n + 4)
  else if c = '+' then some 62
  else if c = '/' then some 63
  else none

def firstOctet (w x : Nat) : UInt8 := UInt8.ofNat (w * 4 + x / 16)
def secondOctet (x y : Nat) : UInt8 := UInt8.ofNat (x % 16 * 16 + y / 4)
def thirdOctet (y z : Nat) : UInt8 := UInt8.ofNat (y % 4 * 64 + z)

/-- The octets that base64 text stands for. Padding fills up the last group only, and the bits it
leaves over are zero. -/
def base64Octets? : List Char → Option Octets
  | [] => some []
  | a :: b :: c :: d :: rest => do
    let w ← base64Value? a
    let x ← base64Value? b
    if c = '=' then
      if d = '=' ∧ rest = [] ∧ x % 16 = 0 then some [firstOctet w x] else none
    else do
      let y ← base64Value? c
      if d = '=' then
        if rest = [] ∧ y % 4 = 0 then some [firstOctet w x, secondOctet x y] else none
      else do
        let z ← base64Value? d
        let tail ← base64Octets? rest
        some (firstOctet w x :: secondOctet x y :: thirdOctet y z :: tail)
  | _ => none

/-- Every number below sixty-four has a digit, which is printed ASCII and no padding. -/
theorem base64Digit_spec : ∀ n < 64, base64Value? (base64Digit n) = some n ∧
    base64Digit n ≠ '=' ∧ 0x20 < (base64Digit n).toNat ∧ (base64Digit n).toNat < 0x7F := by
  decide

theorem base64Value?_base64Digit {n : Nat} (h : n < 64) :
    base64Value? (base64Digit n) = some n := (base64Digit_spec n h).1

theorem base64Digit_ne_padding {n : Nat} (h : n < 64) : base64Digit n ≠ '=' :=
  (base64Digit_spec n h).2.1

section
variable {a b c : UInt8} {w x y z : Nat}

theorem ofNat_eq_of_toNat {n : Nat} (h : n = a.toNat) : UInt8.ofNat n = a := by
  rw [h, UInt8.ofNat_toNat]

theorem firstOctet_eq (hw : w = a.toNat / 4) (hx : x / 16 = a.toNat % 4) : firstOctet w x = a := by
  apply ofNat_eq_of_toNat
  omega

theorem secondOctet_eq (hx : x % 16 = b.toNat / 16) (hy : y / 4 = b.toNat % 16) :
    secondOctet x y = b := by
  apply ofNat_eq_of_toNat
  omega

theorem thirdOctet_eq (hy : y % 4 = c.toNat / 64) (hz : z = c.toNat % 64) : thirdOctet y z = c := by
  apply ofNat_eq_of_toNat
  omega

end

/-- **Octets are read back from their base64 text.** -/
theorem base64Octets?_base64 (bs : Octets) : base64Octets? (base64 bs) = some bs := by
  induction bs using base64.induct with
  | case1 => rfl
  | case2 a =>
    have ha := a.toNat_lt
    have hw : a.toNat / 4 < 64 := by omega
    have hx : a.toNat % 4 * 16 < 64 := by omega
    have hfirst : firstOctet (a.toNat / 4) (a.toNat % 4 * 16) = a := firstOctet_eq rfl (by omega)
    simp [base64, base64Octets?, base64Value?_base64Digit hw, base64Value?_base64Digit hx, hfirst]
  | case3 a b =>
    have ha := a.toNat_lt
    have hb := b.toNat_lt
    have hw : a.toNat / 4 < 64 := by omega
    have hx : a.toNat % 4 * 16 + b.toNat / 16 < 64 := by omega
    have hy : b.toNat % 16 * 4 < 64 := by omega
    have hfirst : firstOctet (a.toNat / 4) (a.toNat % 4 * 16 + b.toNat / 16) = a :=
      firstOctet_eq rfl (by omega)
    have hsecond : secondOctet (a.toNat % 4 * 16 + b.toNat / 16) (b.toNat % 16 * 4) = b :=
      secondOctet_eq (by omega) (by omega)
    simp [base64, base64Octets?, base64Value?_base64Digit hw, base64Value?_base64Digit hx,
      base64Value?_base64Digit hy, base64Digit_ne_padding hy, hfirst, hsecond]
  | case4 a b c rest ih =>
    have ha := a.toNat_lt
    have hb := b.toNat_lt
    have hc := c.toNat_lt
    have hw : a.toNat / 4 < 64 := by omega
    have hx : a.toNat % 4 * 16 + b.toNat / 16 < 64 := by omega
    have hy : b.toNat % 16 * 4 + c.toNat / 64 < 64 := by omega
    have hz : c.toNat % 64 < 64 := by omega
    have hfirst : firstOctet (a.toNat / 4) (a.toNat % 4 * 16 + b.toNat / 16) = a :=
      firstOctet_eq rfl (by omega)
    have hsecond : secondOctet (a.toNat % 4 * 16 + b.toNat / 16)
        (b.toNat % 16 * 4 + c.toNat / 64) = b :=
      secondOctet_eq (by omega) (by omega)
    have hthird : thirdOctet (b.toNat % 16 * 4 + c.toNat / 64) (c.toNat % 64) = c :=
      thirdOctet_eq (by omega) rfl
    simp [base64, base64Octets?, base64Value?_base64Digit hw, base64Value?_base64Digit hx,
      base64Value?_base64Digit hy, base64Value?_base64Digit hz, base64Digit_ne_padding hy,
      base64Digit_ne_padding hz, ih, hfirst, hsecond, hthird]

theorem base64_injective {bs bs' : Octets} (h : base64 bs = base64 bs') : bs = bs' := by
  have hread := base64Octets?_base64 bs
  rw [h, base64Octets?_base64] at hread
  exact (Option.some.inj hread).symm

theorem printed_of_mem_base64 {bs : Octets} {c : Char} (hc : c ∈ base64 bs) :
    0x20 < c.toNat ∧ c.toNat < 0x7F := by
  have hdigit {n : Nat} (hn : n < 64) (h : c = base64Digit n) : 0x20 < c.toNat ∧ c.toNat < 0x7F :=
    h ▸ (base64Digit_spec n hn).2.2
  have hpadding (h : c = '=') : 0x20 < c.toNat ∧ c.toNat < 0x7F := by
    subst h
    decide
  induction bs using base64.induct with
  | case1 => cases hc
  | case2 a =>
    have ha := a.toNat_lt
    simp only [base64, List.mem_cons, List.not_mem_nil, or_false] at hc
    obtain hc | hc | hc | hc := hc
    · exact hdigit (by omega) hc
    · exact hdigit (by omega) hc
    · exact hpadding hc
    · exact hpadding hc
  | case3 a b =>
    have ha := a.toNat_lt
    have hb := b.toNat_lt
    simp only [base64, List.mem_cons, List.not_mem_nil, or_false] at hc
    obtain hc | hc | hc | hc := hc
    · exact hdigit (by omega) hc
    · exact hdigit (by omega) hc
    · exact hdigit (by omega) hc
    · exact hpadding hc
  | case4 a b c rest ih =>
    have ha := a.toNat_lt
    have hb := b.toNat_lt
    have hc' := c.toNat_lt
    simp only [base64, List.mem_cons] at hc
    obtain hc | hc | hc | hc | hc := hc
    · exact hdigit (by omega) hc
    · exact hdigit (by omega) hc
    · exact hdigit (by omega) hc
    · exact hdigit (by omega) hc
    · exact ih hc

end Text

/-! ## Values of printed characters -/

namespace Headers

/-- A text of printed ASCII, the space among it. -/
def Printed (s : String) : Prop := ∀ c ∈ s.toList, 0x20 ≤ c.toNat ∧ c.toNat < 0x7F

variable {s t : String}

theorem Printed.append (hs : Printed s) (ht : Printed t) : Printed (s ++ t) := by
  intro c hc
  rw [String.toList_append, List.mem_append] at hc
  exact hc.elim (hs c) (ht c)

theorem utf8_of_printed (h : Printed s) : utf8 s = s.toList.map fun c => UInt8.ofNat c.toNat := by
  unfold Printed at h
  rw [utf8]
  generalize s.toList = cs at h
  induction cs with
  | nil => rfl
  | cons c cs ih =>
    rw [List.forall_mem_cons] at h
    have hc : c.toNat < 128 := by omega
    rw [utf8OfChars_cons, utf8EncodeChar_ascii hc, ih h.2, List.map_cons, List.singleton_append]

theorem value?_of_printed (h : Printed s) : value? s = some (utf8 s) := by
  have hall : (utf8 s).all isValueOctet = true := by
    rw [utf8_of_printed h, List.all_map, List.all_eq_true]
    intro c hc
    obtain ⟨hlow, hhigh⟩ := h c hc
    have hoctet : (UInt8.ofNat c.toNat).toNat = c.toNat := toNat_ofNat_of_lt (by omega)
    have hne : UInt8.ofNat c.toNat ≠ 0x7F := by
      intro heq
      rw [heq] at hoctet
      simp at hoctet
      omega
    simp [isValueOctet, UInt8.le_iff_toNat_le, hoctet, hlow, hne]
  rw [value?, if_pos hall]

theorem visible?_of_printed (h : Printed s) : visible? (utf8 s) = some s := by
  have hall : (utf8 s).all isVisible = true := by
    rw [utf8_of_printed h, List.all_map, List.all_eq_true]
    intro c hc
    obtain ⟨hlow, hhigh⟩ := h c hc
    have hoctet : (UInt8.ofNat c.toNat).toNat = c.toNat := toNat_ofNat_of_lt (by omega)
    simp [isVisible, UInt8.le_iff_toNat_le, UInt8.lt_iff_toNat_lt, hoctet, hlow, hhigh]
  obtain ⟨t, ht⟩ : ∃ t, visible? (utf8 s) = some t := by
    rw [visible?, if_pos hall]
    exact ⟨_, rfl⟩
  rw [ht, utf8_injective (utf8_of_visible ht)]

theorem getAll_append (h : Headers) (name other : String) (value : Octets) :
    (h.append name value).getAll other =
      h.getAll other ++ if lowerText other = name then (visible? value).toList else [] := by
  simp only [getAll, values, valuesOf_append, List.filterMap_append]
  congr 1
  by_cases hname : name = lowerText other
  · rw [if_pos hname, if_pos hname.symm]
    cases hvisible : visible? value <;> simp [hvisible]
  · rw [if_neg hname, if_neg (Ne.symm hname), List.filterMap_nil]

end Headers

/-! ## Names and passwords -/

namespace Authentication
open Headers

def basicValue (username password : String) : String :=
  "Basic " ++ String.ofList (base64 (utf8 (username ++ ":" ++ password)))

theorem printed_basicValue (username password : String) :
    Printed (basicValue username password) := by
  apply Printed.append
  · intro c hc
    have hword : "Basic ".toList = ['B', 'a', 's', 'i', 'c', ' '] := rfl
    rw [hword] at hc
    simp only [List.mem_cons, List.not_mem_nil, or_false] at hc
    rcases hc with rfl | rfl | rfl | rfl | rfl | rfl <;> decide
  · intro c hc
    rw [String.toList_ofList] at hc
    obtain ⟨hlow, hhigh⟩ := printed_of_mem_base64 hc
    exact ⟨Nat.le_of_lt hlow, hhigh⟩

/-- Credentials of this kind are neither blank nor illegal, whatever the name and the password. -/
theorem granted?_basic (username password : String) :
    (basic username password).granted? = some (utf8 (basicValue username password)) := by
  have hcontent : (basic username password).content = some (basicValue username password) := rfl
  have hblank : trim (basicValue username password).toList ≠ [] := by
    obtain ⟨cs, hcs⟩ : ∃ cs, (basicValue username password).toList = 'B' :: cs := by
      rw [basicValue, String.toList_append]
      exact ⟨_, rfl⟩
    rw [hcs, trim, trimStart_cons rfl, trimEnd_cons, if_neg]
    · exact List.cons_ne_nil _ _
    · rintro ⟨-, hblank⟩
      cases hblank
  rw [granted?, hcontent, Option.bind_eq_bind, Option.bind_some, if_neg hblank,
    value?_of_printed (printed_basicValue username password)]

/-- The value says what stands before and after the colon together, and nothing more. -/
theorem basicValue_eq_iff {u p u' p' : String} :
    basicValue u p = basicValue u' p' ↔ u ++ ":" ++ p = u' ++ ":" ++ p' := by
  constructor
  · intro h
    have hlist := congrArg String.toList h
    simp only [basicValue, String.toList_append, String.toList_ofList] at hlist
    exact utf8_injective (base64_injective (List.append_cancel_left hlist))
  · intro h
    rw [basicValue, basicValue, h]

theorem eq_of_joined {u p u' p' : String} (hu : ':' ∉ u.toList) (hu' : ':' ∉ u'.toList)
    (h : u ++ ":" ++ p = u' ++ ":" ++ p') : u = u' ∧ p = p' := by
  have hlist := congrArg String.toList h
  simp only [String.toList_append, List.append_assoc] at hlist
  obtain ⟨hname, hpassword⟩ := eq_of_cut hu hu' hlist
  exact ⟨String.toList_inj.mp hname, String.toList_inj.mp hpassword⟩

/-- A colon in a name does matter: what stands behind it can as well be a part of the password. -/
theorem basicValue_colon (name rest password : String) :
    basicValue (name ++ ":" ++ rest) password = basicValue name (rest ++ ":" ++ password) := by
  rw [basicValue_eq_iff]
  simp only [String.append_assoc]

end Authentication

namespace Interceptor
open Authentication

theorem apply_basic (username password : String) (r : Request) :
    (credentials (.basic username password)).apply r =
      r.withHeaders (r.headers.append authorizationName (utf8 (basicValue username password))) := by
  have hgranted : (credentials (.basic username password)).granted? =
      some (utf8 (basicValue username password)) := by
    rw [granted?, granted?_basic]
  rw [apply_credentials, added_of_granted hgranted, withLines, Headers.append]

theorem reports_basic (username password : String) (r : Request) :
    (credentials (.basic username password)).reports r = [] := by
  have hgranted := granted?_basic username password
  rw [granted?_eq] at hgranted
  obtain ⟨content, hcontent, hvalue⟩ := Option.bind_eq_some_iff.mp hgranted
  simp only [reports, authorize_presented hcontent, hvalue]

theorem values_basic (username password : String) (r : Request) (name : String) :
    ((credentials (.basic username password)).apply r).headers.values name =
      r.headers.values name ++
        if lowerText name = authorizationName then [utf8 (basicValue username password)]
        else [] := by
  rw [apply_basic]
  simp only [Request.withHeaders, Headers.values, Headers.valuesOf_append, eq_comm]

/-- The line is read as the text that was sent, behind what could be read before. -/
theorem getAll_basic (username password : String) (r : Request) {name : String}
    (hname : lowerText name = authorizationName) :
    ((credentials (.basic username password)).apply r).headers.getAll name =
      r.headers.getAll name ++ [basicValue username password] := by
  have hvisible := Headers.visible?_of_printed (printed_basicValue username password)
  rw [apply_basic]
  simp only [Request.withHeaders, Headers.getAll_append, hname, if_true, hvisible,
    Option.toList_some]

/-- **A name and a password are always sent, and what is sent says which they are.** For every name,
every password and every request, the request gets one more line under the name of credentials,
behind all lines that were there, and is otherwise as it was; nothing is refused and nothing
reported. The value is `Basic` and a text of base64 that stands for the octets of the name, a colon
and the password, and it is read as this text, behind the values that could be read before. Two
different pairs of a name without a colon and a password are never sent as the same value, whatever
the requests. -/
theorem basic_is_sent_unambiguously :
    (∀ (username password : String) (r : Request),
      let value := basicValue username password
      let sent := (credentials (.basic username password)).apply r
      (∃ text, value = "Basic " ++ String.ofList text ∧
        base64Octets? text = some (utf8 (username ++ ":" ++ password))) ∧
      sent = r.withHeaders (r.headers.append authorizationName (utf8 value)) ∧
      (∀ name, lowerText name = authorizationName →
        sent.headers.values name = r.headers.values name ++ [utf8 value] ∧
          sent.headers.getAll name = r.headers.getAll name ++ [value]) ∧
      (∀ name, lowerText name ≠ authorizationName →
        sent.headers.values name = r.headers.values name) ∧
      (credentials (.basic username password)).reports r = []) ∧
    ∀ (username password username' password' : String) (r r' : Request),
      ':' ∉ username.toList → ':' ∉ username'.toList →
      (username, password) ≠ (username', password') →
      (((credentials (.basic username password)).apply r).headers.getAll
          authorizationName).getLast? ≠
        (((credentials (.basic username' password')).apply r').headers.getAll
          authorizationName).getLast? := by
  have hlower : lowerText authorizationName = authorizationName := by decide
  refine ⟨fun username password r => ?_, fun u p u' p' r r' hu hu' hne hsame => ?_⟩
  · intro value sent
    refine ⟨⟨_, rfl, base64Octets?_base64 _⟩, apply_basic username password r,
      fun name hname => ⟨?_, getAll_basic username password r hname⟩, fun name hname => ?_,
      reports_basic username password r⟩
    · rw [values_basic, if_pos hname]
    · rw [values_basic, if_neg hname, List.append_nil]
  · rw [getAll_basic u p r hlower, getAll_basic u' p' r' hlower, List.getLast?_concat,
      List.getLast?_concat] at hsame
    obtain ⟨rfl, rfl⟩ := eq_of_joined hu hu' (basicValue_eq_iff.mp (Option.some.inj hsame))
    exact hne rfl

/-- An empty name and a password of control characters and a colon, sent with a request that has
credentials already, against a name that is the front of that password. -/
theorem basic_is_sent_unambiguously_of_controls :
    let r := (Request.plain ⟨"http", some ⟨"", none, .name "api.example", none⟩, "/me", none, none⟩
      "GET" .string).withHeaders ⟨[⟨"authorization", utf8 "own"⟩]⟩
    let sent (username password : String) := (credentials (.basic username password)).apply r
    ':' ∉ "".toList ∧ ':' ∉ "\x00".toList ∧ ("", "\x00:\n") ≠ ("\x00", "\n") ∧
      lowerText "Authorization" = authorizationName ∧ lowerText "Accept" ≠ authorizationName ∧
      (sent "" "\x00:\n").headers.values "Authorization" =
        [utf8 "own", utf8 "Basic OgA6Cg=="] ∧
      (sent "" "\x00:\n").headers.getAll "Authorization" = ["own", "Basic OgA6Cg=="] ∧
      (sent "" "\x00:\n").headers.values "Accept" = [] ∧
      ((sent "" "\x00:\n").headers.getAll authorizationName).getLast? ≠
        ((sent "\x00" "\n").headers.getAll authorizationName).getLast? := by
  intro r sent
  have hname : ':' ∉ "".toList := by decide
  have hname' : ':' ∉ "\x00".toList := by decide
  have hpair : ("", "\x00:\n") ≠ ("\x00", "\n") := by decide
  have hlower : lowerText "Authorization" = authorizationName := by decide
  have hother : lowerText "Accept" ≠ authorizationName := by decide
  have hvalue : basicValue "" "\x00:\n" = "Basic OgA6Cg==" := by decide
  have hown : r.headers.values "Authorization" = [utf8 "own"] := by decide
  have hread : r.headers.getAll "Authorization" = ["own"] := by decide
  obtain ⟨-, -, hsame, hrest, -⟩ := basic_is_sent_unambiguously.1 "" "\x00:\n" r
  obtain ⟨hvalues, hall⟩ := hsame "Authorization" hlower
  rw [hown, hvalue] at hvalues
  rw [hread, hvalue] at hall
  exact ⟨hname, hname', hpair, hlower, hother, hvalues, hall, hrest "Accept" hother,
    basic_is_sent_unambiguously.2 _ _ _ _ r r hname hname' hpair⟩

end Interceptor
end Endpoint
