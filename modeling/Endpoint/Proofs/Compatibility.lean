import Endpoint.Proofs.MediaType

/-!
What compatibility means. A media type stands for formats: `*/*` for all of them, `m/*` for those of
one main type, `m/*+s` for those among them whose subtype ends in a plus sign and `s`, and any other
media type for itself. Two media types are compatible when there is a format that both stand for.

What is proved:
  1. `denotes_sample`: every media type that can be read stands for some format, and
     `wellFormed_sample`: for one that can be read itself;
  2. `denotes_of_compatible`: of two compatible media types, one stands for the sample of the other;
  3. `compatible_of_denotes`: a format that both stand for makes them compatible, as long as no plus
     sign is left in the suffix of a wildcard, since what is compared is what follows the last one;
  4. `read_lowered`: capitals in a text change neither whether it can be read nor what compatibility
     looks at;
  5. `compatible_iff_shared_format`: all of it, about media types as they are read.

Two plus signs in a wildcard are one too many (`compatible_without_shared_format`).
-/
namespace Endpoint.MediaType
open Text

/-! ## The formats that a media type stands for -/

/-- What stands behind a format, parameters aside. -/
inductive StandsFor (m c : MediaType) : Prop where
  /-- Two stars stand for every format. -/
  | every : m.main = wildcard → m.subtype = wildcard → StandsFor m c
  /-- A star stands for every subtype of a main type. -/
  | ofMain : m.main = c.main → m.subtype = wildcard → StandsFor m c
  /-- A star with a suffix stands for every subtype that ends in it. -/
  | ofSuffix {front suffix : List Char} : m.main = c.main →
    m.subtype.toList = '*' :: '+' :: suffix → c.subtype.toList = front ++ '+' :: suffix →
    StandsFor m c
  /-- A format stands for itself. -/
  | itself : m.main = c.main → m.subtype = c.subtype → StandsFor m c

/-- The first media type stands for the second, which is one format. -/
def Denotes (m c : MediaType) : Prop := c.isConcrete = true ∧ m.StandsFor c

/-- If the subtype is a wildcard, there is at most one plus sign in it. -/
def SingleSuffix (m : MediaType) : Prop :=
  m.isWildcardSubtype = true → m.subtype.toList.count '+' ≤ 1

instance (m : MediaType) : Decidable m.SingleSuffix := inferInstanceAs (Decidable (_ → _))

variable {a b c m : MediaType}

theorem isWildcardMain_iff : m.isWildcardMain = true ↔ m.main = wildcard := by
  rw [isWildcardMain, beq_iff_eq]

theorem isWildcardSubtype_iff : m.isWildcardSubtype = true ↔
    m.subtype = wildcard ∨ ∃ suffix, m.subtype.toList = '*' :: '+' :: suffix := by
  rw [isWildcardSubtype, Bool.or_eq_true, beq_iff_eq, List.isPrefixOf_iff_prefix]
  constructor
  · rintro (h | ⟨suffix, h⟩)
    · exact .inl h
    · exact .inr ⟨suffix, h.symm⟩
  · rintro (h | ⟨suffix, h⟩)
    · exact .inl h
    · exact .inr ⟨suffix, h.symm⟩

theorem isConcrete_iff :
    m.isConcrete = true ↔ m.isWildcardMain = false ∧ m.isWildcardSubtype = false := by
  simp [isConcrete]

theorem compatible_iff : a.compatible b = true ↔
    a.main = wildcard ∨ b.main = wildcard ∨ a.main = b.main ∧
      (a.subtype = b.subtype ∨ a.subtype = wildcard ∨ b.subtype = wildcard ∨
        a.isWildcardSubtype ≠ b.isWildcardSubtype ∧ a.suffix? = b.suffix?) := by
  simp only [compatible, Bool.or_eq_true, isWildcardMain_iff, bne_iff_ne, beq_iff_eq]
  by_cases ha : a.main = wildcard
  · simp [ha]
  · by_cases hb : b.main = wildcard
    · simp [hb]
    · by_cases hmain : a.main = b.main
      · by_cases hsub : (a.subtype = b.subtype ∨ a.subtype = wildcard) ∨ b.subtype = wildcard
        · simp only [hsub, if_true]
          grind
        · simp only [hsub, if_false]
          grind
      · simp [ha, hb, hmain]

theorem compatible_comm (a b : MediaType) : a.compatible b = b.compatible a := by
  rw [Bool.eq_iff_iff, compatible_iff, compatible_iff]
  grind

/-! ## A format of every media type -/

/-- A format that the media type stands for: a letter in the place of every star. -/
def sample (m : MediaType) : MediaType where
  main := if m.isWildcardMain then "a" else m.main
  subtype := if m.isWildcardSubtype then String.ofList ('a' :: m.subtype.toList.tail) else m.subtype
  params := []

theorem sample_main_cases (m : MediaType) :
    m.main = wildcard ∧ m.sample.main = "a" ∨ m.main ≠ wildcard ∧ m.sample.main = m.main := by
  cases h : m.isWildcardMain with
  | true => exact .inl ⟨isWildcardMain_iff.mp h, by simp [sample, h]⟩
  | false =>
    refine .inr ⟨fun hstar => ?_, by simp [sample, h]⟩
    rw [isWildcardMain_iff.mpr hstar] at h
    cases h

theorem sample_subtype_cases (m : MediaType) :
    (∃ rest, m.subtype.toList = '*' :: rest ∧ m.isWildcardSubtype = true ∧
      m.sample.subtype.toList = 'a' :: rest) ∨
    m.isWildcardSubtype = false ∧ m.sample.subtype = m.subtype := by
  cases h : m.isWildcardSubtype with
  | true =>
    obtain ⟨rest, hrest⟩ : ∃ rest, m.subtype.toList = '*' :: rest := by
      rcases isWildcardSubtype_iff.mp h with hstar | ⟨suffix, hsuffix⟩
      · exact ⟨[], by rw [hstar]; rfl⟩
      · exact ⟨_, hsuffix⟩
    exact .inl ⟨rest, hrest, rfl, by simp [sample, h, hrest]⟩
  | false => exact .inr ⟨rfl, by simp [sample, h]⟩

theorem isConcrete_sample (m : MediaType) : m.sample.isConcrete = true := by
  have hstar : m.sample.main ≠ wildcard := by
    rcases sample_main_cases m with ⟨-, h⟩ | ⟨hne, h⟩
    · rw [h]
      decide
    · rw [h]
      exact hne
  have hsub : ¬m.sample.isWildcardSubtype = true := by
    rcases sample_subtype_cases m with ⟨rest, -, -, h⟩ | ⟨hnot, h⟩
    · -- a letter stands where a wildcard has its star
      rw [isWildcardSubtype_iff, ← String.toList_inj, h]
      rintro (h | ⟨suffix, h⟩) <;> exact absurd (List.cons.inj h).1 (by decide)
    · rw [isWildcardSubtype, h, ← isWildcardSubtype, hnot]
      exact Bool.false_ne_true
  rw [isConcrete_iff, ← Bool.not_eq_true, ← Bool.not_eq_true, isWildcardMain_iff]
  exact ⟨hstar, hsub⟩

theorem denotes_sample (hm : WellFormed m) : m.Denotes m.sample := by
  refine ⟨isConcrete_sample m, ?_⟩
  rcases sample_main_cases m with ⟨hstar, -⟩ | ⟨-, hmain⟩
  · have hsub : m.subtype = wildcard := by
      rw [← String.toList_inj]
      exact hm.wildcard (by rw [hstar]; rfl)
    exact .every hstar hsub
  · rcases sample_subtype_cases m with ⟨rest, hrest, hwild, hsample⟩ | ⟨-, hsub⟩
    · rcases isWildcardSubtype_iff.mp hwild with hsub | ⟨suffix, hsuffix⟩
      · exact .ofMain hmain.symm hsub
      · rw [hsuffix] at hrest
        obtain ⟨-, rfl⟩ := List.cons.inj hrest
        have hfront : m.sample.subtype.toList = ['a'] ++ '+' :: suffix := hsample
        exact .ofSuffix hmain.symm hsuffix hfront
    · exact .itself hmain.symm hsub.symm

/-- A tidy text stays tidy when another small character takes the first place. -/
theorem Tidy.of_head {s s' : String} {x y : Char} {rest : List Char} (h : Tidy s)
    (hs : s.toList = x :: rest) (hs' : s'.toList = y :: rest) (hx : isBlank x = false)
    (hy : isBlank y = false) (hlow : lowerAscii y = y) : Tidy s' where
  trimmed := by
    have hkept {z : Char} (hz : isBlank z = false) : trim (z :: rest) = z :: trimEnd rest :=
      trim_around hz [] rest
    have htrimmed := h.trimmed
    rw [hs, hkept hx] at htrimmed
    rw [hs', hkept hy, (List.cons.inj htrimmed).2]
  lowered := by
    have hlowered := h.lowered
    rw [hs, List.map_cons] at hlowered
    rw [hs', List.map_cons, hlow, (List.cons.inj hlowered).2]

theorem wellFormed_sample (hm : WellFormed m) : WellFormed m.sample := by
  have hmain : Tidy m.sample.main ∧ m.sample.main.toList ≠ [] ∧
      '/' ∉ m.sample.main.toList ∧ ';' ∉ m.sample.main.toList := by
    rcases sample_main_cases m with ⟨-, h⟩ | ⟨-, h⟩
    · rw [h]
      exact ⟨⟨by decide, by decide⟩, by decide, by decide, by decide⟩
    · rw [h]
      exact ⟨hm.main, hm.main_ne, hm.main_unmarked⟩
  have hsub : Tidy m.sample.subtype ∧ m.sample.subtype.toList ≠ [] ∧
      ';' ∉ m.sample.subtype.toList := by
    rcases sample_subtype_cases m with ⟨rest, hrest, -, h⟩ | ⟨-, h⟩
    · have hunmarked := hm.subtype_unmarked
      rw [hrest, List.mem_cons, not_or] at hunmarked
      refine ⟨hm.subtype.of_head hrest h (by decide) (by decide) (by decide), ?_, ?_⟩
      · rw [h]
        exact List.cons_ne_nil _ _
      · rw [h, List.mem_cons, not_or]
        exact ⟨by decide, hunmarked.2⟩
    · rw [h]
      exact ⟨hm.subtype, hm.subtype_ne, hm.subtype_unmarked⟩
  have hstar : m.sample.main.toList ≠ ['*'] := fun h => by
    have hconcrete := (isConcrete_iff.mp (isConcrete_sample m)).1
    rw [isWildcardMain_iff.mpr (String.toList_inj.mp h)] at hconcrete
    cases hconcrete
  exact ⟨hmain.1, hsub.1, hmain.2.1, hsub.2.1, hmain.2.2, hsub.2.2, fun h => (hstar h).elim,
    fun p hp => (List.not_mem_nil hp).elim, fun p hp => (List.not_mem_nil hp).elim, List.nodup_nil⟩

theorem ofText_display_sample (hm : WellFormed m) : ofText m.sample.display = .ok m.sample :=
  ofText_eq_ok_iff.mpr (read_display (wellFormed_sample hm))

/-! ## Formats that two media types stand for -/

theorem StandsFor.congr (hmain : a.main = b.main) (hsub : a.subtype = b.subtype)
    (h : a.StandsFor c) : b.StandsFor c := by
  cases h with
  | every h h' => exact .every (hmain ▸ h) (hsub ▸ h')
  | ofMain h h' => exact .ofMain (hmain ▸ h) (hsub ▸ h')
  | ofSuffix h h' h'' => exact .ofSuffix (hmain ▸ h) (hsub ▸ h') h''
  | itself h h' => exact .itself (hmain ▸ h) (hsub ▸ h')

/-- What is compared of a wildcard with one plus sign is all that follows it. -/
theorem SingleSuffix.suffix?_eq {suffix : List Char} (hm : m.SingleSuffix)
    (h : m.subtype.toList = '*' :: '+' :: suffix) : '+' ∉ suffix ∧ m.suffix? = some suffix := by
  have hcount := hm (isWildcardSubtype_iff.mpr (.inr ⟨suffix, h⟩))
  rw [h, List.count_cons_of_ne (by decide), List.count_cons_self] at hcount
  have hnot : '+' ∉ suffix := List.count_eq_zero.mp (by omega)
  exact ⟨hnot, by rw [suffix?, h]; exact afterLast_eq_some_iff.mpr ⟨['*'], rfl, hnot⟩⟩

/-- A wildcard with one plus sign stands for every format of its main type and its suffix. -/
theorem denotes_of_suffix? (ha : a.SingleSuffix) (hwild : a.isWildcardSubtype = true)
    (hc : c.isConcrete = true) (hmain : a.main = c.main) (hsuffix : a.suffix? = c.suffix?) :
    a.Denotes c := by
  refine ⟨hc, ?_⟩
  rcases isWildcardSubtype_iff.mp hwild with hstar | ⟨suffix, hsub⟩
  · exact .ofMain hmain hstar
  · rw [(ha.suffix?_eq hsub).2] at hsuffix
    obtain ⟨front, hfront, -⟩ := afterLast_eq_some_iff.mp hsuffix.symm
    exact .ofSuffix hmain hsub hfront

/-- Of two compatible media types, one stands for the sample of the other. -/
theorem denotes_of_compatible (ha : WellFormed a) (hb : WellFormed b) (ha' : a.SingleSuffix)
    (hb' : b.SingleSuffix) (h : a.compatible b = true) :
    a.Denotes b.sample ∨ b.Denotes a.sample := by
  have hevery {m c : MediaType} (hm : WellFormed m) (hstar : m.main = wildcard) :
      m.StandsFor c := by
    refine .every hstar ?_
    rw [← String.toList_inj]
    exact hm.wildcard (by rw [hstar]; rfl)
  by_cases hamain : a.main = wildcard
  · exact .inl ⟨isConcrete_sample b, hevery ha hamain⟩
  by_cases hbmain : b.main = wildcard
  · exact .inr ⟨isConcrete_sample a, hevery hb hbmain⟩
  obtain hstar | hstar | ⟨hmain, hsub⟩ := compatible_iff.mp h
  · exact (hamain hstar).elim
  · exact (hbmain hstar).elim
  have hasample : a.sample.main = a.main :=
    (sample_main_cases a).elim (fun h => (hamain h.1).elim) fun h => h.2
  have hbsample : b.sample.main = b.main :=
    (sample_main_cases b).elim (fun h => (hbmain h.1).elim) fun h => h.2
  rcases hsub with hsub | hsub | hsub | ⟨hwild, hsuffix⟩
  · obtain ⟨hconcrete, hstands⟩ := denotes_sample hb
    exact .inl ⟨hconcrete, hstands.congr hmain.symm hsub.symm⟩
  · exact .inl ⟨isConcrete_sample b, .ofMain (hmain.trans hbsample.symm) hsub⟩
  · exact .inr ⟨isConcrete_sample a, .ofMain (hmain.symm.trans hasample.symm) hsub⟩
  · -- one is a wildcard, and the other is a format, which is its own sample
    rcases sample_subtype_cases a with ⟨-, -, hawild, -⟩ | ⟨hawild, hasub⟩
    · rcases sample_subtype_cases b with ⟨-, -, hbwild, -⟩ | ⟨-, hbsub⟩
      · exact (hwild (hawild.trans hbwild.symm)).elim
      · refine .inl (denotes_of_suffix? ha' hawild (isConcrete_sample b)
          (hmain.trans hbsample.symm) ?_)
        rw [hsuffix, suffix?, suffix?, hbsub]
    · rcases sample_subtype_cases b with ⟨-, -, hbwild, -⟩ | ⟨hbwild, -⟩
      · refine .inr (denotes_of_suffix? hb' hbwild (isConcrete_sample a)
          (hmain.symm.trans hasample.symm) ?_)
        rw [← hsuffix, suffix?, suffix?, hasub]
      · exact (hwild (hawild.trans hbwild.symm)).elim

/-- A wildcard with one plus sign is compatible with the formats that end in its suffix. -/
theorem compatible_of_suffix {front suffix : List Char} (ha : a.SingleSuffix)
    (hconcrete : c.isConcrete = true) (hmain : a.main = c.main)
    (hsub : a.subtype.toList = '*' :: '+' :: suffix)
    (hc : c.subtype.toList = front ++ '+' :: suffix) : a.compatible c = true := by
  obtain ⟨hplus, hsuffix⟩ := ha.suffix?_eq hsub
  have hwild : a.isWildcardSubtype = true := isWildcardSubtype_iff.mpr (.inr ⟨suffix, hsub⟩)
  have hsuffix' : c.suffix? = some suffix := by
    rw [suffix?, hc]
    exact afterLast_eq_some_iff.mpr ⟨front, rfl, hplus⟩
  rw [compatible_iff]
  refine .inr (.inr ⟨hmain, .inr (.inr (.inr ⟨?_, ?_⟩))⟩)
  · rw [hwild, (isConcrete_iff.mp hconcrete).2]
    decide
  · rw [hsuffix, hsuffix']

theorem compatible_of_denotes (ha : a.SingleSuffix) (hb : b.SingleSuffix)
    (hac : a.Denotes c) (hbc : b.Denotes c) : a.compatible b = true := by
  obtain ⟨hconcrete, ha'⟩ := hac
  obtain ⟨-, hb'⟩ := hbc
  have hsame (hmain : a.main = c.main) (hmain' : b.main = c.main)
      (hsub : a.subtype = b.subtype ∨ a.subtype = wildcard ∨ b.subtype = wildcard) :
      a.compatible b = true := by
    rw [compatible_iff]
    exact .inr (.inr ⟨hmain.trans hmain'.symm, by grind⟩)
  cases ha' with
  | every hstar => exact compatible_iff.mpr (.inl hstar)
  | ofMain hmain hstar =>
    cases hb' with
    | every hstar' => exact compatible_iff.mpr (.inr (.inl hstar'))
    | ofMain hmain' => exact hsame hmain hmain' (.inr (.inl hstar))
    | ofSuffix hmain' => exact hsame hmain hmain' (.inr (.inl hstar))
    | itself hmain' => exact hsame hmain hmain' (.inr (.inl hstar))
  | ofSuffix hmain hsub hc =>
    cases hb' with
    | every hstar' => exact compatible_iff.mpr (.inr (.inl hstar'))
    | ofMain hmain' hstar' => exact hsame hmain hmain' (.inr (.inr hstar'))
    | ofSuffix hmain' hsub' hc' =>
      -- what follows the last plus sign of the format is the suffix of both
      have hlast := afterLast_eq_some_iff.mpr ⟨_, hc, (ha.suffix?_eq hsub).1⟩
      have hlast' := afterLast_eq_some_iff.mpr ⟨_, hc', (hb.suffix?_eq hsub').1⟩
      rw [hlast, Option.some.injEq] at hlast'
      refine hsame hmain hmain' (.inl ?_)
      rw [← String.toList_inj, hsub, hsub', hlast']
    | itself hmain' hsub' =>
      rw [compatible_congr ⟨rfl, rfl⟩ ⟨hmain', hsub'⟩]
      exact compatible_of_suffix ha hconcrete hmain hsub hc
  | itself hmain hsub =>
    cases hb' with
    | every hstar' => exact compatible_iff.mpr (.inr (.inl hstar'))
    | ofMain hmain' hstar' => exact hsame hmain hmain' (.inr (.inr hstar'))
    | ofSuffix hmain' hsub' hc' =>
      rw [compatible_comm, compatible_congr ⟨rfl, rfl⟩ ⟨hmain, hsub⟩]
      exact compatible_of_suffix hb hconcrete hmain' hsub' hc'
    | itself hmain' hsub' => exact hsame hmain hmain' (.inl (hsub.trans hsub'.symm))

/-! ## Letter case -/

/-- What compatibility looks at. -/
def key (m : MediaType) : String × String := (m.main, m.subtype)

theorem lowered_eq_star {cs : List Char} : cs.map lowerAscii = ['*'] ↔ cs = ['*'] := by
  rw [List.map_eq_singleton_iff]
  constructor
  · rintro ⟨c, rfl, hlower⟩
    rw [(lowerAscii_eq_iff (by decide)).mp hlower]
  · rintro rfl
    exact ⟨'*', rfl, by decide⟩

theorem of_lowered (main subtype : List Char) :
    of (String.ofList (main.map lowerAscii)) (String.ofList (subtype.map lowerAscii)) =
      of (String.ofList main) (String.ofList subtype) := by
  simp only [of, lowerText, String.toList_ofList, lowered_lowered]

theorem readEssence_lowered (essence : List Char) :
    readEssence (essence.map lowerAscii) = readEssence essence := by
  have hslash : isAsciiLetter '/' = false := by decide
  simp only [readEssence, trim_lowered, lowered_eq_star, cut_lowered hslash]
  split
  · rfl
  · cases cut '/' (trim essence) with
    | none => rfl
    | some parts =>
      simp only [Option.map_some, pure, Except.pure, bind, Except.bind, trim_lowered,
        List.map_eq_nil_iff, ne_eq, lowered_eq_star, of_lowered]

/-- Parameters decide whether a text can be read, and on nothing else that compatibility looks
at. -/
theorem readParams_lowered {m m' : MediaType} (hkey : m.key = m'.key) (ps : List (List Char)) :
    (readParams m (ps.map (List.map lowerAscii))).map key = (readParams m' ps).map key := by
  have hequals : isAsciiLetter '=' = false := by decide
  induction ps generalizing m m' with
  | nil => exact congrArg Except.ok hkey
  | cons piece ps ih =>
    simp only [List.map_cons, readParams, trim_lowered, List.map_eq_nil_iff, cut_lowered hequals]
    split
    · exact ih hkey
    · cases cut '=' (trim piece) with
      | none => rfl
      | some parts => exact ih hkey

/-- Capitals change neither whether a text can be read nor what compatibility looks at. -/
theorem read_lowered (text : List Char) :
    (read (text.map lowerAscii)).map key = (read text).map key := by
  unfold read
  rw [pieces_lowered (by decide)]
  cases pieces ';' text with
  | nil => rfl
  | cons essence ps =>
    simp only [List.map_cons, readEssence_lowered]
    cases readEssence essence with
    | error flaw => rfl
    | ok m => exact readParams_lowered rfl ps

theorem ofText_of_sameIgnoringCase {s s' : String} (hs : sameIgnoringCase s s' = true)
    (ha : ofText s = .ok a) : ∃ a', ofText s' = .ok a' ∧ a'.main = a.main ∧
      a'.subtype = a.subtype := by
  have hlowered : s.toList.map lowerAscii = s'.toList.map lowerAscii := beq_iff_eq.mp hs
  have hkeys : (read s'.toList).map key = .ok a.key := by
    calc (read s'.toList).map key = (read (s'.toList.map lowerAscii)).map key :=
          (read_lowered _).symm
      _ = (read s.toList).map key := by rw [← hlowered, read_lowered]
      _ = .ok a.key := by rw [ofText_eq_ok_iff.mp ha]; rfl
  cases hread : read s'.toList with
  | error flaw =>
    rw [hread] at hkeys
    cases hkeys
  | ok a' =>
    rw [hread] at hkeys
    have hkey : a'.key = a.key := Except.ok.inj hkeys
    exact ⟨a', ofText_eq_ok_iff.mpr hread, congrArg Prod.fst hkey, congrArg Prod.snd hkey⟩

/-! ## Compatibility and the formats that are shared -/

/-- What is true of the compatibility of two media types, given the texts that they were read
from. -/
structure CompatibilityLaws (s t : String) (a b : MediaType) : Prop where
  shares : a.SingleSuffix → b.SingleSuffix →
    (a.compatible b = true ↔ ∃ c, a.Denotes c ∧ b.Denotes c)
  readable : a.SingleSuffix → b.SingleSuffix → a.compatible b = true →
    ∃ text c, ofText text = .ok c ∧ a.Denotes c ∧ b.Denotes c
  refl : a.compatible a = true
  symm : a.compatible b = b.compatible a
  params : ∀ ps qs, compatible { a with params := ps } { b with params := qs } = a.compatible b
  letters : ∀ s' t', sameIgnoringCase s s' = true → sameIgnoringCase t t' = true →
    ∃ a' b', ofText s' = .ok a' ∧ ofText t' = .ok b' ∧ a'.compatible b' = a.compatible b

/-- **Compatible media types are those that share a format.** Of media types that were read from
texts, with no more than one plus sign in a wildcard, exactly those are compatible that stand for
some format together, and then there is one that can be read itself. So compatibility is reflexive
and symmetric, and neither parameters nor the case of letters play a part. -/
theorem compatible_iff_shared_format {s t : String} {a b : MediaType} (ha : ofText s = .ok a)
    (hb : ofText t = .ok b) : CompatibilityLaws s t a b := by
  have hawell : WellFormed a := wellFormed_of_read (ofText_eq_ok_iff.mp ha)
  have hbwell : WellFormed b := wellFormed_of_read (ofText_eq_ok_iff.mp hb)
  have hreadable (ha' : a.SingleSuffix) (hb' : b.SingleSuffix) (h : a.compatible b = true) :
      ∃ text c, ofText text = .ok c ∧ a.Denotes c ∧ b.Denotes c := by
    rcases denotes_of_compatible hawell hbwell ha' hb' h with h | h
    · exact ⟨_, b.sample, ofText_display_sample hbwell, h, denotes_sample hbwell⟩
    · exact ⟨_, a.sample, ofText_display_sample hawell, denotes_sample hawell, h⟩
  refine ⟨fun ha' hb' => ⟨fun h => ?_, ?_⟩, hreadable, compatible_self a, compatible_comm a b,
    fun ps qs => compatible_congr ⟨rfl, rfl⟩ ⟨rfl, rfl⟩, fun s' t' hs ht => ?_⟩
  · obtain ⟨-, c, -, hc⟩ := hreadable ha' hb' h
    exact ⟨c, hc⟩
  · rintro ⟨c, hac, hbc⟩
    exact compatible_of_denotes ha' hb' hac hbc
  · obtain ⟨a', ha', hkey⟩ := ofText_of_sameIgnoringCase hs ha
    obtain ⟨b', hb', hkey'⟩ := ofText_of_sameIgnoringCase ht hb
    exact ⟨a', b', ha', hb', compatible_congr hkey hkey'⟩

/-- Every document format of one main type and one vendor's own: it is the format that both stand
for. -/
theorem compatible_iff_shared_format_of_suffix :
    let s := "Application/*+JSON; q=0.5"
    let t := "application/vnd.api+json"
    let a : MediaType := ⟨"application", "*+json", [("q", "0.5")]⟩
    let b : MediaType := ⟨"application", "vnd.api+json", []⟩
    ofText s = .ok a ∧ ofText t = .ok b ∧ a.SingleSuffix ∧ b.SingleSuffix ∧
      a.compatible b = true ∧ (∃ c, a.Denotes c ∧ b.Denotes c) ∧
      ∃ a' b', ofText "APPLICATION/*+json; Q=0.5" = .ok a' ∧
        ofText "Application/Vnd.API+Json" = .ok b' ∧ a'.compatible b' = true := by
  intro s t a b
  have ha : ofText "Application/*+JSON; q=0.5" =
      .ok ⟨"application", "*+json", [("q", "0.5")]⟩ := by rfl
  have hb : ofText "application/vnd.api+json" = .ok ⟨"application", "vnd.api+json", []⟩ := by rfl
  have ha' : a.SingleSuffix := by decide
  have hb' : b.SingleSuffix := by decide
  have hcompatible : a.compatible b = true := by decide
  have hlaws := compatible_iff_shared_format ha hb
  obtain ⟨a', b', hread, hread', hsame⟩ := hlaws.letters "APPLICATION/*+json; Q=0.5"
    "Application/Vnd.API+Json" (by decide) (by decide)
  exact ⟨ha, hb, ha', hb', hcompatible, (hlaws.shares ha' hb').mp hcompatible, a', b', hread,
    hread', hsame.trans hcompatible⟩

/-- With two plus signs in a wildcard, less is compared than what follows its star: these are
compatible, but no format is both. -/
theorem compatible_without_shared_format :
    let a : MediaType := ⟨"application", "*+hal+json", []⟩
    let b : MediaType := ⟨"application", "vnd.api+json", []⟩
    a.compatible b = true ∧ ¬∃ c, a.Denotes c ∧ b.Denotes c := by
  intro a b
  refine ⟨by decide, ?_⟩
  rintro ⟨c, ⟨hconcrete, hac⟩, -, hbc⟩
  have hsub : c.subtype = b.subtype := by
    cases hbc with
    | every hstar | ofMain _ hstar => exact absurd hstar (by decide)
    | ofSuffix _ hstar =>
      have hfirst : b.subtype.toList.head? = some 'v' := by decide
      rw [hstar] at hfirst
      cases hfirst
    | itself _ hsub => exact hsub.symm
  cases hac with
  | every hstar | ofMain _ hstar => exact absurd hstar (by decide)
  | @ofSuffix front suffix _ hstar hc =>
    have hrest : suffix = a.subtype.toList.drop 2 := by
      rw [hstar]
      rfl
    have hends : '+' :: a.subtype.toList.drop 2 <:+ b.subtype.toList := by
      rw [← hsub, hc, ← hrest]
      exact ⟨front, rfl⟩
    exact absurd hends (by decide)
  | itself _ hstar =>
    rw [hsub] at hstar
    exact absurd hstar (by decide)

end Endpoint.MediaType
