import Endpoint.Proofs.MediaType
import Mathlib.Data.List.Forall2

/-!
Values of parameters. They are shown without quotes and are read with or without them, and a text is
cut at its semicolons before any quote is looked at. So there are values that do not survive being
shown, and others that quotes do not keep together.

What is proved:
  1. `sheds_reread` and `reread_eq_self_iff`: a value that is shown and read again sheds the blanks
     around it and then one pair of quotes, and it is left as it is exactly if it is `Stable`;
  2. `shown_is_read_again`: so the text of a media type that was read is read as the same media type
     but for the values that are not stable;
  3. `param?_withParam`: what is set for a name is what is found under it in any case, and nothing
     else changes;
  4. `quoted_values_read_iff`: parameters between quotes are read whole exactly if there is no
     semicolon in any of them.
-/
namespace Endpoint.MediaType
open Text

/-! ## Blanks and quotes around a value -/

/-- Neither the first nor the last character is blank. -/
structure Bare (cs : List Char) : Prop where
  first : ∀ c ∈ cs.head?, isBlank c = false
  last : ∀ c ∈ cs.getLast?, isBlank c = false

/-- A text between double quotes. -/
structure Quoted (cs : List Char) : Prop where
  length : 2 ≤ cs.length
  first : cs.head? = some '"'
  last : cs.getLast? = some '"'

/-- A value that has nothing to lose: it is bare and not quoted. -/
structure Stable (value : String) : Prop where
  bare : Bare value.toList
  unquoted : ¬Quoted value.toList

/-- The first text is the second with blanks around it, and this one is bare. -/
structure Padded (value core : List Char) : Prop where
  around : ∃ front back, value = front ++ core ++ back ∧ (∀ c ∈ front, isBlank c = true) ∧
    ∀ c ∈ back, isBlank c = true
  bare : Bare core

/-- What a value becomes: it loses the blanks around it, and then one pair of quotes if it has
one. -/
inductive Sheds (value : List Char) : List Char → Prop where
  | blanks {core : List Char} : Padded value core → ¬Quoted core → Sheds value core
  | quotes {inner : List Char} : Padded value ('"' :: (inner ++ ['"'])) → Sheds value inner

theorem trim_eq_self_iff {cs : List Char} : trim cs = cs ↔ Bare cs := by
  constructor
  · intro h
    exact ⟨trimStart_eq_self_iff.mp (trimStart_of_trim h),
      trimEnd_eq_self_iff.mp (trimEnd_of_trim h)⟩
  · intro h
    rw [trim, trimStart_eq_self_iff.mpr h.first, trimEnd_eq_self_iff.mpr h.last]

theorem padded_trim (cs : List Char) : Padded cs (trim cs) where
  around := exists_trim cs
  bare := trim_eq_self_iff.mp (trim_trim cs)

theorem padded_iff {value core : List Char} : Padded value core ↔ core = trim value := by
  constructor
  · rintro ⟨⟨front, back, rfl, hfront, hback⟩, hbare⟩
    rw [trim_around_blanks hfront hback, trim_eq_self_iff.mpr hbare]
  · rintro rfl
    exact padded_trim value

theorem Padded.length_le {value core : List Char} (h : Padded value core) :
    core.length ≤ value.length := by
  obtain ⟨front, back, rfl, -⟩ := h.around
  simp only [List.length_append]
  omega

theorem quoted_iff {cs : List Char} : Quoted cs ↔ ∃ inner, cs = '"' :: (inner ++ ['"']) := by
  constructor
  · rintro ⟨hlength, hfirst, hlast⟩
    obtain ⟨rest, rfl⟩ := List.head?_eq_some_iff.mp hfirst
    have hne : rest ≠ [] := by
      rintro rfl
      simp at hlength
    rw [List.getLast?_cons_of_ne_nil hne] at hlast
    obtain ⟨inner, rfl⟩ := List.getLast?_eq_some_iff.mp hlast
    exact ⟨inner, rfl⟩
  · rintro ⟨inner, rfl⟩
    refine ⟨by simp, rfl, ?_⟩
    rw [← List.cons_append, List.getLast?_concat]

theorem quoted_quotes (inner : List Char) : Quoted ('"' :: (inner ++ ['"'])) :=
  quoted_iff.mpr ⟨inner, rfl⟩

theorem Quoted.bare {cs : List Char} (h : Quoted cs) : Bare cs where
  first c hc := by
    rw [h.first, Option.mem_some_iff] at hc
    rw [← hc]
    decide
  last c hc := by
    rw [h.last, Option.mem_some_iff] at hc
    rw [← hc]
    decide

theorem bare_of_unblank {cs : List Char} (h : ∀ c ∈ cs, isBlank c = false) : Bare cs where
  first c hc := h c (List.mem_of_mem_head? hc)
  last c hc := h c (List.mem_of_getLast? hc)

theorem strip_quotes_iff {cs inner : List Char} :
    (stripStart? '"' cs).bind (stripEnd? '"') = some inner ↔ cs = '"' :: (inner ++ ['"']) := by
  rw [Option.bind_eq_some_iff]
  constructor
  · rintro ⟨rest, hstart, hend⟩
    rw [stripStart?_eq_some_iff.mp hstart, stripEnd?_eq_some_iff.mp hend]
  · rintro rfl
    exact ⟨inner ++ ['"'], stripStart?_eq_some_iff.mpr rfl, stripEnd?_eq_some_iff.mpr rfl⟩

theorem unquote_quotes (inner : List Char) : unquote ('"' :: (inner ++ ['"'])) = inner := by
  rw [unquote, strip_quotes_iff.mpr rfl, Option.getD_some]

theorem unquote_of_not_quoted {cs : List Char} (h : ¬Quoted cs) : unquote cs = cs := by
  have hnone : (stripStart? '"' cs).bind (stripEnd? '"') = none := by
    rw [Option.eq_none_iff_forall_ne_some]
    exact fun inner hinner => h (quoted_iff.mpr ⟨inner, strip_quotes_iff.mp hinner⟩)
  rw [unquote, hnone, Option.getD_none]

/-! ## Values that are shown and read again -/

/-- A value becomes what is left of it when it is trimmed and then unquoted. -/
theorem sheds_iff {value inner : List Char} : Sheds value inner ↔ inner = unquote (trim value) := by
  constructor
  · rintro (⟨hcore, hquoted⟩ | hcore)
    · rw [← padded_iff.mp hcore, unquote_of_not_quoted hquoted]
    · rw [← padded_iff.mp hcore, unquote_quotes]
  · rintro rfl
    by_cases h : Quoted (trim value)
    · obtain ⟨inner, hinner⟩ := quoted_iff.mp h
      rw [hinner, unquote_quotes]
      exact .quotes (padded_iff.mpr hinner.symm)
    · rw [unquote_of_not_quoted h]
      exact .blanks (padded_trim value) h

theorem sheds_reread (value : String) : Sheds value.toList (reread value).toList := by
  rw [reread, String.toList_ofList]
  exact sheds_iff.mpr rfl

/-- Only stable values are left as they are: every other one becomes shorter. -/
theorem reread_eq_self_iff {value : String} : reread value = value ↔ Stable value := by
  rw [reread, ← String.toList_inj, String.toList_ofList]
  constructor
  · intro heq
    by_cases h : Quoted (trim value.toList)
    · obtain ⟨inner, hinner⟩ := quoted_iff.mp h
      have hlength := (padded_trim value.toList).length_le
      rw [hinner, unquote_quotes] at heq
      rw [hinner, heq, List.length_cons, List.length_append] at hlength
      omega
    · rw [unquote_of_not_quoted h] at heq
      exact ⟨trim_eq_self_iff.mp heq, heq ▸ h⟩
  · intro h
    rw [trim_eq_self_iff.mpr h.bare, unquote_of_not_quoted h.unquoted]

/-- What is true of a media type and of the one that its text is read as. -/
structure RereadingLaws (m m' : MediaType) : Prop where
  main : m'.main = m.main
  subtype : m'.subtype = m.subtype
  names : m'.params.map Prod.fst = m.params.map Prod.fst
  same_iff : m' = m ↔ ∀ p ∈ m.params, Stable p.2
  values : List.Forall₂ (fun p q => (Stable p.2 → q.2 = p.2) ∧ Sheds p.2.toList q.2.toList)
    m.params m'.params

/-- **What was read is read again from what it is shown as.** The text of a media type that was read
from any text can be read. Main type, subtype and the names of the parameters come back in their
order, and the whole media type does exactly if all its values are stable; any other value sheds the
blanks around it and then one pair of quotes. -/
theorem shown_is_read_again {s : String} {m : MediaType} (h : ofText s = .ok m) :
    ∃ m', ofText m.display = .ok m' ∧ RereadingLaws m m' := by
  have hwell : WellFormed m := wellFormed_of_read (ofText_eq_ok_iff.mp h)
  refine ⟨_, ofText_eq_ok_iff.mpr (read_display hwell), rfl, rfl, ?_, ?_, ?_⟩
  · rw [List.map_map]
    rfl
  · obtain ⟨main, subtype, params⟩ := m
    have hsame : params.map (fun p => (p.1, reread p.2)) = params ↔
        ∀ p ∈ params, (p.1, reread p.2) = p := by
      have hmap := List.map_inj_left (l := params) (f := fun p => (p.1, reread p.2)) (g := id)
      rwa [List.map_id] at hmap
    simp only [MediaType.mk.injEq, true_and]
    rw [hsame]
    refine forall₂_congr fun p _ => ?_
    rw [← reread_eq_self_iff, Prod.ext_iff]
    exact and_iff_right rfl
  · rw [List.forall₂_map_right_iff, List.forall₂_same]
    exact fun p _ => ⟨reread_eq_self_iff.mpr, sheds_reread p.2⟩

/-- A value between blanks that were quoted, one between quotes that were quoted, and one that is
left as it is. -/
theorem shown_is_read_again_of_quotes :
    let s := "Text/Plain; a=\" x \"; B=\"\"q\"\"; c=\"k=v/w\""
    let m : MediaType := ⟨"text", "plain", [("a", " x "), ("b", "\"q\""), ("c", "k=v/w")]⟩
    let m' : MediaType := ⟨"text", "plain", [("a", "x"), ("b", "q"), ("c", "k=v/w")]⟩
    ofText s = .ok m ∧ ofText m.display = .ok m' ∧ RereadingLaws m m' := by
  intro s m m'
  have hread : ofText "Text/Plain; a=\" x \"; B=\"\"q\"\"; c=\"k=v/w\"" =
      .ok ⟨"text", "plain", [("a", " x "), ("b", "\"q\""), ("c", "k=v/w")]⟩ := by rfl
  have hagain : ofText (display ⟨"text", "plain", [("a", " x "), ("b", "\"q\""), ("c", "k=v/w")]⟩) =
      .ok ⟨"text", "plain", [("a", "x"), ("b", "q"), ("c", "k=v/w")]⟩ := by cbv
  obtain ⟨m'', hm'', hlaws⟩ := shown_is_read_again hread
  rw [hagain, Except.ok.injEq] at hm''
  subst hm''
  exact ⟨hread, hagain, hlaws⟩

/-! ## Setting parameters and looking them up -/

def Lowered (m : MediaType) : Prop := ∀ p ∈ m.params, lowerText p.1 = p.1

theorem WellFormed.named {m : MediaType} (h : WellFormed m) : Lowered m :=
  fun p hp => (h.name p hp).1.lowerText

theorem Lowered.withParam {m : MediaType} (h : Lowered m) (name value : String) :
    Lowered (m.withParam name value) := by
  intro p hp
  rcases mem_setParam hp with hp | rfl
  · exact h p hp
  · exact lowerText_lowerText name

theorem find?_setParam {ps : List (String × String)} (h : ∀ p ∈ ps, lowerText p.1 = p.1)
    (name value key : String) :
    ((setParam (lowerText name) value ps).find? fun p => sameIgnoringCase p.1 key).map (·.2) =
      if sameIgnoringCase name key then some value
      else (ps.find? fun p => sameIgnoringCase p.1 key).map (·.2) := by
  have hname : sameIgnoringCase (lowerText name) key = sameIgnoringCase name key := by
    rw [Bool.eq_iff_iff, sameIgnoringCase_iff, sameIgnoringCase_iff, lowerText_lowerText]
  induction ps with
  | nil =>
    rw [setParam, List.find?_cons, hname]
    cases sameIgnoringCase name key <;> rfl
  | cons p ps ih =>
    obtain ⟨n, v⟩ := p
    rw [setParam]
    by_cases hn : n = lowerText name
    · rw [if_pos hn, List.find?_cons, List.find?_cons, hn, hname]
      cases sameIgnoringCase name key <;> rfl
    · rw [if_neg hn, List.find?_cons, List.find?_cons]
      cases hkey : sameIgnoringCase n key with
      | true =>
        -- the entry that is found is not the one that was set
        have hother : sameIgnoringCase name key = false := by
          rw [Bool.eq_false_iff, ne_eq, sameIgnoringCase_iff]
          intro heq
          rw [sameIgnoringCase_iff, h (n, v) List.mem_cons_self] at hkey
          exact hn (hkey.trans heq.symm)
        rw [hother]
        rfl
      | false => exact ih fun p hp => h p (List.mem_cons_of_mem _ hp)

/-- What is set for a name is found under it in any case, and the values of other names stay. -/
theorem param?_withParam {m : MediaType} (h : Lowered m) (name value key : String) :
    (m.withParam name value).param? key =
      if sameIgnoringCase name key then some value else m.param? key :=
  find?_setParam h name value key

/-- The media type with parameters set one after another. -/
def withParams (m : MediaType) (ps : List (String × String)) : MediaType :=
  ps.foldl (fun m p => m.withParam p.1 p.2) m

theorem param?_withParams_of_absent {m : MediaType} (hm : Lowered m) {ps : List (String × String)}
    {key : String} (h : ∀ p ∈ ps, sameIgnoringCase p.1 key = false) :
    (m.withParams ps).param? key = m.param? key := by
  induction ps generalizing m with
  | nil => rfl
  | cons p ps ih =>
    obtain ⟨hp, hps⟩ := List.forall_mem_cons.mp h
    calc ((m.withParam p.1 p.2).withParams ps).param? key = (m.withParam p.1 p.2).param? key :=
          ih (hm.withParam p.1 p.2) hps
      _ = m.param? key := by rw [param?_withParam hm, hp, if_neg Bool.false_ne_true]

theorem param?_withParams {m : MediaType} (hm : Lowered m) {ps : List (String × String)}
    (hps : ps.Pairwise fun p q => sameIgnoringCase p.1 q.1 = false) {p : String × String}
    (hp : p ∈ ps) : (m.withParams ps).param? p.1 = some p.2 := by
  induction ps generalizing m with
  | nil => cases hp
  | cons q ps ih =>
    obtain ⟨hq, hps⟩ := List.pairwise_cons.mp hps
    rcases List.mem_cons.mp hp with rfl | hp
    · have hlater : ∀ r ∈ ps, sameIgnoringCase r.1 p.1 = false := fun r hr => by
        rw [sameIgnoringCase, BEq.comm]
        exact hq r hr
      calc ((m.withParam p.1 p.2).withParams ps).param? p.1 = (m.withParam p.1 p.2).param? p.1 :=
            param?_withParams_of_absent (hm.withParam p.1 p.2) hlater
        _ = some p.2 := by rw [param?_withParam hm, if_pos (sameIgnoringCase_iff.mpr rfl)]
    · exact ih (hm.withParam q.1 q.2) hps hp

/-! ## Values between quotes -/

/-- A media type as it is written with its parameters between quotes. -/
def quotedText (main subtype : String) (ps : List (String × String)) : String :=
  main ++ "/" ++ subtype ++ displayParams (ps.map fun p => (p.1, "\"" ++ p.2 ++ "\""))

/-- Names that can be told apart and are free of blanks and of the marks that a text is cut at. -/
structure Apart (ps : List (String × String)) : Prop where
  unmarked : ∀ p ∈ ps, ∀ c ∈ p.1.toList, c ≠ ';' ∧ c ≠ '=' ∧ isBlank c = false
  distinct : ps.Pairwise fun p q => sameIgnoringCase p.1 q.1 = false

/-- What a parameter between quotes is written as after its semicolon. -/
def quotedPiece (p : String × String) : List Char := paramPiece (p.1, "\"" ++ p.2 ++ "\"")

theorem toList_quotedText (main subtype : String) (ps : List (String × String)) :
    (quotedText main subtype ps).toList =
      (main ++ "/" ++ subtype).toList ++ ps.flatMap fun p => ';' :: quotedPiece p := by
  rw [quotedText, String.toList_append, toList_displayParams, List.flatMap_map]
  rfl

theorem readParams_append (m : MediaType) (ps qs : List (List Char)) :
    readParams m (ps ++ qs) = readParams m ps >>= fun m' => readParams m' qs := by
  induction ps generalizing m with
  | nil => rfl
  | cons p ps ih =>
    simp only [List.cons_append, readParams]
    split
    · exact ih m
    · split
      · rfl
      · exact ih _

theorem read_append {text : List Char} {m : MediaType} (h : read text = .ok m)
    {α : Type} {f : α → List Char} {as : List α} (has : ∀ a ∈ as, ';' ∉ f a) :
    read (text ++ as.flatMap fun a => ';' :: f a) = readParams m (as.map f) := by
  obtain ⟨essence, params, hpieces⟩ := List.exists_cons_of_ne_nil (pieces_ne_nil ';' text)
  rw [read, hpieces] at h
  rw [read, pieces_flatMap text has, hpieces, List.cons_append]
  cases hessence : readEssence essence with
  | error flaw =>
    simp only [hessence] at h
    cases h
  | ok m' =>
    simp only [hessence] at h ⊢
    show readParams m' (params ++ as.map f) = _
    rw [readParams_append]
    have hparams : readParams m' params = .ok m := h
    rw [hparams]
    rfl

/-- A parameter between quotes is set to what stands between the quotes. -/
theorem readParams_quotedPiece {m : MediaType} {p : String × String} (rest : List (List Char))
    (hp : ∀ c ∈ p.1.toList, c ≠ ';' ∧ c ≠ '=' ∧ isBlank c = false) :
    readParams m (quotedPiece p :: rest) = readParams (m.withParam p.1 p.2) rest := by
  obtain ⟨n, v⟩ := p
  have hname : trim n.toList = n.toList :=
    trim_eq_self_iff.mpr (bare_of_unblank fun c hc => (hp c hc).2.2)
  have hquoted : Quoted ('"' :: (v.toList ++ ['"'])) := quoted_quotes v.toList
  have hvalue : trim ('"' :: (v.toList ++ ['"'])) = '"' :: (v.toList ++ ['"']) :=
    trim_eq_self_iff.mpr hquoted.bare
  have hpiece : quotedPiece (n, v) = ' ' :: (n.toList ++ '=' :: '"' :: (v.toList ++ ['"'])) := by
    simp [quotedPiece, paramPiece]
  have htrim : trim (quotedPiece (n, v)) = n.toList ++ '=' :: '"' :: (v.toList ++ ['"']) := by
    rw [hpiece, trim_cons_blank (by decide), trim_around (by decide), trimStart_of_trim hname,
      trimEnd_of_trim hvalue]
  have hne : trim (quotedPiece (n, v)) ≠ [] := by
    rw [htrim]
    simp
  have hcut : cut '=' (trim (quotedPiece (n, v))) = some (n.toList, '"' :: (v.toList ++ ['"'])) :=
    cut_eq_some_iff.mpr ⟨htrim, fun hmem => (hp '=' hmem).2.1 rfl⟩
  simp only [readParams, hne, if_false, hcut, hname, hvalue, unquote_quotes, String.ofList_toList]

theorem readParams_quoted {m : MediaType} {ps : List (String × String)}
    (hps : ∀ p ∈ ps, ∀ c ∈ p.1.toList, c ≠ ';' ∧ c ≠ '=' ∧ isBlank c = false) :
    readParams m (ps.map quotedPiece) = .ok (m.withParams ps) := by
  induction ps generalizing m with
  | nil => rfl
  | cons p ps ih =>
    obtain ⟨hp, hps⟩ := List.forall_mem_cons.mp hps
    rw [List.map_cons, readParams_quotedPiece _ hp, ih hps]
    rfl

/-- Without semicolons in names and values, the parameters that are written between quotes are set
one after another. -/
theorem ofText_quotedText {main subtype : String} {m : MediaType} {ps : List (String × String)}
    (h : ofText (main ++ "/" ++ subtype) = .ok m) (hps : Apart ps)
    (hvalues : ∀ p ∈ ps, ';' ∉ p.2.toList) :
    ofText (quotedText main subtype ps) = .ok (m.withParams ps) := by
  have hpieces : ∀ p ∈ ps, ';' ∉ quotedPiece p := by
    intro p hp
    have hname : ';' ∉ p.1.toList := fun hmem => (hps.unmarked p hp _ hmem).1 rfl
    simp [quotedPiece, paramPiece, hname, hvalues p hp]
  rw [ofText_eq_ok_iff, toList_quotedText, read_append (ofText_eq_ok_iff.mp h) hpieces,
    readParams_quoted hps.unmarked]

theorem not_mem_of_param? {s key value : String} {m : MediaType} (h : ofText s = .ok m)
    (hvalue : m.param? key = some value) : ';' ∉ value.toList := by
  obtain ⟨p, hp, rfl⟩ := Option.map_eq_some_iff.mp hvalue
  exact (wellFormed_of_read (ofText_eq_ok_iff.mp h)).value p (List.mem_of_find?_eq_some hp)

/-- **Values between quotes are read whole exactly if there is no semicolon in them.** Take a main
type and a subtype that can be read on their own, and parameters with names that are told apart and
hold neither blanks nor the marks that a text is cut at. With the values between quotes the text can
be read, and every name has its value, whatever other characters it is made of, exactly if no value
holds a semicolon. -/
theorem quoted_values_read_iff {main subtype : String} {m : MediaType}
    {ps : List (String × String)} (h : ofText (main ++ "/" ++ subtype) = .ok m) (hps : Apart ps) :
    (∃ m', ofText (quotedText main subtype ps) = .ok m' ∧ ∀ p ∈ ps, m'.param? p.1 = some p.2) ↔
      ∀ p ∈ ps, ';' ∉ p.2.toList := by
  have hwell : WellFormed m := wellFormed_of_read (ofText_eq_ok_iff.mp h)
  constructor
  · rintro ⟨m', hread, hfound⟩ p hp
    exact not_mem_of_param? hread (hfound p hp)
  · intro hvalues
    exact ⟨_, ofText_quotedText h hps hvalues,
      fun p hp => param?_withParams hwell.named hps.distinct hp⟩

/-- An equals sign, a slash, blanks at both ends and quotes do not matter between quotes. -/
theorem quoted_values_read_iff_of_marks :
    let ps := [("boundary", " a=b/c "), ("Title", "say \"hi\""), ("empty", "")]
    ofText ("multipart" ++ "/" ++ "mixed") = .ok ⟨"multipart", "mixed", []⟩ ∧ Apart ps ∧
      ∃ m', ofText (quotedText "multipart" "mixed" ps) = .ok m' ∧
        ∀ p ∈ ps, m'.param? p.1 = some p.2 := by
  intro ps
  have hread : ofText ("multipart" ++ "/" ++ "mixed") = .ok ⟨"multipart", "mixed", []⟩ := by cbv
  have hps : Apart ps := ⟨by simp [ps, isBlank], by decide⟩
  exact ⟨hread, hps, (quoted_values_read_iff hread hps).mpr (by decide)⟩

/-- A semicolon cuts a value in two although quotes stand around it. What is behind it is no
parameter, or one of its own, and then the value in front of it has one of the quotes. -/
theorem semicolon_cuts_quoted_value :
    (ofText ("text" ++ "/" ++ "plain") = .ok .plainText ∧ Apart [("a", "x;y")] ∧
      (∀ c ∈ "x;y".toList, c ≠ '"' ∧ c ≠ '\\') ∧
      quotedText "text" "plain" [("a", "x;y")] = "text/plain; a=\"x;y\"" ∧
      ofText "text/plain; a=\"x;y\"" = .error (.configuration
        (.mediaType "text/plain; a=\"x;y\"" "parameter without '='"))) ∧
    ofText "text/plain; a=\"x;b=y\"" =
      .ok ⟨"text", "plain", [("a", "\"x"), ("b", "y\"")]⟩ :=
  ⟨⟨by cbv, ⟨by simp [isBlank], by decide⟩, by simp, by decide, by cbv⟩, by cbv⟩

end Endpoint.MediaType
