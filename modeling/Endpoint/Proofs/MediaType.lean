import Endpoint.MediaType
import Endpoint.Proofs.Text

/-!
Reading what a media type is shown as. Parameters are shown as they are, without quotes, so reading
them again need not give back the same values; everything that compatibility looks at comes back.

What is proved:
  1. `wellFormed_of_read`: whatever is read is in small letters, trimmed, and free of the marks that
     it is cut at (`WellFormed`); so are the media types with names of their own (`Stated`);
  2. `read_display`: the text of a well-formed media type is read as the same main type, subtype and
     parameter names, and every value as it is without the blanks around it and one pair of quotes;
  3. `display_injective`: so no two of them are shown alike;
  4. `compatible_self` and `compatible_congr`: a media type is compatible with itself, and parameters
     play no part in that.
-/
namespace Endpoint.MediaType
open Text

/-! ## Well-formed media types -/

/-- A text without blanks at its ends and without capitals. -/
structure Tidy (s : String) : Prop where
  trimmed : trim s.toList = s.toList
  lowered : s.toList.map lowerAscii = s.toList

/-- A media type whose parts cannot be taken for anything else when they are written one after
another. -/
structure WellFormed (m : MediaType) : Prop where
  main : Tidy m.main
  subtype : Tidy m.subtype
  main_ne : m.main.toList ≠ []
  subtype_ne : m.subtype.toList ≠ []
  main_unmarked : '/' ∉ m.main.toList ∧ ';' ∉ m.main.toList
  subtype_unmarked : ';' ∉ m.subtype.toList
  wildcard : m.main.toList = ['*'] → m.subtype.toList = ['*']
  name : ∀ p ∈ m.params, Tidy p.1 ∧ ';' ∉ p.1.toList ∧ '=' ∉ p.1.toList
  value : ∀ p ∈ m.params, ';' ∉ p.2.toList
  distinct : (m.params.map Prod.fst).Nodup

theorem tidy_lowerText (cs : List Char) : Tidy (lowerText (String.ofList (trim cs))) where
  trimmed := by
    rw [toList_lowerText, String.toList_ofList, trim_lowered, trim_trim]
  lowered := by
    rw [toList_lowerText, lowered_lowered]

theorem Tidy.lowerText {s : String} (h : Tidy s) : lowerText s = s := by
  rw [Text.lowerText, h.lowered, String.ofList_toList]

/-! ## What is read is well formed -/

/-- What stands before the first semicolon is a lone star, or has two parts. -/
theorem readEssence_eq_ok {essence : List Char} {m : MediaType} (h : readEssence essence = .ok m) :
    m = any ∨ ∃ a b, trim essence = a ++ '/' :: b ∧ '/' ∉ a ∧ trim a ≠ [] ∧ trim b ≠ [] ∧
      (trim a = ['*'] → trim b = ['*']) ∧
      m = of (String.ofList (trim a)) (String.ofList (trim b)) := by
  simp only [readEssence, bind, Except.bind, pure, Except.pure, throw, throwThe,
    MonadExceptOf.throw] at h
  split at h
  · rw [if_neg (by decide), if_neg (by decide)] at h
    exact .inl (Except.ok.inj h).symm
  · split at h
    · rename_i parts hcut
      obtain ⟨a, b⟩ := parts
      obtain ⟨htext, hslash⟩ := cut_eq_some_iff.mp hcut
      split at h
      · cases h
      · rename_i hne
        rw [not_or] at hne
        split at h
        · cases h
        · rename_i hstar
          refine .inr ⟨a, b, htext, hslash, hne.1, hne.2, fun ha => ?_, (Except.ok.inj h).symm⟩
          by_cases hb : trim b = ['*']
          · exact hb
          · exact (hstar ⟨ha, hb⟩).elim
    · cases h

theorem wellFormed_of {a b : List Char} (ha : trim a ≠ []) (hb : trim b ≠ [])
    (ha' : '/' ∉ a ∧ ';' ∉ a) (hb' : ';' ∉ b) (hstar : trim a = ['*'] → trim b = ['*']) :
    WellFormed (of (String.ofList (trim a)) (String.ofList (trim b))) := by
  have hmain : (of (String.ofList (trim a)) (String.ofList (trim b))).main.toList =
      (trim a).map lowerAscii := by
    rw [of, toList_lowerText, String.toList_ofList]
  have hsub : (of (String.ofList (trim a)) (String.ofList (trim b))).subtype.toList =
      (trim b).map lowerAscii := by
    rw [of, toList_lowerText, String.toList_ofList]
  have hfree {sep : Char} {cs : List Char} (hsep : isAsciiLetter sep = false) (h : sep ∉ cs) :
      sep ∉ (trim cs).map lowerAscii :=
    not_mem_lowered hsep fun hmem => h (mem_trim hmem)
  refine ⟨tidy_lowerText a, tidy_lowerText b, ?_, ?_, ⟨?_, ?_⟩, ?_, fun h => ?_, ?_, ?_, ?_⟩
  · rw [hmain, ne_eq, List.map_eq_nil_iff]
    exact ha
  · rw [hsub, ne_eq, List.map_eq_nil_iff]
    exact hb
  · rw [hmain]
    exact hfree (by decide) ha'.1
  · rw [hmain]
    exact hfree (by decide) ha'.2
  · rw [hsub]
    exact hfree (by decide) hb'
  · -- only the star itself has the star as its small form
    rw [hmain, List.map_eq_singleton_iff] at h
    obtain ⟨c, hc, hlower⟩ := h
    rw [lowerAscii_eq_iff (by decide)] at hlower
    rw [hlower] at hc
    rw [hsub, hstar hc]
    decide
  · exact fun p hp => by cases hp
  · exact fun p hp => by cases hp
  · exact List.nodup_nil

theorem wellFormed_of_readEssence {essence : List Char} {m : MediaType} (hmark : ';' ∉ essence)
    (h : readEssence essence = .ok m) : WellFormed m := by
  obtain rfl | ⟨a, b, htext, hslash, ha, hb, hstar, rfl⟩ := readEssence_eq_ok h
  · exact wellFormed_of (a := ['*']) (b := ['*']) (by decide) (by decide) (by decide) (by decide)
      fun _ => by decide
  · have hmark' : ';' ∉ a ++ '/' :: b := fun hmem => hmark (mem_trim (htext ▸ hmem))
    rw [List.mem_append, List.mem_cons, not_or, not_or] at hmark'
    exact wellFormed_of ha hb ⟨hslash, hmark'.1⟩ hmark'.2.2 hstar

/-! ## Parameters -/

theorem map_fst_setParam (name value : String) (ps : List (String × String)) :
    (setParam name value ps).map Prod.fst =
      if name ∈ ps.map Prod.fst then ps.map Prod.fst else ps.map Prod.fst ++ [name] := by
  induction ps with
  | nil => rfl
  | cons p ps ih =>
    obtain ⟨n, v⟩ := p
    rw [setParam]
    by_cases hn : n = name
    · rw [if_pos hn, List.map_cons, List.map_cons, if_pos (by rw [hn]; exact List.mem_cons_self)]
    · rw [if_neg hn, List.map_cons, List.map_cons, ih]
      by_cases hmem : name ∈ ps.map Prod.fst
      · rw [if_pos hmem, if_pos (List.mem_cons_of_mem _ hmem)]
      · rw [if_neg hmem, if_neg, List.cons_append]
        rw [List.mem_cons, not_or]
        exact ⟨Ne.symm hn, hmem⟩

theorem mem_setParam {name value : String} {p : String × String} {ps : List (String × String)}
    (h : p ∈ setParam name value ps) : p ∈ ps ∨ p = (name, value) := by
  induction ps with
  | nil => exact .inr (List.mem_singleton.mp h)
  | cons q ps ih =>
    obtain ⟨n, v⟩ := q
    rw [setParam] at h
    split at h
    · rename_i hn
      rcases List.mem_cons.mp h with rfl | h
      · exact .inr (by rw [hn])
      · exact .inl (List.mem_cons_of_mem _ h)
    · rcases List.mem_cons.mp h with rfl | h
      · exact .inl List.mem_cons_self
      · exact (ih h).imp_left (List.mem_cons_of_mem _)

theorem setParam_of_not_mem {name : String} {ps : List (String × String)}
    (h : name ∉ ps.map Prod.fst) (value : String) :
    setParam name value ps = ps ++ [(name, value)] := by
  induction ps with
  | nil => rfl
  | cons p ps ih =>
    obtain ⟨n, v⟩ := p
    rw [List.map_cons, List.mem_cons, not_or] at h
    rw [setParam, if_neg (Ne.symm h.1), ih h.2, List.cons_append]

theorem WellFormed.withParam {m : MediaType} (h : WellFormed m) {name value : List Char}
    (hname : ';' ∉ name ∧ '=' ∉ name) (hvalue : ';' ∉ value) :
    WellFormed (m.withParam (String.ofList (trim name)) (String.ofList value)) := by
  have hfree {sep : Char} (hsep : isAsciiLetter sep = false) (hnot : sep ∉ name) :
      sep ∉ (lowerText (String.ofList (trim name))).toList := by
    rw [toList_lowerText, String.toList_ofList]
    exact not_mem_lowered hsep fun hmem => hnot (mem_trim hmem)
  refine ⟨h.main, h.subtype, h.main_ne, h.subtype_ne, h.main_unmarked, h.subtype_unmarked,
    h.wildcard, fun p hp => ?_, fun p hp => ?_, ?_⟩
  · rcases mem_setParam hp with hp | rfl
    · exact h.name p hp
    · exact ⟨tidy_lowerText name, hfree (by decide) hname.1, hfree (by decide) hname.2⟩
  · rcases mem_setParam hp with hp | rfl
    · exact h.value p hp
    · rw [String.toList_ofList]
      exact hvalue
  · show ((setParam _ _ m.params).map Prod.fst).Nodup
    rw [map_fst_setParam]
    split
    · exact h.distinct
    · rename_i hnew
      rw [List.nodup_append]
      refine ⟨h.distinct, List.nodup_cons.mpr ⟨List.not_mem_nil, List.nodup_nil⟩,
        fun a ha b hb hab => hnew ?_⟩
      rw [List.mem_singleton] at hb
      rw [← hb, ← hab]
      exact ha

theorem mem_unquote {x : Char} {value : List Char} (h : x ∈ unquote value) : x ∈ value := by
  have hstrip {mark : Char} {cs ds : List Char} (hcs : stripStart? mark cs = some ds)
      (hx : x ∈ ds) : x ∈ cs := by
    cases cs with
    | nil => cases hcs
    | cons c cs =>
      rw [stripStart?] at hcs
      split at hcs
      · cases hcs
        exact List.mem_cons_of_mem _ hx
      · cases hcs
  unfold unquote at h
  cases hboth : (stripStart? '"' value).bind (stripEnd? '"') with
  | none =>
    rw [hboth] at h
    exact h
  | some inner =>
    rw [hboth] at h
    obtain ⟨ds, hds, hinner⟩ := Option.bind_eq_some_iff.mp hboth
    obtain ⟨es, hes, rfl⟩ := Option.map_eq_some_iff.mp hinner
    exact hstrip hds (List.mem_reverse.mp (hstrip hes (List.mem_reverse.mp h)))

theorem wellFormed_of_readParams {m m' : MediaType} (hm : WellFormed m) {ps : List (List Char)}
    (hps : ∀ p ∈ ps, ';' ∉ p) (h : readParams m ps = .ok m') : WellFormed m' := by
  induction ps generalizing m with
  | nil =>
    cases h
    exact hm
  | cons piece ps ih =>
    have hrest : ∀ p ∈ ps, ';' ∉ p := fun p hp => hps p (List.mem_cons_of_mem _ hp)
    have hmark : ';' ∉ trim piece := fun hmem => hps piece List.mem_cons_self (mem_trim hmem)
    simp only [readParams] at h
    split at h
    · exact ih hm hrest h
    · split at h
      · cases h
      · rename_i name value hcut
        obtain ⟨htext, heq⟩ := cut_eq_some_iff.mp hcut
        rw [htext, List.mem_append, List.mem_cons, not_or, not_or] at hmark
        exact ih (hm.withParam ⟨hmark.1, heq⟩
          fun hmem => hmark.2.2 (mem_trim (mem_unquote hmem))) hrest h

theorem wellFormed_of_read {text : List Char} {m : MediaType} (h : read text = .ok m) :
    WellFormed m := by
  have hpieces : ∀ p ∈ pieces ';' text, ';' ∉ p := fun _ => not_mem_of_mem_pieces
  unfold read at h
  split at h
  · cases h
  · rename_i essence params hsplit
    rw [hsplit] at hpieces
    cases hessence : readEssence essence with
    | error e =>
      rw [hessence] at h
      cases h
    | ok m' =>
      rw [hessence] at h
      have hm' : WellFormed m' := wellFormed_of_readEssence (hpieces _ List.mem_cons_self) hessence
      exact wellFormed_of_readParams hm' (fun p hp => hpieces p (List.mem_cons_of_mem _ hp)) h

/-! ## Reading what is shown -/

def paramPiece (p : String × String) : List Char := ' ' :: (p.1.toList ++ '=' :: p.2.toList)

/-- The value that is read where a value is shown: without the blanks around it, and without the
quotes if it has a pair of them. -/
def reread (value : String) : String := String.ofList (unquote (trim value.toList))

theorem toList_displayParams (ps : List (String × String)) :
    (displayParams ps).toList = ps.flatMap fun p => ';' :: paramPiece p := by
  induction ps with
  | nil => rfl
  | cons p ps ih => simp [displayParams, paramPiece, ih]

theorem toList_display (m : MediaType) :
    m.display.toList = (m.main.toList ++ '/' :: m.subtype.toList) ++
      m.params.flatMap fun p => ';' :: paramPiece p := by
  simp [display, essence, toList_displayParams]

theorem WellFormed.not_mem_paramPiece {m : MediaType} (h : WellFormed m) :
    ∀ p ∈ m.params, ';' ∉ paramPiece p := by
  intro p hp
  obtain ⟨-, hname, -⟩ := h.name p hp
  have hvalue := h.value p hp
  have hspace : ';' ≠ ' ' := by decide
  have hequals : ';' ≠ '=' := by decide
  simp [paramPiece, hname, hvalue, hspace, hequals]

theorem pieces_display {m : MediaType} (h : WellFormed m) :
    pieces ';' m.display.toList =
      (m.main.toList ++ '/' :: m.subtype.toList) :: m.params.map paramPiece := by
  have hessence : ';' ∉ m.main.toList ++ '/' :: m.subtype.toList := by
    have hslash : ';' ≠ '/' := by decide
    simp [h.main_unmarked.2, h.subtype_unmarked, hslash]
  rw [toList_display, pieces_flatMap _ h.not_mem_paramPiece, pieces_of_not_mem hessence,
    List.singleton_append]

theorem readEssence_display {m : MediaType} (h : WellFormed m) :
    readEssence (m.main.toList ++ '/' :: m.subtype.toList) = .ok ⟨m.main, m.subtype, []⟩ := by
  have htrim : trim (m.main.toList ++ '/' :: m.subtype.toList) =
      m.main.toList ++ '/' :: m.subtype.toList := by
    rw [trim_around (by decide), trimStart_of_trim h.main.trimmed,
      trimEnd_of_trim h.subtype.trimmed]
  have hstar : m.main.toList ++ '/' :: m.subtype.toList ≠ ['*'] := by
    intro hone
    have hslash : '/' ∈ ['*'] := by
      rw [← hone]
      simp
    exact absurd hslash (by decide)
  have hcut : cut '/' (m.main.toList ++ '/' :: m.subtype.toList) =
      some (m.main.toList, m.subtype.toList) := cut_eq_some_iff.mpr ⟨rfl, h.main_unmarked.1⟩
  have hne : ¬(m.main.toList = [] ∨ m.subtype.toList = []) := by
    rw [not_or]
    exact ⟨h.main_ne, h.subtype_ne⟩
  have hwild : ¬(m.main.toList = ['*'] ∧ m.subtype.toList ≠ ['*']) :=
    fun hboth => hboth.2 (h.wildcard hboth.1)
  simp only [readEssence, bind, Except.bind, pure, Except.pure, htrim, hstar, if_false, hcut,
    h.main.trimmed, h.subtype.trimmed, hne, hwild, String.ofList_toList, of, h.main.lowerText,
    h.subtype.lowerText]

/-- Parameters whose names are new and tidy are read one after another. -/
theorem readParams_display {m : MediaType} {ps : List (String × String)}
    (hname : ∀ p ∈ ps, Tidy p.1 ∧ '=' ∉ p.1.toList)
    (hdistinct : (m.params.map Prod.fst ++ ps.map Prod.fst).Nodup) :
    readParams m (ps.map paramPiece) =
      .ok { m with params := m.params ++ ps.map fun p => (p.1, reread p.2) } := by
  induction ps generalizing m with
  | nil =>
    rw [List.map_nil, List.map_nil, List.append_nil]
    rfl
  | cons p ps ih =>
    obtain ⟨n, v⟩ := p
    obtain ⟨htidy, hequals⟩ := hname (n, v) List.mem_cons_self
    have htrim : trim (paramPiece (n, v)) = n.toList ++ '=' :: trimEnd v.toList := by
      rw [paramPiece, trim_cons_blank (by decide), trim_around (by decide),
        trimStart_of_trim htidy.trimmed]
    have hne : trim (paramPiece (n, v)) ≠ [] := by
      rw [htrim]
      simp
    have hcut : cut '=' (trim (paramPiece (n, v))) = some (n.toList, trimEnd v.toList) :=
      cut_eq_some_iff.mpr ⟨htrim, hequals⟩
    have hnew : n ∉ m.params.map Prod.fst := by
      intro hmem
      exact (List.nodup_append.mp hdistinct).2.2 n hmem n List.mem_cons_self rfl
    -- setting a new name puts it at the end, behind the parameters that were read before
    have hset : m.withParam (String.ofList (trim n.toList))
        (String.ofList (unquote (trim (trimEnd v.toList)))) =
        { m with params := m.params ++ [(n, reread v)] } := by
      rw [trim_trimEnd, htidy.trimmed, String.ofList_toList, withParam, htidy.lowerText,
        setParam_of_not_mem hnew, reread]
    have hdistinct' : ((m.params ++ [(n, reread v)]).map Prod.fst ++ ps.map Prod.fst).Nodup := by
      rw [List.map_append, List.append_assoc]
      exact hdistinct
    have hrest := ih (m := { m with params := m.params ++ [(n, reread v)] })
      (fun p hp => hname p (List.mem_cons_of_mem _ hp)) hdistinct'
    simp only [List.map_cons, readParams, hne, if_false, hcut]
    rw [hset, hrest]
    simp

/-- **What is shown can be read.** A well-formed media type is read from its own text with its main
type, its subtype and the names of its parameters; values lose the blanks around them and then one
pair of quotes. -/
theorem read_display {m : MediaType} (h : WellFormed m) :
    read m.display.toList =
      .ok ⟨m.main, m.subtype, m.params.map fun p => (p.1, reread p.2)⟩ := by
  have hparams : readParams ⟨m.main, m.subtype, []⟩ (m.params.map paramPiece) =
      .ok ⟨m.main, m.subtype, [] ++ m.params.map fun p => (p.1, reread p.2)⟩ :=
    readParams_display (fun p hp => ⟨(h.name p hp).1, (h.name p hp).2.2⟩) h.distinct
  rw [read, pieces_display h]
  simp only [readEssence_display h]
  exact hparams

theorem paramPiece_injective {ps qs : List (String × String)}
    (hps : ∀ p ∈ ps, '=' ∉ p.1.toList) (hqs : ∀ q ∈ qs, '=' ∉ q.1.toList)
    (h : ps.map paramPiece = qs.map paramPiece) : ps = qs := by
  induction ps generalizing qs with
  | nil => exact (List.map_eq_nil_iff.mp h.symm).symm
  | cons p ps ih =>
    cases qs with
    | nil => cases h
    | cons q qs =>
      obtain ⟨hpiece, hrest⟩ := List.cons.inj h
      obtain ⟨hname, hvalue⟩ := eq_of_cut (hps p List.mem_cons_self) (hqs q List.mem_cons_self)
        (List.cons.inj hpiece).2
      have hpq : p = q := Prod.ext (String.toList_inj.mp hname) (String.toList_inj.mp hvalue)
      rw [hpq, ih (fun p hp => hps p (List.mem_cons_of_mem _ hp))
        (fun q hq => hqs q (List.mem_cons_of_mem _ hq)) hrest]

theorem display_injective {a b : MediaType} (ha : WellFormed a) (hb : WellFormed b)
    (h : a.display = b.display) : a = b := by
  have hpieces : (a.main.toList ++ '/' :: a.subtype.toList) :: a.params.map paramPiece =
      (b.main.toList ++ '/' :: b.subtype.toList) :: b.params.map paramPiece := by
    rw [← pieces_display ha, ← pieces_display hb, h]
  obtain ⟨hessence, hparams⟩ := List.cons.inj hpieces
  obtain ⟨hmain, hsub⟩ := eq_of_cut ha.main_unmarked.1 hb.main_unmarked.1 hessence
  have hps : a.params = b.params :=
    paramPiece_injective (fun p hp => (ha.name p hp).2.2) (fun p hp => (hb.name p hp).2.2) hparams
  obtain ⟨main, subtype, params⟩ := a
  obtain ⟨main', subtype', params'⟩ := b
  simp only at hmain hsub hps
  rw [String.toList_inj] at hmain hsub
  rw [hmain, hsub, hps]

/-! ## Compatibility -/

theorem compatible_self (m : MediaType) : m.compatible m = true := by
  simp [compatible]

theorem compatible_congr {a a' b b' : MediaType} (ha : a.main = a'.main ∧ a.subtype = a'.subtype)
    (hb : b.main = b'.main ∧ b.subtype = b'.subtype) : a.compatible b = a'.compatible b' := by
  obtain ⟨main, subtype, params⟩ := a
  obtain ⟨main', subtype', params'⟩ := a'
  obtain ⟨other, othersub, otherparams⟩ := b
  obtain ⟨other', othersub', otherparams'⟩ := b'
  simp only at ha hb
  obtain ⟨rfl, rfl⟩ := ha
  obtain ⟨rfl, rfl⟩ := hb
  rfl

/-- Every media type is compatible with `*/*`. -/
theorem compatible_any (m : MediaType) : m.compatible any = true := by
  have hany : any.isWildcardMain = true := by decide
  simp [compatible, hany]

/-! ## Media types that are stated -/

/-- A media type that was read from a text, or is one of those with a name of their own. -/
inductive Stated : MediaType → Prop where
  | read {text : String} {m : MediaType} : ofText text = .ok m → Stated m
  | any : Stated .any
  | json : Stated .json
  | plainText : Stated .plainText
  | octetStream : Stated .octetStream
  | form : Stated .form

/-- Reading a text and reading its characters give the same media type. -/
theorem ofText_eq_ok_iff {text : String} {m : MediaType} :
    ofText text = .ok m ↔ MediaType.read text.toList = .ok m := by
  unfold ofText
  cases MediaType.read text.toList with
  | ok t =>
    show (Except.ok t : Except Error MediaType) = .ok m ↔ _
    rw [Except.ok.injEq, Except.ok.injEq]
  | error flaw => exact iff_of_false nofun nofun

theorem ofText_json : ofText "application/json" = .ok .json := ofText_eq_ok_iff.mpr (by cbv)

theorem Stated.wellFormed {m : MediaType} (h : Stated m) : WellFormed m := by
  -- each of the media types with names is what its own text is read as
  have hany : MediaType.read "*/*".toList = .ok .any := by cbv
  have hplain : MediaType.read "text/plain".toList = .ok .plainText := by cbv
  have hoctets : MediaType.read "application/octet-stream".toList = .ok .octetStream := by cbv
  have hform : MediaType.read "application/x-www-form-urlencoded".toList = .ok .form := by cbv
  cases h with
  | read htext => exact wellFormed_of_read (ofText_eq_ok_iff.mp htext)
  | any => exact wellFormed_of_read hany
  | json => exact wellFormed_of_read (ofText_eq_ok_iff.mp ofText_json)
  | plainText => exact wellFormed_of_read hplain
  | octetStream => exact wellFormed_of_read hoctets
  | form => exact wellFormed_of_read hform

/-- The text of a stated media type is read as one that the same media types are compatible with. -/
theorem Stated.ofText_display {m : MediaType} (h : Stated m) :
    ∃ m', ofText m.display = .ok m' ∧ m'.main = m.main ∧ m'.subtype = m.subtype :=
  ⟨_, ofText_eq_ok_iff.mpr (read_display h.wellFormed), rfl, rfl⟩

end Endpoint.MediaType
