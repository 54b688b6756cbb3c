import Endpoint.Proofs.Headers
import Endpoint.Proofs.ParameterValues

/-!
Parameters as an ordered map. A parameter that is set again keeps its place and changes its value,
and names are told apart without regard to case when a parameter is set as well as when it is looked
up. So the parameters are what the settings made of them, whether they were set one after another or
read from a text.

What is proved:
  1. `Follows.withParam` and `Follows.withParams`: one more setting keeps the parameters an ordered
     map of the settings (`Follows`), and so does any number of them;
  2. `settings_of_readParams`: what is read between the semicolons of a text are settings, one for
     each piece that is not blank, in their order (`Assigns`);
  3. `params_follow_settings`: both together.
-/
namespace Endpoint.MediaType
open Text

variable {m m' : MediaType} {ps : List (String × String)}

/-! ## Settings one after another -/

/-- The value of the last setting of a name, in any case. -/
def lastSet? (ps : List (String × String)) (name : String) : Option String :=
  (ps.reverse.find? fun p => sameIgnoringCase p.1 name).map (·.2)

/-- The parameters are an ordered map of settings. Their names hold no capitals, differ, and stand in
the order in which they were first set, and what is found for a name in any case is what it was last
set to. -/
structure Follows (m : MediaType) (ps : List (String × String)) : Prop where
  small : ∀ p ∈ m.params, ∀ c ∈ p.1.toList, ¬('A'.toNat ≤ c.toNat ∧ c.toNat ≤ 'Z'.toNat)
  distinct : (m.params.map Prod.fst).Nodup
  order : m.params.map Prod.fst = Headers.firsts (ps.map fun p => lowerText p.1)
  value : ∀ name, m.param? name = lastSet? ps name

theorem lastSet?_concat (ps : List (String × String)) (name value key : String) :
    lastSet? (ps ++ [(name, value)]) key =
      if sameIgnoringCase name key then some value else lastSet? ps key := by
  rw [lastSet?, List.reverse_concat, List.find?_cons]
  cases sameIgnoringCase name key <;> rfl

theorem not_capital_lowerAscii (c : Char) :
    ¬('A'.toNat ≤ (lowerAscii c).toNat ∧ (lowerAscii c).toNat ≤ 'Z'.toNat) := by
  rw [lowerAscii]
  split
  · rename_i hcapital
    have hbounds : 65 ≤ c.toNat ∧ c.toNat ≤ 90 := hcapital
    have hsmall : (Char.ofNat (c.toNat + 32)).toNat = c.toNat + 32 := toNat_ofNat (by omega)
    have hZ : 'Z'.toNat = 90 := rfl
    omega
  · assumption

theorem lowered_of_order
    (horder : m.params.map Prod.fst = Headers.firsts (ps.map fun p => lowerText p.1)) :
    Lowered m := by
  intro p hp
  have hmem : p.1 ∈ Headers.firsts (ps.map fun p => lowerText p.1) :=
    horder ▸ List.mem_map_of_mem hp
  obtain ⟨q, -, hq⟩ := List.mem_map.mp (Headers.mem_firsts.mp hmem)
  rw [← hq, lowerText_lowerText]

/-- An ordered map is known by the order of its names and by what is found in it. -/
theorem follows_of (horder : m.params.map Prod.fst = Headers.firsts (ps.map fun p => lowerText p.1))
    (hvalue : ∀ name, m.param? name = lastSet? ps name) : Follows m ps where
  small p hp c hc := by
    rw [← lowered_of_order horder p hp, toList_lowerText] at hc
    obtain ⟨d, -, rfl⟩ := List.mem_map.mp hc
    exact not_capital_lowerAscii d
  distinct := horder ▸ Headers.nodup_firsts _
  order := horder
  value := hvalue

theorem follows_nil (main subtype : String) : Follows (of main subtype) [] :=
  follows_of rfl fun _ => rfl

/-- One more setting. A name that is there keeps its place, and a new one comes last. -/
theorem Follows.withParam (h : Follows m ps) (name value : String) :
    Follows (m.withParam name value) (ps ++ [(name, value)]) := by
  refine follows_of ?_ fun key => ?_
  · -- a name is new among the parameters exactly if it is new among the settings
    show (setParam (lowerText name) value m.params).map Prod.fst = _
    rw [map_fst_setParam, List.map_append, h.order]
    simp only [Headers.mem_firsts]
    exact (Headers.firsts_concat _ _).symm
  · rw [param?_withParam (lowered_of_order h.order), lastSet?_concat, h.value]

theorem Follows.withParams (h : Follows m ps) (qs : List (String × String)) :
    Follows (m.withParams qs) (ps ++ qs) := by
  induction qs generalizing m ps with
  | nil =>
    rw [List.append_nil]
    exact h
  | cons q qs ih =>
    have hrest := ih (h.withParam q.1 q.2)
    rwa [List.append_assoc] at hrest

theorem withParams_keeps_type (m : MediaType) (ps : List (String × String)) :
    (m.withParams ps).main = m.main ∧ (m.withParams ps).subtype = m.subtype := by
  induction ps generalizing m with
  | nil => exact ⟨rfl, rfl⟩
  | cons p ps ih => exact ih (m.withParam p.1 p.2)

/-! ## Settings that are read -/

/-- A piece of a text sets a parameter. The name stands before its first equals sign and the value
behind it; there are blanks around both, and there may be quotes around the value. -/
def Assigns (piece : List Char) (p : String × String) : Prop :=
  ∃ name value, piece = name ++ '=' :: value ∧ '=' ∉ name ∧ Padded name p.1.toList ∧
    Sheds value p.2.toList

theorem rightUnique_assigns : Relator.RightUnique Assigns := by
  rintro piece p q ⟨name, value, htext, hname, hp, hp'⟩ ⟨name', value', htext', hname', hq, hq'⟩
  obtain ⟨rfl, rfl⟩ := eq_of_cut hname hname' (htext.symm.trans htext')
  rw [padded_iff] at hp hq
  rw [sheds_iff] at hp' hq'
  exact Prod.ext (String.toList_inj.mp (hp.trans hq.symm))
    (String.toList_inj.mp (hp'.trans hq'.symm))

/-- The pieces that are not blank, without the blanks around them. -/
def filled (pieces : List (List Char)) : List (List Char) :=
  (pieces.map trim).filter fun piece => decide (piece ≠ [])

/-- Reading pieces is setting what those that are not blank say, one after another. -/
theorem settings_of_readParams {pieces : List (List Char)} (h : readParams m pieces = .ok m') :
    ∃ qs, List.Forall₂ Assigns (filled pieces) qs ∧ m' = m.withParams qs := by
  induction pieces generalizing m with
  | nil =>
    cases h
    exact ⟨[], .nil, rfl⟩
  | cons piece pieces ih =>
    simp only [readParams] at h
    split at h
    · -- a blank piece sets nothing, and it is none of the pieces that are counted
      rename_i hblank
      obtain ⟨qs, hqs, rfl⟩ := ih h
      refine ⟨qs, ?_, rfl⟩
      rwa [filled, List.map_cons, List.filter_cons_of_neg (by simpa using hblank)]
    · rename_i hne
      split at h
      · cases h
      · rename_i name value hcut
        obtain ⟨htext, hequals⟩ := cut_eq_some_iff.mp hcut
        obtain ⟨qs, hqs, rfl⟩ := ih h
        refine ⟨(String.ofList (trim name), String.ofList (unquote (trim value))) :: qs, ?_, rfl⟩
        rw [filled, List.map_cons, List.filter_cons_of_pos (by simpa using hne)]
        refine .cons ⟨name, value, htext, hequals, ?_, ?_⟩ hqs
        · rw [String.toList_ofList, padded_iff]
        · rw [String.toList_ofList, sheds_iff]

/-- What is read is what stands before the first semicolon with the settings between the others. -/
theorem settings_of_read {text : List Char} (h : read text = .ok m) :
    ∃ main subtype qs, List.Forall₂ Assigns (filled (pieces ';' text).tail) qs ∧
      m = (of main subtype).withParams qs := by
  unfold read at h
  split at h
  · cases h
  · rename_i essence params hsplit
    rw [hsplit]
    cases hessence : readEssence essence with
    | error flaw =>
      rw [hessence] at h
      cases h
    | ok m₀ =>
      rw [hessence] at h
      obtain ⟨qs, hqs, rfl⟩ := settings_of_readParams h
      obtain rfl | ⟨a, b, -, -, -, -, -, rfl⟩ := readEssence_eq_ok hessence
      · exact ⟨wildcard, wildcard, qs, hqs, rfl⟩
      · exact ⟨_, _, qs, hqs, rfl⟩

/-- **Parameters follow their settings.** From a media type without parameters any settings lead to
one whose parameters are an ordered map of the settings, and never to another main type or subtype.
The parameters of a media type that was read are an ordered map of the settings behind the first
semicolon, which are what the pieces that are not blank say, in the order of the text. -/
theorem params_follow_settings :
    (∀ main subtype ps, Follows ((of main subtype).withParams ps) ps) ∧
    (∀ (m : MediaType) ps,
      (m.withParams ps).main = m.main ∧ (m.withParams ps).subtype = m.subtype) ∧
    ∀ s m, ofText s = .ok m → ∃ ps, Follows m ps ∧
      ∀ qs, List.Forall₂ Assigns (filled (pieces ';' s.toList).tail) qs ↔ qs = ps := by
  refine ⟨fun main subtype ps => (follows_nil main subtype).withParams ps, withParams_keeps_type,
    fun s m h => ?_⟩
  obtain ⟨main, subtype, ps, hps, rfl⟩ := settings_of_read (ofText_eq_ok_iff.mp h)
  refine ⟨ps, (follows_nil main subtype).withParams ps, fun qs => ⟨fun hqs => ?_, ?_⟩⟩
  · exact rightUnique_assigns.forall₂ hqs hps
  · rintro rfl
    exact hps

/-- A name is set again in other letters and with quotes around its value, and pieces are blank. -/
theorem params_follow_settings_of_repeated_name :
    let s := "a/b; X=1; ; y = u=v ;x=\"2\";"
    let m : MediaType := ⟨"a", "b", [("x", "2"), ("y", "u=v")]⟩
    ofText s = .ok m ∧ ∃ ps, Follows m ps ∧
      ∀ qs, List.Forall₂ Assigns (filled (pieces ';' s.toList).tail) qs ↔ qs = ps := by
  intro s m
  have hread : ofText "a/b; X=1; ; y = u=v ;x=\"2\";" =
      .ok ⟨"a", "b", [("x", "2"), ("y", "u=v")]⟩ := by rfl
  exact ⟨hread, params_follow_settings.2.2 s m hread⟩

end Endpoint.MediaType
