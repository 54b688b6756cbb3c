import Endpoint.Config
import Endpoint.Proofs.RecordReading

/-!
Configurations that are written and read again. A document holds whole seconds only, while a
configuration can hold any span of time; everything else is written as it is.

What is proved:
  1. `Duration.whole_eq_iff`: a span of time is left as it is exactly if it has no part of a second;
  2. `readsAs_document` and `parse_render`: whatever the surroundings give, the document of a
     configuration is read as this configuration in whole seconds;
  3. `sound_of_parse`: what is read from a text holds whole seconds, and an ordered dictionary;
  4. `survives_in_whole_seconds`: so a configuration survives exactly if it holds whole seconds, and
     `half_second_is_lost` is one that does not.
-/
namespace Endpoint
open Text

namespace Duration

/-- The span of time without its part of a second. -/
def whole (d : Duration) : Duration := .ofSeconds d.seconds

variable {d : Duration}

theorem nanos_whole (d : Duration) : d.whole.nanos = d.nanos / nanosPerSecond * nanosPerSecond := by
  have hlt : d.nanos / nanosPerSecond < UInt64.size :=
    Nat.div_lt_of_lt_mul (Nat.mul_comm _ _ ▸ d.bounded)
  show d.seconds.toNat * nanosPerSecond = _
  rw [seconds, UInt64.toNat_ofNat_of_lt' hlt]

theorem ext_nanos {d' : Duration} (h : d.nanos = d'.nanos) : d = d' := by
  cases d
  cases d'
  cases h
  rfl

theorem whole_eq_iff : d.whole = d ↔ nanosPerSecond ∣ d.nanos := by
  constructor
  · intro h
    rw [← h, nanos_whole]
    exact Nat.dvd_mul_left _ _
  · intro h
    apply ext_nanos
    rw [nanos_whole, Nat.div_mul_cancel h]

end Duration

namespace Config
open Json Typed

/-! ## What is written is read -/

/-- The configuration without the parts of seconds that its timeouts have. -/
def inWholeSeconds (c : Config) : Config :=
  { c with
    timeout := c.timeout.map Duration.whole
    connectTimeout := c.connectTimeout.map Duration.whole }

/-- The timeouts of a configuration have no parts of seconds. -/
structure Whole (c : Config) : Prop where
  timeout : ∀ d ∈ c.timeout, nanosPerSecond ∣ d.nanos
  connectTimeout : ∀ d ∈ c.connectTimeout, nanosPerSecond ∣ d.nanos

variable {c : Config}

theorem map_whole_eq_iff {o : Option Duration} :
    o.map Duration.whole = o ↔ ∀ d ∈ o, nanosPerSecond ∣ d.nanos := by
  cases o with
  | none => simp
  | some d => simp [Duration.whole_eq_iff]

theorem inWholeSeconds_eq_iff : c.inWholeSeconds = c ↔ c.Whole := by
  constructor
  · intro h
    exact ⟨map_whole_eq_iff.mp (congrArg Config.timeout h),
      map_whole_eq_iff.mp (congrArg Config.connectTimeout h)⟩
  · intro h
    rw [inWholeSeconds, map_whole_eq_iff.mpr h.timeout, map_whole_eq_iff.mpr h.connectTimeout]

theorem readsAs_seconds (o : Option Duration) :
    ReadsAs secondsReader (secondsJson o) (o.map Duration.whole) := by
  intro rest hrest
  cases o with
  | none =>
    have hnull := readsAs_null word rest hrest
    simp only [secondsReader, secondsJson, hnull, bind, Except.bind]
    rfl
  | some d =>
    obtain ⟨b, digit, s, hs, hdigit⟩ := starts_ofNat d.seconds.toNat
    obtain ⟨hblank, hne⟩ := octet_of_digit? hdigit
    have hword := readsAs_some (readsAs_word d.seconds) ⟨b, s, hs, hblank, hne 0x6E rfl⟩ rest hrest
    simp only [secondsReader, secondsJson, hword, bind, Except.bind]
    rfl

theorem readsAs_textJson (o : Option String) : ReadsAs (optional text) (textJson o) o := by
  cases o with
  | none => exact readsAs_null text
  | some s =>
    have hstarts : ∃ b t, (Json.text s).octets = b :: t ∧ isBlankOctet b = false ∧ b ≠ 0x6E := by
      have hoctets := octets_text s []
      rw [List.append_nil] at hoctets
      exact ⟨_, _, hoctets, rfl, by decide⟩
    exact readsAs_some (readsAs_text s) hstarts

/-- The fields of a document fill a configuration, whatever was there before. -/
theorem readsAs_document (hc : Dictionary.Ordered c.headers) (setting : Option String) :
    ReadsAs (reader setting) c.document c.inWholeSeconds := by
  apply readsAs_record
  refine .cons rfl rfl (readsAs_slot (readsAs_seconds c.timeout) _ _ _) ?_
  refine .cons rfl rfl (readsAs_slot (readsAs_seconds c.connectTimeout) _ _ _) ?_
  refine .cons rfl rfl (readsAs_slot (readsAs_dictionary hc fun h _ => readsAs_text h.2) _ _ _) ?_
  refine .cons rfl rfl (readsAs_slot (readsAs_textJson c.proxy) _ _ _) ?_
  refine .cons rfl rfl (readsAs_slot (readsAs_textJson c.userAgent) _ _ _) ?_
  refine .cons rfl rfl (readsAs_slot (readsAs_text c.defaultContentType) _ _ _) ?_
  refine .cons rfl rfl (readsAs_slot (readsAs_flag c.acceptNegotiation) _ _ _) ?_
  exact .nil _ _

theorem parse_render (hc : Dictionary.Ordered c.headers) (setting : Option String) :
    parse setting c.render = .ok c.inWholeSeconds := by
  have hoctets : utf8 c.render = c.document.octets ++ [] := by
    rw [render, Json.render, utf8, String.toList_ofList, octets, List.append_nil]
  rw [parse, hoctets, Json.whole, readsAs_document hc setting [] .nil]
  rfl

/-! ## What is given -/

/-- The dictionary of a configuration is one, and its timeouts have no parts of seconds. -/
structure Sound (c : Config) : Prop where
  headers : Dictionary.Ordered c.headers
  whole : c.Whole

theorem whole_ofSeconds (n : UInt64) : nanosPerSecond ∣ (Duration.ofSeconds n).nanos :=
  Nat.dvd_mul_left _ _

theorem ordered_set (hc : Dictionary.Ordered c.headers) (s : Setting) :
    Dictionary.Ordered (c.set s).headers := by
  cases s with
  | header name value => exact Dictionary.ordered_insert hc
  | timeout | connectTimeout | proxy | userAgent | defaultContentType | acceptNegotiation =>
    exact hc

/-- Whatever is given when a configuration is built, its headers are a dictionary. -/
theorem ordered_ofSettings (setting : Option String) (settings : List Setting) :
    Dictionary.Ordered (ofSettings setting settings).headers := by
  have hfold (settings : List Setting) :
      ∀ c : Config, Dictionary.Ordered c.headers →
        Dictionary.Ordered (settings.foldl Config.set c).headers := by
    induction settings with
    | nil => exact fun c hc => hc
    | cons s settings ih => exact fun c hc => ih _ (ordered_set hc s)
  exact hfold settings _ List.Pairwise.nil

theorem sound_standard (setting : Option String) : (standard setting).Sound where
  headers := List.Pairwise.nil
  whole := by
    constructor
    · intro d hd
      cases hd
      rw [timeoutFrom]
      split <;> exact whole_ofSeconds _
    · intro d hd
      cases hd
      exact whole_ofSeconds _

theorem whole_of_secondsReader {s rest : Octets} {o : Option Duration}
    (h : secondsReader s = .ok (o, rest)) : ∀ d ∈ o, nanosPerSecond ∣ d.nanos := by
  obtain ⟨⟨n, rest'⟩, -, h⟩ := eq_ok_of_bind h
  cases h
  intro d hd
  obtain ⟨n, -, rfl⟩ := Option.map_eq_some_iff.mp hd
  exact whole_ofSeconds n

theorem ordered_of_dictionary {α : Type} {element : Reader α} {s rest : Octets}
    {l : List (String × α)} (h : dictionary element s = .ok (l, rest)) : Dictionary.Ordered l := by
  rw [dictionary] at h
  split at h
  · cases h
  split at h
  · obtain ⟨_, -, h⟩ := eq_ok_of_bind h
    cases h
    exact Dictionary.ordered_ofEntries _
  · exact (misfit_ne_ok h).elim

theorem slots_keep_sound : ∀ slot ∈ slots, slot.Keeps Sound := by
  simp only [slots, List.forall_mem_cons]
  refine ⟨keeps_of ?timeout, keeps_of ?connectTimeout, keeps_of ?headers, keeps_of ?proxy,
    keeps_of ?userAgent, keeps_of ?defaultContentType, keeps_of ?acceptNegotiation,
    fun slot hslot => (List.not_mem_nil hslot).elim⟩
  case timeout =>
    exact fun c s d rest hc hread =>
      ⟨hc.headers, whole_of_secondsReader hread, hc.whole.connectTimeout⟩
  case connectTimeout =>
    exact fun c s d rest hc hread => ⟨hc.headers, hc.whole.timeout, whole_of_secondsReader hread⟩
  case headers =>
    exact fun c s l rest hc hread =>
      ⟨ordered_of_dictionary hread, hc.whole.timeout, hc.whole.connectTimeout⟩
  case proxy | userAgent | defaultContentType | acceptNegotiation =>
    exact fun c s _ rest hc _ => ⟨hc.headers, hc.whole.timeout, hc.whole.connectTimeout⟩

/-- What is read from a text is a dictionary and holds whole seconds. -/
theorem sound_of_parse {setting : Option String} {text : String}
    (h : parse setting text = .ok c) : c.Sound := by
  have hwhole : Json.whole (reader setting) (utf8 text) = .ok c := by
    rw [parse] at h
    cases hread : Json.whole (reader setting) (utf8 text) with
    | error fault =>
      rw [hread] at h
      cases h
    | ok c' =>
      rw [hread] at h
      cases h
      rfl
  obtain ⟨⟨c', rest⟩, hread, hrest⟩ := eq_ok_of_bind hwhole
  have hc' : c' = c := by
    simp only at hrest
    split at hrest
    · exact Except.ok.inj hrest
    · cases hrest
  rw [← hc']
  exact record_keeps (y := (c', rest)) slots_keep_sound (sound_standard setting) hread

/-- **A configuration survives in whole seconds.** Whatever the surroundings give, the text of a
configuration whose headers are a dictionary is read as this configuration without the parts of
seconds that its timeouts have, so it survives exactly if they have none. A configuration that was
built has such headers, whatever was given. And one that was read from a text survives, since no
text gives a part of a second. -/
theorem survives_in_whole_seconds (c : Config) (setting : Option String) :
    (Dictionary.Ordered c.headers →
      parse setting c.render = .ok c.inWholeSeconds ∧
        (parse setting c.render = .ok c ↔ c.Whole)) ∧
    (∀ before settings, c = ofSettings before settings → Dictionary.Ordered c.headers) ∧
    ∀ before text, parse before text = .ok c → parse setting c.render = .ok c := by
  refine ⟨fun hc => ⟨parse_render hc setting, ?_⟩, ?_, fun before text hread => ?_⟩
  · rw [parse_render hc setting, Except.ok.injEq, inWholeSeconds_eq_iff]
  · rintro before settings rfl
    exact ordered_ofSettings before settings
  · have hsound := sound_of_parse hread
    rw [parse_render hsound.headers, inWholeSeconds_eq_iff.mpr hsound.whole]

/-- A configuration in whole seconds with two headers, one with a part of a second, and one that is
read from a text while the surroundings give another timeout. -/
theorem survives_in_whole_seconds_of_minute :
    let c := ofSettings (some " 7 ") [.header "X-Team" "core", .header "Accept" "a\"b",
      .connectTimeout (.ofMillis 60000), .proxy "http://proxy.example"]
    let uneven := { c with timeout := some (.ofMillis 1500) }
    let read := { standard none with timeout := some (.ofSeconds 5), userAgent := none }
    Dictionary.Ordered c.headers ∧ c.Whole ∧ ¬uneven.Whole ∧
      parse none "\x7b\"user_agent\": null, \"timeout\": 5\x7d" = .ok read ∧
      parse none c.render = .ok c ∧
      parse none uneven.render = .ok { c with timeout := some (.ofSeconds 1) } ∧
      parse none uneven.render ≠ .ok uneven ∧
      parse (some "9") read.render = .ok read := by
  intro c uneven read
  have hordered : Dictionary.Ordered c.headers :=
    (survives_in_whole_seconds c none).2.1 (some " 7 ") _ rfl
  have hwhole : c.Whole := inWholeSeconds_eq_iff.mp (by decide)
  have huneven : ¬uneven.Whole := fun h => absurd (inWholeSeconds_eq_iff.mpr h) (by decide)
  have hparsed : parse none "\x7b\"user_agent\": null, \"timeout\": 5\x7d" = .ok read := by rfl
  obtain ⟨hread, hkept⟩ := (survives_in_whole_seconds uneven none).1 hordered
  refine ⟨hordered, hwhole, huneven, hparsed, ?_, hread, mt hkept.mp huneven, ?_⟩
  · exact ((survives_in_whole_seconds c none).1 hordered).2.mpr hwhole
  · exact (survives_in_whole_seconds read (some "9")).2.2 none _ hparsed

/-- Half a second is read as none. -/
theorem half_second_is_lost :
    let c := ofSettings none [.timeout (.ofMillis 500)]
    parse none c.render = .ok { c with timeout := some (.ofSeconds 0) } ∧
      parse none c.render ≠ .ok c := by
  intro c
  have hread : parse none c.render = .ok { c with timeout := some (.ofSeconds 0) } :=
    parse_render (ordered_ofSettings none _) none
  refine ⟨hread, ?_⟩
  rw [hread, ne_eq, Except.ok.injEq]
  decide

end Config
end Endpoint
