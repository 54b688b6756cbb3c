import Endpoint.Invoker
import Endpoint.Proofs.Extension
import Endpoint.Proofs.MediaType
import Endpoint.Proofs.Multimap

/-!
Where the headers of a prepared request come from. A name has up to four sources: the request, the
headers of the configuration, what the program calls itself, and the list of accepted media types.
Each function on the way asks in its own place whether a name is there: in the headers that are put
together from the configuration, in the request that came in, and in what has become of it.

What is proved:
  1. `defaultHeaders_of_sendable` and `defaultHeaders_of_not_sendable`: the default headers are the
     headers of the configuration and what the program calls itself, one behind the other, unless
     one of them is not legal;
  2. `valuesOf_apply`: an interceptor without credentials gives values to a name that has none, and
     to no other, so `values_defaults` and `values_accept` say what a name has afterwards;
  3. `listed?_of_legal`: the list of accepted media types is one value whenever there is anything to
     list, unless a media type is no legal value;
  4. `headers_come_from_first_source`: so all values of a name come from the first source that has
     any, and what is not legal keeps the invoker from being built.
-/
namespace Endpoint
open Text

namespace Headers

/-- The values of the first source that has any. -/
def firstFilled : List (List Octets) → List Octets
  | [] => []
  | source :: rest => if source = [] then firstFilled rest else source

theorem firstFilled_of_nil (rest : List (List Octets)) :
    firstFilled ([] :: rest) = firstFilled rest := if_pos rfl

theorem firstFilled_of_ne_nil {source : List Octets} (h : source ≠ []) (rest : List (List Octets)) :
    firstFilled (source :: rest) = source := if_neg h

theorem firstFilled_singleton (source : List Octets) : firstFilled [source] = source := by
  cases source with
  | nil => rfl
  | cons value values => exact firstFilled_of_ne_nil (List.cons_ne_nil _ _) []

theorem firstFilled_pair_nil (source : List Octets) : firstFilled [source, []] = source := by
  cases source with
  | nil => rfl
  | cons value values => exact firstFilled_of_ne_nil (List.cons_ne_nil _ _) [[]]

theorem firstFilled_firstFilled (sources rest : List (List Octets)) :
    firstFilled (firstFilled sources :: rest) = firstFilled (sources ++ rest) := by
  induction sources with
  | nil => exact firstFilled_of_nil rest
  | cons source sources ih =>
    by_cases hsource : source = []
    · subst hsource
      rw [firstFilled_of_nil, List.cons_append, firstFilled_of_nil, ih]
    · rw [firstFilled_of_ne_nil hsource, List.cons_append, firstFilled_of_ne_nil hsource,
        firstFilled_of_ne_nil hsource]

theorem firstFilled_eq_nil_iff {sources : List (List Octets)} :
    firstFilled sources = [] ↔ ∀ source ∈ sources, source = [] := by
  induction sources with
  | nil => simp [firstFilled]
  | cons source sources ih =>
    by_cases hsource : source = []
    · rw [hsource, firstFilled_of_nil, ih, List.forall_mem_cons, eq_self, true_and]
    · rw [firstFilled_of_ne_nil hsource, List.forall_mem_cons]
      exact ⟨fun h => (hsource h).elim, fun h => h.1⟩

/-! ## Lines that are to be added -/

/-- The values of a name among lines that are still to be added. -/
def valuesIn (es : List (String × String)) (name : String) : List Octets :=
  (es.filter fun e => sameIgnoringCase e.1 name).map fun e => utf8 e.2

theorem values_lines (es : List (String × String)) (name : String) :
    values ⟨es.map lineOf⟩ name = valuesIn es name := by
  have hsame (e : String × String) :
      (lowerText e.1 == lowerText name) = sameIgnoringCase e.1 name := by
    rw [Bool.eq_iff_iff, beq_iff_eq, sameIgnoringCase_iff]
  simp only [values, valuesOf, valuesIn, List.filter_map, List.map_map, Function.comp_def, lineOf,
    hsame]

theorem valuesIn_append (es es' : List (String × String)) (name : String) :
    valuesIn (es ++ es') name = valuesIn es name ++ valuesIn es' name := by
  simp only [valuesIn, List.filter_append, List.map_append]

theorem valuesIn_congr {name name' : String} (h : lowerText name = lowerText name')
    (es : List (String × String)) : valuesIn es name = valuesIn es name' := by
  rw [← values_lines, ← values_lines, values, values, h]

theorem lowered_lines (es : List (String × String)) : Lowered ⟨es.map lineOf⟩ := by
  intro l hl
  obtain ⟨e, -, rfl⟩ := List.mem_map.mp hl
  exact lowerText_lowerText e.1

end Headers

open Headers

/-! ## What a configuration gives -/

namespace Config

/-- The values that the headers of a configuration have for a name, in the order of the entries. -/
def configured (c : Config) (name : String) : List Octets := valuesIn c.headers name

/-- What the program calls itself, if that is what the name asks for. -/
def introduced (c : Config) (name : String) : List Octets :=
  if lowerText name = userAgentName then (c.userAgent.map utf8).toList else []

/-- The list of the media types from which a type can be read, if that is what the name asks for and
it is wanted. There is no list if nothing can be read, or if the list is no legal value. -/
def negotiated (c : Config) (registry : Registry) (type : TypeExpr) (name : String) :
    List Octets :=
  if c.acceptNegotiation = true ∧ lowerText name = acceptName then
    (Interceptor.listed? registry type).toList
  else []

/-- What the program calls itself, as a line to add, unless the headers say it. -/
def introduction (c : Config) : List (String × String) :=
  if c.configured userAgentName = [] then (c.userAgent.map fun s => (userAgentName, s)).toList
  else []

/-- All that a configuration adds to requests is legal: its headers, and what the program calls
itself unless they say it. -/
def Sendable (c : Config) : Prop := ∀ e ∈ c.headers ++ c.introduction, Addable e

instance (c : Config) : Decidable c.Sendable := inferInstanceAs (Decidable (∀ e ∈ _, _))

variable {c : Config}

theorem contains_userAgent_iff (c : Config) :
    contains ⟨c.headers.map lineOf⟩ userAgentName = true ↔ c.configured userAgentName ≠ [] := by
  rw [contains_iff, values_lines, configured]

/-- What the program calls itself is set where it is missing, which is adding it at the end. -/
theorem addUserAgent_eq (c : Config) :
    c.addUserAgent ⟨c.headers.map lineOf⟩ =
      (addAll ⟨c.headers.map lineOf⟩ c.introduction).mapError
        fun e => .configuration (.header e.1 e.2) := by
  rw [addUserAgent, introduction]
  cases c.userAgent with
  | none =>
    rw [Option.map_none, Option.toList_none, ite_self]
    rfl
  | some s =>
    by_cases hsaid : c.configured userAgentName = []
    · have hcontains : ¬contains ⟨c.headers.map lineOf⟩ userAgentName = true := by
        rw [contains_userAgent_iff, not_not]
        exact hsaid
      have hnew : userAgentName ∉ names ⟨c.headers.map lineOf⟩ := by
        have hlower : lowerText userAgentName = userAgentName := by decide
        rw [← hlower, ← contains_iff_mem_names]
        exact hcontains
      have hname : name? userAgentName = some userAgentName := by decide
      simp only [if_neg hcontains, if_pos hsaid, Option.map_some, Option.toList_some, addAll,
        add_eq, set_eq, check, hname]
      cases value? s with
      | none => rfl
      | some value =>
        simp only [Except.map, Except.mapError, put_of_not_mem hnew, append]
    · simp only [if_pos ((contains_userAgent_iff c).mpr hsaid), if_neg hsaid]
      rfl

/-- The default headers are the headers of the configuration and what the program calls itself, one
behind the other. -/
theorem defaultHeaders_of_sendable (hc : c.Sendable) :
    c.defaultHeaders = .ok ⟨(c.headers ++ c.introduction).map lineOf⟩ := by
  obtain ⟨hheaders, hintroduction⟩ := List.forall_mem_append.mp hc
  rw [defaultHeaders, ofPairs, addAll_of_addable hheaders]
  show c.addUserAgent ⟨c.headers.map lineOf⟩ = _
  rw [addUserAgent_eq, addAll_of_addable hintroduction, List.map_append]
  rfl

theorem defaultHeaders_of_not_sendable (hc : ¬c.Sendable) :
    ∃ name flaw, c.defaultHeaders = .error (.configuration (.header name flaw)) := by
  rw [defaultHeaders, ofPairs]
  by_cases hheaders : ∀ e ∈ c.headers, Addable e
  · have hintroduction : ¬∀ e ∈ c.introduction, Addable e :=
      fun h => hc (List.forall_mem_append.mpr ⟨hheaders, h⟩)
    obtain ⟨name, flaw, herror⟩ := addAll_of_not_addable hintroduction ⟨c.headers.map lineOf⟩
    refine ⟨name, flaw, ?_⟩
    rw [addAll_of_addable hheaders]
    show c.addUserAgent ⟨c.headers.map lineOf⟩ = _
    rw [addUserAgent_eq, herror]
    rfl
  · obtain ⟨name, flaw, herror⟩ := addAll_of_not_addable hheaders empty
    exact ⟨name, flaw, by rw [herror]⟩

theorem values_defaults (c : Config) (name : String) :
    values ⟨(c.headers ++ c.introduction).map lineOf⟩ name =
      firstFilled [c.configured name, c.introduced name] := by
  have hlower : lowerText userAgentName = userAgentName := by decide
  rw [values_lines, valuesIn_append]
  show c.configured name ++ valuesIn c.introduction name = _
  by_cases hname : lowerText name = userAgentName
  · have hsame : c.configured userAgentName = c.configured name :=
      valuesIn_congr (hlower.trans hname.symm) c.headers
    have hasks : sameIgnoringCase userAgentName name = true := by
      rw [sameIgnoringCase_iff, hlower, hname]
    rw [introduction, hsame, introduced, if_pos hname]
    by_cases hsaid : c.configured name = []
    · rw [if_pos hsaid, hsaid, firstFilled_of_nil, firstFilled_singleton, List.nil_append]
      cases c.userAgent <;> simp [valuesIn, hasks]
    · rw [if_neg hsaid, firstFilled_of_ne_nil hsaid]
      exact List.append_nil _
  · have hother : sameIgnoringCase userAgentName name = false := by
      rw [Bool.eq_false_iff, ne_eq, sameIgnoringCase_iff, hlower]
      exact Ne.symm hname
    have hnone : valuesIn c.introduction name = [] := by
      rw [introduction]
      split
      · cases c.userAgent <;> simp [valuesIn, hother]
      · rfl
    rw [hnone, List.append_nil, introduced, if_neg hname, firstFilled_pair_nil]

end Config

/-! ## What the interceptors of a method do -/

namespace Interceptor

variable {i : Interceptor} {r r' : Request}

/-- An interceptor without credentials gives values to a name that has none, and to no other. -/
theorem valuesOf_apply (hi : i.BuiltIn) (hg : i.granted? = none) (r : Request) (name : String) :
    (i.apply r).headers.valuesOf name =
      firstFilled [r.headers.valuesOf name,
        ((i.added r).filter (·.name == name)).map (·.value)] := by
  rw [apply_eq hi]
  by_cases hname : name ∈ r.headers.names
  · rw [valuesOf_of_new (fun l hl => new_of_mem_added hi hg hl) hname,
      firstFilled_of_ne_nil fun hnil => valuesOf_eq_nil_iff.mp hnil hname]
  · rw [valuesOf_withLines, valuesOf_eq_nil_iff.mpr hname, firstFilled_of_nil,
      firstFilled_singleton, List.nil_append]

theorem values_defaults {headers : Headers} (hlowered : headers.Lowered) (r : Request)
    (name : String) :
    ((defaults headers).apply r).headers.values name =
      firstFilled [r.headers.values name, headers.values name] := by
  rw [values, valuesOf_apply (.defaults hlowered) rfl]
  by_cases hname : r.headers.values name = []
  · have hmissing : r.headers.contains name = false := by
      rw [Bool.eq_false_iff, ne_eq, contains_iff, not_not]
      exact hname
    -- a line of this name is added, since the request has none
    have hadded : ((defaults headers).added r).filter (·.name == lowerText name) =
        headers.grouped.filter (·.name == lowerText name) := by
      rw [added, List.filter_filter]
      refine List.filter_congr fun l _ => ?_
      by_cases hl : l.name = lowerText name
      · have hsame : r.headers.contains l.name = r.headers.contains name := by
          rw [contains, contains, hl, lowerText_lowerText]
        rw [hsame, hmissing, Bool.not_false, Bool.and_true]
      · rw [beq_false_of_ne hl, Bool.false_and]
    have hgrouped : valuesOf ⟨headers.grouped⟩ (lowerText name) = headers.values name := by
      rw [valuesOf_eq_lookup, table_grouped, ← valuesOf_eq_lookup, values]
    rw [hadded, ← hgrouped]
    rfl
  · rw [← values, firstFilled_of_ne_nil hname, firstFilled_of_ne_nil hname]

theorem values_accept (registry : Registry) (r : Request) (name : String) :
    ((accept registry).apply r).headers.values name =
      firstFilled [r.headers.values name,
        if lowerText name = acceptName then (listed? registry r.expected).toList else []] := by
  have hlower : lowerText acceptName = acceptName := by decide
  rw [values, valuesOf_apply (.accept registry) rfl]
  by_cases hname : r.headers.values name = []
  · congr 3
    by_cases haccept : lowerText name = acceptName
    · have hmissing : ¬r.headers.contains acceptName = true := by
        rw [contains_iff, not_not, ← hname, values, values, hlower, haccept]
      rw [added, if_neg hmissing, if_pos haccept, haccept]
      cases listed? registry r.expected <;> simp
    · have hother : ∀ l ∈ (accept registry).added r, l.name ≠ lowerText name := by
        intro l hl
        rw [added] at hl
        split at hl
        · exact (List.not_mem_nil hl).elim
        · obtain ⟨value, -, rfl⟩ := List.mem_map.mp hl
          exact Ne.symm haccept
      rw [if_neg haccept, List.filter_eq_nil_iff.mpr, List.map_nil]
      intro l hl
      rw [beq_iff_eq]
      exact hother l hl
  · rw [← values, firstFilled_of_ne_nil hname, firstFilled_of_ne_nil hname]

/-- What all octets of the parts and of the separator are, all octets of the joined text are. -/
theorem all_utf8_join {P : UInt8 → Bool} {sep : List Char} (hsep : (utf8OfChars sep).all P = true)
    {parts : List (List Char)} (hparts : ∀ part ∈ parts, (utf8OfChars part).all P = true) :
    (utf8OfChars (join sep parts)).all P = true := by
  induction parts using join.induct with
  | case1 => rfl
  | case2 part => exact hparts part (List.mem_singleton_self part)
  | case3 part parts hmore ih =>
    rw [List.forall_mem_cons] at hparts
    rw [join, utf8OfChars_append, utf8OfChars_append, List.all_append, List.all_append,
      hparts.1, hsep, ih hparts.2]
    · rfl
    · exact hmore

theorem listed?_of_legal {registry : Registry} {type : TypeExpr}
    (hlegal : ∀ c ∈ registry.converters, (value? c.mediaType.display).isSome = true) :
    (listed? registry type).toList =
      if registry.acceptable type.unwrapEnvelope = [] then []
      else [utf8 (acceptValue (registry.acceptable type.unwrapEnvelope))] := by
  have htexts : ∀ text ∈ registry.acceptable type.unwrapEnvelope,
      (utf8OfChars text.toList).all isValueOctet = true := by
    intro text htext
    rw [Registry.acceptable, mem_firsts, List.mem_map] at htext
    obtain ⟨c, hc, rfl⟩ := htext
    obtain ⟨value, hvalue⟩ := Option.isSome_iff_exists.mp (hlegal c (List.mem_filter.mp hc).1)
    have hall := all_of_value? hvalue
    rwa [value?_eq_utf8 hvalue] at hall
  rw [listed?]
  cases hlist : registry.acceptable type.unwrapEnvelope with
  | nil => rfl
  | cons text texts =>
    rw [hlist] at htexts
    have hall : (utf8 (acceptValue (text :: texts))).all isValueOctet = true := by
      rw [acceptValue, utf8, String.toList_ofList]
      exact all_utf8_join rfl (by simpa using htexts)
    have hvalue :
        value? (acceptValue (text :: texts)) = some (utf8 (acceptValue (text :: texts))) :=
      if_pos hall
    rw [if_neg (List.cons_ne_nil _ _), ← Option.toList_some, ← hvalue]

/-- Headers that are only added to show what they showed, and then the rest. -/
theorem Extends.grouped (h : Extends [] r r') : r.headers.grouped <+: r'.headers.grouped := by
  have hkept : ∀ name ∈ r.headers.names,
      r'.headers.valuesOf name = r.headers.valuesOf name := by
    intro name hname
    by_cases hcredentials : name = authorizationName
    · subst hcredentials
      rw [h.credentials hname, List.append_nil]
    · exact h.kept name hname hcredentials
  obtain ⟨more, hmore⟩ := h.names
  rw [Headers.grouped, Headers.grouped, ← hmore, List.flatMap_append]
  have hsame : r.headers.names.flatMap (fun name =>
        (r'.headers.valuesOf name).map fun value => (⟨name, value⟩ : HeaderLine)) =
      r.headers.names.flatMap fun name =>
        (r.headers.valuesOf name).map fun value => ⟨name, value⟩ :=
    List.flatMap_congr fun name hname => by rw [hkept name hname]
  rw [hsame]
  exact List.prefix_append _ _

end Interceptor

/-! ## Invokers -/

namespace Config

variable {c : Config} {e : Error}

theorem configuration_of_contentType (h : c.contentType = .error e) :
    ∃ cause, e = .configuration cause := by
  rw [contentType, MediaType.ofText] at h
  cases hread : MediaType.read c.defaultContentType.toList with
  | ok mediaType =>
    rw [hread] at h
    cases h
  | error flaw =>
    rw [hread] at h
    cases h
    exact ⟨_, rfl⟩

theorem configuration_of_checkClient (h : c.checkClient = .error e) :
    ∃ cause, e = .configuration cause := by
  rw [checkClient] at h
  split at h
  · cases h
    exact ⟨_, rfl⟩
  split at h
  · cases h
    exact ⟨_, rfl⟩
  · cases h

theorem sendable_iff : c.Sendable ↔ ∃ h, c.defaultHeaders = .ok h := by
  constructor
  · exact fun hc => ⟨_, defaultHeaders_of_sendable hc⟩
  · rintro ⟨h, hok⟩
    by_contra hc
    obtain ⟨name, flaw, herror⟩ := defaultHeaders_of_not_sendable hc
    rw [hok] at herror
    cases herror

end Config

namespace Invoker

variable {p : Parts} {i : Invoker} {m : Method} {declared : TypeExpr}

/-- Headers that are not legal keep an invoker from being built, unless something else does. -/
theorem configuration_of_not_sendable (hc : ¬p.config.Sendable) :
    ∃ cause, build p = .error (.configuration cause) := by
  obtain ⟨name, flaw, hdefaults⟩ := Config.defaultHeaders_of_not_sendable hc
  simp only [build, bind, Except.bind]
  cases hcontent : p.config.contentType with
  | error e =>
    obtain ⟨cause, rfl⟩ := Config.configuration_of_contentType hcontent
    exact ⟨cause, rfl⟩
  | ok defaultType =>
    cases p.transport.isNetwork with
    | false => exact ⟨_, by rw [hdefaults]; rfl⟩
    | true =>
      cases hclient : p.config.checkClient with
      | error e =>
        obtain ⟨cause, rfl⟩ := Config.configuration_of_checkClient hclient
        exact ⟨cause, rfl⟩
      | ok _ => exact ⟨_, by rw [hdefaults]; rfl⟩

/-- The chain of a method whose invoker has no interceptors of its own. -/
theorem chain_of_method (hplain : p.interceptors = []) (hbuild : build p = .ok i)
    (hmethod : i.method declared = .ok m) :
    m.interceptors = fillers ⟨(p.config.headers ++ p.config.introduction).map lineOf⟩ ++
      negotiators p.config p.registry := by
  obtain ⟨defaultType, defaults, -, -, hdefaults, rfl⟩ := build_eq_ok_iff.mp hbuild
  have hsendable : p.config.Sendable := Config.sendable_iff.mpr ⟨defaults, hdefaults⟩
  rw [Config.defaultHeaders_of_sendable hsendable] at hdefaults
  cases hdefaults
  cases hresolve : Handler.resolve (p.adapters ++ Adapter.standard) declared with
  | error e =>
    simp only [method, hresolve, bind, Except.bind] at hmethod
    cases hmethod
  | ok resolved =>
    simp only [method, hresolve, bind, Except.bind] at hmethod
    cases hmethod
    rw [hplain, List.append_nil]

theorem values_fillers {defaults : Headers} (hlowered : defaults.Lowered) (r : Request)
    (name : String) :
    (Interceptor.applyAll (fillers defaults) r).headers.values name =
      firstFilled [r.headers.values name, defaults.values name] := by
  rw [fillers]
  cases hempty : defaults.isEmpty with
  | false => exact Interceptor.values_defaults hlowered r name
  | true =>
    have hnone : defaults.values name = [] := by
      rw [values, valuesOf, List.isEmpty_iff.mp hempty]
      rfl
    rw [hnone, firstFilled_pair_nil]
    rfl

/-- The accepted media types are listed where a request does not list them, if that is wanted. -/
theorem values_negotiators (c : Config) (registry : Registry) (r : Request) (name : String) :
    (Interceptor.applyAll (negotiators c registry) r).headers.values name =
      firstFilled [r.headers.values name, c.negotiated registry r.expected name] := by
  rw [negotiators, Config.negotiated]
  cases hwanted : c.acceptNegotiation with
  | true =>
    simp only [if_true, true_and]
    exact Interceptor.values_accept registry r name
  | false =>
    simp only [Bool.false_eq_true, if_false, false_and, firstFilled_pair_nil]
    rfl

theorem builtIn_of_chain (defaults : Headers) (hlowered : defaults.Lowered) (c : Config)
    (registry : Registry) :
    ∀ i ∈ fillers defaults ++ negotiators c registry, i.BuiltIn ∧ i.granted? = none := by
  intro i hi
  rcases List.mem_append.mp hi with hi | hi
  · rw [fillers] at hi
    split at hi
    · cases hi
    · rw [List.mem_singleton.mp hi]
      exact ⟨.defaults hlowered, rfl⟩
  · rw [negotiators] at hi
    split at hi
    · rw [List.mem_singleton.mp hi]
      exact ⟨.accept registry, rfl⟩
    · cases hi

theorem extends_chain {defaults : Headers} (hlowered : defaults.Lowered) (c : Config)
    (registry : Registry) (r : Request) :
    Interceptor.Extends [] r
      (Interceptor.applyAll (fillers defaults ++ negotiators c registry) r) := by
  have hchain := builtIn_of_chain defaults hlowered c registry
  have hnone : (fillers defaults ++ negotiators c registry).filterMap Interceptor.granted? = [] :=
    List.filterMap_eq_nil_iff.mpr fun i hi => (hchain i hi).2
  rw [← hnone]
  exact Interceptor.extends_applyAll (fun i hi => (hchain i hi).1) r

/-- What goes through the chain of a method gets its headers from these sources. -/
theorem values_chain (c : Config) (registry : Registry) (r : Request) (name : String) :
    (Interceptor.applyAll (fillers ⟨(c.headers ++ c.introduction).map lineOf⟩ ++
        negotiators c registry) r).headers.values name =
      firstFilled [r.headers.values name, c.configured name, c.introduced name,
        c.negotiated registry r.expected name] := by
  have hlowered := lowered_lines (c.headers ++ c.introduction)
  have hfilled : Interceptor.Extends [] r
      (Interceptor.applyAll (fillers ⟨(c.headers ++ c.introduction).map lineOf⟩) r) := by
    have hchain := extends_chain hlowered { c with acceptNegotiation := false } registry r
    rwa [negotiators, if_neg Bool.false_ne_true, List.append_nil] at hchain
  rw [Interceptor.applyAll_append, values_negotiators, values_fillers hlowered, hfilled.expected,
    Config.values_defaults, firstFilled_firstFilled]
  show (if r.headers.values name = [] then firstFilled (firstFilled _ :: _) else _) = _
  rw [firstFilled_firstFilled]
  rfl

/-- **Every header comes from one source.** Take an invoker without interceptors of its own, and a
method and a request of it. All values that the prepared request has for a name, in any case, come
from the first of these that has any: the request; the headers of the configuration whose names are
this one, in the order of the entries; what the program calls itself; and the list of accepted media
types, which is one value. A name without a source is missing, and the lines of the request come
first in their order. There is a list whenever something can be read, unless a media type is no
legal value. An invoker is built exactly if the headers that the configuration asks for are legal,
its media type is one and a client can be made where that is needed; headers that are not legal end
in an error that blames the configuration. -/
theorem headers_come_from_first_source (p : Parts) (hplain : p.interceptors = []) :
    (∀ i m declared, build p = .ok i → i.method declared = .ok m → ∀ r : Request,
      (∀ name,
        let sources := [r.headers.values name, p.config.configured name, p.config.introduced name,
          p.config.negotiated p.registry m.callType name]
        (m.prepare r).headers.values name = firstFilled sources ∧
          ((m.prepare r).headers.contains name = true ↔ ∃ source ∈ sources, source ≠ [])) ∧
      r.headers.grouped <+: (m.prepare r).headers.grouped) ∧
    ((∀ c ∈ p.registry.converters, (value? c.mediaType.display).isSome = true) →
      p.config.acceptNegotiation = true → ∀ type,
      p.config.negotiated p.registry type acceptName =
        if p.registry.acceptable type.unwrapEnvelope = [] then []
        else [utf8 (acceptValue (p.registry.acceptable type.unwrapEnvelope))]) ∧
    ((∃ i, build p = .ok i) ↔ p.config.Sendable ∧
      (∃ defaultType, p.config.contentType = .ok defaultType) ∧
      (p.transport.isNetwork = true → p.config.checkClient = .ok ())) ∧
    (¬p.config.Sendable → ∃ cause, build p = .error (.configuration cause)) := by
  refine ⟨fun i m declared hbuild hmethod r => ⟨fun name => ?_, ?_⟩, fun hlegal hwanted type => ?_,
    ?_, configuration_of_not_sendable⟩
  · intro sources
    have hvalues : (m.prepare r).headers.values name = firstFilled sources := by
      rw [Method.prepare, chain_of_method hplain hbuild hmethod, values_chain]
      rfl
    refine ⟨hvalues, ?_⟩
    rw [contains_iff, hvalues, ne_eq, firstFilled_eq_nil_iff]
    push Not
    rfl
  · rw [Method.prepare, chain_of_method hplain hbuild hmethod]
    exact (extends_chain (lowered_lines _) p.config p.registry (m.expecting r)).grouped
  · have hlower : lowerText acceptName = acceptName := by decide
    rw [Config.negotiated, if_pos ⟨hwanted, hlower⟩, Interceptor.listed?_of_legal hlegal]
  · rw [Config.sendable_iff]
    constructor
    · rintro ⟨i, hbuild⟩
      obtain ⟨defaultType, defaults, hcontent, hclient, hdefaults, -⟩ := build_eq_ok_iff.mp hbuild
      exact ⟨⟨defaults, hdefaults⟩, ⟨defaultType, hcontent⟩, hclient⟩
    · rintro ⟨⟨defaults, hdefaults⟩, ⟨defaultType, hcontent⟩, hclient⟩
      exact ⟨_, build_eq_ok_iff.mpr ⟨defaultType, defaults, hcontent, hclient, hdefaults, rfl⟩⟩

/-- A name in two spellings, one that the request has as well, and a list that is made of what can
be read; and a configuration with a line break in a value. -/
theorem headers_come_from_first_source_of_team :
    let c : Config := ⟨none, none, [("X-Own", "b"), ("X-Team", "core"), ("x-team", "edge")], none,
      some "agent/1", "application/json", true⟩
    let p : Parts := ⟨c, .own, ⟨[.octets, .text]⟩, [], []⟩
    let broken : Parts := { p with config := { c with headers := [("X-Team", "a\nb")] } }
    let i : Invoker := ⟨c, fillers ⟨(c.headers ++ c.introduction).map lineOf⟩ ++
      negotiators c p.registry, Adapter.standard, ⟨p.transport, p.registry, .json⟩⟩
    let m : Method := ⟨⟨Handler.terminal, .string, .string⟩, i.interceptors, i.exchange⟩
    let r := (Request.plain ⟨"http", some ⟨"", none, .name "api.example", none⟩, "/me", none, none⟩
      "GET" .any).withHeaders ⟨[⟨"x-own", utf8 "a"⟩]⟩
    p.interceptors = [] ∧ broken.interceptors = [] ∧ build p = .ok i ∧ i.method .string = .ok m ∧
      (∀ c ∈ p.registry.converters, (value? c.mediaType.display).isSome = true) ∧
      ¬broken.config.Sendable ∧
      (m.prepare r).headers.values "X-OWN" = [utf8 "a"] ∧
      (m.prepare r).headers.values "X-Team" = [utf8 "core", utf8 "edge"] ∧
      (m.prepare r).headers.values "User-Agent" = [utf8 "agent/1"] ∧
      (m.prepare r).headers.values "accept" = [utf8 "text/plain"] ∧
      (m.prepare r).headers.contains "x-none" = false ∧
      ∃ cause, build broken = .error (.configuration cause) := by
  intro c p broken i m r
  have hcontent : c.contentType = .ok .json := by
    rw [Config.contentType, MediaType.ofText_json]
  have hsendable : c.Sendable := by decide
  have hbuild : build p = .ok i := by
    have hdefaults := Config.defaultHeaders_of_sendable hsendable
    refine build_eq_ok_iff.mpr ⟨.json, _, hcontent, fun h => ?_, hdefaults, rfl⟩
    cases h
  have hmethod : i.method .string = .ok m := rfl
  have hlegal : ∀ c ∈ p.registry.converters, (value? c.mediaType.display).isSome = true := by
    have hoctets : MediaType.octetStream.display = "application/octet-stream" := by cbv
    have htext : MediaType.plainText.display = "text/plain" := by cbv
    intro c hc
    rcases List.mem_cons.mp hc with rfl | hc
    · show (value? MediaType.octetStream.display).isSome = true
      rw [hoctets]
      decide
    · rw [List.mem_singleton.mp hc]
      show (value? MediaType.plainText.display).isSome = true
      rw [htext]
      decide
  have hbroken : ¬broken.config.Sendable := by decide
  obtain ⟨hsources, hlist, -, -⟩ := headers_come_from_first_source p rfl
  have hvalues (name : String) := ((hsources i m .string hbuild hmethod r).1 name).1
  refine ⟨rfl, rfl, hbuild, hmethod, hlegal, hbroken, ?_, ?_, ?_, ?_, ?_,
    (headers_come_from_first_source broken rfl).2.2.2 hbroken⟩
  · rw [hvalues]
    decide
  · rw [hvalues]
    decide
  · rw [hvalues]
    decide
  · have hshown : p.registry.acceptable TypeExpr.string.unwrapEnvelope = ["text/plain"] := by cbv
    have hlisted := hlist hlegal rfl .string
    rw [hshown] at hlisted
    rw [hvalues]
    show firstFilled [_, _, _, c.negotiated p.registry .string acceptName] = _
    rw [hlisted]
    decide
  · have hnone := ((hsources i m .string hbuild hmethod r).1 "x-none").2
    rw [Bool.eq_false_iff, ne_eq, hnone]
    decide

end Invoker

end Endpoint
