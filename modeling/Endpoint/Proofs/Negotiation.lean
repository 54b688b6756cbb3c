import Endpoint.Interceptor
import Endpoint.Proofs.Sending

/-!
What a request says it accepts, and what its call can read. The list of accepted media types is made
before the request goes out, of the texts of media types; the reader is looked for when the answer
is there, by the media type that is read from the text which the answer names. They agree for
converters with stated media types.

What is proved:
  1. `firsts_display`: since no two stated media types are shown alike, the list of their texts
     without repetitions is that of the media types without repetitions;
  2. `reader?_of_answered`: an answer under a listed text has a reader, whether or not its header can
     be read as a text;
  3. `run_success`: what a call ends in on success, said by what its reader reads;
  4. `accept_agrees_with_reading`: every listed media type has a reader, the list is complete and in
     the order of the converters, and nothing can be read when there is nothing to list.
-/
namespace Endpoint
open Text

/-! ## Lists without repetitions -/

namespace MediaType

def firstTypes : List MediaType → List MediaType
  | [] => []
  | t :: ts => t :: (firstTypes ts).filter (· != t)

theorem mem_firstTypes {t : MediaType} {ts : List MediaType} : t ∈ firstTypes ts ↔ t ∈ ts := by
  induction ts with
  | nil => simp [firstTypes]
  | cons u us ih =>
    rw [firstTypes, List.mem_cons, List.mem_filter, ih, List.mem_cons]
    by_cases h : t = u <;> simp [h]

/-- What is listed stands in the order of its first places, so none stands twice. -/
theorem pairwise_firstTypes (ts : List MediaType) :
    (firstTypes ts).Pairwise fun a b => ts.idxOf a < ts.idxOf b := by
  induction ts with
  | nil => exact .nil
  | cons u us ih =>
    have hshift {t : MediaType} (ht : t ∈ (firstTypes us).filter (· != u)) :
        (u :: us).idxOf t = us.idxOf t + 1 := by
      have hne : (u == t) = false := by
        have hne := (List.mem_filter.mp ht).2
        rw [bne_iff_ne] at hne
        exact beq_false_of_ne (Ne.symm hne)
      rw [List.idxOf_cons, hne, cond_false]
    rw [firstTypes, List.pairwise_cons]
    constructor
    · intro t ht
      rw [hshift ht, List.idxOf_cons_self]
      exact Nat.succ_pos _
    · refine (ih.filter _).imp_of_mem fun ha hb hlt => ?_
      rw [hshift ha, hshift hb]
      exact Nat.succ_lt_succ hlt

/-- Well-formed media types are repeated exactly where their texts are. -/
theorem firsts_display {ts : List MediaType} (h : ∀ t ∈ ts, WellFormed t) :
    Headers.firsts (ts.map display) = (firstTypes ts).map display := by
  induction ts with
  | nil => rfl
  | cons u us ih =>
    have hus : ∀ t ∈ us, WellFormed t := fun t ht => h t (List.mem_cons_of_mem _ ht)
    rw [List.map_cons, Headers.firsts, ih hus, firstTypes, List.map_cons, List.filter_map]
    congr 2
    refine List.filter_congr fun t ht => ?_
    have hsame : t.display = u.display ↔ t = u := by
      constructor
      · exact display_injective (hus t (mem_firstTypes.mp ht)) (h u List.mem_cons_self)
      · rintro rfl
        rfl
    show (t.display != u.display) = (t != u)
    rw [Bool.eq_iff_iff, bne_iff_ne, bne_iff_ne, ne_eq, ne_eq, hsame]

end MediaType

/-- The media types from which a type can be read, each once, in the order of the converters. -/
def Registry.accepted (r : Registry) (type : TypeExpr) : List MediaType :=
  MediaType.firstTypes ((r.readers type).map (·.mediaType))

variable {x : Exchange} {r : Request} {type : TypeExpr} {a : WireResponse}

theorem Registry.mem_accepted {registry : Registry} {t : MediaType} :
    t ∈ registry.accepted type ↔
      ∃ c ∈ registry.converters, c.canRead type = true ∧ c.mediaType = t := by
  rw [accepted, MediaType.mem_firstTypes, List.mem_map]
  simp only [readers, List.mem_filter, and_assoc]

theorem Registry.acceptable_eq {registry : Registry}
    (h : ∀ c ∈ registry.converters, c.mediaType.Stated) (type : TypeExpr) :
    registry.acceptable type = (registry.accepted type).map MediaType.display := by
  have hwell : ∀ t ∈ (registry.readers type).map (·.mediaType), MediaType.WellFormed t := by
    intro t ht
    obtain ⟨c, hc, rfl⟩ := List.mem_map.mp ht
    exact (h c (List.mem_filter.mp hc).1).wellFormed
  rw [acceptable, accepted, ← MediaType.firsts_display hwell, List.map_map]
  rfl

theorem Registry.acceptable_eq_nil_iff {registry : Registry} :
    registry.acceptable type = [] ↔ ∀ c ∈ registry.converters, c.canRead type = false := by
  rw [List.eq_nil_iff_forall_not_mem]
  simp only [acceptable, Headers.mem_firsts, List.mem_map, readers, List.mem_filter]
  constructor
  · intro h c hc
    cases hread : c.canRead type with
    | false => rfl
    | true => exact (h _ ⟨c, ⟨hc, hread⟩, rfl⟩).elim
  · rintro h text ⟨c, ⟨hc, hread⟩, -⟩
    rw [h c hc] at hread
    cases hread

/-! ## The list in the request -/

theorem lowerText_acceptName : lowerText acceptName = acceptName := by decide

theorem Headers.contains_acceptName (h : Headers) :
    h.contains acceptName = true ↔ h.valuesOf acceptName ≠ [] := by
  rw [contains_iff, values, lowerText_acceptName]

/-- A request without a list that has one afterwards was given the texts of the media types from
which its expected type can be read. -/
theorem valuesOf_negotiated (h : r.headers.contains acceptName = false)
    (hset : ((Interceptor.accept x.registry).apply r).headers.contains acceptName = true) :
    ((Interceptor.accept x.registry).apply r).headers.valuesOf acceptName =
      [utf8 (acceptValue (x.registry.acceptable r.expected.unwrapEnvelope))] := by
  have hname : Headers.name? acceptName = some acceptName := by decide
  revert hset
  simp only [Interceptor.apply, Interceptor.negotiate, h, Bool.false_eq_true, if_false]
  cases hlist : x.registry.acceptable r.expected.unwrapEnvelope with
  | nil =>
    simp only [h]
    intro hset
    cases hset
  | cons text texts =>
    simp only [Request.withReplacedHeader, Headers.set, Headers.check, hname]
    cases hvalue : Headers.value? (acceptValue (text :: texts)) with
    | none =>
      simp only [bind, Except.bind, h]
      intro hset
      cases hset
    | some value =>
      intro _
      rw [Headers.value?_eq_utf8 hvalue]
      exact (Headers.replaced_put r.headers acceptName _).only

theorem apply_accept_of_nil
    (h : ∀ c ∈ x.registry.converters, c.canRead r.expected.unwrapEnvelope = false) :
    (Interceptor.accept x.registry).apply r = r := by
  have hlist := Registry.acceptable_eq_nil_iff.mpr h
  simp only [Interceptor.apply, Interceptor.negotiate, hlist]
  split <;> simp_all

/-! ## The reader of an answer -/

/-- The answer names a media type by its text. -/
def Answered (a : WireResponse) (t : MediaType) : Prop :=
  ∃ rest, a.headers.valuesOf contentTypeName = utf8 t.display :: rest

/-- What is read of the text of a stated media type is as compatible as the media type, and a text
that is not of visible ASCII stands for any. -/
theorem compatible_answeredType {t : MediaType} (ht : t.Stated) (ha : Answered a t) :
    t.compatible (Exchange.answeredType a.headers) = true := by
  obtain ⟨rest, hvalues⟩ := ha
  obtain ⟨t', hread, hmain, hsub⟩ := ht.ofText_display
  cases hvisible : Headers.visible? (utf8 t.display) with
  | some text =>
    have hsame : text = t.display := utf8_injective (Headers.utf8_of_visible hvisible)
    rw [← hsame] at hread
    have hdeclared : declaredType? a.headers = some t' :=
      declaredType?_eq_some_iff.mpr ⟨_, rest, text, hvalues, hvisible, hread⟩
    rw [Exchange.answeredType, hdeclared]
    calc t.compatible t' = t.compatible t :=
          MediaType.compatible_congr ⟨rfl, rfl⟩ ⟨hmain, hsub⟩
      _ = true := MediaType.compatible_self t
  | none =>
    have hdeclared : declaredType? a.headers = none := by
      rw [Option.eq_none_iff_forall_ne_some]
      intro t'' hsome
      obtain ⟨value, rest', text, hvalues', hvisible', -⟩ := declaredType?_eq_some_iff.mp hsome
      rw [hvalues] at hvalues'
      rw [← (List.cons.inj hvalues').1, hvisible] at hvisible'
      cases hvisible'
    rw [Exchange.answeredType, hdeclared]
    exact MediaType.compatible_any t

/-- A reader is found under every media type that a converter for the type advertises. -/
theorem reader?_of_answered (hstated : ∀ c ∈ x.registry.converters, c.mediaType.Stated)
    {t : MediaType} (ht : t ∈ x.registry.accepted type) (ha : Answered a t) :
    ∃ reader, x.registry.reader? (Exchange.answeredType a.headers) type = some reader ∧
      reader.canRead type = true := by
  obtain ⟨c, hc, hread, rfl⟩ := Registry.mem_accepted.mp ht
  have hreads : Registry.reads (Exchange.answeredType a.headers) type c = true := by
    rw [Registry.reads, compatible_answeredType (hstated c hc) ha, hread]
    rfl
  have hsome : (x.registry.reader? (Exchange.answeredType a.headers) type).isSome = true :=
    List.find?_isSome.mpr ⟨c, hc, hreads⟩
  obtain ⟨reader, hreader⟩ := Option.isSome_iff_exists.mp hsome
  have hfound := List.find?_some hreader
  rw [Registry.reads, Bool.and_eq_true] at hfound
  exact ⟨reader, hreader, hfound.2⟩

/-! ## What a call ends in on success -/

namespace Exchange

/-- The body of an answer has to be read in the call for a type. -/
def Decodes (type : TypeExpr) (a : WireResponse) : Prop :=
  type.unwrapEnvelope.isNamed TypeExpr.voidName = false ∧
    (type.isNamed TypeExpr.responseName = true → a.body ≠ [])

instance (type : TypeExpr) (a : WireResponse) : Decidable (Decodes type a) :=
  inferInstanceAs (Decidable (_ ∧ (_ → a.body ≠ [])))

/-- What the call for a type ends in on success, given what the body was read as. -/
def ended (type : TypeExpr) (a : WireResponse) (read : Except Error Value) : Except Error Value :=
  if type.isNamed TypeExpr.responseName then
    match read with
    | .ok v => .ok (.envelope ⟨a.status, a.headers, some v, none⟩)
    | .error e => .error e
  else read

/-- What the call for a type ends in on success when nothing has to be read. -/
def endedUnread (type : TypeExpr) (a : WireResponse) : Value :=
  if type.isNamed TypeExpr.responseName then .envelope ⟨a.status, a.headers, none, none⟩ else .unit

/-- A request is encoded, and the answer to it is a success. -/
def Succeeds (x : Exchange) (p : Request) (w : World) (a : WireResponse) : Prop :=
  Answers x p w a ∧ isSuccess a.status = true

theorem unwrapEnvelope_of_response (h : type.isNamed TypeExpr.responseName = true) :
    type.unwrapEnvelope = type.firstArgOrAny := by
  rw [TypeExpr.unwrapEnvelope, if_pos h]

theorem unwrapEnvelope_of_plain (h : type.isNamed TypeExpr.responseName = false) :
    type.unwrapEnvelope = type := by
  rw [TypeExpr.unwrapEnvelope, h, if_neg Bool.false_ne_true]

/-- A body that has to be read is read as the type below the envelope, and the call ends in what
comes of it. -/
theorem run_decoding {p : Request} {w : World} (h : Succeeds x p w a) (hdecodes : Decodes type a) :
    (x.runCall p type w).1 = .result (ended type a (x.decode type.unwrapEnvelope a)) := by
  obtain ⟨⟨wire, henc, ha⟩, hok⟩ := h
  obtain ⟨hvoid, hbody⟩ := hdecodes
  cases hresponse : type.isNamed TypeExpr.responseName with
  | false =>
    rw [run_value hresponse]
    simp only [henc, ha, hok, if_true, ended, hresponse, Bool.false_eq_true, if_false,
      unwrapEnvelope_of_plain hresponse]
  | true =>
    rw [unwrapEnvelope_of_response hresponse] at hvoid ⊢
    rw [run_envelope hresponse rfl]
    simp only [henc, ha, hok, if_true, ended, hresponse]
    cases hread : x.decode type.firstArgOrAny a with
    | ok v => rw [(enclose_eq_ok_iff (hbody hresponse) hvoid).mpr hread]
    | error e => rw [(enclose_eq_error_iff (hbody hresponse) hvoid).mpr hread]

theorem run_undecoding {p : Request} {w : World} (h : Succeeds x p w a)
    (hdecodes : ¬Decodes type a) : (x.runCall p type w).1 = .result (.ok (endedUnread type a)) := by
  obtain ⟨⟨wire, henc, ha⟩, hok⟩ := h
  cases hresponse : type.isNamed TypeExpr.responseName with
  | false =>
    have hvoid : type.isNamed TypeExpr.voidName = true := by
      cases hvoid : type.isNamed TypeExpr.voidName with
      | true => rfl
      | false =>
        rw [← unwrapEnvelope_of_plain hresponse] at hvoid
        exact (hdecodes ⟨hvoid, fun h => by rw [hresponse] at h; cases h⟩).elim
    rw [run_value hresponse]
    simp only [henc, ha, hok, if_true, decode, hvoid, endedUnread, hresponse, Bool.false_eq_true,
      if_false]
  | true =>
    have hbodiless : a.body = [] ∨ type.firstArgOrAny.isNamed TypeExpr.voidName = true := by
      by_cases hbody : a.body = []
      · exact .inl hbody
      · right
        cases hvoid : type.firstArgOrAny.isNamed TypeExpr.voidName with
        | true => rfl
        | false =>
          rw [← unwrapEnvelope_of_response hresponse] at hvoid
          exact (hdecodes ⟨hvoid, fun _ => hbody⟩).elim
    rw [run_envelope hresponse rfl]
    simp only [henc, ha, hok, if_true, endedUnread, hresponse, enclose_bodiless hbodiless]

theorem decode_of_decodes (hdecodes : Decodes type a) :
    x.decode type.unwrapEnvelope a =
      match x.registry.reader? (answeredType a.headers) type.unwrapEnvelope with
      | none => .error (Converter.unreadable type.unwrapEnvelope (answeredType a.headers))
      | some reader => reader.read a.body type.unwrapEnvelope (answeredType a.headers) := by
  rw [decode, hdecodes.1]
  exact if_neg Bool.false_ne_true

end Exchange

/-! ## Agreement -/

/-- The list of accepted media types in a request for a type and the calls for this type agree:
`r` is the request as it reaches the negotiation, and any request may be the one that is called. -/
structure Negotiated (x : Exchange) (r : Request) : Prop where
  /-- A list that is set is that of the media types which the converters for the type advertise,
  each once and in their order, and an answer under any of them has a reader for the type. -/
  listed : ((Interceptor.accept x.registry).apply r).headers.contains acceptName = true →
    ∃ ts : List MediaType,
      ((Interceptor.accept x.registry).apply r).headers.valuesOf acceptName =
        [utf8 (acceptValue (ts.map MediaType.display))] ∧
      (∀ t, t ∈ ts ↔ ∃ c ∈ x.registry.converters,
        c.canRead r.expected.unwrapEnvelope = true ∧ c.mediaType = t) ∧
      (ts.Pairwise fun t u =>
        ((x.registry.readers r.expected.unwrapEnvelope).map (·.mediaType)).idxOf t <
          ((x.registry.readers r.expected.unwrapEnvelope).map (·.mediaType)).idxOf u) ∧
      ∀ t ∈ ts, ∀ a, Answered a t →
        ∃ reader, x.registry.reader? (Exchange.answeredType a.headers) r.expected.unwrapEnvelope =
            some reader ∧
          reader.canRead r.expected.unwrapEnvelope = true ∧
          ∀ p w, Exchange.Succeeds x p w a →
            (x.runCall p r.expected w).1 = .result
              (if Exchange.Decodes r.expected a then
                Exchange.ended r.expected a (reader.read a.body r.expected.unwrapEnvelope
                  (Exchange.answeredType a.headers))
              else .ok (Exchange.endedUnread r.expected a))
  /-- Where no converter can read the type, there is no list, and no body can be read. -/
  unlisted : (∀ c ∈ x.registry.converters, c.canRead r.expected.unwrapEnvelope = false) →
    ((Interceptor.accept x.registry).apply r).headers.contains acceptName = false ∧
    ∀ a p w, Exchange.Succeeds x p w a → Exchange.Decodes r.expected a →
      (x.runCall p r.expected w).1 = .result (.error (.noConverter .read
        r.expected.unwrapEnvelope.display (Exchange.answeredType a.headers).display))

/-- **What a request accepts is what its call can read.** Take converters with stated media types and
a request without a list of accepted media types. The list that is set holds the media types of the
converters for the expected type, and under each of them the call finds a reader and ends in what
that reads; where there is nothing to list, a body that has to be read is refused. -/
theorem accept_agrees_with_reading (x : Exchange) (r : Request)
    (hstated : ∀ c ∈ x.registry.converters, c.mediaType.Stated)
    (hnone : r.headers.contains acceptName = false) : Negotiated x r where
  listed hset := by
    refine ⟨x.registry.accepted r.expected.unwrapEnvelope, ?_, fun t => Registry.mem_accepted,
      MediaType.pairwise_firstTypes _, fun t ht a ha => ?_⟩
    · rw [valuesOf_negotiated hnone hset, Registry.acceptable_eq hstated]
    · obtain ⟨reader, hreader, hread⟩ := reader?_of_answered hstated ht ha
      refine ⟨reader, hreader, hread, fun p w hsucceeds => ?_⟩
      by_cases hdecodes : Exchange.Decodes r.expected a
      · rw [if_pos hdecodes, Exchange.run_decoding hsucceeds hdecodes,
          Exchange.decode_of_decodes hdecodes, hreader]
      · rw [if_neg hdecodes, Exchange.run_undecoding hsucceeds hdecodes]
  unlisted hunreadable := by
    refine ⟨by rw [apply_accept_of_nil hunreadable, hnone], fun a p w hsucceeds hdecodes => ?_⟩
    have hreader : x.registry.reader? (Exchange.answeredType a.headers)
        r.expected.unwrapEnvelope = none := by
      refine List.find?_eq_none.mpr fun c hc hreads => ?_
      rw [Registry.reads, hunreadable c hc, Bool.and_false] at hreads
      cases hreads
    rw [Exchange.run_decoding hsucceeds hdecodes, Exchange.decode_of_decodes hdecodes, hreader]
    simp only [Exchange.ended]
    split <;> rfl

/-- A whole response with a text: the list names plain text, and an answer of that type is read by
the converter for text. -/
theorem accept_agrees_with_reading_of_text :
    let x : Exchange := ⟨.own, ⟨[.octets, .text]⟩, .json⟩
    let r := Request.plain ⟨"http", some ⟨"", none, .name "api.example", none⟩, "/greeting", none,
      none⟩ "GET" (.response .string)
    let a : WireResponse := ⟨200, ⟨[⟨"content-type", utf8 "text/plain"⟩]⟩, utf8 "hi"⟩
    let w := World.initial (Reply.inOrder [fun _ => .answer a])
    (∀ c ∈ x.registry.converters, c.mediaType.Stated) ∧
      r.headers.contains acceptName = false ∧
      ((Interceptor.accept x.registry).apply r).headers.valuesOf acceptName =
        [utf8 "text/plain"] ∧
      ∃ reader, x.registry.reader? (Exchange.answeredType a.headers) .string = some reader ∧
        (x.runCall r (.response .string) w).1 = .result (Exchange.ended (.response .string) a
          (reader.read a.body .string (Exchange.answeredType a.headers))) := by
  intro x r a w
  have hstated : ∀ c ∈ x.registry.converters, c.mediaType.Stated := by
    intro c hc
    rcases List.mem_cons.mp hc with rfl | hc
    · exact .octetStream
    · rw [List.mem_singleton.mp hc]
      exact .plainText
  have hnone : r.headers.contains acceptName = false := rfl
  have hshown : MediaType.plainText.display = "text/plain" := by cbv
  have hvalues : ((Interceptor.accept x.registry).apply r).headers.valuesOf acceptName =
      [utf8 "text/plain"] := by
    have hlist : x.registry.acceptable r.expected.unwrapEnvelope = ["text/plain"] := by
      rw [← hshown]
      rfl
    have hname : Headers.name? acceptName = some acceptName := by decide
    have hvalue : Headers.value? (acceptValue ["text/plain"]) = some (utf8 "text/plain") := by
      rfl
    rw [Interceptor.apply, Interceptor.negotiate, hnone, if_neg Bool.false_ne_true, hlist]
    simp only [Request.withReplacedHeader, Headers.set, Headers.check, hname, hvalue]
    rfl
  have hset : ((Interceptor.accept x.registry).apply r).headers.contains acceptName = true := by
    rw [Headers.contains_acceptName, hvalues]
    exact List.cons_ne_nil _ _
  obtain ⟨ts, -, hmem, -, hread⟩ := (accept_agrees_with_reading x r hstated hnone).listed hset
  have hlisted : .plainText ∈ ts :=
    (hmem _).mpr ⟨.text, List.mem_cons_of_mem _ List.mem_cons_self, rfl, rfl⟩
  have hanswered : Answered a .plainText := ⟨[], by rw [hshown]; rfl⟩
  have hsucceeds : Exchange.Succeeds x r w a := ⟨⟨_, rfl, rfl⟩, rfl⟩
  have hdecodes : Exchange.Decodes r.expected a := by decide
  obtain ⟨reader, hreader, -, hrun⟩ := hread _ hlisted a hanswered
  refine ⟨hstated, hnone, hvalues, reader, hreader, ?_⟩
  have hended := hrun r w hsucceeds
  rw [if_pos hdecodes] at hended
  exact hended

end Endpoint
