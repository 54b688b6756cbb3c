import Endpoint.Invoker
import Endpoint.Proofs.Envelope
import Endpoint.Proofs.Headers
import Endpoint.Proofs.MediaType

/-!
What goes out for a request. A request is prepared, its body is written by the first converter that
is compatible with the media type which the request declares (or with the default) and can write the
type of the body, and the media type is declared if it was not.

What is proved:
  1. `encode_eq_iff_sending`: encoding has exactly the outcomes of `Sending`, which says when which
     error comes up and, if none does, what goes out;
  2. `replaced_put` (with the headers) and `labels_of_sending`: the one header that is added is the
     only change, and if every media type was stated, what goes out is labelled with one that the
     writer is compatible with, since reading what is shown keeps all that compatibility looks at;
  3. `sends_as_negotiated`: an error keeps the request from the other side, anything else reaches it
     once and as it is.

Two things keep a request from being sent without its writer's error being the end of the call
(`unsent_without_failing`). A call for a whole response takes in a response error of a writer's own
making, as it takes in all others, so it does not fail with it. And a method that needs a callback
comes to no call at all where there is none.
-/
namespace Endpoint
open Text

/-! ## What headers declare -/

theorem declaredType?_eq_some_iff {h : Headers} {t : MediaType} :
    declaredType? h = some t ↔ ∃ value rest text, h.valuesOf contentTypeName = value :: rest ∧
      Headers.visible? value = some text ∧ MediaType.ofText text = .ok t := by
  have hname : lowerText contentTypeName = contentTypeName := by decide
  simp only [declaredType?, Headers.get?, Headers.values, hname, Option.bind_eq_some_iff]
  constructor
  · rintro ⟨text, ⟨value, hvalue, hvisible⟩, htext⟩
    obtain ⟨rest, hrest⟩ := List.head?_eq_some_iff.mp hvalue
    refine ⟨value, rest, text, hrest, hvisible, ?_⟩
    cases hread : MediaType.ofText text with
    | error e =>
      rw [hread] at htext
      cases htext
    | ok t' =>
      rw [hread] at htext
      cases htext
      rfl
  · rintro ⟨value, rest, text, hvalues, hvisible, htext⟩
    refine ⟨text, ⟨value, by rw [hvalues]; rfl, hvisible⟩, ?_⟩
    rw [htext]
    rfl

/-- The first media type that headers name is a text which is read as the given one. -/
def Headers.Labels (h : Headers) (t : MediaType) : Prop :=
  ∃ text rest, h.valuesOf contentTypeName = utf8 text :: rest ∧ MediaType.ofText text = .ok t

theorem labels_of_declared {h : Headers} {t : MediaType} (ht : declaredType? h = some t) :
    h.Labels t := by
  obtain ⟨value, rest, text, hvalues, hvisible, htext⟩ := declaredType?_eq_some_iff.mp ht
  rw [← Headers.utf8_of_visible hvisible] at hvalues
  exact ⟨text, rest, hvalues, htext⟩

theorem Headers.Labels.declared {h : Headers} {t : MediaType} (ht : h.Labels t)
    (hvisible : ∀ value ∈ h.valuesOf contentTypeName, (visible? value).isSome = true) :
    declaredType? h = some t := by
  obtain ⟨text, rest, hvalues, htext⟩ := ht
  have hsome := hvisible (utf8 text) (by rw [hvalues]; exact List.mem_cons_self)
  obtain ⟨text', htext'⟩ := Option.isSome_iff_exists.mp hsome
  have hsame : text' = text := utf8_injective (utf8_of_visible htext')
  rw [hsame] at htext'
  exact declaredType?_eq_some_iff.mpr ⟨utf8 text, rest, text, hvalues, htext', htext⟩

namespace Exchange
variable {x : Exchange} {p : Request} {body : Body} {writer : Converter}

/-! ## The outcomes of encoding -/

/-- The media type that the body of a request is written as. -/
def bodyType (x : Exchange) (p : Request) : MediaType :=
  (declaredType? p.headers).getD x.defaultType

/-- The converter is the first that is compatible with the media type of the body and can write its
type. -/
def IsWriter (x : Exchange) (p : Request) (body : Body) (writer : Converter) : Prop :=
  ∃ before after, x.registry.converters = before ++ writer :: after ∧
    Registry.writes (x.bodyType p) body.type writer = true ∧
    ∀ c ∈ before, Registry.writes (x.bodyType p) body.type c = false

/-- What becomes of a prepared request: the request as it goes out, or why none does. -/
inductive Sending (x : Exchange) (p : Request) : Except Error WireRequest → Prop where
  /-- Without a body the request goes out as it is. -/
  | bodiless : p.body = none → Sending x p (.ok ⟨p.method, p.endpoint, p.headers, none⟩)
  /-- No converter is compatible with the media type and can write the body. -/
  | unwritable {body : Body} : p.body = some body →
    (∀ c ∈ x.registry.converters, Registry.writes (x.bodyType p) body.type c = false) →
    Sending x p (.error (.noConverter .write body.type.display (x.bodyType p).display))
  /-- The first converter that can write the body fails. -/
  | failed {body : Body} {writer : Converter} {e : Error} : p.body = some body →
    IsWriter x p body writer → writer.write body (x.bodyType p) = .error e →
    Sending x p (.error e)
  /-- A request that declares what its body is goes out with its headers as they are. -/
  | declared {body : Body} {writer : Converter} {bytes : Octets} {t : MediaType} :
    p.body = some body → IsWriter x p body writer →
    writer.write body (x.bodyType p) = .ok bytes → declaredType? p.headers = some t →
    Sending x p (.ok ⟨p.method, p.endpoint, p.headers, some bytes⟩)
  /-- What is to be declared is no legal value. -/
  | illegal {body : Body} {writer : Converter} {bytes : Octets} : p.body = some body →
    IsWriter x p body writer → writer.write body (x.bodyType p) = .ok bytes →
    declaredType? p.headers = none →
    Headers.value? (advertised writer x.defaultType).display = none →
    Sending x p (.error (.configuration (.header contentTypeName .badValue)))
  /-- A request that declares nothing is given the media type of its writer if that names one
  format, and else the default. -/
  | labelled {body : Body} {writer : Converter} {bytes value : Octets} : p.body = some body →
    IsWriter x p body writer → writer.write body (x.bodyType p) = .ok bytes →
    declaredType? p.headers = none →
    Headers.value? (advertised writer x.defaultType).display = some value →
    Sending x p (.ok ⟨p.method, p.endpoint, p.headers.put contentTypeName value, some bytes⟩)

theorem writer?_eq_some_iff :
    x.registry.writer? (x.bodyType p) body.type = some writer ↔ IsWriter x p body writer := by
  rw [Registry.writer?, List.find?_eq_some_iff_append]
  constructor
  · rintro ⟨hwrites, before, after, hsplit, hbefore⟩
    exact ⟨before, after, hsplit, hwrites, by simpa using hbefore⟩
  · rintro ⟨before, after, hsplit, hwrites, hbefore⟩
    exact ⟨hwrites, before, after, hsplit, by simpa using hbefore⟩

theorem writer?_eq_none_iff : x.registry.writer? (x.bodyType p) body.type = none ↔
    ∀ c ∈ x.registry.converters, Registry.writes (x.bodyType p) body.type c = false := by
  simp [Registry.writer?]

/-- The name of the header is legal, so only its value can be refused. -/
theorem set_contentType (h : Headers) (text : String) :
    h.set contentTypeName text = match Headers.value? text with
      | none => .error .badValue
      | some value => .ok (h.put contentTypeName value) := by
  have hname : Headers.name? contentTypeName = some contentTypeName := by decide
  rw [Headers.set, Headers.check, hname]
  cases Headers.value? text <;> rfl

theorem bodyType_of_undeclared (h : declaredType? p.headers = none) :
    x.bodyType p = x.defaultType := by
  rw [bodyType, h]
  rfl

theorem encode_of_body (hbody : p.body = some body) :
    x.encode p =
      match x.registry.writer? (x.bodyType p) body.type with
      | none => .error (Converter.unwritable body.type (x.bodyType p))
      | some writer => match writer.write body (x.bodyType p) with
        | .error e => .error e
        | .ok bytes => match declaredType? p.headers with
          | some _ => .ok ⟨p.method, p.endpoint, p.headers, some bytes⟩
          | none => match Headers.value? (advertised writer x.defaultType).display with
            | none => .error (.configuration (.header contentTypeName .badValue))
            | some value =>
              .ok ⟨p.method, p.endpoint, p.headers.put contentTypeName value, some bytes⟩ := by
  simp only [encode, hbody, encodeBody, bind, Except.bind, pure, Except.pure, set_contentType]
  rw [← bodyType]
  cases x.registry.writer? (x.bodyType p) body.type with
  | none => rfl
  | some writer =>
    cases hwrite : writer.write body (x.bodyType p) with
    | error e => simp only [hwrite]
    | ok bytes =>
      simp only [hwrite]
      cases hdeclared : declaredType? p.headers with
      | some t => rfl
      | none =>
        rw [bodyType_of_undeclared hdeclared]
        cases Headers.value? (advertised writer x.defaultType).display <;> rfl

/-- Encoding has the outcomes that are listed, and no other. -/
theorem encode_eq_iff_sending {o : Except Error WireRequest} :
    x.encode p = o ↔ Sending x p o := by
  constructor
  · rintro rfl
    cases hbody : p.body with
    | none =>
      rw [encode, hbody]
      exact .bodiless hbody
    | some body =>
      rw [encode_of_body hbody]
      cases hfind : x.registry.writer? (x.bodyType p) body.type with
      | none => exact .unwritable hbody (writer?_eq_none_iff.mp hfind)
      | some writer =>
        have hwriter := writer?_eq_some_iff.mp hfind
        cases hwrite : writer.write body (x.bodyType p) with
        | error e =>
          simp only [hwrite]
          exact .failed hbody hwriter hwrite
        | ok bytes =>
          simp only [hwrite]
          cases hdeclared : declaredType? p.headers with
          | some t => exact .declared hbody hwriter hwrite hdeclared
          | none =>
            simp only
            cases hvalue : Headers.value? (advertised writer x.defaultType).display with
            | none => exact .illegal hbody hwriter hwrite hdeclared hvalue
            | some value => exact .labelled hbody hwriter hwrite hdeclared hvalue
  · intro h
    cases h with
    | bodiless hbody => rw [encode, hbody]
    | unwritable hbody hnone =>
      rw [encode_of_body hbody, writer?_eq_none_iff.mpr hnone]
      rfl
    | failed hbody hwriter hwrite =>
      rw [encode_of_body hbody, writer?_eq_some_iff.mpr hwriter]
      simp only [hwrite]
    | declared hbody hwriter hwrite hdeclared =>
      rw [encode_of_body hbody, writer?_eq_some_iff.mpr hwriter]
      simp only [hwrite, hdeclared]
    | illegal hbody hwriter hwrite hdeclared hvalue =>
      rw [encode_of_body hbody, writer?_eq_some_iff.mpr hwriter]
      simp only [hwrite, hdeclared, hvalue]
    | labelled hbody hwriter hwrite hdeclared hvalue =>
      rw [encode_of_body hbody, writer?_eq_some_iff.mpr hwriter]
      simp only [hwrite, hdeclared, hvalue]

/-! ## What a body is labelled with -/

/-- What is read where the advertised media type is shown is compatible with the writer: either it
is the writer's own, or what the writer was chosen for. -/
theorem advertised_display {m : MediaType} (hwriter : writer.mediaType.Stated) (hm : m.Stated)
    (hcompatible : writer.mediaType.compatible m = true) :
    ∃ t, MediaType.ofText (advertised writer m).display = .ok t ∧
      writer.mediaType.compatible t = true := by
  unfold advertised
  split
  · obtain ⟨t, ht, hmain, hsub⟩ := hwriter.ofText_display
    refine ⟨t, ht, ?_⟩
    calc writer.mediaType.compatible t
        = writer.mediaType.compatible writer.mediaType :=
          MediaType.compatible_congr ⟨rfl, rfl⟩ ⟨hmain, hsub⟩
      _ = true := MediaType.compatible_self _
  · obtain ⟨t, ht, hmain, hsub⟩ := hm.ofText_display
    refine ⟨t, ht, ?_⟩
    calc writer.mediaType.compatible t = writer.mediaType.compatible m :=
          MediaType.compatible_congr ⟨rfl, rfl⟩ ⟨hmain, hsub⟩
      _ = true := hcompatible

/-- A body goes out under a media type that its writer is compatible with. -/
theorem labels_of_sending (hstated : ∀ c ∈ x.registry.converters, c.mediaType.Stated)
    (hdefault : x.defaultType.Stated) (hbody : p.body = some body) {wire : WireRequest}
    (h : Sending x p (.ok wire)) :
    ∃ writer t, IsWriter x p body writer ∧ wire.headers.Labels t ∧
      writer.mediaType.compatible t = true := by
  have hcompatible {writer : Converter} (hwriter : IsWriter x p body writer) :
      writer.mediaType.compatible (x.bodyType p) = true := by
    obtain ⟨-, -, -, hwrites, -⟩ := hwriter
    rw [Registry.writes, Bool.and_eq_true] at hwrites
    exact hwrites.1
  cases h with
  | bodiless hnone =>
    rw [hnone] at hbody
    cases hbody
  | @declared body' writer bytes t hbody' hwriter hwrite hdeclared =>
    obtain rfl : body' = body := Option.some.inj (hbody'.symm.trans hbody)
    have htype : x.bodyType p = t := by
      rw [bodyType, hdeclared]
      rfl
    refine ⟨writer, t, hwriter, labels_of_declared hdeclared, ?_⟩
    rw [← htype]
    exact hcompatible hwriter
  | @labelled body' writer bytes value hbody' hwriter hwrite hdeclared hvalue =>
    obtain rfl : body' = body := Option.some.inj (hbody'.symm.trans hbody)
    have hmem : writer ∈ x.registry.converters := by
      obtain ⟨before, after, hsplit, -⟩ := hwriter
      rw [hsplit]
      exact List.mem_append_right _ List.mem_cons_self
    have hcompatible' : writer.mediaType.compatible x.defaultType = true := by
      rw [← bodyType_of_undeclared hdeclared]
      exact hcompatible hwriter
    obtain ⟨t, ht, hwith⟩ := advertised_display (hstated writer hmem) hdefault hcompatible'
    have honly : (p.headers.put contentTypeName value).valuesOf contentTypeName = [value] :=
      (Headers.replaced_put p.headers contentTypeName value).only
    refine ⟨writer, t, hwriter, ⟨_, [], ?_, ht⟩, hwith⟩
    rw [honly, Headers.value?_eq_utf8 hvalue]

end Exchange

/-! ## What a call sends -/

/-- A call of a method sends what its prepared request comes to. -/
structure Sends (m : Method) (r : Request) (w : World) : Prop where
  /-- The prepared request comes to one thing. -/
  decided : ∃ o, Exchange.Sending m.exchange (m.prepare r) o ∧
    ∀ o', Exchange.Sending m.exchange (m.prepare r) o' → o' = o
  /-- An error keeps it from the other side, and the call fails with that error, unless it is a
  response error and a whole response takes it in. -/
  unsent : ∀ e, Exchange.Sending m.exchange (m.prepare r) (.error e) →
    ((m.call r).perform.run w).2.sent = w.sent ∧
      ((m.call r).perform.run w).2.executions = w.executions ∧
      (m.callType.isNamed TypeExpr.responseName = false ∨ e.isResponse = false →
        ((m.call r).perform.run w).1 = .result (.error e))
  /-- What a whole response takes in is part of it. -/
  takenIn : ∀ status headers text,
    Exchange.Sending m.exchange (m.prepare r) (.error (.response status headers text)) →
    m.callType.isNamed TypeExpr.responseName = true →
    ((m.call r).perform.run w).1 = .result (.ok (.envelope
      (Exchange.recovered m.callType.firstArgOrAny status headers text)))
  /-- Anything else reaches the other side once. -/
  sent : ∀ wire, Exchange.Sending m.exchange (m.prepare r) (.ok wire) →
    ((m.call r).perform.run w).2.sent = w.sent ++ [wire] ∧
      ((m.call r).perform.run w).2.executions = w.executions + 1
  /-- A header that is added changes nothing else. -/
  replaced : ∀ value, Headers.Replaced contentTypeName value (m.prepare r).headers
    ((m.prepare r).headers.put contentTypeName value)
  /-- If every media type was stated, a body goes out under one that its writer is compatible with;
  a receiver that can read the header as a text finds it declared. -/
  labelled : (∀ c ∈ m.exchange.registry.converters, c.mediaType.Stated) →
    m.exchange.defaultType.Stated → ∀ wire body, (m.prepare r).body = some body →
    Exchange.Sending m.exchange (m.prepare r) (.ok wire) →
    ∃ writer t, Exchange.IsWriter m.exchange (m.prepare r) body writer ∧
      writer.mediaType.compatible t = true ∧ wire.headers.Labels t ∧
      ((∀ value ∈ wire.headers.valuesOf contentTypeName, (Headers.visible? value).isSome = true) →
        declaredType? wire.headers = some t)

/-- **What is sent is what was negotiated.** Whatever the method, the request and the other side
are: the body is written by the first converter that can, the headers go out as they were prepared
but for the one that says what the body is, and the other side is reached once or, where the request
comes to an error, not at all. -/
theorem sends_as_negotiated (m : Method) (r : Request) (w : World) : Sends m r w where
  decided := ⟨_, Exchange.encode_eq_iff_sending.mp rfl,
    fun _ ho => (Exchange.encode_eq_iff_sending.mpr ho).symm⟩
  unsent e he := by
    have henc := Exchange.encode_eq_iff_sending.mpr he
    show (m.exchange.runCall (m.prepare r) m.callType w).2.sent = w.sent ∧
      (m.exchange.runCall (m.prepare r) m.callType w).2.executions = w.executions ∧
      (_ → (m.exchange.runCall (m.prepare r) m.callType w).1 = .result (.error e))
    cases htype : m.callType.isNamed TypeExpr.responseName with
    | false =>
      rw [Exchange.run_value htype]
      simp only [henc]
      exact ⟨trivial, trivial, fun _ => trivial⟩
    | true =>
      rw [Exchange.run_envelope htype rfl]
      simp only [henc]
      refine ⟨Exchange.recover_sent _ _ _, Exchange.recover_executions _ _ _, fun h => ?_⟩
      rcases h with h | h
      · cases h
      · exact congrArg Prod.fst (Exchange.recover_of_not_isResponse h)
  takenIn status headers text he htype := by
    show (m.exchange.runCall (m.prepare r) m.callType w).1 = _
    rw [Exchange.run_envelope htype rfl, Exchange.encode_eq_iff_sending.mpr he]
    rfl
  sent wire hwire := Exchange.sent_runCall (Exchange.encode_eq_iff_sending.mpr hwire)
  replaced value := Headers.replaced_put _ _ _
  labelled hstated hdefault wire body hbody hwire := by
    obtain ⟨writer, t, hwriter, hlabels, hcompatible⟩ :=
      Exchange.labels_of_sending hstated hdefault hbody hwire
    exact ⟨writer, t, hwriter, hcompatible, hlabels, hlabels.declared⟩

/-- Octets without a declared media type go out once, declared as what their writer writes. -/
theorem sends_as_negotiated_of_octets :
    let m : Method := ⟨⟨Handler.terminal, .any, .any⟩, [], ⟨.own, ⟨[.text, .octets]⟩, .any⟩⟩
    let url : Url := ⟨"http", some ⟨"", none, .name "api.example", none⟩, "/photos", none, none⟩
    let r : Request := ⟨url, "POST", ⟨[⟨"x-trace", utf8 "7"⟩]⟩,
      some ⟨0, .octets (utf8 "hi"), .bytes⟩, .any⟩
    let w := World.initial (Reply.inOrder [])
    let wire : WireRequest := ⟨"POST", url, ⟨[⟨"x-trace", utf8 "7"⟩,
      ⟨"content-type", utf8 "application/octet-stream"⟩]⟩, some (utf8 "hi")⟩
    Exchange.Sending m.exchange (m.prepare r) (.ok wire) ∧
      ((m.call r).perform.run w).2.sent = [wire] := by
  intro m url r w wire
  have hwriter : Exchange.IsWriter m.exchange (m.prepare r) ⟨0, .octets (utf8 "hi"), .bytes⟩
      .octets := by
    refine ⟨[.text], [], rfl, rfl, fun c hc => ?_⟩
    rw [List.mem_singleton.mp hc]
    rfl
  have hshown : (Exchange.advertised .octets .any).display = "application/octet-stream" := by
    cbv
  have hvalue : Headers.value? (Exchange.advertised .octets .any).display =
      some (utf8 "application/octet-stream") := by
    rw [hshown]
    rfl
  have hsending : Exchange.Sending m.exchange (m.prepare r) (.ok wire) :=
    .labelled rfl hwriter rfl rfl hvalue
  exact ⟨hsending, ((sends_as_negotiated m r w).sent wire hsending).1⟩

/-- Two ways around a failing writer and around sending: a call for a whole response succeeds with
the response error that its writer makes up, and without a callback that it needs a method never
comes to its call. -/
theorem unsent_without_failing :
    let e : Error := .response 200 .empty "made up"
    let writer : Converter := { Converter.octets with write := fun _ _ => .error e }
    let m : Method := ⟨⟨Handler.terminal, .response .bytes, .response .bytes⟩, [],
      ⟨.own, ⟨[writer]⟩, .octetStream⟩⟩
    let waiting : Method := ⟨⟨Handler.callback Handler.terminal, .callback .bytes, .bytes⟩, [],
      ⟨.own, .standard, .octetStream⟩⟩
    let url : Url := ⟨"http", some ⟨"", none, .name "api.example", none⟩, "/photos", none, none⟩
    let upload : Request := { Request.plain url "POST" .any with
      body := some ⟨0, .octets (utf8 "hi"), .bytes⟩ }
    let download := Request.plain url "GET" .any
    let w := World.initial (Reply.inOrder [])
    Handler.resolve Adapter.standard (.response .bytes) = .ok m.resolved ∧
      m.exchange.encode (m.prepare upload) = .error e ∧
      ((m.invoke upload .empty).run w).1 =
        .result (.ok (.envelope ⟨200, .empty, none, some "made up"⟩)) ∧
      ((m.invoke upload .empty).run w).2.sent = [] ∧
      Handler.resolve Adapter.standard (.callback .bytes) = .ok waiting.resolved ∧
      waiting.exchange.encode (waiting.prepare download) = .ok ⟨"GET", url, .empty, none⟩ ∧
      ((waiting.invoke download .empty).run w).1 =
        .result (.error (.configuration .noCallback)) ∧
      ((waiting.invoke download .empty).run w).2.sent = [] := by
  intro e writer m waiting url upload download w
  exact ⟨rfl, rfl, rfl, rfl, rfl, rfl, rfl, rfl⟩

end Endpoint
