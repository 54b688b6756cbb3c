import Endpoint.Invoker
import Endpoint.Network
import Endpoint.Proofs.Extension
import Endpoint.Proofs.Sending
import Endpoint.Proofs.Soundness
import Endpoint.Proofs.Twin

/-!
Credentials stay out of sight. Two invokers are built from the same parts, but for the content of
their credentials. Whatever is done with both in the same way, nothing but the value of one header
in what is sent tells them apart.

What is proved:
  1. `Disguised.twin` and `chain_twin`: interceptors that come with the program make twins of
     requests that are twins, and report the same about them;
  2. `discreet_of_resolved`: every handler makes twin works of twin calls, since no adapter looks
     into a call (`Adapter.Discreet`);
  3. `Work.Twin.unseen`: twin works are not told apart by what they report, the reports of the
     network included, or by what they come to;
  4. `credentials_unseen`: so invocations with other credentials are not, for all declared types,
     requests, arguments and orders of steps, if the credentials are legal values or if none are.

Whether they are legal values is seen (`reports_ne_of_legality`): illegal ones are left out, with a
report that they were.
-/
namespace Endpoint
open Text

/-! ## Headers -/

namespace Headers
variable {h h' : Headers}

theorem Twin.names_eq (t : h.Twin h') : h.lines.map (·.name) = h'.lines.map (·.name) :=
  map_eq_of_forall₂ t fun _ _ hline => hline.1

theorem Twin.contains_eq (t : h.Twin h') (name : String) : h.contains name = h'.contains name := by
  have hany (lines : List HeaderLine) : lines.any (·.name == lowerText name) =
      (lines.map (·.name)).any (· == lowerText name) := by
    rw [List.any_map]
    rfl
  rw [contains, contains, hany, hany, t.names_eq]

theorem Twin.valuesOf_eq (t : h.Twin h') {name : String} (hname : name ≠ authorizationName) :
    h.valuesOf name = h'.valuesOf name := by
  obtain ⟨lines⟩ := h
  obtain ⟨lines'⟩ := h'
  change List.Forall₂ HeaderLine.Twin lines lines' at t
  unfold valuesOf
  induction t with
  | nil => rfl
  | @cons l l' ls ls' hline _ ih =>
    by_cases hl : l.name = name
    · have hl' : l'.name = name := hline.1 ▸ hl
      have hvalue : l.value = l'.value := hline.2 (hl ▸ hname)
      simp only [List.filter_cons, hl, hl', beq_self_eq_true, if_true, List.map_cons, hvalue, ih]
    · have hl' : l'.name ≠ name := hline.1 ▸ hl
      simp only [List.filter_cons, beq_iff_eq, hl, hl', if_false, ih]

theorem Twin.declaredType?_eq (t : h.Twin h') : declaredType? h = declaredType? h' := by
  have hname : lowerText contentTypeName ≠ authorizationName := by decide
  simp only [declaredType?, get?, values, t.valuesOf_eq hname]

theorem Twin.append {l l' : HeaderLine} (t : h.Twin h') (hl : l.Twin l') :
    (h.append l.name l.value).Twin (h'.append l'.name l'.value) :=
  forall₂_concat t hl

theorem Twin.put (t : h.Twin h') (name : String) (value : Octets) :
    (h.put name value).Twin (h'.put name value) := by
  have hsame : HeaderLine.Twin ⟨name, value⟩ ⟨name, value⟩ := ⟨rfl, fun _ => rfl⟩
  obtain ⟨lines⟩ := h
  obtain ⟨lines'⟩ := h'
  change List.Forall₂ HeaderLine.Twin lines lines' at t
  change List.Forall₂ HeaderLine.Twin (putLine name value lines) (putLine name value lines')
  induction t with
  | nil => exact .cons hsame .nil
  | @cons l l' ls ls' hline hrest ih =>
    simp only [putLine, ← hline.1]
    split
    · refine .cons hsame (List.rel_filter (fun k k' hk => ?_) hrest)
      show (k.name != name) = true ↔ (k'.name != name) = true
      rw [hk.1]
    · exact .cons hline ih

theorem Twin.fill (t : h.Twin h') (defaults : Headers) :
    (h.fill defaults).Twin (h'.fill defaults) := by
  have hmissing : (fun l : HeaderLine => !h.contains l.name) = fun l => !h'.contains l.name := by
    funext l
    rw [t.contains_eq]
  unfold Headers.fill Twin
  rw [hmissing]
  exact List.rel_append t (List.forall₂_same.mpr fun l _ => ⟨rfl, fun _ => rfl⟩)

end Headers

/-! ## Requests and interceptors -/

/-- The requests are the same, but for the credentials. -/
structure Request.Twin (r r' : Request) : Prop where
  endpoint : r.endpoint = r'.endpoint
  method : r.method = r'.method
  headers : r.headers.Twin r'.headers
  body : r.body = r'.body
  expected : r.expected = r'.expected

theorem Request.Twin.refl (r : Request) : r.Twin r :=
  ⟨rfl, rfl, List.forall₂_same.mpr fun _ _ => ⟨rfl, fun _ => rfl⟩, rfl, rfl⟩

theorem Request.Twin.withReplacedHeader {r r' : Request} (h : r.Twin r') (name value : String) :
    Alike Request.Twin (r.withReplacedHeader name value) (r'.withReplacedHeader name value) := by
  simp only [Request.withReplacedHeader, Headers.set]
  cases Headers.check name value with
  | error flaw => exact .error _
  | ok line => exact .ok { h with headers := h.headers.put line.1 line.2 }

/-- Neither of the credentials is blank, and both are legal values or neither is. -/
def Authentication.Interchangeable (a a' : Authentication) : Prop :=
  ∃ c c', Interceptor.presented? a = some c ∧ Interceptor.presented? a' = some c' ∧
    (Headers.value? c).isSome = (Headers.value? c').isSome

namespace Interceptor

/-- One of the interceptors that come with the program, on both sides; on one side it may have other
credentials. -/
inductive Disguised : Interceptor → Interceptor → Prop where
  | credentials {a a' : Authentication} : a.Interchangeable a' →
    Disguised (.credentials a) (.credentials a')
  | kept (a : Authentication) : Disguised (.credentials a) (.credentials a)
  | defaults (headers : Headers) : Disguised (.defaults headers) (.defaults headers)
  | accept (registry : Registry) : Disguised (.accept registry) (.accept registry)

variable {r r' : Request}

/-- Whether credentials are a legal value is seen: credentials that differ in it are told apart. -/
theorem reports_ne_of_legality {a a' : Authentication} {c c' : String} (hc : presented? a = some c)
    (hc' : presented? a' = some c')
    (hlegal : (Headers.value? c).isSome ≠ (Headers.value? c').isSome) (r r' : Request) :
    (credentials a).reports r ≠ (credentials a').reports r' := by
  simp only [reports, authorize_presented hc, authorize_presented hc']
  cases hv : Headers.value? c with
  | none =>
    cases hv' : Headers.value? c' with
    | none => exact (hlegal (by rw [hv, hv'])).elim
    | some value' => exact List.cons_ne_nil _ _
  | some value =>
    cases hv' : Headers.value? c' with
    | none => exact (List.cons_ne_nil _ _).symm
    | some value' => exact (hlegal (by rw [hv, hv']; rfl)).elim

theorem authorize_twin {a a' : Authentication} (ha : a.Interchangeable a') (h : r.Twin r') :
    Alike Request.Twin (authorize a r) (authorize a' r') := by
  obtain ⟨c, c', hc, hc', hlegal⟩ := ha
  rw [authorize_presented hc, authorize_presented hc']
  cases hv : Headers.value? c with
  | none =>
    rw [hv] at hlegal
    rw [Option.isNone_iff_eq_none.mp (Option.isSome_eq_false_iff.mp hlegal.symm)]
    exact .error _
  | some value =>
    rw [hv] at hlegal
    obtain ⟨value', hv'⟩ := Option.isSome_iff_exists.mp hlegal.symm
    rw [hv']
    have hline : HeaderLine.Twin ⟨authorizationName, value⟩ ⟨authorizationName, value'⟩ :=
      ⟨rfl, fun hne => (hne rfl).elim⟩
    exact .ok { h with headers := h.headers.append hline }

/-- Credentials that are kept are blank, or interchangeable with themselves. -/
theorem authorize_twin_kept (a : Authentication) (h : r.Twin r') :
    Alike Request.Twin (authorize a r) (authorize a r') := by
  cases ha : presented? a with
  | none =>
    rw [authorize, authorize, ha]
    exact .ok h
  | some c => exact authorize_twin ⟨c, c, ha, ha, rfl⟩ h

theorem negotiate_twin (registry : Registry) (h : r.Twin r') :
    Alike Request.Twin (negotiate registry r) (negotiate registry r') := by
  unfold negotiate
  rw [← h.headers.contains_eq, ← h.expected]
  split
  · exact .ok h
  · split
    · exact .ok h
    · exact h.withReplacedHeader acceptName _

theorem credentials_twin {a a' : Authentication} (h : r.Twin r')
    (hauthorized : Alike Request.Twin (authorize a r) (authorize a' r')) :
    ((credentials a).apply r).Twin ((credentials a').apply r') ∧
      (credentials a).reports r = (credentials a').reports r' := by
  simp only [apply, reports]
  generalize authorize a r = x at hauthorized
  generalize authorize a' r' = x' at hauthorized
  cases hauthorized with
  | ok hchanged => exact ⟨hchanged, rfl⟩
  | error e => exact ⟨h, rfl⟩

theorem accept_twin (registry : Registry) (h : r.Twin r') :
    ((accept registry).apply r).Twin ((accept registry).apply r') ∧
      (accept registry).reports r = (accept registry).reports r' := by
  have hnegotiated := negotiate_twin registry h
  simp only [apply, reports]
  generalize negotiate registry r = x at hnegotiated
  generalize negotiate registry r' = x' at hnegotiated
  cases hnegotiated with
  | ok hchanged => exact ⟨hchanged, rfl⟩
  | error e => exact ⟨h, rfl⟩

theorem Disguised.twin {i i' : Interceptor} (hi : Disguised i i') (h : r.Twin r') :
    (i.apply r).Twin (i'.apply r') ∧ i.reports r = i'.reports r' := by
  cases hi with
  | credentials ha => exact credentials_twin h (authorize_twin ha h)
  | kept a => exact credentials_twin h (authorize_twin_kept a h)
  | defaults headers => exact ⟨{ h with headers := h.headers.fill headers }, rfl⟩
  | accept registry => exact accept_twin registry h

theorem chain_twin {chain chain' : List Interceptor} (hchain : List.Forall₂ Disguised chain chain')
    (h : r.Twin r') : (applyAll chain r).Twin (applyAll chain' r') ∧
      reportsAll chain r = reportsAll chain' r' := by
  induction hchain generalizing r r' with
  | nil => exact ⟨h, rfl⟩
  | cons hi _ ih =>
    obtain ⟨happly, hreports⟩ := hi.twin h
    obtain ⟨hall, hall'⟩ := ih happly
    refine ⟨hall, ?_⟩
    rw [reportsAll, reportsAll, hreports, hall']

end Interceptor

/-! ## Calls -/

namespace Exchange
variable {r r' : Request}

theorem encode_twin (x : Exchange) (h : r.Twin r') :
    Alike WireRequest.Twin (x.encode r) (x.encode r') := by
  cases hbody : r.body with
  | none =>
    have hbody' : r'.body = none := h.body ▸ hbody
    rw [encode, encode, hbody, hbody']
    exact .ok ⟨h.method, h.endpoint, h.headers, rfl⟩
  | some body =>
    have hbody' : r'.body = some body := h.body ▸ hbody
    have htype : x.bodyType r = x.bodyType r' := by
      rw [bodyType, bodyType, h.headers.declaredType?_eq]
    rw [encode_of_body hbody, encode_of_body hbody', htype, h.headers.declaredType?_eq]
    cases x.registry.writer? (x.bodyType r') body.type with
    | none => exact .error _
    | some writer =>
      simp only
      cases writer.write body (x.bodyType r') with
      | error e => exact .error e
      | ok bytes =>
        simp only
        cases declaredType? r'.headers with
        | some t => exact .ok ⟨h.method, h.endpoint, h.headers, rfl⟩
        | none =>
          simp only
          cases Headers.value? (advertised writer x.defaultType).display with
          | none => exact .error _
          | some value => exact .ok ⟨h.method, h.endpoint, h.headers.put _ value, rfl⟩

theorem carry_twin (t : Transport) {q q' : WireRequest} (hq : q.Twin q')
    (next : Except Error WireResponse → Task) : Work.Twin (t.carry q next) (t.carry q' next) := by
  have hannounces : t.announces q = t.announces q' := by
    cases t with
    | own => rfl
    | network late => rw [Transport.announces, Transport.announces, hq.method, hq.url]
  rw [Transport.carry, Transport.carry, hannounces]
  exact Work.Twin.reportAll (.send hq fun _ => .refl _) _

theorem perform_twin (x : Exchange) (h : r.Twin r') (next : Except Error WireResponse → Task) :
    Work.Twin (x.perform r next) (x.perform r' next) := by
  have hencoded := x.encode_twin h
  unfold perform
  generalize x.encode r = y at hencoded
  generalize x.encode r' = y' at hencoded
  cases hencoded with
  | error e => exact .refl _
  | ok hq => exact carry_twin x.transport hq _

theorem work_twin (x : Exchange) (h : r.Twin r') (type : TypeExpr) :
    Work.Twin (x.work r type) (x.work r' type) := by
  unfold work
  split
  · exact x.perform_twin h _
  · exact x.perform_twin h _

end Exchange

/-- The calls start in the same way and are of twin works. -/
inductive Launch.Twin : Call → Call → Prop where
  | ready {t t' : Task} : Work.Twin t t' → Launch.Twin (.ready t) (.ready t')
  | panic (p : Payload) : Launch.Twin (.panic p) (.panic p)
  | count {next next' : Call} : Launch.Twin next next' → Launch.Twin (.count next) (.count next')
  | report {next next' : Call} (event : Event) : Launch.Twin next next' →
    Launch.Twin (.report event next) (.report event next')

theorem Launch.Twin.perform {c c' : Call} (h : Launch.Twin c c') :
    Work.Twin c.perform c'.perform := by
  induction h with
  | ready ht => exact ht
  | panic p => exact .panic p
  | count _ ih => exact .count ih
  | report event _ ih => exact .report event ih

/-! ## Handlers -/

/-- The handler does not look into calls: it makes twin works of twin calls. -/
def Handler.Discreet (h : Handler) : Prop :=
  ∀ c c' args, Launch.Twin c c' → Work.Twin (h c args) (h c' args)

/-- The adapter keeps handlers discreet. All that a handler can do with a call is to start it, so an
adapter that told twin calls apart would have to look into work that is closed to it. -/
def Adapter.Discreet (a : Adapter Handler) : Prop :=
  ∀ t h, Handler.Discreet h → Handler.Discreet (a.adapt t h)

namespace Handler
variable {h : Handler}

theorem discreet_terminal : Discreet terminal := fun _ _ _ hc => hc.perform

theorem Discreet.future (hh : Discreet h) : Discreet (future h) :=
  fun c c' args hc => .spawn .future (hh c c' args hc) fun _ => .refl _

theorem Discreet.callback (hh : Discreet h) : Discreet (callback h) := by
  intro c c' args hc
  unfold Handler.callback
  cases args.callback? with
  | none => exact .refl _
  | some id => exact .spawn _ (hh c c' args hc) fun _ => .refl _

theorem Discreet.single (hh : Discreet h) : Discreet (single h) :=
  fun c c' args hc => .done (.ok (.single (hh c c' args hc)))

theorem Discreet.stream (hh : Discreet h) : Discreet (stream h) :=
  fun c c' args hc => .done (.ok (.stream (hh c c' args hc)))

theorem Discreet.logged (hh : Discreet h) (line : String) : Discreet (logged line h) :=
  fun c c' args hc => .log line (hh c c' args hc)

theorem headersOf_twin (r r' : Except Error Value) (hr : Alike Value.Twin r r') :
    Work.Twin (headersOf r) (headersOf r') := by
  cases hr with
  | error e => exact .refl _
  | ok hv =>
    cases hv with
    | same v => exact .refl _
    | envelope => exact .refl _
    | list hvs => exact .release (.list hvs) (.refl _)
    | single ht => exact .release (.single ht) (.refl _)
    | stream ht => exact .release (.stream ht) (.refl _)

theorem documentOf_twin (r r' : Except Error Value) (hr : Alike Value.Twin r r') :
    Work.Twin (documentOf r) (documentOf r') := by
  cases hr with
  | error e => exact .refl _
  | ok hv =>
    cases hv with
    | same v => exact .refl _
    | envelope status headers text hv =>
      exact .release (.envelope status headers text hv) (.refl _)
    | list hvs => exact .release (.list hvs) (.refl _)
    | single ht => exact .release (.single ht) (.refl _)
    | stream ht => exact .release (.stream ht) (.refl _)

theorem Discreet.headers (hh : Discreet h) : Discreet (headers h) :=
  fun c c' args hc => (hh c c' args hc).andThen headersOf_twin

theorem Discreet.document (hh : Discreet h) : Discreet (document h) :=
  fun c c' args hc => (hh c c' args hc).andThen documentOf_twin

end Handler

namespace Adapter

theorem discreet_of_standard {a : Adapter Handler} (ha : a ∈ standard) : a.Discreet := by
  simp only [standard, List.mem_cons, List.not_mem_nil, or_false] at ha
  rcases ha with rfl | rfl | rfl | rfl | rfl | rfl
  · exact fun _ _ hh => hh.future
  · exact fun _ _ hh => hh.callback
  · exact fun _ _ hh => hh.headers
  · exact fun _ _ hh => hh.single
  · exact fun _ _ hh => hh.stream
  · exact fun _ _ hh => hh.document

/-- By induction on how many types may be looked at: adapters that do not look into calls resolve
declared types to handlers that do not. -/
theorem discreet_of_resolved {adapters : List (Adapter Handler)} {terminal : Handler}
    (hadapters : ∀ a ∈ adapters, a.Discreet) (hterminal : terminal.Discreet)
    {declared : TypeExpr} {left : Nat} {t : TypeExpr} {m : Resolved Handler}
    (h : resolveFrom adapters terminal declared left t = .ok m) : m.handler.Discreet := by
  induction left generalizing t m with
  | zero => cases h
  | succ left ih =>
    simp only [resolveFrom] at h
    split at h
    · cases h
      exact hterminal
    · rename_i a ha
      split at h
      · cases h
      · split at h
        · cases h
        · split at h
          · cases h
          · rename_i inner _ _ below hbelow
            cases h
            exact hadapters a (List.mem_of_find?_eq_some ha) t below.handler (ih hbelow)

end Adapter

/-! ## Sessions -/

/-- What a piece of work came to, and what callbacks got. -/
structure Harvest where
  result : Except Error Delivered
  outcomes : List (Except Error Delivered)

/-- Work that is done and seen to its end: some steps of the pool come after it, what it ended in is
taken to its end, more steps come, and so is what callbacks got. -/
def Work.session (before after : List World.Move) (fuel start : Nat) (t : Task) :
    Driven Harvest := fun w =>
  match t.run w with
  | (.panic p, w) => (.error p, w)
  | (.result o, w) => match deliver o (w.moves before) with
    | (.error p, w) => (.error p, w)
    | (.ok d, w) => match deliverOutcomes fuel start (w.moves after) with
      | (.error p, w) => (.error p, w)
      | (.ok ds, w) => (.ok ⟨d, ds⟩, w)

structure Harvest.Twin (y y' : Harvest) : Prop where
  result : Alike Delivered.Twin y.result y'.result
  outcomes : List.Forall₂ (Alike Delivered.Twin) y.outcomes y'.outcomes

/-- No work that nobody has started is left. -/
def Harvest.Inert (y : Harvest) : Prop := ∀ r ∈ y.result :: y.outcomes, ∀ d, r = .ok d → d.Inert

theorem Harvest.Inert.eq_of_twin {y y' : Harvest} (hy : y.Inert) (h : y.Twin y') : y = y' := by
  obtain ⟨d, ds⟩ := y
  obtain ⟨d', ds'⟩ := y'
  have heq (r) (hr : r ∈ d :: ds) (r') (h : Alike Delivered.Twin r r') : r = r' :=
    h.eq_of_ok fun x hx x' hx' => (hy r hr x hx).eq_of_twin hx'
  have hd : d = d' := heq d List.mem_cons_self d' h.result
  have hds : ds = ds' := eq_of_forall₂ h.outcomes fun r hr => heq r (List.mem_cons_of_mem _ hr)
  rw [hd, hds]

theorem Shape.Holds.inert {s : Shape} {v : Value} (h : s.Holds v) : v.Inert := by
  induction s generalizing v with
  | void =>
    cases h
    exact .unit
  | headers =>
    obtain ⟨headers, rfl⟩ := h
    exact .headers headers
  | list s ih =>
    obtain ⟨items, rfl, hitems⟩ := h
    exact .list fun v hv => ih (hitems v hv)
  | response s ih =>
    obtain ⟨r, rfl, hbody⟩ := h
    exact .envelope fun v hv => ih (hbody v hv)
  | future | callback | single | stream => exact h.elim
  | _ =>
    obtain ⟨_, rfl⟩ := h
    exact .datum _

/-- What has the shape of a declared type holds no work that nobody has started. -/
theorem Sound.inert {excused : Error → Prop} {s : Shape} {r : Except Error Delivered}
    (h : Sound excused s r) {d : Delivered} (hd : r = .ok d) : d.Inert := by
  induction h generalizing d with
  | error => cases hd
  | value hv =>
    cases hd
    exact .value (Shape.Holds.inert hv)
  | future _ ih =>
    cases hd
    exact .future fun d hd => ih hd
  | callback =>
    cases hd
    exact .value .unit
  | single _ ih =>
    cases hd
    exact .single fun d hd => ih hd
  | stream hitems =>
    cases hd
    refine .stream fun d hd => ?_
    rcases hitems _ hd with ⟨e, he, -⟩ | ⟨v, hv, hholds⟩
    · cases he
    · cases hv
      exact .value (Shape.Holds.inert hholds)

/-- Work that makes the declared shape leaves no work unstarted in what is harvested. -/
theorem Harvest.inert_of_makes {σ : Premises} {t : Task} {w v : World}
    (ht : Makes σ [] true σ.declared t) (hw : Fits σ σ.declared.floor .empty none w)
    (hdepth : σ.declared.depth ≤ driveDepth) {before after : List World.Move} {fuel start : Nat}
    {y : Harvest} (h : t.session before after fuel start w = (.ok y, v)) : y.Inert := by
  unfold Work.session at h
  split at h
  · cases h
  · rename_i hrun
    obtain ⟨L, hmakes, hfits, hhand⟩ := inHand_of_run ht hw hrun before
    split at h
    · cases h
    · rename_i hdeliver
      obtain ⟨hsound, hlater⟩ := deliver_session_sound hdepth hmakes hfits hhand hdeliver
      split at h
      · cases h
      · rename_i hcalled
        obtain ⟨layers, -, houtcomes⟩ := hlater after fuel start _ _ hcalled
        cases h
        intro r hr d hd
        rcases List.mem_cons.mp hr with rfl | hr
        · exact hsound.inert hd
        · obtain ⟨i, hi, rfl⟩ := List.getElem_of_mem hr
          exact (houtcomes.get (houtcomes.length_eq ▸ hi) hi).inert hd

theorem Work.session_twin {t t' : Task} (h : Work.Twin t t') {w w' : World} (hw : w.Twin w')
    (before after : List World.Move) (fuel start : Nat) :
    DrivenTwin Harvest.Twin (t.session before after fuel start w)
      (t'.session before after fuel start w') := by
  obtain ⟨hend, hv⟩ := h.run hw
  unfold session
  generalize t.run w = x at hend hv
  generalize t'.run w' = x' at hend hv
  obtain ⟨o, v⟩ := x
  obtain ⟨o', v'⟩ := x'
  simp only at hend hv
  cases hend with
  | panic p => exact .panic p hv
  | result hr =>
    have hdelivered := deliver_twin hr (hv.moves before)
    simp only
    generalize deliver _ (v.moves before) = y at hdelivered
    generalize deliver _ (v'.moves before) = y' at hdelivered
    cases hdelivered with
    | panic p hu => exact .panic p hu
    | @ok _ _ u u' hd hu =>
      have hcalled := deliverOutcomes_twin fuel start (hu.moves after)
      simp only
      generalize deliverOutcomes fuel start (u.moves after) = z at hcalled
      generalize deliverOutcomes fuel start (u'.moves after) = z' at hcalled
      cases hcalled with
      | panic p hs => exact .panic p hs
      | ok hds hs => exact .ok ⟨hd, hds⟩ hs

/-- Nothing tells the works apart, in whatever session and world, but the credentials in what was
sent. -/
structure Unseen (t t' : Task) (before after : List World.Move) (fuel start : Nat) (w : World) :
    Prop where
  /-- Both end in one panic, or harvest twins. -/
  ends : DrivenTwin Harvest.Twin (t.session before after fuel start w)
    (t'.session before after fuel start w)
  /-- Where no work is left that nobody has started, they end in the same. -/
  same : (∀ y, (t.session before after fuel start w).1 = .ok y → y.Inert) →
    (t.session before after fuel start w).1 = (t'.session before after fuel start w).1
  trace : (t.session before after fuel start w).2.trace =
    (t'.session before after fuel start w).2.trace
  log : (t.session before after fuel start w).2.log = (t'.session before after fuel start w).2.log
  executions : (t.session before after fuel start w).2.executions =
    (t'.session before after fuel start w).2.executions
  sent : List.Forall₂ WireRequest.Twin (t.session before after fuel start w).2.sent
    (t'.session before after fuel start w).2.sent

/-- Twin works are not told apart where the other side does not look at credentials. -/
theorem Work.Twin.unseen {t t' : Task} (h : Work.Twin t t') (before after : List World.Move)
    (fuel start : Nat) {w : World} (hblind : Blind w.reply) :
    Unseen t t' before after fuel start w := by
  have hends := Work.session_twin h (.refl hblind) before after fuel start
  have hworld := hends.world
  refine ⟨hends, fun hinert => ?_, hworld.trace, hworld.log, hworld.executions, hworld.sent⟩
  generalize t.session before after fuel start w = x at hends hinert
  generalize t'.session before after fuel start w = x' at hends
  cases hends with
  | panic p _ => rfl
  | ok htwin _ => rw [(hinert _ rfl).eq_of_twin htwin]

/-! ## Invocations -/

/-- The methods are not told apart by what they report and come to. -/
structure Method.LookAlike (m m' : Method) : Prop where
  resolved : m.resolved = m'.resolved
  prepared : ∀ r, (m.prepare r).Twin (m'.prepare r)
  prepareEvents : ∀ r, m.prepareEvents r = m'.prepareEvents r
  invoke : ∀ r args before after fuel start w, Blind w.reply →
    Unseen (m.invoke r args) (m'.invoke r args) before after fuel start w
  invokeAs : ∀ r args kind before after fuel start w, Blind w.reply →
    Unseen (m.invokeAs r args kind) (m'.invokeAs r args kind) before after fuel start w

/-- The invokers are not told apart, whatever is declared. -/
structure Invoker.LookAlike (i i' : Invoker) : Prop where
  event : i.event = i'.event
  method : ∀ declared, Alike Method.LookAlike (i.method declared) (i'.method declared)
  invoke : ∀ r declared before after fuel start w, Blind w.reply →
    Unseen (i.invoke r declared) (i'.invoke r declared) before after fuel start w

namespace Method

theorem reportFailure_twin (r r' : Except Error Value) (hr : Alike Value.Twin r r') :
    Work.Twin (reportFailure r) (reportFailure r') := by
  cases hr with
  | error e => exact .refl _
  | ok hv => exact .done (.ok hv)

theorem holds_twin (kind : Kind) {v v' : Value} (h : v.Twin v') : kind.holds v = kind.holds v' := by
  cases h with
  | same v => rfl
  | _ => cases kind <;> rfl

theorem taking_twin (kind : Kind) (r r' : Except Error Value) (hr : Alike Value.Twin r r') :
    Work.Twin (taking kind r) (taking kind r') := by
  cases hr with
  | error e => exact .refl _
  | @ok v v' hv =>
    simp only [taking, Value.take, holds_twin kind hv]
    cases kind.holds v' with
    | true => exact .done (.ok hv)
    | false => exact .release hv (.refl _)

section
variable {resolved : Resolved Handler} {x : Exchange} {chain chain' : List Interceptor}
  (hchain : List.Forall₂ Interceptor.Disguised chain chain')
include hchain

theorem prepare_twin (r : Request) :
    (prepare ⟨resolved, chain, x⟩ r).Twin (prepare ⟨resolved, chain', x⟩ r) ∧
      prepareEvents ⟨resolved, chain, x⟩ r = prepareEvents ⟨resolved, chain', x⟩ r :=
  Interceptor.chain_twin hchain (.refl (r.withExpected resolved.callType))

theorem invoke_twin (hdiscreet : resolved.handler.Discreet) (r : Request) (args : Arguments) :
    Work.Twin (invoke ⟨resolved, chain, x⟩ r args) (invoke ⟨resolved, chain', x⟩ r args) := by
  obtain ⟨hprepared, hevents⟩ : (prepare ⟨resolved, chain, x⟩ r).Twin
      (prepare ⟨resolved, chain', x⟩ r) ∧
        prepareEvents ⟨resolved, chain, x⟩ r = prepareEvents ⟨resolved, chain', x⟩ r :=
    prepare_twin hchain r
  have hcall : Launch.Twin (call ⟨resolved, chain, x⟩ r) (call ⟨resolved, chain', x⟩ r) :=
    .ready (x.work_twin hprepared resolved.callType)
  have hhandled := (hdiscreet _ _ args hcall).andThen reportFailure_twin
  unfold invoke
  rw [hevents]
  exact .report _ (Work.Twin.reportAll (.report _ hhandled) _)

theorem lookAlike (hdiscreet : resolved.handler.Discreet) :
    LookAlike ⟨resolved, chain, x⟩ ⟨resolved, chain', x⟩ where
  resolved := rfl
  prepared r := (prepare_twin hchain r).1
  prepareEvents r := (prepare_twin hchain r).2
  invoke r args before after fuel start _ hblind :=
    (invoke_twin hchain hdiscreet r args).unseen before after fuel start hblind
  invokeAs r args kind before after fuel start _ hblind :=
    ((invoke_twin hchain hdiscreet r args).andThen (taking_twin kind)).unseen before after fuel
      start hblind

end
end Method

namespace Invoker
variable {config : Config} {x : Exchange} {adapters : List (Adapter Handler)}
  {chain chain' : List Interceptor}

theorem lookAlike (hchain : List.Forall₂ Interceptor.Disguised chain chain')
    (hadapters : ∀ a ∈ adapters, a.Discreet) :
    LookAlike ⟨config, chain, adapters, x⟩ ⟨config, chain', adapters, x⟩ := by
  have hdiscreet (declared : TypeExpr) (m : Resolved Handler)
      (hm : Handler.resolve adapters declared = .ok m) : m.handler.Discreet :=
    Adapter.discreet_of_resolved hadapters Handler.discreet_terminal hm
  refine ⟨?_, fun declared => ?_, fun r declared before after fuel start _ hblind => ?_⟩
  · rw [event, event, hchain.length_eq]
  · show Alike Method.LookAlike (method _ declared) (method _ declared)
    unfold method
    cases hm : Handler.resolve adapters declared with
    | error e => exact .error e
    | ok m => exact .ok (Method.lookAlike hchain (hdiscreet declared m hm))
  · refine Work.Twin.unseen ?_ before after fuel start hblind
    unfold Invoker.invoke method
    cases hm : Handler.resolve adapters declared with
    | error e => exact .refl _
    | ok m => exact .report _ (Method.invoke_twin hchain (hdiscreet declared m hm) r .empty)

theorem fillers_disguised (defaults : Headers) :
    List.Forall₂ Interceptor.Disguised (fillers defaults) (fillers defaults) := by
  unfold fillers
  split
  · exact .nil
  · exact .cons (.defaults defaults) .nil

theorem negotiators_disguised (config : Config) (registry : Registry) :
    List.Forall₂ Interceptor.Disguised (negotiators config registry)
      (negotiators config registry) := by
  unfold negotiators
  split
  · exact .cons (.accept registry) .nil
  · exact .nil

end Invoker

/-- Invocations of the methods come to the same, with callback outcomes, on a pool on which there is
nothing yet. -/
def Method.SameEnds (m m' : Method) : Prop :=
  ∀ r args before after fuel start w, Blind w.reply → w.entries = [] → w.delivered = [] →
    ((m.invoke r args).session before after fuel start w).1 =
      ((m'.invoke r args).session before after fuel start w).1

theorem Method.LookAlike.sameEnds {m m' : Method} (h : m.LookAlike m') (hx : m.exchange.BuiltIn)
    {s : Shape} (hresolve : Handler.resolve Adapter.standard s.expr = .ok m.resolved) :
    m.SameEnds m' := by
  intro r args before after fuel start w hblind hentries hdelivered
  obtain ⟨hdepth, hmakes⟩ := makes_invoke hx hresolve r args w.reply
  have hfits : Fits (m.premises r w.reply s) s.floor .empty none w :=
    .empty rfl hentries hdelivered
  refine (h.invoke r args before after fuel start w hblind).same fun y hy => ?_
  have hsession : (m.invoke r args).session before after fuel start w =
      (.ok y, ((m.invoke r args).session before after fuel start w).2) := by
    rw [← hy]
  exact Harvest.inert_of_makes hmakes hfits hdepth hsession

theorem Invoker.lookAlike_of_build {p : Invoker.Parts} {others : List Interceptor}
    (hothers : List.Forall₂ Interceptor.Disguised p.interceptors others)
    (hadapters : ∀ a ∈ p.adapters, a.Discreet) :
    Alike LookAlike (build p) (build { p with interceptors := others }) := by
  have hall : ∀ a ∈ p.adapters ++ Adapter.standard, a.Discreet := by
    intro a ha
    rcases List.mem_append.mp ha with ha | ha
    · exact hadapters a ha
    · exact Adapter.discreet_of_standard ha
  have hbuilt (x : Exchange) (defaults : Headers) : LookAlike
      ⟨p.config, fillers defaults ++ p.interceptors ++ negotiators p.config p.registry,
        p.adapters ++ Adapter.standard, x⟩
      ⟨p.config, fillers defaults ++ others ++ negotiators p.config p.registry,
        p.adapters ++ Adapter.standard, x⟩ := by
    refine lookAlike (List.rel_append (List.rel_append ?_ hothers) ?_) hall
    · exact fillers_disguised defaults
    · exact negotiators_disguised p.config p.registry
  simp only [build, bind, Except.bind, pure, Except.pure]
  cases p.config.contentType with
  | error e => exact .error e
  | ok defaultType =>
    cases p.transport.isNetwork with
    | false =>
      cases p.config.defaultHeaders with
      | error e => exact .error e
      | ok defaults => exact .ok (hbuilt _ defaults)
    | true =>
      cases p.config.checkClient with
      | error e => exact .error e
      | ok _ =>
        cases p.config.defaultHeaders with
        | error e => exact .error e
        | ok defaults => exact .ok (hbuilt _ defaults)

/-- **Credentials stay out of sight.** Two invokers are built from the same parts. Their
interceptors are those that come with the program, in any order and number, but some credentials of
the one are others in the other: none of them blank, and each a legal value where its counterpart is
one. Both are built or fail with one error, every type is declared to both or fails with one error,
and whatever is invoked in whatever world whose other side does not look at credentials, for all
requests, arguments and orders of steps: all reports are the same, and so is what comes out, the
outcomes of callbacks included. What the program's own adapters and converters deliver holds no work
that nobody has started, so there it is equal outright. -/
theorem credentials_unseen {p : Invoker.Parts} {others : List Interceptor}
    (hothers : List.Forall₂ Interceptor.Disguised p.interceptors others)
    (hadapters : ∀ a ∈ p.adapters, a.Discreet) :
    Alike Invoker.LookAlike (Invoker.build p) (Invoker.build { p with interceptors := others }) ∧
      (p.adapters = [] → (∀ c ∈ p.registry.converters, c.BuiltIn) → ∀ (s : Shape) i i' m m',
        Invoker.build p = .ok i → Invoker.build { p with interceptors := others } = .ok i' →
        i.method s.expr = .ok m → i'.method s.expr = .ok m' → m.SameEnds m') := by
  have hlook := Invoker.lookAlike_of_build hothers hadapters
  refine ⟨hlook, fun hstandard hbuiltin s i i' m m' hbuild hbuild' hmethod hmethod' => ?_⟩
  rw [hbuild, hbuild'] at hlook
  cases hlook with
  | ok hinvokers =>
    have hmethods := hinvokers.method s.expr
    rw [hmethod, hmethod'] at hmethods
    obtain ⟨hx, hresolve⟩ := Invoker.resolved_of_method hbuild hstandard hbuiltin hmethod
    cases hmethods with
    | ok hmethods => exact hmethods.sameEnds hx hresolve

/-- Two tokens under an adapter that writes to the log, over the network: both are sent, and nothing
else differs. -/
theorem credentials_unseen_of_tokens :
    let audited := Adapter.named "Audited" Adapter.requiredArg (Handler.logged "asked")
    let p : Invoker.Parts :=
      ⟨⟨none, none, [], none, none, "application/json", false⟩, .network fun _ => false,
        ⟨[.octets]⟩, [.credentials (.bearer "one")], [audited]⟩
    let others : List Interceptor := [.credentials (.bearer "two")]
    let declared := TypeExpr.generic "Audited" [.bytes]
    let x : Exchange := ⟨p.transport, p.registry, .json⟩
    let m : Method := ⟨⟨Handler.logged "asked" Handler.terminal, declared, .bytes⟩,
      p.interceptors, x⟩
    let m' : Method := ⟨⟨Handler.logged "asked" Handler.terminal, declared, .bytes⟩, others, x⟩
    let r := Request.plain ⟨"http", some ⟨"", none, .name "api.example", none⟩, "/greeting", none,
      none⟩ "GET" .any
    let w := World.initial (Reply.inOrder [fun _ => .answer ⟨200, .empty, utf8 "hi"⟩])
    List.Forall₂ Interceptor.Disguised p.interceptors others ∧ (∀ a ∈ p.adapters, a.Discreet) ∧
      Blind w.reply ∧ Unseen (m.invoke r .empty) (m'.invoke r .empty) [] [] 1 0 w ∧
      ((m.invoke r .empty).run w).2.sent ≠ ((m'.invoke r .empty).run w).2.sent := by
  intro audited p others declared x m m' r w
  have hothers : List.Forall₂ Interceptor.Disguised p.interceptors others :=
    .cons (.credentials ⟨"Bearer one", "Bearer two", by decide, by decide, by decide⟩) .nil
  have hadapters : ∀ a ∈ p.adapters, a.Discreet := by
    intro a ha
    rw [List.mem_singleton.mp ha]
    exact fun _ _ hh => hh.logged "asked"
  have hblind : Blind w.reply := by
    intro n q q' _
    show Reply.inOrder _ n q = Reply.inOrder _ n q'
    simp [Reply.inOrder]
  have hbuild : Invoker.build p =
      .ok ⟨p.config, p.interceptors, audited :: Adapter.standard, x⟩ := by
    rw [Invoker.build, Config.contentType, MediaType.ofText_json]
    rfl
  have hbuild' : Invoker.build { p with interceptors := others } =
      .ok ⟨p.config, others, audited :: Adapter.standard, x⟩ := by
    rw [Invoker.build, Config.contentType, MediaType.ofText_json]
    rfl
  obtain ⟨hlook, -⟩ := credentials_unseen hothers hadapters
  rw [hbuild, hbuild'] at hlook
  cases hlook with
  | ok hinvokers =>
    have hmethods : Alike Method.LookAlike (.ok m) (.ok m') := hinvokers.method declared
    cases hmethods with
    | ok hmethods =>
      exact ⟨hothers, hadapters, hblind, hmethods.invoke r .empty [] [] 1 0 w hblind, by decide⟩

end Endpoint
