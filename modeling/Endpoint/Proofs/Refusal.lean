import Endpoint.Invoker
import Endpoint.Proofs.Envelope
import Endpoint.Proofs.Stack

/-!
What an invocation delivers when the other side refuses it, that is, answers with a status which is
no success. A declared type has layers, which are the names `Future`, `Callback` and `Single` that
it is wrapped in, and a core below them. Whatever the layers are, the core decides: the refusal is
an error that carries the status, the headers and the text of the body, unless the core is a
response or the headers of one.

What is proved:
  1. `resolveFrom_strip`: resolving a declared type is resolving its core, with a handler for every
     layer around it;
  2. `coreHandler_of_resolveFrom` and `refusedCall_core`: which handler a core has, and what that
     makes of a call which is refused;
  3. `reach_invoke`: an invocation hands on through its layers what the work at the bottom ends in;
  4. `refusal_is_delivered`: so the refusal is delivered as an error. `Headers` is the exception,
     because its call is made for a response (`headers_recover_refusal`).
-/
namespace Endpoint
open Text

/-- The layer that a name stands for. -/
def Layer.ofName? (name : String) : Option Layer :=
  if name = TypeExpr.futureName then some .future
  else if name = TypeExpr.callbackName then some .callback
  else if name = TypeExpr.singleName then some .single
  else none

namespace TypeExpr

mutual
/-- The layers of a declared type, the outermost first, and its core. A type that is named for a
layer is this layer around its first argument. -/
def strip : TypeExpr → List Layer × TypeExpr
  | ⟨name, args, binding⟩ =>
    match Layer.ofName? name, stripFirst args with
    | some l, some (ls, t) => (l :: ls, t)
    | _, _ => ([], ⟨name, args, binding⟩)

@[inherit_doc strip]
def stripFirst : List TypeExpr → Option (List Layer × TypeExpr)
  | [] => none
  | t :: _ => some (strip t)
end

/-- The layers of a declared type, the outermost first. -/
def layers (t : TypeExpr) : List Layer := t.strip.1

/-- What is left of a declared type below its layers. -/
def core (t : TypeExpr) : TypeExpr := t.strip.2

theorem strip_of_not_layer {t : TypeExpr} (h : Layer.ofName? t.name = none) :
    t.strip = ([], t) := by
  cases t
  simp only at h
  simp only [strip, h]

theorem strip_of_layer {t u : TypeExpr} {rest : List TypeExpr} {l : Layer}
    (h : Layer.ofName? t.name = some l) (hargs : t.args = u :: rest) :
    t.strip = (l :: u.layers, u.core) := by
  cases t
  simp only at h hargs
  subst hargs
  simp only [strip, stripFirst, h]
  rfl

end TypeExpr

/-! ## Resolving layers -/

/-- A name of a layer is recognised by the adapter of the layer, which names the first argument. -/
theorem Layer.adapter_of_ofName? {t : TypeExpr} {l : Layer} (h : ofName? t.name = some l) :
    Adapter.standard.find? (·.supports t) = some l.adapter ∧
      l.adapter.innerType t = Adapter.requiredArg t := by
  obtain ⟨name, args, binding⟩ := t
  unfold ofName? at h
  simp only at h
  split at h
  · rename_i hname
    cases h
    subst hname
    exact ⟨rfl, rfl⟩
  · split at h
    · rename_i hname
      cases h
      subst hname
      exact ⟨rfl, rfl⟩
    · split at h
      · rename_i hname
        cases h
        subst hname
        exact ⟨rfl, rfl⟩
      · cases h

/-- A declared type that resolves is its core, resolved with as many steps less as it has layers,
and the handlers of these around it. -/
theorem resolveFrom_strip {declared t : TypeExpr} {left : Nat} {m : Resolved Handler}
    (h : Adapter.resolveFrom Adapter.standard Handler.terminal declared left t = .ok m) :
    ∃ left' m',
      Adapter.resolveFrom Adapter.standard Handler.terminal declared left' t.core = .ok m' ∧
      left = left' + t.layers.length ∧ m.handler = Layer.wrap t.layers m'.handler ∧
      m.callType = m'.callType ∧ Layer.ofName? t.core.name = none := by
  -- each layer takes one of the steps that are left
  induction left generalizing t m with
  | zero => cases h
  | succ left ih =>
    cases hname : Layer.ofName? t.name with
    | none =>
      have hstrip := TypeExpr.strip_of_not_layer hname
      rw [TypeExpr.layers, TypeExpr.core, hstrip]
      exact ⟨left + 1, m, h, rfl, rfl, rfl, hname⟩
    | some l =>
      obtain ⟨hfind, hinner⟩ := Layer.adapter_of_ofName? hname
      cases hargs : t.args with
      | nil =>
        have hmissing : l.adapter.innerType t =
            .error (.unresolved t.display .missingArgument) := by
          rw [hinner, Adapter.requiredArg, hargs]
        simp only [Adapter.resolveFrom, hfind, hmissing] at h
        cases h
      | cons u rest =>
        have hfirst : l.adapter.innerType t = .ok u := by
          rw [hinner, Adapter.requiredArg, hargs]
        obtain ⟨left₁, m₁, hleft, h₁, hm⟩ := Adapter.resolveFrom_of_find? hfind hfirst h
        obtain rfl : left = left₁ := Nat.succ.inj hleft
        obtain ⟨left', m', h', hlen, hhandler, htype, hcore⟩ := ih h₁
        have hstrip := TypeExpr.strip_of_layer hname hargs
        rw [TypeExpr.layers, TypeExpr.core, hstrip]
        refine ⟨left', m', h', ?_, ?_, ?_, hcore⟩
        · rw [List.length_cons, hlen, Nat.add_assoc]
        · rw [hm, Layer.adapt_adapter, hhandler]
          rfl
        · rw [hm, htype]

/-! ## The core -/

/-- What is made of the result of a call ends as it does where the call ends in that result. -/
theorem Work.EndsIn.andThen {c : Task} {f : Except Error Value → Task} {w : World}
    {r b : Except Error Value} (hc : c.EndsIn w r) (hf : ∀ v : World, ((f r).run v).1 = .result b) :
    (c.andThen f).EndsIn w b := by
  intro v hsent hreply
  have hend := hc v hsent hreply
  rw [Work.run_andThen, ← Prod.eta (c.run v), hend]
  exact hf _

namespace Exchange
variable {x : Exchange} {r : Request} {t : TypeExpr} {w : World} {wire : WireRequest}
  {a : WireResponse}

theorem endsIn_refusal (ht : t.isNamed TypeExpr.responseName = false)
    (henc : x.encode r = .ok wire) (ha : w.reply w.sent.length wire = .answer a)
    (hstatus : isSuccess a.status = false) :
    (x.call r t).perform.EndsIn w (.error (refusal a)) := by
  intro v hsent hreply
  have hrun := run_value (x := x) (r := r) (w := v) ht
  simp only [henc, hreply, hsent, ha, hstatus, Bool.false_eq_true, if_false] at hrun
  exact congrArg Prod.fst hrun

theorem endsIn_recovered (ht : t.isNamed TypeExpr.responseName = true)
    (henc : x.encode r = .ok wire) (ha : w.reply w.sent.length wire = .answer a)
    (hstatus : isSuccess a.status = false) :
    (x.call r t).perform.EndsIn w
      (.ok (.envelope (recovered t.firstArgOrAny a.status a.headers (lossy a.body)))) := by
  intro v hsent hreply
  have hrun := run_envelope (x := x) (r := r) (w := v) ht rfl
  simp only [henc, hreply, hsent, ha, hstatus, Bool.false_eq_true, if_false] at hrun
  exact congrArg Prod.fst hrun

end Exchange

/-- What stands below the layers when the other side has refused: the error of the refusal, a stream
that yields nothing but this error when it is asked for all it has, or the headers of the answer
where the headers of a response are declared. -/
structure Refused (core : TypeExpr) (a : WireResponse) (b : Except Error Value) (u : World) :
    Prop where
  plain : core.isNamed TypeExpr.streamName = false → core.isNamed TypeExpr.headersName = false →
    b = .error (.response a.status a.headers (lossy a.body))
  stream : core.isNamed TypeExpr.streamName = true → ∃ below, b = .ok (.stream below) ∧
    (Layer.asked below u).1 = some [.error (.response a.status a.headers (lossy a.body))]
  headers : core.isNamed TypeExpr.headersName = true → b = .ok (.headers a.headers)

/-- What a call comes to that ends in a result, puts nothing on the pool, and is refused. -/
structure RefusedCall (core : TypeExpr) (a : WireResponse) (c : Task) (w : World) : Prop where
  direct : c.Direct
  ends : ∃ b, c.EndsIn w b ∧ ∀ u : World, u.Idle → (c.run w).2.SameBooks u → Refused core a b u

/-- A name that is no layer and no stream makes a core of the type. -/
theorem Layer.isCore_of_ofName? {t : TypeExpr} (ht : ofName? t.name = none)
    (hstream : t.isNamed TypeExpr.streamName = false) : IsCore t := by
  unfold ofName? at ht
  intro name hname
  simp only [List.mem_cons, List.not_mem_nil, or_false] at hname
  obtain rfl | rfl | rfl | rfl := hname
  · refine beq_false_of_ne fun h => ?_
    rw [if_pos h] at ht
    cases ht
  · refine beq_false_of_ne fun h => ?_
    rw [h] at ht
    cases ht
  · refine beq_false_of_ne fun h => ?_
    rw [h] at ht
    cases ht
  · exact hstream

/-- The handler of a resolved core, and the type that its call is made for. -/
inductive CoreHandler (t : TypeExpr) : Handler → TypeExpr → Prop where
  | stream (u : TypeExpr) : t.isNamed TypeExpr.streamName = true →
    CoreHandler t (Handler.stream Handler.terminal) (.list u)
  | headers : t.isNamed TypeExpr.streamName = false → t.isNamed TypeExpr.headersName = true →
    CoreHandler t (Handler.headers Handler.terminal) (.response .void)
  | document : t.isNamed TypeExpr.streamName = false → t.isNamed TypeExpr.headersName = false →
    CoreHandler t (Handler.document Handler.terminal) .any
  | terminal : t.isNamed TypeExpr.streamName = false → t.isNamed TypeExpr.headersName = false →
    CoreHandler t Handler.terminal t

/-- A core has its handler from the one adapter that recognises it, if there is one; what this
adapter asks for is recognised by none. -/
theorem coreHandler_of_resolveFrom {declared t : TypeExpr} {left : Nat} {m : Resolved Handler}
    (h : Adapter.resolveFrom Adapter.standard Handler.terminal declared left t = .ok m)
    (ht : Layer.ofName? t.name = none) : CoreHandler t m.handler m.callType := by
  have hown {u : TypeExpr} {a : Adapter Handler}
      (hfind : Adapter.standard.find? (·.supports t) = some a) (hinner : a.innerType t = .ok u)
      (hu : Adapter.standard.find? (·.supports u) = none) :
      m.handler = a.adapt t Handler.terminal ∧ m.callType = u := by
    obtain ⟨left', m', -, hm', rfl⟩ := Adapter.resolveFrom_of_find? hfind hinner h
    obtain ⟨-, rfl⟩ := Adapter.resolveFrom_of_unsupported hu hm'
    exact ⟨rfl, rfl⟩
  cases hstream : t.isNamed TypeExpr.streamName with
  | true =>
    obtain ⟨name, args, binding⟩ := t
    obtain rfl : name = TypeExpr.streamName := eq_of_beq hstream
    cases args with
    | nil =>
      -- a stream must say what it is a stream of
      cases left <;> cases h
    | cons u rest =>
      obtain ⟨hhandler, htype⟩ := hown (u := .list u) (a := .stream) rfl rfl rfl
      rw [hhandler, htype]
      exact .stream u hstream
  | false =>
    have hfind := Layer.find?_standard t (Layer.isCore_of_ofName? ht hstream)
    cases hheaders : t.isNamed TypeExpr.headersName with
    | true =>
      rw [hheaders, if_pos rfl] at hfind
      obtain ⟨hhandler, htype⟩ := hown hfind rfl rfl
      rw [hhandler, htype]
      exact .headers hstream hheaders
    | false =>
      rw [hheaders, if_neg Bool.false_ne_true] at hfind
      split at hfind
      · obtain ⟨hhandler, htype⟩ := hown hfind rfl rfl
        rw [hhandler, htype]
        exact .document hstream hheaders
      · obtain ⟨-, rfl⟩ := Adapter.resolveFrom_of_unsupported hfind h
        exact .terminal hstream hheaders

/-- The handler of a core makes of a refused call what the core says. -/
theorem refusedCall_core {x : Exchange} {r : Request} {w : World} {wire : WireRequest}
    {a : WireResponse} (henc : x.encode r = .ok wire)
    (ha : w.reply w.sent.length wire = .answer a) (hstatus : isSuccess a.status = false)
    {t callType : TypeExpr} {handler : Handler} (h : CoreHandler t handler callType)
    (hresponse : t.isNamed TypeExpr.responseName = false) (args : Arguments) :
    RefusedCall t a (handler (x.call r callType) args) w := by
  have hdirect (u : TypeExpr) : (x.call r u).perform.Direct := x.call_direct r u
  -- unless a stream or headers are declared, the error is all there is to show
  have hplain {b : Except Error Value} {u : World}
      (hstream : t.isNamed TypeExpr.streamName = false)
      (hheaders : t.isNamed TypeExpr.headersName = false)
      (hb : b = .error (Exchange.refusal a)) : Refused t a b u := by
    refine ⟨fun _ _ => hb, fun h => ?_, fun h => ?_⟩
    · rw [hstream] at h
      cases h
    · rw [hheaders] at h
      cases h
  cases h with
  | stream u hstream =>
    have hcall : (x.call r (.list u)).perform.EndsIn w (.error (Exchange.refusal a)) :=
      Exchange.endsIn_refusal rfl henc ha hstatus
    refine ⟨trivial, .ok (.stream (x.call r (.list u)).perform), fun _ _ _ => rfl,
      fun v hidle hbooks => ⟨fun h => ?_, fun _ => ⟨_, rfl, ?_⟩, fun h => ?_⟩⟩
    · rw [hstream] at h
      cases h
    · -- asking does the call, which is refused as nothing has been sent since
      have hend := hcall v hbooks.sent hbooks.reply
      rw [Layer.asked, World.settle_of_idle hidle, ← Prod.eta ((x.call r (.list u)).perform.run v),
        hend]
      rfl
    · have hnames : TypeExpr.streamName = TypeExpr.headersName :=
        (eq_of_beq hstream).symm.trans (eq_of_beq h)
      exact absurd hnames (by decide)
  | headers hstream hheaders =>
    have hcall : (x.call r (.response .void)).perform.EndsIn w (.ok (.envelope
        (Exchange.recovered .void a.status a.headers (lossy a.body)))) :=
      Exchange.endsIn_recovered rfl henc ha hstatus
    refine ⟨(hdirect _).andThen fun r => (Layer.atOnce_headersOf r).direct,
      .ok (.headers a.headers), hcall.andThen fun _ => rfl,
      fun v _ _ => ⟨fun _ h => ?_, fun h => ?_, fun _ => rfl⟩⟩
    · rw [hheaders] at h
      cases h
    · rw [hstream] at h
      cases h
  | document hstream hheaders =>
    have hcall : (x.call r .any).perform.EndsIn w (.error (Exchange.refusal a)) :=
      Exchange.endsIn_refusal rfl henc ha hstatus
    exact ⟨(hdirect _).andThen fun r => (Layer.atOnce_documentOf r).direct, _,
      hcall.andThen fun _ => rfl, fun _ _ _ => hplain hstream hheaders rfl⟩
  | terminal hstream hheaders =>
    have hcall : (x.call r t).perform.EndsIn w (.error (Exchange.refusal a)) :=
      Exchange.endsIn_refusal hresponse henc ha hstatus
    exact ⟨hdirect t, _, hcall, fun _ _ _ => hplain hstream hheaders rfl⟩

/-! ## The invocation -/

namespace Method
variable {m : Method} {id : Nat} {ls : List Layer} {c : Task} {b : Except Error Value} {w : World}
  {r : Request} {args : Arguments}

/-- The world in which the handler of an invocation runs: what comes before it is reported. -/
def begun (m : Method) (r : Request) (w : World) : World :=
  ((w.report (m.span r)).reportAll (m.prepareEvents r)).report (Exchange.event m.callType)

theorem run_invoke (m : Method) (r : Request) (args : Arguments) (w : World) :
    (m.invoke r args).run w =
      ((m.resolved.handler (m.call r) args).andThen reportFailure).run (m.begun r w) := by
  rw [invoke, Work.run, Work.run_reportAll, Work.run]
  rfl

theorem run_reportFailure (v : World) (b : Except Error Value) :
    ((reportFailure b).run v).1 = .result b ∧ v.SameBooks ((reportFailure b).run v).2 := by
  cases b <;> exact ⟨rfl, rfl, rfl, rfl, rfl⟩

theorem direct_reportFailure (b : Except Error Value) : (reportFailure b).Direct := by
  cases b <;> trivial

/-- A layer always hands out a value, so that there is no failure to report. -/
theorem reportFailure_stack (l : Layer) (v : World) :
    ((Layer.stack id (l :: ls) c).andThen reportFailure).run v =
      (Layer.stack id (l :: ls) c).run v := by
  cases l <;> rfl

/-- An invocation hands on through its layers what the work at the bottom ends in. If that puts
nothing on the pool, nothing is left to do then, and the books are those of doing it. -/
theorem reach_invoke (hwork : m.resolved.handler (m.call r) args = Layer.stack id ls c)
    (hlen : ls.length ≤ Adapter.maxNesting) (hc : c.EndsIn w b) (hdirect : c.Direct)
    (hidle : w.Idle) (hopen : w.shut = false) :
    ∃ u, Layer.reach id ls w.delivered.length ((m.invoke r args).run w).1
        ((m.invoke r args).run w).2 = some (.result b, u) ∧
      u.Idle ∧ (c.run w).2.SameBooks u := by
  have hbegun : w.SameBooks (m.begun r w) := ⟨rfl, rfl, rfl, rfl⟩
  have hready : w.Ready (m.begun r w) := ⟨hidle, hopen, hbegun⟩
  rw [run_invoke, hwork]
  cases ls with
  | nil =>
    -- the work at the bottom is all there is, and its error is reported
    have hdirect' : (c.andThen reportFailure).Direct := hdirect.andThen direct_reportFailure
    have hc' : (c.andThen reportFailure).EndsIn w b := hc.andThen fun v => (run_reportFailure v b).1
    have hruns : Layer.Runs id (c.andThen reportFailure) b w [] := Layer.runs_of_endsIn hc' hlen
    obtain ⟨⟨u, hreach, hspent⟩, -⟩ := hruns _ hready
    obtain ⟨hidle', hbooks⟩ := hspent.direct hdirect'
    have hsame : (c.run w).2.SameBooks ((c.andThen reportFailure).run w).2 := by
      rw [Work.run_andThen, ← Prod.eta (c.run w), hc w rfl rfl]
      exact (run_reportFailure _ b).2
    exact ⟨u, hreach, hidle', hsame.trans hbooks⟩
  | cons l ls =>
    rw [reportFailure_stack]
    have hruns : Layer.Runs id c b w (l :: ls) := Layer.runs_of_endsIn hc hlen
    obtain ⟨⟨u, hreach, hspent⟩, -⟩ := hruns _ hready
    obtain ⟨hidle', hbooks⟩ := hspent.direct hdirect
    exact ⟨u, hreach, hidle', hbooks⟩

end Method

/-- **Only what holds a whole response recovers a refusal.** Take a method of the standard adapters
whose declared type has a core that is no `Response`, a request that it can encode, and an answer
whose status is no success. In a world with nothing left to do and an open pool, and with a callback
among the arguments if one of the layers is a `Callback`, what the invocation delivers below its
layers is the error with the status, the headers and the text of the body; below them a `Stream`
yields just this error, and `Headers` are those of the answer. -/
theorem refusal_is_delivered {m : Method} {declared : TypeExpr} {id : Nat} {wire : WireRequest}
    {a : WireResponse} (r : Request) (args : Arguments) (w : World)
    (hresolve : Handler.resolve Adapter.standard declared = .ok m.resolved)
    (hresponse : declared.core.isNamed TypeExpr.responseName = false)
    (hargs : .callback ∈ declared.layers → args.callback? = some id)
    (hidle : w.Idle) (hopen : w.shut = false)
    (henc : m.exchange.encode (m.prepare r) = .ok wire)
    (ha : w.reply w.sent.length wire = .answer a) (hstatus : isSuccess a.status = false) :
    ∃ b u, Layer.reach id declared.layers w.delivered.length ((m.invoke r args).run w).1
        ((m.invoke r args).run w).2 = some (.result b, u) ∧ Refused declared.core a b u := by
  obtain ⟨left, core, hcore, hlen, hhandler, htype, hname⟩ := resolveFrom_strip hresolve
  have hkind : CoreHandler declared.core core.handler core.callType :=
    coreHandler_of_resolveFrom hcore hname
  have hpos : 0 < left := by
    rcases Nat.eq_zero_or_pos left with rfl | hpos
    · cases hcore
    · exact hpos
  have hcall : m.call r = m.exchange.call (m.prepare r) core.callType :=
    congrArg (m.exchange.call (m.prepare r)) htype
  obtain ⟨hdirect, b, hends, hrefused⟩ :=
    refusedCall_core henc ha hstatus hkind hresponse args
  rw [← hcall] at hdirect hends hrefused
  have hwork : m.resolved.handler (m.call r) args =
      Layer.stack id declared.layers (core.handler (m.call r) args) := by
    rw [hhandler]
    exact Layer.wrap_apply hargs core.handler (m.call r)
  obtain ⟨u, hreach, hidle', hbooks⟩ :=
    Method.reach_invoke hwork (by omega) hends hdirect hidle hopen
  exact ⟨b, u, hreach, hrefused u hidle' hbooks⟩

/-- A stream under a future, a single and a callback: a page that is gone is the one error it
yields. -/
theorem refusal_is_delivered_to_stream :
    let declared := Layer.around [.future, .single, .callback] (.stream .bytes)
    let handler := Layer.wrap [.future, .single, .callback] (Handler.stream Handler.terminal)
    let m : Method := ⟨⟨handler, declared, .list .bytes⟩, [], ⟨.own, ⟨[.octets]⟩, .json⟩⟩
    let r := Request.plain ⟨"http", some ⟨"", none, .name "api.example", none⟩, "/users/1", none,
      none⟩ "GET" .any
    let args : Arguments := ⟨[.callback 7]⟩
    let a : WireResponse := ⟨404, .empty, utf8 "gone"⟩
    let w := World.initial (Reply.inOrder [fun _ => .answer a])
    let wire : WireRequest := ⟨"GET", r.endpoint, .empty, none⟩
    Handler.resolve Adapter.standard declared = .ok m.resolved ∧
      declared.core.isNamed TypeExpr.responseName = false ∧
      declared.layers = [.future, .single, .callback] ∧ args.callback? = some 7 ∧
      w.Idle ∧ w.shut = false ∧ m.exchange.encode (m.prepare r) = .ok wire ∧
      w.reply w.sent.length wire = .answer a ∧ isSuccess a.status = false ∧
      ∃ below u, Layer.reach 7 declared.layers 0 ((m.invoke r args).run w).1
          ((m.invoke r args).run w).2 = some (.result (.ok (.stream below)), u) ∧
        (Layer.asked below u).1 = some [.error (.response 404 .empty (lossy (utf8 "gone")))] := by
  intro declared handler m r args a w wire
  have hresolve : Handler.resolve Adapter.standard declared = .ok m.resolved := rfl
  have hresponse : declared.core.isNamed TypeExpr.responseName = false := rfl
  have hidle : w.Idle := fun e he => by cases he
  have hargs : .callback ∈ declared.layers → args.callback? = some 7 := fun _ => rfl
  have henc : m.exchange.encode (m.prepare r) = .ok wire := rfl
  have ha : w.reply w.sent.length wire = .answer a := rfl
  obtain ⟨b, u, hreach, hrefused⟩ :=
    refusal_is_delivered r args w hresolve hresponse hargs hidle rfl henc ha rfl
  obtain ⟨below, rfl, hasked⟩ := hrefused.stream rfl
  exact ⟨hresolve, hresponse, rfl, rfl, hidle, rfl, rfl, rfl, rfl, below, u, hreach, hasked⟩

/-- The headers of an answer are delivered whatever its status is: the page is gone, and the
invocation succeeds. -/
theorem headers_recover_refusal :
    let m : Method := ⟨⟨Handler.headers Handler.terminal, .headers, .response .void⟩, [],
      ⟨.own, .standard, .json⟩⟩
    let r := Request.plain ⟨"http", some ⟨"", none, .name "api.example", none⟩, "/users/1", none,
      none⟩ "GET" .any
    let a : WireResponse := ⟨404, ⟨[⟨"x-request-id", utf8 "r-1"⟩]⟩, utf8 "gone"⟩
    let w := World.initial (Reply.inOrder [fun _ => .answer a])
    let wire : WireRequest := ⟨"GET", r.endpoint, .empty, none⟩
    Handler.resolve Adapter.standard .headers = .ok m.resolved ∧
      TypeExpr.headers.layers = [] ∧ TypeExpr.headers.core = .headers ∧
      TypeExpr.headers.isNamed TypeExpr.responseName = false ∧
      m.exchange.encode (m.prepare r) = .ok wire ∧ w.reply w.sent.length wire = .answer a ∧
      isSuccess a.status = false ∧
      ((m.invoke r .empty).run w).1 = .result (.ok (.headers a.headers)) := by
  intro m r a w wire
  exact ⟨rfl, rfl, rfl, rfl, rfl, rfl, rfl, rfl⟩

end Endpoint
