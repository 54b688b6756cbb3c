import Endpoint.Converter.Standard
import Endpoint.Exchange
import Endpoint.World

/-!
The two calls that a request can stand for: one that ends in the body of the answer, and one that
ends in the whole response around it. They run on different paths after the answer is there, and
this module says where they agree.

What is proved:
  1. `run_perform`: what sending comes to, for every way in which encoding and the other side can
     go; the rest of a call hangs on this one equation;
  2. `run_value` and `run_envelope`: how either call ends, from there;
  3. `value_agrees_envelope`: both send the same request once, or none; the whole response holds the
     value of the plain call exactly when there is one and fails as it fails; a body that is empty
     or not wanted is never read; and a status that is no success is the plain call's error and part
     of the whole response.

The registry is arbitrary, so its converters may give any value and any error. In one corner the two
calls come apart (`envelope_takes_in_made_up_error`): the whole response takes in every response
error that comes before the answer is read, also one that a writer or the other side made up, and
the plain call fails with it.
-/
namespace Endpoint.Exchange
open Text

variable {x : Exchange} {r : Request} {type whole : TypeExpr} {w : World}

/-! ## Running a call -/

def posted (x : Exchange) (wire : WireRequest) (w : World) : World :=
  (w.reportAll (x.transport.announces wire)).post wire

def heard (x : Exchange) (wire : WireRequest) (answer : Except Error WireResponse) (w : World) :
    World :=
  (x.posted wire w).reportAll (x.transport.tells answer)

theorem run_carry (t : Transport) (wire : WireRequest) (next : Except Error WireResponse → Task)
    (w : World) :
    (t.carry wire next).run w =
      match w.reply w.sent.length wire with
      | .panic p => (.panic p, (w.reportAll (t.announces wire)).post wire)
      | .fail e => (next (.error e)).run
          (((w.reportAll (t.announces wire)).post wire).reportAll (t.tells (.error e)))
      | .answer a => (next (.ok a)).run
          (((w.reportAll (t.announces wire)).post wire).reportAll (t.tells (.ok a))) := by
  rw [Transport.carry, Work.run_reportAll]
  have hkept : (w.reportAll (t.announces wire)).reply
      (w.reportAll (t.announces wire)).sent.length wire = w.reply w.sent.length wire := rfl
  simp only [Work.run, hkept]
  cases w.reply w.sent.length wire with
  | panic p => rfl
  | fail e => exact Work.run_reportAll _ _ _
  | answer a => exact Work.run_reportAll _ _ _

/-- What is left to do is done in the world where the request has been answered, if it was sent. -/
theorem run_perform (x : Exchange) (r : Request) (next : Except Error WireResponse → Task)
    (w : World) :
    (x.perform r next).run w =
      match x.encode r with
      | .error e => (next (.error e)).run w
      | .ok wire => match w.reply w.sent.length wire with
        | .panic p => (.panic p, x.posted wire w)
        | .fail e => (next (.error e)).run (x.heard wire (.error e) w)
        | .answer a =>
          if isSuccess a.status then (next (.ok a)).run (x.heard wire (.ok a) w)
          else (next (.error (refusal a))).run
            ((x.heard wire (.ok a) w).report (.errorStatus a.status)) := by
  unfold perform
  cases x.encode r with
  | error e => rfl
  | ok wire =>
    simp only [run_carry]
    cases w.reply w.sent.length wire with
    | panic p => rfl
    | fail e => rfl
    | answer a =>
      simp only
      split <;> rfl

/-- How the call for a type ends, and the world after it. -/
def runCall (x : Exchange) (r : Request) (type : TypeExpr) (w : World) : Outcome × World :=
  (x.call r type).perform.run w

/-- The call for the body alone hands on every error. -/
theorem run_value (htype : type.isNamed TypeExpr.responseName = false) :
    x.runCall r type w =
      match x.encode r with
      | .error e => (.result (.error e), w)
      | .ok wire => match w.reply w.sent.length wire with
        | .panic p => (.panic p, x.posted wire w)
        | .fail e => (.result (.error e), x.heard wire (.error e) w)
        | .answer a =>
          if isSuccess a.status then (.result (x.decode type a), x.heard wire (.ok a) w)
          else (.result (.error (refusal a)),
            (x.heard wire (.ok a) w).report (.errorStatus a.status)) := by
  simp only [runCall, call, Launch.perform, Launch.andThen, id, work, htype, Bool.false_eq_true,
    if_false]
  rw [run_perform]
  rfl

/-- What the call for the whole response makes of an error, in the world where it comes up. -/
def recover (type : TypeExpr) (w : World) : Error → Outcome × World
  | .response status headers text =>
    (.result (.ok (.envelope (recovered type status headers text))),
      w.report (.recoveredStatus status))
  | e => (.result (.error e), w)

theorem run_intoEnvelope_error (e : Error) :
    (x.intoEnvelope type (.error e)).run w = recover type w e := by
  cases e <;> rfl

theorem recover_of_not_isResponse {e : Error} (he : e.isResponse = false) :
    recover type w e = (.result (.error e), w) := by
  cases e with
  | response status headers text => cases he
  | _ => rfl

/-- What the call for the whole response makes of an answer whose status is a success. -/
def enclose (x : Exchange) (type : TypeExpr) (a : WireResponse) : Except Error Value :=
  match x.envelopeBody type a with
  | .ok body => .ok (.envelope ⟨a.status, a.headers, body, none⟩)
  | .error e => .error e

theorem run_intoEnvelope_ok (a : WireResponse) :
    (x.intoEnvelope type (.ok a)).run w = (.result (x.enclose type a), w) := by
  simp only [intoEnvelope, enclose]
  cases x.envelopeBody type a <;> rfl

/-- The call for the whole response takes in response errors and hands on all others. -/
theorem run_envelope (hwhole : whole.isNamed TypeExpr.responseName = true)
    (htype : whole.firstArgOrAny = type) :
    x.runCall r whole w =
      match x.encode r with
      | .error e => recover type w e
      | .ok wire => match w.reply w.sent.length wire with
        | .panic p => (.panic p, x.posted wire w)
        | .fail e => recover type (x.heard wire (.error e) w) e
        | .answer a =>
          if isSuccess a.status then (.result (x.enclose type a), x.heard wire (.ok a) w)
          else recover type ((x.heard wire (.ok a) w).report (.errorStatus a.status))
            (refusal a) := by
  simp only [runCall, call, Launch.perform, Launch.andThen, id, work, hwhole, if_true, htype]
  rw [run_perform]
  simp only [run_intoEnvelope_ok, run_intoEnvelope_error]

/-! ## Reading the body -/

/-- A body that is there and wanted is in the whole response exactly when it can be read. -/
theorem enclose_eq_ok_iff {a : WireResponse} {v : Value} (hbody : a.body ≠ [])
    (hvoid : type.isNamed TypeExpr.voidName = false) :
    x.enclose type a = .ok (.envelope ⟨a.status, a.headers, some v, none⟩) ↔
      x.decode type a = .ok v := by
  simp only [enclose, envelopeBody, List.isEmpty_iff, hbody, hvoid, Bool.or_false, if_false]
  cases x.decode type a <;> simp [Functor.map, Except.map]

theorem enclose_eq_error_iff {a : WireResponse} {e : Error} (hbody : a.body ≠ [])
    (hvoid : type.isNamed TypeExpr.voidName = false) :
    x.enclose type a = .error e ↔ x.decode type a = .error e := by
  simp only [enclose, envelopeBody, List.isEmpty_iff, hbody, hvoid, Bool.or_false, if_false]
  cases x.decode type a <;> simp [Functor.map, Except.map]

/-- A body that is not there or not wanted is left out, and nothing is read. -/
theorem enclose_bodiless {a : WireResponse}
    (h : a.body = [] ∨ type.isNamed TypeExpr.voidName = true) :
    x.enclose type a = .ok (.envelope ⟨a.status, a.headers, none, none⟩) := by
  rcases h with h | h <;> simp [enclose, envelopeBody, h]

/-! ## Agreement -/

/-- The request is encoded, and the other side answers it. -/
def Answers (x : Exchange) (r : Request) (w : World) (a : WireResponse) : Prop :=
  ∃ wire, x.encode r = .ok wire ∧ w.reply w.sent.length wire = .answer a

/-- The call for a body and the call for the whole response around it agree in a world. -/
structure Agree (x : Exchange) (r : Request) (type whole : TypeExpr) (w : World) : Prop where
  /-- A request that cannot be encoded reaches nobody and fails both calls with the same error. -/
  unsent : ∀ e, x.encode r = .error e →
    x.runCall r type w = (.result (.error e), w) ∧ (x.runCall r whole w).2.sent = w.sent ∧
      (e.isResponse = false → x.runCall r whole w = (.result (.error e), w))
  /-- Any other request is sent once by either call, and it is the same. -/
  sent : ∀ wire, x.encode r = .ok wire → ∀ t, t = type ∨ t = whole →
    (x.runCall r t w).2.sent = w.sent ++ [wire] ∧
      (x.runCall r t w).2.executions = w.executions + 1
  /-- A body that is there and wanted is read by both calls, with the same value or error. -/
  read : ∀ a, Answers x r w a → isSuccess a.status = true → a.body ≠ [] →
    type.isNamed TypeExpr.voidName = false →
    (∀ v, (x.runCall r whole w).1 =
        .result (.ok (.envelope ⟨a.status, a.headers, some v, none⟩)) ↔
          (x.runCall r type w).1 = .result (.ok v)) ∧
      (∀ e, (x.runCall r whole w).1 = .result (.error e) ↔
        (x.runCall r type w).1 = .result (.error e)) ∧
      ((∃ v, (x.runCall r type w).1 = .result (.ok v)) ∨
        ∃ e, (x.runCall r type w).1 = .result (.error e))
  /-- A body that is not there or not wanted is left out, whatever the registry holds. -/
  bodiless : ∀ a, Answers x r w a → isSuccess a.status = true →
    a.body = [] ∨ type.isNamed TypeExpr.voidName = true →
    (x.runCall r whole w).1 = .result (.ok (.envelope ⟨a.status, a.headers, none, none⟩))
  /-- Where no body is wanted, the plain call succeeds, whatever the registry holds. -/
  unwanted : ∀ a, Answers x r w a → isSuccess a.status = true →
    type.isNamed TypeExpr.voidName = true → (x.runCall r type w).1 = .result (.ok .unit)
  /-- A status that is no success is the plain call's error, with the status, the headers and the
  text of the body, and all of these are in the whole response; its body is the text where a text is
  expected, and none otherwise. -/
  refused : ∀ a, Answers x r w a → isSuccess a.status = false →
    (x.runCall r type w).1 = .result (.error (.response a.status a.headers (lossy a.body))) ∧
      (x.runCall r whole w).1 = .result (.ok (.envelope ⟨a.status, a.headers,
        if type.isNamed TypeExpr.stringName then some (.text (lossy a.body)) else none,
        some (lossy a.body)⟩))
  /-- A failure of the other side fails both calls. -/
  failed : ∀ wire e, x.encode r = .ok wire → w.reply w.sent.length wire = .fail e →
    (x.runCall r type w).1 = .result (.error e) ∧
      (e.isResponse = false → (x.runCall r whole w).1 = .result (.error e))
  /-- A panic of the other side ends both calls. -/
  panicked : ∀ wire p, x.encode r = .ok wire → w.reply w.sent.length wire = .panic p →
    (x.runCall r type w).1 = .panic p ∧ (x.runCall r whole w).1 = .panic p
  /-- A response error that comes without an answer is part of the whole response all the same. -/
  takenIn : ∀ status headers text,
    x.encode r = .error (.response status headers text) ∨
      (∃ wire, x.encode r = .ok wire ∧
        w.reply w.sent.length wire = .fail (.response status headers text)) →
    (x.runCall r whole w).1 =
      .result (.ok (.envelope (recovered type status headers text)))

theorem recover_sent (type : TypeExpr) (w : World) (e : Error) :
    (recover type w e).2.sent = w.sent := by
  cases e <;> rfl

theorem recover_executions (type : TypeExpr) (w : World) (e : Error) :
    (recover type w e).2.executions = w.executions := by
  cases e <;> rfl

/-- A request that is encoded is sent once, however its call goes on. -/
theorem sent_runCall {wire : WireRequest} {t : TypeExpr} (henc : x.encode r = .ok wire) :
    (x.runCall r t w).2.sent = w.sent ++ [wire] ∧
      (x.runCall r t w).2.executions = w.executions + 1 := by
  cases ht : t.isNamed TypeExpr.responseName with
  | false =>
    rw [run_value ht]
    simp only [henc]
    split
    · exact ⟨rfl, rfl⟩
    · exact ⟨rfl, rfl⟩
    · split <;> exact ⟨rfl, rfl⟩
  | true =>
    rw [run_envelope ht rfl]
    simp only [henc]
    split
    · exact ⟨rfl, rfl⟩
    · exact ⟨recover_sent _ _ _, recover_executions _ _ _⟩
    · split
      · exact ⟨rfl, rfl⟩
      · exact ⟨recover_sent _ _ _, recover_executions _ _ _⟩

/-- **The plain call and the whole response agree on every exchange.** Whatever the request, the
registry and the other side are: for a type that is no whole response itself, and any whole response
whose body is of that type (a bare one has the body `Any`), the two calls agree. -/
theorem value_agrees_envelope (x : Exchange) (r : Request) (w : World) {type whole : TypeExpr}
    (htype : type.isNamed TypeExpr.responseName = false)
    (hwhole : whole.isNamed TypeExpr.responseName = true)
    (hbody : whole.firstArgOrAny = type) : Agree x r type whole w where
  unsent e henc := by
    rw [run_value htype, run_envelope hwhole hbody]
    simp only [henc]
    exact ⟨trivial, recover_sent _ _ _, recover_of_not_isResponse⟩
  sent wire henc t _ := sent_runCall henc
  read a h hok hne hvoid := by
    obtain ⟨wire, henc, ha⟩ := h
    rw [run_value htype, run_envelope hwhole hbody]
    simp only [henc, ha, hok, if_true, Outcome.result.injEq]
    refine ⟨fun v => enclose_eq_ok_iff hne hvoid, fun e => enclose_eq_error_iff hne hvoid, ?_⟩
    cases hd : x.decode type a with
    | ok v => exact .inl ⟨v, rfl⟩
    | error e => exact .inr ⟨e, rfl⟩
  bodiless a h hok hb := by
    obtain ⟨wire, henc, ha⟩ := h
    rw [run_envelope hwhole hbody]
    simp only [henc, ha, hok, if_true, enclose_bodiless hb]
  unwanted a h hok hvoid := by
    obtain ⟨wire, henc, ha⟩ := h
    rw [run_value htype]
    simp only [henc, ha, hok, if_true, decode, hvoid]
  refused a h hok := by
    obtain ⟨wire, henc, ha⟩ := h
    rw [run_value htype, run_envelope hwhole hbody]
    simp only [henc, ha, hok, Bool.false_eq_true, if_false]
    exact ⟨rfl, rfl⟩
  failed wire e henc ha := by
    rw [run_value htype, run_envelope hwhole hbody]
    simp only [henc, ha]
    exact ⟨trivial, fun he => congrArg Prod.fst (recover_of_not_isResponse he)⟩
  panicked wire p henc ha := by
    rw [run_value htype, run_envelope hwhole hbody]
    simp only [henc, ha]
    exact ⟨trivial, trivial⟩
  takenIn status headers text h := by
    rw [run_envelope hwhole hbody]
    rcases h with henc | ⟨wire, henc, ha⟩
    · simp only [henc]
      rfl
    · simp only [henc, ha]
      rfl

/-- A text that is not found: an error for the plain call, and the body of the whole response. -/
theorem value_agrees_envelope_of_missing_text :
    let x : Exchange := ⟨.own, .standard, .json⟩
    let r := Request.plain ⟨"http", some ⟨"", none, .name "api.example", none⟩, "/users/1", none,
      none⟩ "GET" .any
    let w := World.initial (Reply.inOrder [fun _ => .answer ⟨404, .empty, utf8 "gone"⟩])
    TypeExpr.string.isNamed TypeExpr.responseName = false ∧
      (TypeExpr.response .string).isNamed TypeExpr.responseName = true ∧
      (TypeExpr.response .string).firstArgOrAny = .string ∧
      Agree x r .string (.response .string) w ∧
      (x.runCall r .string w).1 = .result (.error (.response 404 .empty (lossy (utf8 "gone")))) ∧
      (x.runCall r (.response .string) w).1 = .result (.ok (.envelope
        ⟨404, .empty, some (.text (lossy (utf8 "gone"))), some (lossy (utf8 "gone"))⟩)) := by
  intro x r w
  have hvalue : TypeExpr.string.isNamed TypeExpr.responseName = false := by decide
  have hwhole : (TypeExpr.response .string).isNamed TypeExpr.responseName = true := by decide
  have agree := value_agrees_envelope x r w hvalue hwhole rfl
  have answered : Answers x r w ⟨404, .empty, utf8 "gone"⟩ := ⟨_, rfl, rfl⟩
  exact ⟨hvalue, hwhole, rfl, agree, agree.refused _ answered (by decide)⟩

/-- Where the two come apart: a response error that a writer or the other side makes up fails the
plain call, but it is a whole response for the other one, although nobody has answered. -/
theorem envelope_takes_in_made_up_error :
    let e : Error := .response 200 .empty "made up"
    let x : Exchange := ⟨.own, ⟨[{ Converter.octets with write := fun _ _ => .error e }]⟩,
      .octetStream⟩
    let url : Url := ⟨"http", some ⟨"", none, .name "api.example", none⟩, "/photos", none, none⟩
    let upload : Request := { Request.plain url "POST" .any with
      body := some ⟨0, .octets (utf8 "hi"), .bytes⟩ }
    let download := Request.plain url "GET" .any
    let idle := World.initial (Reply.inOrder [])
    let failing := World.initial (Reply.inOrder [fun _ => .fail e])
    let whole := Outcome.result (.ok (.envelope ⟨200, .empty, none, some "made up"⟩))
    x.encode upload = .error e ∧
      x.runCall upload .bytes idle = (.result (.error e), idle) ∧
      (x.runCall upload (.response .bytes) idle).1 = whole ∧
      (x.runCall upload (.response .bytes) idle).2.sent = [] ∧
      (x.runCall download .bytes failing).1 = .result (.error e) ∧
      (x.runCall download (.response .bytes) failing).1 = whole := by
  intro e x url upload download idle failing whole
  exact ⟨rfl, rfl, rfl, rfl, rfl, rfl⟩

end Endpoint.Exchange
