import Endpoint.Proofs.Callbacks

/-!
Where a panic ends up. A call that panics while it is done does so below the layers of a declared
type, and the layer right above it decides. A hot layer has had it done on the pool, which makes an
error of the panic; a cold layer, a stream or no layer at all hands it to whoever asks, however many
hot layers there are further out.

What is proved:
  1. `reach_passes`: where layers can be driven to their end, each of them ends in a value of its
     kind on the way;
  2. `handed_ok` and `handed_last`: all outcomes that layers hand over are values, but for what the
     innermost hands over if it is a callback;
  3. `panics_stop_at_innermost`: so it is for every declared type that resolves.
-/
namespace Endpoint

/-- The work ends in a panic, as long as nothing has been sent since and the other side is the same.
What is on the pool plays no part. -/
def Work.PanicsIn (c : Task) (w : World) (p : Payload) : Prop :=
  ∀ v : World, v.sent = w.sent → v.reply = w.reply → (c.run v).1 = .panic p

theorem Work.PanicsIn.andThen {c : Task} {w : World} {p : Payload} (h : c.PanicsIn w p)
    (f : Except Error Value → Task) : (c.andThen f).PanicsIn w p := by
  intro v hsent hreply
  rw [run_andThen, ← Prod.eta (c.run v), h v hsent hreply]

theorem CoreHandler.panicsIn {t callType : TypeExpr} {h : Handler}
    (hcore : CoreHandler t h callType) (hstream : t.isNamed TypeExpr.streamName = false)
    {call : Call} {w : World} {p : Payload}
    (hpanic : call.perform.PanicsIn w p) (args : Arguments) : (h call args).PanicsIn w p := by
  cases hcore with
  | stream _ hname => rw [hstream] at hname; cases hname
  | headers => exact hpanic.andThen _
  | document => exact hpanic.andThen _
  | terminal => exact hpanic

theorem CoreHandler.streams {t callType : TypeExpr} {h : Handler} (hcore : CoreHandler t h callType)
    (hstream : t.isNamed TypeExpr.streamName = true) (call : Call) (args : Arguments) :
    h call args = .ok (.stream call.perform) := by
  cases hcore with
  | stream => rfl
  | headers hnot | document hnot | terminal hnot => rw [hstream] at hnot; cases hnot

namespace Layer
open World

/-! ## On the way to the end -/

/-- A layer that driving gets past has ended in a value of its kind, and what is below it does not
matter for how driving goes on. -/
theorem reach_step {id : Nat} {l : Layer} {ls : List Layer} {k : Nat} {o : Outcome} {w : World}
    {x : Outcome × World} (h : reach id (l :: ls) k o w = some x) :
    ∃ v, o = .result (.ok v) ∧ l.Gives v ∧
      ∃ k' o' w', ∀ ls, reach id (l :: ls) k o w = reach id ls k' o' w' := by
  obtain ⟨v, rfl⟩ : ∃ v, o = .result (.ok v) := by
    obtain (e | v) | p := o
    · cases l <;> cases h
    · exact ⟨v, rfl⟩
    · cases l <;> cases h
  refine ⟨v, rfl, ?_⟩
  cases l with
  | future =>
    cases v with
    | future ticket => exact ⟨⟨ticket, rfl⟩, k, _, w.settle, fun _ => rfl⟩
    | _ => cases h
  | single =>
    cases v with
    | single below => exact ⟨⟨below, rfl⟩, k, _, _, fun _ => rfl⟩
    | _ => cases h
  | callback =>
    cases v with
    | unit =>
      cases hgot : w.settle.delivered[k]? with
      | none =>
        simp only [reach, hgot] at h
        cases h
      | some got =>
        obtain ⟨i, r⟩ := got
        obtain rfl : i = id := Decidable.byContradiction fun hne => by
          simp only [reach, hgot, if_neg hne] at h
          cases h
        exact ⟨rfl, k + 1, .result r, w.settle, fun ls => by simp only [reach, hgot, if_pos]⟩
    | _ => cases h

/-- Where layers can be driven to their end, one of them ends in a value of its kind, and from there
it goes on to the same end. -/
theorem reach_passes {id : Nat} {outer inner : List Layer} {l : Layer} {k : Nat} {o : Outcome}
    {w : World} {x : Outcome × World} (h : reach id (outer ++ l :: inner) k o w = some x) :
    ∃ v k' u, reach id outer k o w = some (.result (.ok v), u) ∧ l.Gives v ∧
      reach id (l :: inner) k' (.result (.ok v)) u = some x := by
  induction outer generalizing k o w with
  | nil =>
    obtain ⟨v, rfl, hv, -⟩ := reach_step h
    exact ⟨v, k, w, rfl, hv, h⟩
  | cons a outer ih =>
    obtain ⟨-, -, -, k', o', w', hstep⟩ := reach_step h
    rw [List.cons_append, hstep] at h
    rw [hstep]
    exact ih h

variable {id : Nat} {o : Outcome} {ls : List Layer} {out : List (Nat × Except Error Value)}

theorem received_ok {r : Except Error Value} (h : Received o ls r) (hls : ls ≠ []) :
    ∃ v, r = .ok v := by
  cases ls with
  | nil => exact (hls rfl).elim
  | cons l ls =>
    obtain ⟨v, rfl, -⟩ := h
    exact ⟨v, rfl⟩

/-- Layers hand over values, unless the innermost of them is a callback and the work fails. -/
theorem handed_ok (h : Handed id o ls out)
    (hlast : ls.getLast? = some .callback → ∃ v, o.guarded = .ok v) :
    ∀ x ∈ out, ∃ v, x = (id, .ok v) := by
  induction h with
  | nil =>
    intro x hx
    cases hx
  | @future ls out h ih | @single ls out h ih =>
    cases ls with
    | nil =>
      cases h
      intro x hx
      cases hx
    | cons => exact ih hlast
  | @callback ls out r hr h ih =>
    rw [List.forall_mem_cons]
    cases ls with
    | nil =>
      cases h
      obtain ⟨v, hv⟩ := hlast rfl
      refine ⟨⟨v, ?_⟩, fun x hx => by cases hx⟩
      rw [hr, hv]
    | cons =>
      obtain ⟨v, rfl⟩ := received_ok hr (by simp)
      exact ⟨⟨v, rfl⟩, ih hlast⟩

/-- What an innermost callback hands over comes last, and is the end of the work. -/
theorem handed_last {outer : List Layer} (h : Handed id o (outer ++ [.callback]) out) :
    ∃ before, out = before ++ [(id, o.guarded)] ∧ ∀ x ∈ before, ∃ v, x = (id, .ok v) := by
  induction outer generalizing out with
  | nil =>
    cases h with
    | callback hr h =>
      cases h
      refine ⟨[], ?_, fun x hx => by cases hx⟩
      rw [hr]
      rfl
  | cons a outer ih =>
    cases h with
    | future h | single h => exact ih h
    | callback hr h =>
      obtain ⟨before, rfl, hbefore⟩ := ih h
      obtain ⟨v, rfl⟩ := received_ok hr (by simp)
      refine ⟨(id, .ok v) :: before, rfl, ?_⟩
      rw [List.forall_mem_cons]
      exact ⟨⟨v, rfl⟩, hbefore⟩

theorem contained_append (o : Outcome) (outer : List Layer) (l : Layer) :
    contained o (outer ++ [l]) = contained o [l] := by
  induction outer with
  | nil => rfl
  | cons a outer ih =>
    rw [List.cons_append, contained_cons o a (by simp), ih]

/-! ## Where a panic stops -/

/-- Driving a declared type to its end: what it comes to, with every layer ending in a value of its
kind on the way, and the outcomes that were handed over. The count is of everything that was handed
over, once all tasks have finished. -/
structure Comes (id : Nat) (t : TypeExpr) (h : Handler) (call : Call) (args : Arguments) (w : World)
    (e : Outcome) (out : List (Nat × Except Error Value)) (u : World) : Prop where
  reached : driven id t.layers h call args w = some (e, u)
  passes : ∀ outer l inner, t.layers = outer ++ l :: inner →
    ∃ v u', driven id outer h call args w = some (.result (.ok v), u') ∧ l.Gives v
  each : out.length = t.layers.count .callback
  delivered : w.delivered ++ out <+: u.delivered
  total : call.perform.Mute → u.settle.delivered = w.delivered ++ out

/-- All these outcomes are values, and the callback got them. -/
def Succeeds (id : Nat) (out : List (Nat × Except Error Value)) : Prop :=
  ∀ x ∈ out, ∃ v, x = (id, .ok v)

/-- What has become of a panic: an error of the execution, which repeats what the panic said. -/
structure Reported (p : Payload) (e : Error) : Prop where
  kind : e.kind = "ExecutionError"
  message : e.message = "Execution error: call panicked: " ++
    match p with
    | .text s => s
    | .other => "unknown panic"

theorem reported (p : Payload) : Reported p (.execution (.panicked p)) where
  kind := rfl
  message := by cases p <;> rfl

variable {declared : TypeExpr} {m : Resolved Handler} {args : Arguments} {w : World} {call : Call}
  {p : Payload}

theorem comes_of_resolve (hresolve : Handler.resolve Adapter.standard declared = .ok m)
    (hargs : .callback ∈ declared.layers → args.callback? = some id) (call : Call)
    (hidle : w.Idle) (hopen : w.shut = false) :
    ∃ core callType start out u, CoreHandler declared.core core callType ∧ w.SameBooks start ∧
      Spent (core call args) w u ∧ Handed id ((core call args).run start).1 declared.layers out ∧
      Comes id declared m.handler call args w
        (contained ((core call args).run start).1 declared.layers) out u := by
  obtain ⟨core, callType, start, out, u, hcore, hstart, hdriven, hspent, hback⟩ :=
    callsBack_of_resolve hresolve hargs call hidle hopen
  refine ⟨core, callType, start, out, u, hcore, hstart, hspent, hback.handed, hdriven,
    fun outer l inner hlayers => ?_, hback.each, hback.delivered, hback.total⟩
  rw [driven, hlayers] at hdriven
  obtain ⟨v, -, u', hv, hgives, -⟩ := reach_passes hdriven
  exact ⟨v, u', hv, hgives⟩

/-- The innermost layer makes of the work what it makes of it alone. -/
theorem Comes.innermost {h : Handler} {u : World} {outer : List Layer} {l : Layer}
    (hcomes : Comes id declared h call args w (contained o declared.layers) out u)
    (hlayers : declared.layers = outer ++ [l]) :
    Comes id declared h call args w (contained o [l]) out u ∧
      ∃ v k u', driven id outer h call args w = some (.result (.ok v), u') ∧ l.Gives v ∧
        reach id [l] k (.result (.ok v)) u' = some (contained o [l], u) := by
  have hdriven := hcomes.reached
  rw [driven, hlayers, contained_append] at hdriven
  rw [hlayers, contained_append] at hcomes
  obtain ⟨v, k, u', hv, hgives, hreach⟩ := reach_passes hdriven
  exact ⟨hcomes, v, k, u', hv, hgives, hreach⟩

/-- **A panic stops at the innermost layer, if that is hot.** Take a declared type that resolves,
arguments with a callback if a layer asks for one, and a call that panics. If the innermost layer is
a future, it is the future's result, an error then; if it is a callback, it is the last outcome and
the only failure that the callback gets. If it is a single, or there is no layer, driving the type
panics where the single is asked, or at once. A stream below the layers is handed out, and whoever
asks it meets the panic. All layers that are not named here end in values, whether they are hot or
cold. -/
theorem panics_stop_at_innermost (hresolve : Handler.resolve Adapter.standard declared = .ok m)
    (hargs : .callback ∈ declared.layers → args.callback? = some id) (hidle : w.Idle)
    (hopen : w.shut = false) (hpanic : call.perform.PanicsIn w p) :
    Reported p (.execution (.panicked p)) ∧ ∃ out u,
      (declared.core.isNamed TypeExpr.streamName = false →
        (∀ outer, declared.layers = outer ++ [.future] →
          Comes id declared m.handler call args w
            (.result (.error (.execution (.panicked p)))) out u ∧ Succeeds id out ∧
          ∃ ticket v, driven id outer m.handler call args w =
            some (.result (.ok (.future ticket)), v) ∧
            v.settle.await ticket = .error (.execution (.panicked p))) ∧
        (∀ outer, declared.layers = outer ++ [.callback] →
          Comes id declared m.handler call args w
            (.result (.error (.execution (.panicked p)))) out u ∧
          ∃ before, out = before ++ [(id, .error (.execution (.panicked p)))] ∧
            Succeeds id before) ∧
        (∀ outer, declared.layers = outer ++ [.single] →
          Comes id declared m.handler call args w (.panic p) out u ∧ Succeeds id out ∧
          ∃ below v, driven id outer m.handler call args w =
            some (.result (.ok (.single below)), v) ∧ (below.run v.settle).1 = .panic p) ∧
        (declared.layers = [] →
          Comes id declared m.handler call args w (.panic p) out u ∧ out = [])) ∧
      (declared.core.isNamed TypeExpr.streamName = true →
        Comes id declared m.handler call args w (.result (.ok (.stream call.perform))) out u ∧
        Succeeds id out ∧ (call.perform.run u.settle).1 = .panic p ∧
        (asked call.perform u).1 = none) := by
  obtain ⟨core, callType, start, out, u, hcore, hstart, hspent, hhanded, hcomes⟩ :=
    comes_of_resolve hresolve hargs call hidle hopen
  refine ⟨reported p, out, u, fun hstream => ?_, fun hstream => ?_⟩
  · have hend : ((core call args).run start).1 = .panic p :=
      hcore.panicsIn hstream hpanic args start hstart.sent hstart.reply
    rw [hend] at hhanded hcomes
    refine ⟨fun outer hlayers => ?_, fun outer hlayers => ?_, fun outer hlayers => ?_,
      fun hlayers => ?_⟩
    · obtain ⟨hcomes, v, k, u', hv, ⟨ticket, rfl⟩, hreach⟩ := hcomes.innermost hlayers
      rw [hlayers] at hhanded
      refine ⟨hcomes, handed_ok hhanded (by simp), ticket, u', hv, ?_⟩
      simp only [reach, Option.some.injEq, Prod.mk.injEq] at hreach
      exact Outcome.result.inj hreach.1
    · rw [hlayers] at hhanded
      exact ⟨(hcomes.innermost hlayers).1, handed_last hhanded⟩
    · obtain ⟨hcomes, v, k, u', hv, ⟨below, rfl⟩, hreach⟩ := hcomes.innermost hlayers
      rw [hlayers] at hhanded
      refine ⟨hcomes, handed_ok hhanded (by simp), below, u', hv, ?_⟩
      simp only [reach, Option.some.injEq, Prod.mk.injEq] at hreach
      exact hreach.1
    · rw [hlayers] at hhanded hcomes
      cases hhanded
      exact ⟨hcomes, rfl⟩
  · have hend : ((core call args).run start).1 = .result (.ok (.stream call.perform)) := by
      rw [hcore.streams hstream]
      rfl
    rw [hend] at hhanded hcomes
    rw [contained_result] at hcomes
    rw [hcore.streams hstream] at hspent
    -- handing the stream out has done nothing, so asking it is doing the call for the first time
    obtain ⟨hu, hbooks⟩ := hspent.direct trivial
    have hasked : (call.perform.run u.settle).1 = .panic p := by
      rw [settle_of_idle hu]
      exact hpanic u hbooks.sent hbooks.reply
    refine ⟨hcomes, handed_ok hhanded fun _ => ⟨_, rfl⟩, hasked, ?_⟩
    rw [asked, ← Prod.eta (call.perform.run u.settle), hasked]

/-- A call that counts an execution and then panics. A callback around a future around `Headers`
gets that future, whose result is an error; a future around a single around the same keeps nobody
from the panic; a callback around a stream gets the stream, and asking that panics. -/
theorem panics_stop_at_innermost_of_each :
    let call : Call := .ready (.count (.panic .other))
    let e : Error := .execution (.panicked .other)
    let args : Arguments := ⟨[.callback 7]⟩
    let w := World.initial (Reply.inOrder [])
    call.perform.PanicsIn w .other ∧
      (∃ m out u, Handler.resolve Adapter.standard (.callback (.future .headers)) = .ok m ∧
        driven 7 [callback, future] m.handler call args w = some (.result (.error e), u) ∧
        out.length = 1 ∧ Succeeds 7 out ∧ u.settle.delivered = out) ∧
      (∃ m out u, Handler.resolve Adapter.standard (.future (.single .headers)) = .ok m ∧
        driven 7 [future, single] m.handler call args w = some (.panic .other, u) ∧
        out.length = 0 ∧ u.settle.delivered = out) ∧
      ∃ m out u, Handler.resolve Adapter.standard (.callback (.stream .string)) = .ok m ∧
        driven 7 [callback] m.handler call args w =
          some (.result (.ok (.stream call.perform)), u) ∧
        out.length = 1 ∧ Succeeds 7 out ∧ u.settle.delivered = out ∧
        (call.perform.run u.settle).1 = .panic .other := by
  intro call e args w
  have hidle : w.Idle := fun e he => by cases he
  have hpanic : call.perform.PanicsIn w .other := fun _ _ _ => rfl
  have hargs : args.callback? = some 7 := rfl
  have hresolves (t : TypeExpr) (m : Resolved Handler)
      (hm : Handler.resolve Adapter.standard t = .ok m) :=
    (panics_stop_at_innermost hm (fun _ => hargs) hidle rfl hpanic).2
  refine ⟨hpanic, ?_, ?_, ?_⟩
  · obtain ⟨out, u, hplain, -⟩ := hresolves (.callback (.future .headers)) _ rfl
    obtain ⟨hcomes, hout, -⟩ := (hplain rfl).1 [callback] rfl
    exact ⟨_, out, u, rfl, hcomes.reached, hcomes.each, hout, hcomes.total trivial⟩
  · obtain ⟨out, u, hplain, -⟩ := hresolves (.future (.single .headers)) _ rfl
    obtain ⟨hcomes, -, -⟩ := (hplain rfl).2.2.1 [future] rfl
    exact ⟨_, out, u, rfl, hcomes.reached, hcomes.each, hcomes.total trivial⟩
  · obtain ⟨out, u, -, hstream⟩ := hresolves (.callback (.stream .string)) _ rfl
    obtain ⟨hcomes, hout, hpanicked, -⟩ := hstream rfl
    exact ⟨_, out, u, rfl, hcomes.reached, hcomes.each, hout, hcomes.total trivial, hpanicked⟩

end Layer
end Endpoint
