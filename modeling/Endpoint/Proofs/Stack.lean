import Endpoint.Converter.Standard
import Endpoint.Delivered
import Endpoint.Exchange
import Endpoint.Handler
import Endpoint.Proofs.Pool
import Endpoint.Proofs.Quiet
import Endpoint.Proofs.Unfolding

/-!
Stacks of wrappers. `Future` and `Callback` are hot: their layer puts the work below on the pool as
soon as it runs. `Single` is cold: its layer hands the work below out, and nothing is done until it
is asked for. However such layers are nested, what comes out below them is what would have come
without them, and the call is made once.

What is proved:
  1. `unfolds_around` and `wrap_apply`: a type under layers unfolds one step a layer, and its
     handler does the work below as the layers have it done (`stack`);
  2. `carries_and_runs`: by induction on the layers, a pool that is given such work settles it, and
     work that is run instead is driven on, in both cases to the end of the work at the bottom. Hot
     layers are one case (`Hot`), whoever they hand their result to;
  3. `wrappers_keep_outcome`: with what `Headers` and `JsonDocument` do at the bottom, and with a
     `Stream` there.

How often the call is made is read off the world (`Once`). For a call that puts no work of its own
on the pool, such as those of exchanges (`Exchange.call_direct`), executions, requests and log lines
are those of one run of it; any other call is counted by a line that it writes first.
-/
namespace Endpoint

/-- One wrapper. -/
inductive Layer where
  | future
  | single
  | callback

namespace Layer

/-- The declared type that a layer makes of the one below. -/
def type : Layer → TypeExpr → TypeExpr
  | future => .future
  | single => .single
  | callback => .callback

/-- The adapter that recognises a layer. -/
def adapter : Layer → Adapter Handler
  | future => .future
  | single => .single
  | callback => .callback

/-- The handler that a layer makes of the one below. -/
def handler : Layer → Handler → Handler
  | future => .future
  | single => .single
  | callback => .callback

/-- The work that a layer makes of the work below, given the callback. -/
def work (id : Nat) : Layer → Task → Task
  | future, below => Bridge.submit below
  | single, below => .ok (.single below)
  | callback, below => Bridge.enqueueTask below id

/-- A declared type under layers, the first one outermost. -/
def around (layers : List Layer) (t : TypeExpr) : TypeExpr := layers.foldr type t

/-- A handler under layers. -/
def wrap (layers : List Layer) (h : Handler) : Handler := layers.foldr handler h

/-- Work under layers. -/
def stack (id : Nat) (layers : List Layer) (below : Task) : Task := layers.foldr (work id) below

/-! ## Resolving a stack -/

theorem isFirst_adapter (l : Layer) (t : TypeExpr) :
    Adapter.IsFirst Adapter.standard (l.type t) l.adapter := by
  apply Adapter.find?_eq_some_iff.mp
  cases l <;> rfl

theorem innerType_adapter (l : Layer) (t : TypeExpr) : l.adapter.innerType (l.type t) = .ok t := by
  cases l <;> rfl

theorem adapt_adapter (l : Layer) (t : TypeExpr) (h : Handler) :
    l.adapter.adapt t h = l.handler h := by
  cases l <;> rfl

theorem unbound_ne_type (l : Layer) (t : TypeExpr) : t.unbound ≠ (l.type t).unbound := by
  cases l <;> exact TypeExpr.unbound_ne_generic t _

theorem unfolds_around (ls : List Layer) (t : TypeExpr) :
    ∃ steps, Adapter.Unfolds Adapter.standard (around ls t) steps t ∧
      steps.length = ls.length ∧ ∀ h, Adapter.wrapAll steps h = wrap ls h := by
  induction ls with
  | nil => exact ⟨[], .done t, rfl, fun _ => rfl⟩
  | cons l ls ih =>
    obtain ⟨steps, hsteps, hlen, hwrap⟩ := ih
    refine ⟨(l.adapter, l.type (around ls t)) :: steps, ?_, ?_, fun h => ?_⟩
    · exact .step (isFirst_adapter l _) (innerType_adapter l _) (unbound_ne_type l _) hsteps
    · rw [List.length_cons, List.length_cons, hlen]
    · rw [Adapter.wrapAll, List.foldr_cons, adapt_adapter]
      exact congrArg l.handler (hwrap h)

/-- Where a callback is among the arguments, or no layer asks for one, the handler under layers does
the work under them. -/
theorem wrap_apply {id : Nat} {args : Arguments} {ls : List Layer}
    (hargs : .callback ∈ ls → args.callback? = some id) (h : Handler) (call : Call) :
    wrap ls h call args = stack id ls (h call args) := by
  induction ls with
  | nil => rfl
  | cons l ls ih =>
    have ih := ih fun hmem => hargs (List.mem_cons_of_mem _ hmem)
    cases l with
    | future | single =>
      simp only [wrap, stack, List.foldr_cons, handler, work, Handler.future,
        Handler.single] at ih ⊢
      rw [ih]
    | callback =>
      have hargs := hargs List.mem_cons_self
      simp only [wrap, stack, List.foldr_cons, handler, work, Handler.callback, hargs] at ih ⊢
      rw [ih]

/-! ## Driving a stack to its end -/

/-- Takes what a stack hands out to its end: waits for a future, asks a single, and takes what the
callback got, from the outcome of the given number on. None if a layer hands out anything but its
own kind of value. -/
def reach (id : Nat) : List Layer → Nat → Outcome → World → Option (Outcome × World)
  | [], _, o, w => some (o, w)
  | future :: ls, k, .result (.ok (.future ticket)), w =>
    reach id ls k (.result (w.settle.await ticket)) w.settle
  | single :: ls, k, .result (.ok (.single below)), w =>
    reach id ls k (below.run w.settle).1 (below.run w.settle).2
  | callback :: ls, k, .result (.ok .unit), w =>
    match w.settle.delivered[k]? with
    | some (i, r) => if i = id then reach id ls (k + 1) (.result r) w.settle else none
    | none => none
  | _ :: _, _, _, _ => none

end Layer

/-! ## The work at the bottom -/

/-- The work ends in a result, as long as nothing has been sent since and the other side is the
same. What is on the pool plays no part. -/
def Work.EndsIn (c : Task) (w : World) (b : Except Error Value) : Prop :=
  ∀ v : World, v.sent = w.sent → v.reply = w.reply → (c.run v).1 = .result b

/-- Direct work that ends in a result in one world does so in all that are answered alike. -/
theorem Work.Direct.endsIn {c : Task} (h : c.Direct) {w : World} {b : Except Error Value}
    (hb : (c.run w).1 = .result b) : c.EndsIn w b := fun _ hsent hreply =>
  (run_fst_of_direct h hsent hreply).trans hb

theorem Transport.direct_carry (t : Transport) {q : WireRequest}
    {next : Except Error WireResponse → Task} (hnext : ∀ a, (next a).Direct) :
    (t.carry q next).Direct :=
  Work.Direct.reportAll _ fun answer => Work.Direct.reportAll _ (hnext answer)

/-- The calls of exchanges put nothing on the pool. -/
theorem Exchange.call_direct (x : Exchange) (r : Request) (t : TypeExpr) :
    (x.call r t).perform.Direct := by
  have hperform {next : Except Error WireResponse → Task} (hnext : ∀ a, (next a).Direct) :
      (x.perform r next).Direct := by
    unfold perform
    split
    · exact hnext _
    · refine x.transport.direct_carry fun answer => ?_
      cases answer with
      | error e => exact hnext _
      | ok answer =>
        simp only
        split
        · exact hnext _
        · exact hnext _
  have hvalue (a : Except Error WireResponse) : (x.intoValue t a).Direct := by
    cases a <;> trivial
  have henvelope (a : Except Error WireResponse) : (x.intoEnvelope t.firstArgOrAny a).Direct := by
    unfold intoEnvelope
    split
    · split <;> trivial
    · trivial
    · trivial
  simp only [call, Launch.perform, Launch.andThen, id, work]
  split
  · exact hperform henvelope
  · exact hperform hvalue

namespace World

/-- A world in which a stack can be driven: nothing is left to do, the pool takes tasks, and nothing
was executed, sent or logged since the first world. -/
structure Ready (w v : World) : Prop where
  idle : v.Idle
  isOpen : v.shut = false
  books : w.SameBooks v

/-- The work was done once since the first world. Work that puts nothing on the pool leaves nothing
to do, and the books are those of doing it; other work is counted by a line that it writes first. -/
structure Spent (c : Task) (w v : World) : Prop where
  direct : c.Direct → v.Idle ∧ (c.run w).2.SameBooks v
  marked : ∀ line below, c = .log line below → below.Silent line →
    v.Quiet line (w.log.count line + 1) none

/-- When all tasks have finished, the work under layers was done once, or not at all if one of the
layers is cold. -/
def Rests (c : Task) (w : World) (ls : List Layer) (v : World) : Prop :=
  (.single ∈ ls → w.SameBooks v) ∧ (.single ∉ ls → Spent c w v)

/-- A later state of a settled pool: what is there stays, and if nothing was left to do it is the
same. -/
structure Later (w v : World) : Prop where
  grows : w.Grows v
  same : w.Idle → v = w
  quiet : ∀ line n, w.Quiet line n none → v.Quiet line n none

namespace Later
variable {w v : World}

theorem refl (w : World) : Later w w := ⟨.refl w, fun _ => rfl, fun _ _ h => h⟩

theorem trans {u : World} (h : w.Later v) (h' : v.Later u) : w.Later u where
  grows := h.grows.trans h'.grows
  same hidle := by
    have hv := h.same hidle
    rw [h'.same (hv ▸ hidle), hv]
  quiet line n hw := h'.quiet line n (h.quiet line n hw)

theorem settleFrom (fuel ticket : Nat) (w : World) : w.Later (World.settleFrom fuel ticket w) where
  grows := settleFrom_grows fuel ticket w
  same hidle := settleFrom_of_idle hidle fuel ticket
  quiet _ _ hw := hw.settleFrom fuel ticket

theorem settle (h : w.Later v) : w.Later v.settle := h.trans (settleFrom _ _ v)

theorem spent (h : w.Later v) {c : Task} {u : World} (hspent : Spent c u w) : Spent c u v where
  direct hdirect := by
    obtain ⟨hidle, hbooks⟩ := hspent.direct hdirect
    rw [h.same hidle]
    exact ⟨hidle, hbooks⟩
  marked line below hc hbelow := h.quiet line _ (hspent.marked line below hc hbelow)

end Later

theorem Ready.land {w v : World} (h : w.Ready v) (d : Delivery) (r : Except Error Value) :
    w.Ready (v.land d r) where
  idle := idle_land h.idle d r
  isOpen := h.isOpen
  books := ⟨h.books.executions, h.books.sent, h.books.log, h.books.reply⟩

end World

/-! ## What a settled stack holds -/

namespace Layer
open World
variable {id : Nat} {c : Task} {b : Except Error Value} {w : World} {ls : List Layer}

/-- The pool has settled the work of layers under a ticket, whose receiver is a future or a callback
that had got so many outcomes before: there is a result, driving it on reaches the end of the work
below the layers, and before that this work was done once or, under a cold layer, not at all. -/
structure Settled (id : Nat) (c : Task) (b : Except Error Value) (w : World) (ls : List Layer)
    (ticket got : Nat) (d : Delivery) (r : Except Error Value) (v : World) : Prop where
  result : v.result? ticket = some r
  outcome : ∀ i, d = .callback i → v.delivered[got]? = some (i, r)
  rests : Rests c w ls v
  reaches : ∀ v', v.Later v' →
    ∃ u, reach id ls (got + (d.outcomes r).length) (.result r) v' = some (.result b, u) ∧
      Spent c w u

/-- Work under layers that is put on the pool is settled. -/
def Carries (id : Nat) (c : Task) (b : Except Error Value) (w : World) (ls : List Layer) : Prop :=
  ∀ v d fuel, w.Ready v → ls.length < fuel →
    ∃ r, Settled id c b w ls v.entries.length v.delivered.length d r
      (settleFrom fuel v.entries.length (v.spawn (stack id ls c) d))

/-- Work under layers that is run can be driven to the end of the work below them. -/
def Runs (id : Nat) (c : Task) (b : Except Error Value) (w : World) (ls : List Layer) : Prop :=
  ∀ v, w.Ready v →
    (∃ u, reach id ls v.delivered.length ((stack id ls c).run v).1 ((stack id ls c).run v).2 =
      some (.result b, u) ∧ Spent c w u) ∧ Rests c w ls ((stack id ls c).run v).2.settle

theorem quiet_of_idle {v : World} (hidle : v.Idle) (hbooks : w.SameBooks v) (line : String)
    (busy : Option Nat) : v.Quiet line (w.log.count line) busy := by
  rw [← hbooks.log]
  exact .of_idle hidle

theorem spent_run (c : Task) {v : World} (hidle : v.Idle) (hbooks : w.SameBooks v) :
    Spent c w (c.run v).2 where
  direct hc := by
    refine ⟨idle_iff_result?.mpr fun t ht => ?_, Work.run_sameBooks hc hbooks⟩
    rw [run_length hc] at ht
    obtain ⟨r, hr⟩ := Option.ne_none_iff_exists'.mp (idle_iff_result?.mp hidle t ht)
    rw [(run_keeps c v).result? hr]
    exact Option.some_ne_none r
  marked line below hc hbelow := by
    have hrun := Quiet.run hbelow (quiet_of_idle hidle hbooks line none).mark
    rw [hc]
    exact hrun

theorem spent_complete (c : Task) {v : World} (h : w.Ready v) (d : Delivery) :
    Spent c w ((v.spawn c d).complete v.entries.length) := by
  have hlength : (v.spawn c d).entries.length = v.entries.length + 1 := by
    simp [spawn]
  have hkeeps := run_keeps c (v.spawn c d)
  rw [complete_fresh h.isOpen]
  refine ⟨fun hc => ⟨idle_iff_result?.mpr fun t ht => ?_, ?_⟩, fun line below hc hbelow => ?_⟩
  · -- every other task had its result before, and this one has just got it
    rw [finish_length, run_length hc, hlength] at ht
    rw [result?_finish _ _ (by rw [run_length hc, hlength]; omega)]
    split
    · exact Option.some_ne_none _
    · obtain ⟨r, hr⟩ := Option.ne_none_iff_exists'.mp
        (idle_iff_result?.mp h.idle t (by omega))
      rw [hkeeps.result? ((keeps_spawn v c d).result? hr)]
      exact Option.some_ne_none r
  · have hfresh : w.SameBooks (v.spawn c d) :=
      ⟨h.books.executions, h.books.sent, h.books.log, h.books.reply⟩
    exact (Work.run_sameBooks hc hfresh).trans (finish_sameBooks _ _ _ _)
  · -- while the task runs, its own entry still holds the line that it starts with
    have hfresh : (v.spawn c d).Quiet line (w.log.count line) (some v.entries.length) :=
      (quiet_of_idle h.idle h.books line _).spawn d fun hne => (hne rfl).elim
    have hrun : (c.run (v.spawn c d)).2.Quiet line (w.log.count line + 1)
        (some v.entries.length) := by
      have hrun := Quiet.run hbelow hfresh.mark
      rw [hc] at hrun ⊢
      exact hrun
    exact hrun.finish (fun t ht => (Option.some.inj ht).symm) _ _

theorem runs_nil (hc : c.EndsIn w b) : Runs id c b w [] := by
  intro v hv
  have hspent : Spent c w (c.run v).2 := spent_run c hv.idle hv.books
  refine ⟨⟨(c.run v).2, ?_, hspent⟩, fun h => ?_, fun _ => ?_⟩
  · simp only [reach, stack, List.foldr_nil]
    rw [hc v hv.books.sent hv.books.reply]
  · cases h
  · exact (Later.refl _).settle.spent hspent

theorem carries_nil (hc : c.EndsIn w b) : Carries id c b w [] := by
  intro v d fuel hv hfuel
  obtain ⟨fuel, rfl⟩ : ∃ m, fuel = m + 1 := ⟨fuel - 1, by omega⟩
  have hb : (c.run (v.spawn c d)).1 = .result b := hc _ hv.books.sent hv.books.reply
  have hkeeps := run_keeps c (v.spawn c d)
  have hlt : v.entries.length < (v.spawn c d).entries.length := by
    simp [spawn]
  -- the world in which the task has just finished
  obtain ⟨u, hu⟩ : ∃ u, u = (v.spawn c d).complete v.entries.length := ⟨_, rfl⟩
  have hspent : Spent c w u := by
    rw [hu]
    exact spent_complete c hv d
  rw [complete_fresh hv.isOpen, hb] at hu
  have hresult : u.result? v.entries.length = some b := by
    rw [hu, result?_finish _ _ (Nat.lt_of_lt_of_le hlt hkeeps.length_le), if_pos rfl]
    rfl
  have hdelivered : u.delivered = v.delivered ++ d.outcomes b := by
    rw [hu, finish_delivered, hkeeps.delivered]
    rfl
  have hlater := Later.settleFrom fuel (v.entries.length + 1) u
  refine ⟨b, ?_⟩
  rw [show stack id [] c = c from rfl, World.settleFrom, if_pos hlt, complete_fresh hv.isOpen, hb,
    ← hu]
  refine ⟨hlater.grows.result _ _ hresult, fun i hi => hlater.grows.outcome ?_,
    ⟨fun h => ?_, fun _ => hlater.spent hspent⟩,
    fun v' hv' => ⟨v', rfl, (hlater.trans hv').spent hspent⟩⟩
  · rw [hdelivered, hi]
    simp [Delivery.outcomes]
  · cases h

/-! ## Hot layers -/

/-- A layer is hot: it puts the work below on the pool for a receiver and ends in what it makes of
the ticket, and driving it is taking the result from that receiver. -/
structure Hot (id : Nat) (l : Layer) (d : Delivery) (g : Nat → Except Error Value) : Prop where
  warm : l ≠ .single
  work : ∀ below, l.work id below = .spawn below d fun ticket => .done (g ticket)
  reach : ∀ (ls : List Layer) (k ticket : Nat) (r : Except Error Value) (v : World),
    v.settle.result? ticket = some r →
    (∀ i, d = .callback i → v.settle.delivered[k]? = some (i, r)) →
    reach id (l :: ls) k (.result (g ticket)) v =
      reach id ls (k + (d.outcomes r).length) (.result r) v.settle

theorem hot_future (id : Nat) : Hot id .future .future fun ticket => .ok (.future ticket) where
  warm := by simp
  work _ := rfl
  reach ls k ticket r v hr _ := by
    simp only [Layer.reach, await, hr, Option.getD_some, Delivery.outcomes, List.length_nil,
      Nat.add_zero]

theorem hot_callback (id : Nat) : Hot id .callback (.callback id) fun _ => .ok .unit where
  warm := by simp
  work _ := rfl
  reach ls k ticket r v _ ho := by
    simp only [Layer.reach, ho id rfl, if_true, Delivery.outcomes, List.length_singleton]

theorem rests_hot {l : Layer} {v : World} (hl : l ≠ .single) (h : Rests c w ls v) :
    Rests c w (l :: ls) v := by
  refine ⟨fun hmem => h.1 ?_, fun hmem => h.2 fun hin => hmem (List.mem_cons_of_mem _ hin)⟩
  rcases List.mem_cons.mp hmem with rfl | hin
  · exact (hl rfl).elim
  · exact hin

/-- A hot layer on the pool lands at once, and the pool goes on with what it has put there. -/
theorem Carries.hot {l : Layer} {d' : Delivery} {g : Nat → Except Error Value}
    (hl : Hot id l d' g) (h : Carries id c b w ls) : Carries id c b w (l :: ls) := by
  intro v d fuel hv hfuel
  obtain ⟨fuel, rfl⟩ : ∃ m, fuel = m + 1 := ⟨fuel - 1, by omega⟩
  rw [List.length_cons] at hfuel
  -- the world in which the layer's own task has landed; the rest of the stack is settled from here
  obtain ⟨u, hu⟩ : ∃ u, u = v.land d (g (v.entries.length + 1)) := ⟨_, rfl⟩
  have hlength : u.entries.length = v.entries.length + 1 := by
    rw [hu]
    exact land_length v d _
  have hdelivered : u.delivered = v.delivered ++ d.outcomes (g (v.entries.length + 1)) := by
    rw [hu]
    rfl
  have hresult : u.result? v.entries.length = some (g (v.entries.length + 1)) := by
    rw [hu]
    exact result?_land v d _
  have hstep : settleFrom (fuel + 1) v.entries.length (v.spawn (stack id (l :: ls) c) d) =
      settleFrom fuel u.entries.length (u.spawn (stack id ls c) d') := by
    rw [stack, List.foldr_cons, hl.work, settleFrom_fresh_spawn hv.isOpen, hu]
    rfl
  have hready : w.Ready u := by
    rw [hu]
    exact hv.land d _
  obtain ⟨r, hr⟩ := h u d' fuel hready (by omega)
  rw [← hstep] at hr
  have hgrows : u.Grows (settleFrom (fuel + 1) v.entries.length
      (v.spawn (stack id (l :: ls) c) d)) := by
    rw [hstep]
    exact (keeps_spawn u _ d').grows.trans (settleFrom_grows _ _ _)
  refine ⟨g (v.entries.length + 1), hgrows.result _ _ hresult, fun i hi => hgrows.outcome ?_,
    rests_hot hl.warm hr.rests, fun v' hv' => ?_⟩
  · rw [hdelivered, hi]
    simp [Delivery.outcomes]
  · have hk : v.delivered.length + (d.outcomes (g (v.entries.length + 1))).length =
        u.delivered.length := by
      rw [hdelivered, List.length_append]
    -- waiting settles the pool again, which takes nothing of this away
    have hlater := hv'.settle
    rw [hk, ← hlength, hl.reach ls _ _ r v' (hlater.grows.result _ _ hr.result)
      fun i hi => hlater.grows.outcome (hr.outcome i hi)]
    exact hr.reaches _ hlater

/-- A hot layer that is run leaves the rest to the pool, which carries it. -/
theorem Runs.hot {l : Layer} {d : Delivery} {g : Nat → Except Error Value} (hl : Hot id l d g)
    (hlen : ls.length < layers) (h : Carries id c b w ls) : Runs id c b w (l :: ls) := by
  intro v hv
  have hrun : (stack id (l :: ls) c).run v =
      (.result (g v.entries.length), v.spawn (stack id ls c) d) := by
    rw [stack, List.foldr_cons, hl.work]
    rfl
  obtain ⟨fuel, hfuel, hsettle⟩ := settle_spawn hv.idle (stack id ls c) d
  obtain ⟨r, hr⟩ := h v d fuel hv (by omega)
  rw [← hsettle] at hr
  rw [hrun]
  refine ⟨?_, rests_hot hl.warm hr.rests⟩
  rw [hl.reach ls _ _ r _ hr.result hr.outcome]
  exact hr.reaches _ (.refl _)

/-! ## Cold layers -/

/-- A cold layer on the pool lands and leaves nothing to do, so that whoever asks it finds the pool
as it was and runs the rest. -/
theorem Carries.single (h : Runs id c b w ls) : Carries id c b w (.single :: ls) := by
  intro v d fuel hv hfuel
  obtain ⟨fuel, rfl⟩ : ∃ m, fuel = m + 1 := ⟨fuel - 1, by omega⟩
  have hland : settleFrom (fuel + 1) v.entries.length
      (v.spawn (stack id (.single :: ls) c) d) = v.land d (.ok (.single (stack id ls c))) :=
    settleFrom_fresh_done hv.idle hv.isOpen _ d fuel
  have hready := hv.land d (.ok (.single (stack id ls c)))
  rw [hland]
  refine ⟨.ok (.single (stack id ls c)), result?_land v d _, fun i hi => ?_,
    ⟨fun _ => hready.books, fun hmem => ?_⟩, fun v' hv' => ?_⟩
  · rw [hi]
    simp [land, Delivery.outcomes]
  · exact (hmem List.mem_cons_self).elim
  · rw [hv'.same hready.idle, reach, settle_of_idle hready.idle, ← List.length_append]
    exact (h _ hready).1

theorem Runs.single (h : Runs id c b w ls) : Runs id c b w (.single :: ls) := by
  intro v hv
  have hrun : (stack id (.single :: ls) c).run v = (.result (.ok (.single (stack id ls c))), v) :=
    rfl
  rw [hrun]
  simp only [reach, settle_of_idle hv.idle]
  exact ⟨(h v hv).1, fun _ => hv.books, fun hmem => (hmem List.mem_cons_self).elim⟩

/-- Every stack that is not too high carries and runs the work below it: by induction on the stack,
where a hot layer leaves the rest to the pool and a cold one to whoever asks. -/
theorem carries_and_runs (hc : c.EndsIn w b) (ls : List Layer) (hlen : ls.length ≤ layers) :
    Carries id c b w ls ∧ Runs id c b w ls := by
  induction ls with
  | nil => exact ⟨carries_nil hc, runs_nil hc⟩
  | cons l ls ih =>
    rw [List.length_cons] at hlen
    obtain ⟨hcarries, hruns⟩ := ih (by omega)
    cases l with
    | future =>
      exact ⟨hcarries.hot (hot_future id), .hot (hot_future id) (by omega) hcarries⟩
    | callback =>
      exact ⟨hcarries.hot (hot_callback id), .hot (hot_callback id) (by omega) hcarries⟩
    | single => exact ⟨.single hruns, .single hruns⟩

/-! ## The type at the bottom -/

/-- A type that is no value under way: its own handler, if it has one, changes the value that comes
from below. -/
def IsCore (t : TypeExpr) : Prop :=
  ∀ name ∈ [TypeExpr.futureName, TypeExpr.callbackName, TypeExpr.singleName, TypeExpr.streamName],
    t.isNamed name = false

instance (t : TypeExpr) : Decidable (IsCore t) :=
  inferInstanceAs (Decidable (∀ name ∈ _, _))

/-- How many adapters such a type needs itself. -/
def ownSteps (t : TypeExpr) : Nat :=
  if t.isNamed TypeExpr.headersName || t.isNamed TypeExpr.documentName then 1 else 0

/-- The work ends at once; at most it lets go of a value. -/
inductive AtOnce : Task → Prop where
  | done (r : Except Error Value) : AtOnce (.done r)
  | release (v : Value) (r : Except Error Value) : AtOnce (.release v (.done r))

theorem AtOnce.direct {t : Task} (h : AtOnce t) : t.Direct := by
  cases h <;> trivial

theorem AtOnce.silent {t : Task} (h : AtOnce t) (line : String) : t.Silent line := by
  cases h <;> trivial

theorem AtOnce.run {t : Task} (h : AtOnce t) :
    ∃ r, ∀ v : World, (t.run v).1 = .result r ∧ v.SameBooks (t.run v).2 := by
  cases h with
  | done r => exact ⟨r, fun v => ⟨rfl, .refl v⟩⟩
  | release u r => exact ⟨r, fun v => ⟨rfl, abandon_sameBooks v _⟩⟩

theorem atOnce_headersOf (r : Except Error Value) : AtOnce (Handler.headersOf r) := by
  unfold Handler.headersOf
  split
  · exact .done _
  · exact .done _
  · exact .release _ _

theorem atOnce_documentOf (r : Except Error Value) : AtOnce (Handler.documentOf r) := by
  unfold Handler.documentOf
  split
  · exact .done _
  · exact .done _
  · split
    · split <;> exact .done _
    · exact .release _ _

theorem find?_standard (t : TypeExpr) (hcore : IsCore t) :
    Adapter.standard.find? (·.supports t) =
      if t.isNamed TypeExpr.headersName then some .headers
      else if t.isNamed TypeExpr.documentName then some .document else none := by
  simp only [IsCore, List.forall_mem_cons] at hcore
  obtain ⟨hfuture, hcallback, hsingle, hstream, -⟩ := hcore
  simp only [Adapter.standard, Adapter.future, Adapter.callback, Adapter.headers, Adapter.single,
    Adapter.stream, Adapter.document, Adapter.named, List.find?_cons, List.find?_nil, hfuture,
    hcallback, hsingle, hstream]
  cases t.isNamed TypeExpr.headersName <;> cases t.isNamed TypeExpr.documentName <;> rfl

/-- A type at the bottom unfolds by its own steps, and its handler does the call and then ends at
once. -/
theorem unfolds_core {t : TypeExpr} (hcore : IsCore t) :
    ∃ steps u f, Adapter.Unfolds Adapter.standard t steps u ∧
      Adapter.Unsupported Adapter.standard u ∧ steps.length = ownSteps t ∧
      (∀ call args, Adapter.wrapAll steps Handler.terminal call args = call.perform.andThen f) ∧
      ∀ r, AtOnce (f r) := by
  have hfind := find?_standard t hcore
  -- the step of an adapter of its own leads to a type of another name, which nothing supports
  have hown {a : Adapter Handler} {u : TypeExpr}
      (ha : Adapter.standard.find? (·.supports t) = some a) (hinner : a.innerType t = .ok u)
      (hname : u.name ≠ t.name) :
      Adapter.Unfolds Adapter.standard t [(a, t)] u := by
    refine .step (Adapter.find?_eq_some_iff.mp ha) hinner (fun h => hname ?_) (.done u)
    rw [← TypeExpr.unbound_name u, ← TypeExpr.unbound_name t, h]
  cases hheaders : t.isNamed TypeExpr.headersName with
  | true =>
    rw [hheaders, if_pos rfl] at hfind
    refine ⟨[(.headers, t)], .response .void, Handler.headersOf, hown hfind rfl ?_,
      Adapter.find?_eq_none_iff.mp rfl, ?_, fun _ _ => rfl, atOnce_headersOf⟩
    · rw [eq_of_beq hheaders]
      decide
    · simp [ownSteps, hheaders]
  | false =>
    cases hdocument : t.isNamed TypeExpr.documentName with
    | true =>
      rw [hheaders, hdocument, if_neg Bool.false_ne_true, if_pos rfl] at hfind
      refine ⟨[(.document, t)], .any, Handler.documentOf, hown hfind rfl ?_,
        Adapter.find?_eq_none_iff.mp rfl, ?_, fun _ _ => rfl, atOnce_documentOf⟩
      · rw [eq_of_beq hdocument]
        decide
      · simp [ownSteps, hdocument]
    | false =>
      rw [hheaders, hdocument, if_neg Bool.false_ne_true, if_neg Bool.false_ne_true] at hfind
      refine ⟨[], t, .done, .done t, Adapter.find?_eq_none_iff.mp hfind, ?_, fun call _ => ?_,
        .done⟩
      · simp [ownSteps, hheaders, hdocument]
      · exact (Work.andThen_done _).symm

/-! ## Wrappers keep the outcome -/

/-- Handles a call and takes what the layers hand out to its end. -/
def driven (id : Nat) (ls : List Layer) (h : Handler) (call : Call) (args : Arguments) (w : World) :
    Option (Outcome × World) :=
  reach id ls w.delivered.length ((h call args).run w).1 ((h call args).run w).2

/-- What a stream yields when it is asked for all it has, and the world after that. -/
def asked (below : Task) (w : World) : Option (List (Except Error Value)) × World :=
  match below.run w.settle with
  | (.result r, w) => (some (streamItems r), w.abandon r)
  | (.panic _, w) => (none, w)

/-- A call was made once between two worlds. If it puts nothing on the pool, what was executed, sent
and logged is what one run of it does; whatever it does, a line that it starts with and never writes
again was written once. -/
structure Once (call : Task) (w u : World) : Prop where
  books : call.Direct → (call.run w).2.SameBooks u
  marked : ∀ line below, call = .log line below → below.Silent line →
    u.log.count line = w.log.count line + 1

/-- A handler under layers does what the handler without them does: driving it ends in the same
result, and the call is made once; if nothing is asked for it is made once too, or not at all when
a layer is cold. -/
structure Alike (id : Nat) (ls : List Layer) (whole core : Handler) (call : Call)
    (args : Arguments) (w : World) (b : Except Error Value) : Prop where
  alone : ((core call args).run w).1 = .result b
  driven : ∃ u, driven id ls whole call args w = some (.result b, u) ∧ Once call.perform w u
  unasked : (.single ∈ ls → w.SameBooks ((whole call args).run w).2.settle) ∧
    (.single ∉ ls → Once call.perform w ((whole call args).run w).2.settle)

/-- A handler under layers streams what the handler of the list gives: driving it ends in a stream,
for which nothing was done yet; what that yields when it is asked are the elements of the list or
one error, and the call is made once then. -/
structure Streams (id : Nat) (ls : List Layer) (whole listed : Handler) (call : Call)
    (args : Arguments) (w : World) (r : Except Error Value) : Prop where
  alone : ((listed call args).run w).1 = .result r
  driven : ∃ below u, driven id ls whole call args w = some (.result (.ok (.stream below)), u) ∧
    w.SameBooks u ∧
    (∀ items, r = .ok (.list items) → (asked below u).1 = some (items.map .ok)) ∧
    (∀ e, r = .error e → (asked below u).1 = some [.error e]) ∧
    (∀ v, r = .ok v → (∀ items, v ≠ .list items) →
      (asked below u).1 = some [.error (.mismatch "Vec<Value>")]) ∧
    Once call.perform w (asked below u).2
  unasked : w.SameBooks ((whole call args).run w).2.settle

theorem runs_of_endsIn (hc : c.EndsIn w b) (hlen : ls.length ≤ Adapter.maxNesting) :
    Runs id c b w ls :=
  (carries_and_runs hc ls (Nat.le_trans hlen (by decide))).2

/-- What is done with the result of a call at once changes neither how often it is made nor that it
ends. -/
theorem endsIn_andThen {f : Except Error Value → Task} (hf : ∀ r, AtOnce (f r))
    {r : Except Error Value} (hc : c.EndsIn w r) :
    (∃ b, (c.andThen f).EndsIn w b) ∧ (c.run w).2.SameBooks ((c.andThen f).run w).2 := by
  obtain ⟨b, hb⟩ := (hf r).run
  have hrun {v : World} (hv : (c.run v).1 = .result r) :
      (c.andThen f).run v = (f r).run (c.run v).2 := by
    rw [Work.run_andThen, ← Prod.eta (c.run v), hv]
  -- `b` does not depend on the world, so it is the end wherever the call ends in `r`
  refine ⟨⟨b, fun v hsent hreply => ?_⟩, ?_⟩
  · rw [hrun (hc v hsent hreply)]
    exact (hb _).1
  · rw [hrun (hc w rfl rfl)]
    exact (hb _).2

/-- So the call was made once if its work with that was done once. -/
theorem once_of_spent {f : Except Error Value → Task} (hf : ∀ r, AtOnce (f r))
    (hbooks : (c.run w).2.SameBooks ((c.andThen f).run w).2) {u : World}
    (h : Spent (c.andThen f) w u) : Once c w u where
  books hdirect := hbooks.trans (h.direct (hdirect.andThen fun r => (hf r).direct)).2
  marked line below hc hbelow := by
    have hmarked := h.marked line (below.andThen f) (by rw [hc]; rfl)
      (hbelow.andThen fun r => (hf r).silent line)
    exact hmarked.written

variable {args : Arguments} {call : Call} {r : Except Error Value}

/-- The plain half of the result: what stands under the layers is the core's own work. -/
theorem alike_core (hargs : args.callback? = some id) (hcall : call.perform.EndsIn w r)
    (hready : w.Ready w) {t : TypeExpr} (hcore : IsCore t)
    (hlen : ls.length + ownSteps t ≤ Adapter.maxNesting) :
    ∃ whole core b, Handler.resolve Adapter.standard (around ls t) = .ok whole ∧
      Handler.resolve Adapter.standard t = .ok core ∧
      Alike id ls whole.handler core.handler call args w b := by
  obtain ⟨own, u, f, hown, hu, hownlen, hperform, hf⟩ := unfolds_core hcore
  obtain ⟨steps, hsteps, hstepslen, hwrap⟩ := unfolds_around ls t
  obtain ⟨⟨b, hb⟩, hbooks⟩ := endsIn_andThen hf hcall
  have hwhole : Adapter.wrapAll (steps ++ own) Handler.terminal call args =
      stack id ls (call.perform.andThen f) := by
    rw [Adapter.wrapAll_append, hwrap, wrap_apply fun _ => hargs, hperform]
  have hruns : Runs id (call.perform.andThen f) b w ls := runs_of_endsIn hb (by omega)
  obtain ⟨⟨v, hreach, hspent⟩, hrests⟩ := hruns w hready
  refine ⟨⟨Adapter.wrapAll (steps ++ own) Handler.terminal, around ls t, u⟩,
    ⟨Adapter.wrapAll own Handler.terminal, t, u⟩, b, ?_, ?_, ?_, ⟨v, ?_, ?_⟩, ?_⟩
  · exact Adapter.resolve_of_unfolds (hsteps.append hown) (by rw [List.length_append]; omega) hu
  · exact Adapter.resolve_of_unfolds hown (by omega) hu
  · simp only [hperform]
    exact hb w rfl rfl
  · simp only [Layer.driven, hwhole]
    exact hreach
  · exact once_of_spent hf hbooks hspent
  · simp only [hwhole]
    exact ⟨hrests.1, fun hmem => once_of_spent hf hbooks (hrests.2 hmem)⟩

/-- The streaming half: what stands under the layers is a stream that nobody has asked yet. -/
theorem streams_core (hargs : args.callback? = some id) (hcall : call.perform.EndsIn w r)
    (hready : w.Ready w) (t : TypeExpr) (hlen : ls.length + 1 ≤ Adapter.maxNesting) :
    ∃ whole listed, Handler.resolve Adapter.standard (around ls (.stream t)) = .ok whole ∧
      Handler.resolve Adapter.standard (.list t) = .ok listed ∧
      Streams id ls whole.handler listed.handler call args w r := by
  obtain ⟨steps, hsteps, hstepslen, hwrap⟩ := unfolds_around ls (.stream t)
  have hlist : Adapter.Unsupported Adapter.standard (.list t) := Adapter.find?_eq_none_iff.mp rfl
  have hown : Adapter.Unfolds Adapter.standard (.stream t) [(.stream, .stream t)] (.list t) := by
    refine .step (Adapter.find?_eq_some_iff.mp rfl) rfl (fun h => ?_) (.done _)
    have hname : TypeExpr.listName = TypeExpr.streamName := by
      have hnames := congrArg TypeExpr.name h
      rw [TypeExpr.unbound_name, TypeExpr.unbound_name] at hnames
      exact hnames
    exact absurd hname (by decide)
  have hwhole : Adapter.wrapAll (steps ++ [(.stream, .stream t)]) Handler.terminal call args =
      stack id ls (.ok (.stream call.perform)) := by
    rw [Adapter.wrapAll_append, hwrap, wrap_apply fun _ => hargs]
    rfl
  -- handing out the stream is work too, which ends at once and puts nothing on the pool
  have hstream : (Work.ok (.stream call.perform)).EndsIn w (.ok (.stream call.perform)) :=
    fun _ _ _ => rfl
  have hruns : Runs id (.ok (.stream call.perform)) (.ok (.stream call.perform)) w ls :=
    runs_of_endsIn hstream (by omega)
  obtain ⟨⟨u, hreach, hspent⟩, hrests⟩ := hruns w hready
  obtain ⟨hidle, hbooks⟩ := hspent.direct trivial
  have hresult : (call.perform.run u).1 = .result r := hcall u hbooks.sent hbooks.reply
  have hasked : asked call.perform u =
      (some (streamItems r), (call.perform.run u).2.abandon r) := by
    rw [asked, settle_of_idle hidle, ← Prod.eta (call.perform.run u), hresult]
  refine ⟨⟨Adapter.wrapAll (steps ++ [(.stream, .stream t)]) Handler.terminal,
    around ls (.stream t), .list t⟩, ⟨Handler.terminal, .list t, .list t⟩, ?_, ?_, hcall w rfl rfl,
    ⟨call.perform, u, ?_, hbooks, ?_⟩, ?_⟩
  · exact Adapter.resolve_of_unfolds (hsteps.append hown)
      (by rw [List.length_append, List.length_singleton]; omega) hlist
  · exact Adapter.resolve_of_unfolds (.done _) (Nat.zero_le _) hlist
  · simp only [Layer.driven, hwhole]
    exact hreach
  · rw [hasked]
    refine ⟨?_, ?_, ?_, fun h => ?_, fun line below hc hbelow => ?_⟩
    · rintro items rfl
      rfl
    · rintro e rfl
      rfl
    · rintro v rfl hv
      cases v with
      | list items => exact (hv items rfl).elim
      | _ => rfl
    · exact (Work.run_sameBooks h hbooks).trans (abandon_sameBooks _ r)
    · have hmarked := (spent_run call.perform hidle hbooks).marked line below hc hbelow
      exact (hmarked.abandon r).written
  · simp only [hwhole]
    by_cases hmem : .single ∈ ls
    · exact hrests.1 hmem
    · exact ((hrests.2 hmem).direct trivial).2

/-- **Wrappers never change the outcome.** Take any layers of `Future`, `Single` and `Callback`, in
any order and at most sixteen adapters in all, arguments with a callback, and a call that ends in a
result. In a world with nothing left to do and an open pool, the handler under these layers is
resolved and does what the handler of the type at the bottom does (`Alike`), and with a `Stream` at
the bottom it streams what the handler of the list gives (`Streams`). -/
theorem wrappers_keep_outcome (ls : List Layer) (args : Arguments) (call : Call) (w : World)
    (hargs : args.callback? = some id) (hcall : call.perform.EndsIn w r) (hidle : w.Idle)
    (hopen : w.shut = false) :
    (∀ t, IsCore t → ls.length + ownSteps t ≤ Adapter.maxNesting →
      ∃ whole core b, Handler.resolve Adapter.standard (around ls t) = .ok whole ∧
        Handler.resolve Adapter.standard t = .ok core ∧
        Alike id ls whole.handler core.handler call args w b) ∧
    ∀ t, ls.length + 1 ≤ Adapter.maxNesting →
      ∃ whole listed, Handler.resolve Adapter.standard (around ls (.stream t)) = .ok whole ∧
        Handler.resolve Adapter.standard (.list t) = .ok listed ∧
        Streams id ls whole.handler listed.handler call args w r :=
  ⟨fun _ hcore hlen => alike_core hargs hcall ⟨hidle, hopen, .refl w⟩ hcore hlen,
    fun t hlen => streams_core hargs hcall ⟨hidle, hopen, .refl w⟩ t hlen⟩

/-- Two hot and two cold layers around octets: what comes out below them is the body of the answer,
and one request was made. -/
theorem wrappers_keep_outcome_of_octets :
    let x : Exchange := ⟨.own, ⟨[.octets]⟩, .json⟩
    let r := Request.plain ⟨"http", some ⟨"", none, .name "api.example", none⟩, "/greeting", none,
      none⟩ "GET" .any
    let w := World.initial (Reply.inOrder [fun _ => .answer ⟨200, .empty, Text.utf8 "hi"⟩])
    let ls := [future, single, callback, single]
    let call := x.call r .bytes
    let args : Arguments := ⟨[.callback 7]⟩
    let b : Except Error Value := .ok (.octets (Text.utf8 "hi"))
    args.callback? = some 7 ∧ call.perform.EndsIn w b ∧ w.Idle ∧ w.shut = false ∧
      IsCore .bytes ∧ ls.length + ownSteps .bytes ≤ Adapter.maxNesting ∧
      ∃ whole u, Handler.resolve Adapter.standard (around ls .bytes) = .ok whole ∧
        driven 7 ls whole.handler call args w = some (.result b, u) ∧ u.executions = 1 := by
  intro x r w ls call args b
  have hdirect : call.perform.Direct := x.call_direct r .bytes
  have hcall : call.perform.EndsIn w b := hdirect.endsIn rfl
  have hidle : w.Idle := fun e he => by cases he
  have hcore : IsCore .bytes := by decide
  have hlen : ls.length + ownSteps .bytes ≤ Adapter.maxNesting := by decide
  obtain ⟨whole, core, b', hwhole, hbytes, halike⟩ :=
    (wrappers_keep_outcome ls args call w rfl hcall hidle rfl).1 .bytes hcore hlen
  have hterminal : core = ⟨Handler.terminal, .bytes, .bytes⟩ :=
    Except.ok.inj (hbytes.symm.trans rfl)
  have hb : b' = b := by
    have halone := halike.alone
    rw [hterminal] at halone
    exact (Outcome.result.inj halone).symm
  obtain ⟨u, hu, honce⟩ := halike.driven
  rw [hb] at hu
  exact ⟨rfl, hcall, hidle, rfl, hcore, hlen, whole, u, hwhole, hu,
    (honce.books hdirect).executions⟩

end Layer
end Endpoint
