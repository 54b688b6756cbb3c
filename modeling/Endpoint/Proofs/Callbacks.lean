import Endpoint.Proofs.Refusal

/-!
Who is called back, and how often. A stack of layers is driven to its end around any work at all:
it may end in a value, in an error or in a panic, and it may put work of its own on the pool. Each
`Callback` layer hands over one outcome, to the first callback among the arguments.

What is proved:
  1. `fulfils_and_carries`: by induction on the layers, driving them runs the work at the bottom
     once and comes to what it ends in, where a hot layer right above it has made a panic an error
     (`contained`); the outcomes on the way are those that the layers are to hand over (`Handed`);
  2. `handed_count`: these are as many as there are callback layers, all to the same callback;
  3. `callbacks_get_one_outcome_each`: so it is for every declared type that resolves. Without a
     callback among the arguments the outermost callback layer fails in its place, and the call is
     never looked at.

Nothing else is handed over unless the work at the bottom does so itself (`Work.Mute`).
-/
namespace Endpoint

/-! ## Work that calls nobody back -/

/-- Whatever the work puts on the pool, directly or through work that it puts there, is for a
future. -/
def Work.Mute {V : Type} : Work V → Prop
  | done _ | panic _ => True
  | count next | report _ next | log _ next | release _ next => next.Mute
  | send _ next => ∀ answer, (next answer).Mute
  | spawn work d next => d = .future ∧ work.Mute ∧ ∀ ticket, (next ticket).Mute

theorem Work.Direct.mute {V : Type} {t : Work V} (h : t.Direct) : t.Mute := by
  induction t with
  | done | panic => trivial
  | count _ ih | report _ _ ih | log _ _ ih | release _ _ ih => exact ih h
  | send _ _ ih => exact fun answer => ih answer (h answer)
  | spawn _ _ _ _ _ => exact h.elim

theorem Work.Mute.andThen {V : Type} {f : Except Error V → Work V} (hf : ∀ r, (f r).Mute)
    {t : Work V} (h : t.Mute) : (t.andThen f).Mute := by
  induction t with
  | done r => exact hf r
  | panic p => trivial
  | count _ ih | report _ _ ih | log _ _ ih | release _ _ ih => exact ih h
  | send _ _ ih => exact fun answer => ih answer (h answer)
  | spawn _ _ _ _ ih => exact ⟨h.1, h.2.1, fun ticket => ih ticket (h.2.2 ticket)⟩

namespace World

/-- What is left to do on the pool, but for a busy task, calls nobody back, and these are the
outcomes that were handed over. -/
structure Hushed (got : List (Nat × Except Error Value)) (busy : Option Nat) (w : World) :
    Prop where
  mute : ∀ (t : Nat) e work, w.entries[t]? = some e → busy ≠ some t →
    e.progress = .pending work → e.delivery = .future ∧ work.Mute
  delivered : w.delivered = got

namespace Hushed
variable {got : List (Nat × Except Error Value)} {busy : Option Nat} {w v : World}

theorem leaves (h : Hushed got busy w) :
    Leaves (fun d work => d = .future ∧ work.Mute) busy w := h.mute

theorem of_idle (h : w.Idle) : Hushed w.delivered busy w where
  mute := leaves_of_idle h (fun d work => d = .future ∧ work.Mute) busy
  delivered := rfl

theorem of_entries (h : Hushed got busy w) (hentries : v.entries = w.entries)
    (hdelivered : v.delivered = w.delivered) : Hushed got busy v where
  mute t e work he := h.mute t e work (hentries ▸ he)
  delivered := hdelivered.trans h.delivered

theorem spawn (h : Hushed got busy w) {work : Task} {d : Delivery}
    (hwork : busy ≠ some w.entries.length → d = .future ∧ work.Mute) :
    Hushed got busy (w.spawn work d) where
  mute := h.leaves.spawn hwork
  delivered := h.delivered

theorem abandon (h : Hushed got busy w) (r : Except Error Value) :
    Hushed got busy (w.abandon r) where
  mute := h.leaves.abandon r
  delivered := (abandon_delivered w r).trans h.delivered

theorem run {t : Task} (ht : t.Mute) (h : Hushed got busy w) : Hushed got busy (t.run w).2 := by
  induction t generalizing w with
  | done | panic => exact h
  | count _ ih | report _ _ ih | log _ _ ih => exact ih ht (h.of_entries rfl rfl)
  | send q _ ih =>
    have hposted : Hushed got busy (w.post q) := h.of_entries rfl rfl
    simp only [Work.run]
    cases w.reply w.sent.length q with
    | answer a => exact ih _ (ht _) hposted
    | fail e => exact ih _ (ht _) hposted
    | panic p => exact hposted
  | spawn work d next _ ih => exact ih _ (ht.2.2 _) (h.spawn fun _ => ⟨ht.1, ht.2.1⟩)
  | release v _ ih => exact ih ht (h.abandon _)

/-- Once the busy task is finished none is, and its receiver has what it is to get. -/
theorem finish (h : Hushed got busy w) {ticket : Nat} (hbusy : ∀ t, busy = some t → t = ticket)
    (e : Entry) (o : Outcome) :
    Hushed (got ++ e.delivery.outcomes o.guarded) none (w.finish ticket e o) where
  mute := h.leaves.finish hbusy e o
  delivered := by rw [finish_delivered, h.delivered]

theorem complete (h : Hushed got none w) (ticket : Nat) : Hushed got none (w.complete ticket) := by
  have hnone (t : Nat) : none ≠ some t := fun ht => by cases ht
  refine complete_cases h fun e work he hp => ?_
  obtain ⟨hd, hwork⟩ := h.mute ticket e work he (hnone _) hp
  have hbusy (t : Nat) (ht : none = some t) : t = ticket := absurd ht (hnone t)
  have hfinish := (run hwork h).finish hbusy e (work.run w).1
  rw [hd, Delivery.outcomes, List.append_nil] at hfinish
  exact hfinish

theorem settleFrom (h : Hushed got none w) (fuel ticket : Nat) :
    Hushed got none (World.settleFrom fuel ticket w) :=
  settleFrom_induction (fun _ ticket h => h.complete ticket) h fuel ticket

end Hushed

/-- One world is the other after its tasks were let finish, any number of times. -/
inductive Settling : World → World → Prop where
  | refl (w : World) : Settling w w
  | step {w v : World} (fuel ticket : Nat) : Settling w v → Settling w (settleFrom fuel ticket v)

namespace Settling
variable {w v : World}

theorem settle (h : w.Settling v) : w.Settling v.settle := h.step _ _

theorem later (h : w.Settling v) : w.Later v := by
  induction h with
  | refl => exact .refl w
  | step fuel ticket _ ih => exact ih.trans (.settleFrom fuel ticket _)

theorem hushed (h : w.Settling v) {got : List (Nat × Except Error Value)}
    (hw : w.Hushed got none) : v.Hushed got none := by
  induction h with
  | refl => exact hw
  | step fuel ticket _ ih => exact ih.settleFrom fuel ticket

end Settling
end World

/-! ## What layers hand over -/

deriving instance DecidableEq for Layer

namespace Layer
open World

/-- The value that a layer ends in: a future, a single, or nothing where a callback gets it. -/
def Gives : Layer → Value → Prop
  | .future, v => ∃ ticket, v = .future ticket
  | .single, v => ∃ below, v = .single below
  | .callback, v => v = .unit

/-- The result that is received above layers, for work that ends as given below them: the value of
the outermost layer, or what the work itself has come to on the pool. -/
def Received (o : Outcome) : List Layer → Except Error Value → Prop
  | [], r => r = o.guarded
  | l :: _, r => ∃ v, r = .ok v ∧ l.Gives v

/-- The outcomes that layers hand over, for work that ends as given below them: one for each
callback layer, the outermost first. -/
inductive Handed (id : Nat) (o : Outcome) :
    List Layer → List (Nat × Except Error Value) → Prop where
  | nil : Handed id o [] []
  | future {ls : List Layer} {out : List (Nat × Except Error Value)} :
    Handed id o ls out → Handed id o (.future :: ls) out
  | single {ls : List Layer} {out : List (Nat × Except Error Value)} :
    Handed id o ls out → Handed id o (.single :: ls) out
  | callback {ls : List Layer} {out : List (Nat × Except Error Value)} {r : Except Error Value} :
    Received o ls r → Handed id o ls out → Handed id o (.callback :: ls) ((id, r) :: out)

/-- What comes out below layers when the work at the bottom ends as given: where the layer right
above it is hot, the work is done on the pool, which makes a panic an error. -/
def contained (o : Outcome) : List Layer → Outcome
  | [] => o
  | [.single] => o
  | [.future] | [.callback] => .result o.guarded
  | _ :: l :: ls => contained o (l :: ls)

variable {id : Nat} {o : Outcome} {ls : List Layer} {out : List (Nat × Except Error Value)}

/-- There are as many outcomes as callback layers, and the first callback gets them all. -/
theorem handed_count (h : Handed id o ls out) :
    out.length = ls.count .callback ∧ ∀ x ∈ out, x.1 = id := by
  induction h with
  | nil => simp
  | future _ ih | single _ ih => simpa using ih
  | callback _ _ ih => simpa using ih

theorem contained_single (o : Outcome) (ls : List Layer) :
    contained o (.single :: ls) = contained o ls := by
  cases ls <;> rfl

theorem contained_cons (o : Outcome) (l : Layer) (hls : ls ≠ []) :
    contained o (l :: ls) = contained o ls := by
  cases ls with
  | nil => exact (hls rfl).elim
  | cons => cases l <;> rfl

theorem contained_result (r : Except Error Value) (ls : List Layer) :
    contained (.result r) ls = .result r := by
  induction ls with
  | nil => rfl
  | cons l ls ih =>
    by_cases hls : ls = []
    · subst hls
      cases l <;> rfl
    · rw [contained_cons _ l hls, ih]

/-! ## Driving layers to their end -/

/-- What driving layers around work leaves. The work was started where nothing had been executed,
sent or logged since the first world, and was done once; the layers handed over their outcomes after
those that there were, and nothing was handed over besides unless the work does so. -/
structure Fulfilled (id : Nat) (c : Task) (w : World) (ls : List Layer)
    (got : List (Nat × Except Error Value)) (start : World) (out : List (Nat × Except Error Value))
    (u : World) : Prop where
  fresh : w.SameBooks start
  spent : Spent c w u
  handed : Handed id (c.run start).1 ls out
  delivered : got ++ out <+: u.delivered
  nothingElse : c.Mute → u.Hushed (got ++ out) none

/-- Layers around work that is run can be driven to their end. -/
def Fulfils (id : Nat) (c : Task) (w : World) (ls : List Layer) : Prop :=
  ∀ v, w.Ready v → ∃ start out u,
    reach id ls v.delivered.length ((stack id ls c).run v).1 ((stack id ls c).run v).2 =
      some (contained (c.run start).1 ls, u) ∧ Fulfilled id c w ls v.delivered start out u

/-- The pool has settled the work of layers under a ticket, whose receiver is a future or a
callback: there is a result, which was handed on, and driving it on comes to the end of the layers.
The layer that has put the work there is hot, like a future. -/
structure Pooled (id : Nat) (c : Task) (w : World) (ls : List Layer) (ticket : Nat)
    (got : List (Nat × Except Error Value)) (d : Delivery) (r : Except Error Value) (v : World) :
    Prop where
  result : v.result? ticket = some r
  delivered : got ++ d.outcomes r <+: v.delivered
  reaches : ∀ v', v.Settling v' → ∃ start out u,
    reach id ls (got ++ d.outcomes r).length (.result r) v' =
      some (contained (c.run start).1 (.future :: ls), u) ∧
    Received (c.run start).1 ls r ∧ Fulfilled id c w ls (got ++ d.outcomes r) start out u

/-- Layers around work that is put on the pool are settled there. -/
def Floats (id : Nat) (c : Task) (w : World) (ls : List Layer) : Prop :=
  ∀ v d fuel, w.Ready v → ls.length < fuel →
    ∃ r, Pooled id c w ls v.entries.length v.delivered d r
      (settleFrom fuel v.entries.length (v.spawn (stack id ls c) d))

variable {c : Task} {w : World}

theorem fulfils_nil (c : Task) (w : World) : Fulfils id c w [] := by
  intro v hv
  refine ⟨v, [], (c.run v).2, rfl, hv.books, spent_run c hv.idle hv.books, .nil, ?_,
    fun hmute => ?_⟩
  · rw [List.append_nil]
    exact ⟨[], by rw [List.append_nil, (run_keeps c v).delivered]⟩
  · rw [List.append_nil]
    exact (Hushed.of_idle hv.idle).run hmute

theorem floats_nil (c : Task) (w : World) : Floats id c w [] := by
  intro v d fuel hv hfuel
  obtain ⟨fuel, rfl⟩ : ∃ m, fuel = m + 1 := ⟨fuel - 1, by omega⟩
  have hkeeps := run_keeps c (v.spawn c d)
  have hlt : v.entries.length < (v.spawn c d).entries.length := by
    simp [spawn]
  -- the world in which the task has just finished, and its outcome
  obtain ⟨u, hu⟩ : ∃ u, u = (v.spawn c d).complete v.entries.length := ⟨_, rfl⟩
  obtain ⟨o, ho⟩ : ∃ o, o = (c.run (v.spawn c d)).1 := ⟨_, rfl⟩
  have hspent : Spent c w u := by
    rw [hu]
    exact spent_complete c hv d
  rw [complete_fresh hv.isOpen, ← ho] at hu
  have hresult : u.result? v.entries.length = some o.guarded := by
    rw [hu, result?_finish _ _ (Nat.lt_of_lt_of_le hlt hkeeps.length_le), if_pos rfl]
  have hdelivered : u.delivered = v.delivered ++ d.outcomes o.guarded := by
    rw [hu, finish_delivered, hkeeps.delivered]
    rfl
  have hhushed (hmute : c.Mute) : u.Hushed (v.delivered ++ d.outcomes o.guarded) none := by
    have hfresh : (v.spawn c d).Hushed v.delivered (some v.entries.length) :=
      (Hushed.of_idle hv.idle).spawn fun hne => (hne rfl).elim
    rw [hu]
    exact (hfresh.run hmute).finish (fun t ht => (Option.some.inj ht).symm)
      ⟨d, true, .pending c⟩ o
  have hsettled : settleFrom (fuel + 1) v.entries.length (v.spawn (stack id [] c) d) =
      settleFrom fuel (v.entries.length + 1) u := by
    rw [show stack id [] c = c from rfl, settleFrom, if_pos hlt, complete_fresh hv.isOpen, ← ho, hu]
  have hsettling : u.Settling (settleFrom fuel (v.entries.length + 1) u) := .step _ _ (.refl u)
  rw [hsettled]
  refine ⟨o.guarded, hsettling.later.grows.result _ _ hresult, ?_, fun v' hv' => ?_⟩
  · rw [← hdelivered]
    exact hsettling.later.grows.delivered
  · have hlater : u.Later v' := hsettling.later.trans hv'.later
    have hprefix := hlater.grows.delivered
    rw [hdelivered] at hprefix
    refine ⟨v.spawn c d, [], v', ?_, ?_, ?_, hlater.spent hspent, .nil, ?_, fun hmute => ?_⟩
    · rw [← ho]
      rfl
    · rw [← ho]
      rfl
    · exact ⟨hv.books.executions, hv.books.sent, hv.books.log, hv.books.reply⟩
    · rw [List.append_nil]
      exact hprefix
    · rw [List.append_nil]
      exact hv'.hushed (hsettling.hushed (hhushed hmute))

/-- A hot layer ends in a value of its kind, and hands over what its receiver is to get. -/
structure Passes (id : Nat) (l : Layer) (d : Delivery) (g : Nat → Except Error Value) : Prop
    extends Hot id l d g where
  gives : ∀ ticket, ∃ v, g ticket = .ok v ∧ l.Gives v
  hands : ∀ {o : Outcome} {ls : List Layer} {out : List (Nat × Except Error Value)}
    {r : Except Error Value}, Received o ls r → Handed id o ls out →
      Handed id o (l :: ls) (d.outcomes r ++ out)
  contains : ∀ (o : Outcome) (ls : List Layer), contained o (l :: ls) = contained o (.future :: ls)

theorem passes_future (id : Nat) :
    Passes id .future .future fun ticket => .ok (.future ticket) where
  toHot := hot_future id
  gives ticket := ⟨.future ticket, rfl, ticket, rfl⟩
  hands _ h := .future h
  contains _ _ := rfl

theorem passes_callback (id : Nat) : Passes id .callback (.callback id) fun _ => .ok .unit where
  toHot := hot_callback id
  gives _ := ⟨.unit, rfl, rfl⟩
  hands hr h := .callback hr h
  contains o ls := by cases ls <;> rfl

/-- What a layer's receiver gets comes before the outcomes of the layers below. -/
theorem Fulfilled.hands {l : Layer} {d : Delivery} {g : Nat → Except Error Value}
    (hl : Passes id l d g) {got : List (Nat × Except Error Value)} {r : Except Error Value}
    {start u : World} (hr : Received (c.run start).1 ls r)
    (h : Fulfilled id c w ls (got ++ d.outcomes r) start out u) :
    Fulfilled id c w (l :: ls) got start (d.outcomes r ++ out) u where
  fresh := h.fresh
  spent := h.spent
  handed := hl.hands hr h.handed
  delivered := by
    rw [← List.append_assoc]
    exact h.delivered
  nothingElse hmute := by
    rw [← List.append_assoc]
    exact h.nothingElse hmute

/-- What a callback has got stands right behind what had been handed over before. -/
theorem getElem?_of_handed {got : List (Nat × Except Error Value)} {d : Delivery}
    {r : Except Error Value} {v : World} (h : got ++ d.outcomes r <+: v.delivered) {i : Nat}
    (hd : d = .callback i) : v.delivered[got.length]? = some (i, r) := by
  obtain ⟨rest, hrest⟩ := h
  subst hd
  rw [← hrest, Delivery.outcomes, List.append_assoc, List.getElem?_append_right (Nat.le_refl _),
    Nat.sub_self]
  rfl

theorem Fulfils.hot {l : Layer} {d : Delivery} {g : Nat → Except Error Value}
    (hl : Passes id l d g) (hlen : ls.length < layers) (h : Floats id c w ls) :
    Fulfils id c w (l :: ls) := by
  intro v hv
  have hrun : (stack id (l :: ls) c).run v =
      (.result (g v.entries.length), v.spawn (stack id ls c) d) := by
    rw [stack, List.foldr_cons, hl.work]
    rfl
  obtain ⟨fuel, hfuel, hsettle⟩ := settle_spawn hv.idle (stack id ls c) d
  obtain ⟨r, hr⟩ := h v d fuel hv (by omega)
  rw [← hsettle] at hr
  obtain ⟨start, out, u, hreach, hreceived, hfulfilled⟩ := hr.reaches _ (.refl _)
  refine ⟨start, d.outcomes r ++ out, u, ?_, hfulfilled.hands hl hreceived⟩
  rw [hrun, hl.reach ls _ _ r _ hr.result fun i => getElem?_of_handed hr.delivered, hl.contains,
    ← hreach, List.length_append]

/-- A hot layer on the pool lands at once, and the pool goes on with what it has put there. -/
theorem Floats.hot {l : Layer} {d' : Delivery} {g : Nat → Except Error Value}
    (hl : Passes id l d' g) (h : Floats id c w ls) : Floats id c w (l :: ls) := by
  intro v d fuel hv hfuel
  obtain ⟨fuel, rfl⟩ : ∃ m, fuel = m + 1 := ⟨fuel - 1, by omega⟩
  rw [List.length_cons] at hfuel
  -- the world in which the layer's own task has landed; the rest is settled from here
  obtain ⟨y, hy⟩ : ∃ y, y = v.land d (g (v.entries.length + 1)) := ⟨_, rfl⟩
  have hlength : y.entries.length = v.entries.length + 1 := by
    rw [hy]
    exact land_length v d _
  have hdelivered : y.delivered = v.delivered ++ d.outcomes (g (v.entries.length + 1)) := by
    rw [hy]
    rfl
  have hresult : y.result? v.entries.length = some (g (v.entries.length + 1)) := by
    rw [hy]
    exact result?_land v d _
  have hready : w.Ready y := by
    rw [hy]
    exact hv.land d _
  have hstep : settleFrom (fuel + 1) v.entries.length (v.spawn (stack id (l :: ls) c) d) =
      settleFrom fuel y.entries.length (y.spawn (stack id ls c) d') := by
    rw [stack, List.foldr_cons, hl.work, settleFrom_fresh_spawn hv.isOpen, hy]
    rfl
  obtain ⟨r, hr⟩ := h y d' fuel hready (by omega)
  have hgrows : y.Grows (settleFrom fuel y.entries.length (y.spawn (stack id ls c) d')) :=
    (keeps_spawn y _ d').grows.trans (settleFrom_grows _ _ _)
  rw [hstep]
  refine ⟨g (v.entries.length + 1), hgrows.result _ _ hresult, ?_, fun v' hv' => ?_⟩
  · rw [← hdelivered]
    exact hgrows.delivered
  · -- waiting settles the pool again, which takes nothing of this away
    have hsettled := hv'.settle
    obtain ⟨start, out, u, hreach, hreceived, hfulfilled⟩ := hr.reaches _ hsettled
    have hgrown := hsettled.later.grows
    have hresult' : v'.settle.result? (v.entries.length + 1) = some r := by
      rw [← hlength]
      exact hgrown.result _ _ hr.result
    refine ⟨start, d'.outcomes r ++ out, u, ?_, hl.gives _, ?_⟩
    · rw [← hdelivered, hl.reach ls _ _ r _ hresult'
        fun i => getElem?_of_handed (hr.delivered.trans hgrown.delivered), ← List.length_append,
        hreach, ← hl.contains]
      rfl
    · rw [← hdelivered]
      exact hfulfilled.hands hl hreceived

/-- A cold layer does nothing until it is asked, and then the rest is run. -/
theorem Fulfils.single (h : Fulfils id c w ls) : Fulfils id c w (.single :: ls) := by
  intro v hv
  obtain ⟨start, out, u, hreach, hfulfilled⟩ := h v hv
  have hrun : (stack id (.single :: ls) c).run v = (.result (.ok (.single (stack id ls c))), v) :=
    rfl
  refine ⟨start, out, u, ?_, { hfulfilled with handed := .single hfulfilled.handed }⟩
  rw [hrun, contained_single, ← hreach]
  simp only [reach, settle_of_idle hv.idle]

theorem Floats.single (h : Fulfils id c w ls) : Floats id c w (.single :: ls) := by
  intro v d fuel hv hfuel
  obtain ⟨fuel, rfl⟩ : ∃ m, fuel = m + 1 := ⟨fuel - 1, by omega⟩
  have hland : settleFrom (fuel + 1) v.entries.length
      (v.spawn (stack id (.single :: ls) c) d) = v.land d (.ok (.single (stack id ls c))) :=
    settleFrom_fresh_done hv.idle hv.isOpen _ d fuel
  have hready := hv.land d (.ok (.single (stack id ls c)))
  rw [hland]
  refine ⟨.ok (.single (stack id ls c)), result?_land v d _, List.prefix_rfl, fun v' hv' => ?_⟩
  -- nothing is left to do, so whoever asks finds the pool as it was
  obtain rfl : v' = _ := hv'.later.same hready.idle
  obtain ⟨start, out, u, hreach, hfulfilled⟩ := h _ hready
  refine ⟨start, out, u, ?_, ⟨_, rfl, _, rfl⟩,
    { hfulfilled with handed := .single hfulfilled.handed }⟩
  rw [reach, settle_of_idle hready.idle]
  exact hreach.trans (congrArg (fun o => some (o, u)) (contained_single _ ls).symm)

/-- Every stack that is not too high is driven to its end, on the pool or by who runs it: by
induction on the stack, where a hot layer leaves the rest to the pool and a cold one to whoever
asks. -/
theorem fulfils_and_floats (id : Nat) (c : Task) (w : World) (ls : List Layer)
    (hlen : ls.length ≤ layers) : Fulfils id c w ls ∧ Floats id c w ls := by
  induction ls with
  | nil => exact ⟨fulfils_nil c w, floats_nil c w⟩
  | cons l ls ih =>
    rw [List.length_cons] at hlen
    obtain ⟨hfulfils, hfloats⟩ := ih (by omega)
    cases l with
    | future =>
      exact ⟨.hot (passes_future id) (by omega) hfloats, hfloats.hot (passes_future id)⟩
    | callback =>
      exact ⟨.hot (passes_callback id) (by omega) hfloats, hfloats.hot (passes_callback id)⟩
    | single => exact ⟨hfulfils.single, .single hfulfils⟩

end Layer

/-! ## The arguments -/

namespace Arguments

theorem callback?_eq_none_iff {args : Arguments} :
    args.callback? = none ↔ ∀ i, .callback i ∉ args.values := by
  rw [callback?, List.findSome?_eq_none_iff]
  constructor
  · intro h i hi
    have hsome := h _ hi
    simp at hsome
  · intro h x hx
    cases x with
    | callback i => exact (h i hx).elim
    | typed s x => rfl

theorem callback?_of_first {before after : List Argument} {id : Nat}
    (hbefore : ∀ i, .callback i ∉ before) :
    callback? ⟨before ++ .callback id :: after⟩ = some id := by
  have hnone : callback? ⟨before⟩ = none := callback?_eq_none_iff.mpr hbefore
  rw [callback?] at hnone ⊢
  rw [List.findSome?_append, hnone]
  rfl

end Arguments

/-! ## Declared types -/

theorem CoreHandler.mute {t callType : TypeExpr} {h : Handler} (hcore : CoreHandler t h callType)
    {call : Call} (hcall : call.perform.Mute) (args : Arguments) : (h call args).Mute := by
  cases hcore with
  | stream => trivial
  | headers => exact hcall.andThen fun r => (Layer.atOnce_headersOf r).direct.mute
  | document => exact hcall.andThen fun r => (Layer.atOnce_documentOf r).direct.mute
  | terminal => exact hcall

/-- The handler of a declared type does what that of its core does, under its layers. -/
theorem apply_of_resolve {declared : TypeExpr} {m : Resolved Handler} {args : Arguments} {id : Nat}
    (hresolve : Handler.resolve Adapter.standard declared = .ok m)
    (hargs : .callback ∈ declared.layers → args.callback? = some id) (call : Call) :
    ∃ core callType, CoreHandler declared.core core callType ∧
      m.handler call args = Layer.stack id declared.layers (core call args) ∧
      declared.layers.length ≤ World.layers := by
  obtain ⟨left, core, hcore, hlen, hhandler, -, hname⟩ := resolveFrom_strip hresolve
  have hdepth : declared.layers.length ≤ World.layers := by
    simp only [World.layers, Adapter.maxNesting] at hlen ⊢
    omega
  refine ⟨core.handler, core.callType, coreHandler_of_resolveFrom hcore hname, ?_, hdepth⟩
  rw [hhandler]
  exact Layer.wrap_apply hargs core.handler call

namespace Layer
open World

/-- What is handed over when a handler under layers is driven to its end, given how the work at the
bottom ends and the world after that. The count is of everything that was ever handed over, once
all tasks have finished and a stream at the bottom was asked for all it has. -/
structure CallsBack (id : Nat) (t : TypeExpr) (call : Call) (w : World) (o : Outcome)
    (out : List (Nat × Except Error Value)) (u : World) : Prop where
  handed : Handed id o t.layers out
  each : out.length = t.layers.count .callback
  first : ∀ x ∈ out, x.1 = id
  delivered : w.delivered ++ out <+: u.delivered
  total : call.perform.Mute → u.settle.delivered = w.delivered ++ out
  streamed : t.core.isNamed TypeExpr.streamName = true →
    o = .result (.ok (.stream call.perform)) ∧
    (call.perform.Mute → (asked call.perform u).2.settle.delivered = w.delivered ++ out)

variable {id : Nat} {declared : TypeExpr} {m : Resolved Handler} {args : Arguments} {w : World}

/-- A declared type that resolves is driven to its end, and calls back as its layers say. -/
theorem callsBack_of_resolve (hresolve : Handler.resolve Adapter.standard declared = .ok m)
    (hargs : .callback ∈ declared.layers → args.callback? = some id) (call : Call)
    (hidle : w.Idle) (hopen : w.shut = false) :
    ∃ core callType start out u, CoreHandler declared.core core callType ∧ w.SameBooks start ∧
      driven id declared.layers m.handler call args w =
        some (contained ((core call args).run start).1 declared.layers, u) ∧
      Spent (core call args) w u ∧
      CallsBack id declared call w ((core call args).run start).1 out u := by
  obtain ⟨core, callType, hcore, happly, hlen⟩ := apply_of_resolve hresolve hargs call
  have hready : w.Ready w := ⟨hidle, hopen, .refl w⟩
  obtain ⟨start, out, u, hreach, h⟩ :=
    (fulfils_and_floats id (core call args) w declared.layers hlen).1 w hready
  obtain ⟨heach, hfirst⟩ := handed_count h.handed
  have hhushed (hmute : call.perform.Mute) : u.Hushed (w.delivered ++ out) none :=
    h.nothingElse (hcore.mute hmute args)
  refine ⟨core, callType, start, out, u, hcore, h.fresh, ?_, h.spent, h.handed, heach, hfirst,
    h.delivered, fun hmute => ((hhushed hmute).settleFrom _ _).delivered, fun hstream => ?_⟩
  · rw [driven, happly]
    exact hreach
  · cases hcore with
    | stream =>
      refine ⟨rfl, fun hmute => ?_⟩
      have hasked : (asked call.perform u).2.Hushed (w.delivered ++ out) none := by
        have hrun := ((hhushed hmute).settleFrom (u.entries.length * layers) 0).run hmute
        unfold asked
        rw [settle, ← Prod.eta (call.perform.run _)]
        cases (call.perform.run (World.settleFrom (u.entries.length * layers) 0 u)).1 with
        | result r => exact hrun.abandon r
        | panic p => exact hrun
      exact (hasked.settleFrom _ _).delivered
    | headers hnot => rw [hnot] at hstream; cases hstream
    | document hnot => rw [hnot] at hstream; cases hstream
    | terminal hnot => rw [hnot] at hstream; cases hstream

/-- Without a callback among the arguments the outermost callback layer fails, whatever is below. -/
theorem wrap_apply_of_none {outer inner : List Layer} (houter : .callback ∉ outer)
    (hargs : args.callback? = none) (id : Nat) (h : Handler) (call : Call) :
    wrap (outer ++ .callback :: inner) h call args =
      stack id outer (.fail (.configuration .noCallback)) := by
  have happly : wrap outer (wrap (.callback :: inner) h) call args =
      stack id outer (wrap (.callback :: inner) h call args) :=
    wrap_apply (fun hmem => (houter hmem).elim) _ call
  have hfail : wrap (.callback :: inner) h call args = .fail (.configuration .noCallback) := by
    simp only [wrap, List.foldr_cons, handler, Handler.callback, hargs]
  rw [← hfail, ← happly]
  simp only [wrap, List.foldr_append]

/-- The outermost callback layer has nobody to call. Driving the layers outside it comes to its
failure, nothing is handed over, and nothing is executed, sent or logged: the call plays no part. -/
structure Uncalled (id : Nat) (outer : List Layer) (h : Handler) (call : Call) (args : Arguments)
    (w : World) (u : World) : Prop where
  failed : driven id outer h call args w = some (.result (.error (.configuration .noCallback)), u)
  silent : u.settle.delivered = w.delivered
  books : w.SameBooks u
  unseen : ∀ call', h call' args = h call args

theorem uncalled_of_resolve (hresolve : Handler.resolve Adapter.standard declared = .ok m)
    (hargs : args.callback? = none) {outer inner : List Layer}
    (hlayers : declared.layers = outer ++ .callback :: inner) (houter : .callback ∉ outer)
    (id : Nat) (call : Call) (hidle : w.Idle) (hopen : w.shut = false) :
    ∃ u, Uncalled id outer m.handler call args w u := by
  obtain ⟨left, core, hcore, hlen, hhandler, -, -⟩ := resolveFrom_strip hresolve
  have hdepth : outer.length ≤ layers := by
    rw [hlayers, List.length_append] at hlen
    simp only [layers, Adapter.maxNesting] at hlen ⊢
    omega
  have happly (call : Call) : m.handler call args =
      stack id outer (.fail (.configuration .noCallback)) := by
    rw [hhandler, hlayers, wrap_apply_of_none houter hargs id]
  have hready : w.Ready w := ⟨hidle, hopen, .refl w⟩
  obtain ⟨start, out, u, hreach, h⟩ := (fulfils_and_floats id (.fail (.configuration .noCallback)) w
    outer hdepth).1 w hready
  have hnone : out = [] := by
    have hcount := (handed_count h.handed).1
    rw [List.count_eq_zero.mpr houter] at hcount
    exact List.eq_nil_of_length_eq_zero hcount
  refine ⟨u, ?_, ?_, (h.spent.direct trivial).2, fun call' => ?_⟩
  · rw [driven, happly, hreach]
    exact congrArg (fun o => some (o, u)) (contained_result _ outer)
  · have hhushed := (h.nothingElse trivial).settleFrom (u.entries.length * layers) 0
    rw [hnone, List.append_nil] at hhushed
    exact hhushed.delivered
  · rw [happly, happly]

/-- **Each callback layer calls back once.** Take a declared type that resolves, a call of any kind
and a world with nothing left to do and an open pool. With a callback among the arguments the
handler is driven to its end, and the first callback gets one outcome for each callback layer
(`CallsBack`), where the callback layers themselves end in nothing. With none, the outermost
callback layer fails in its place: driving the layers outside it comes to that failure, nobody is
called back and nothing is executed (`Uncalled`). -/
theorem callbacks_get_one_outcome_each
    (hresolve : Handler.resolve Adapter.standard declared = .ok m) (call : Call)
    (hidle : w.Idle) (hopen : w.shut = false) :
    (∀ before after, args.values = before ++ .callback id :: after →
      (∀ i, .callback i ∉ before) →
      ∃ core callType start out u, CoreHandler declared.core core callType ∧ w.SameBooks start ∧
        driven id declared.layers m.handler call args w =
          some (contained ((core call args).run start).1 declared.layers, u) ∧
        Spent (core call args) w u ∧
        CallsBack id declared call w ((core call args).run start).1 out u) ∧
    ((∀ i, .callback i ∉ args.values) →
      ∀ outer inner, declared.layers = outer ++ .callback :: inner → .callback ∉ outer →
        ∃ u, Uncalled id outer m.handler call args w u) := by
  refine ⟨fun before after hvalues hbefore => ?_, fun hnone outer inner hlayers houter => ?_⟩
  · have hargs : args.callback? = some id := by
      rw [show args = ⟨before ++ .callback id :: after⟩ from congrArg Arguments.mk hvalues]
      exact Arguments.callback?_of_first hbefore
    exact callsBack_of_resolve hresolve (fun _ => hargs) call hidle hopen
  · have hargs := Arguments.callback?_eq_none_iff.mpr hnone
    exact uncalled_of_resolve hresolve hargs hlayers houter id call hidle hopen

/-- Two callback layers with a single between them, around a call that panics: the first of two
callbacks gets the single, then the panic as an error. A callback layer around a `Future`, below a
single, finds nobody to call. -/
theorem callbacks_get_one_outcome_each_of_panic :
    let call : Call := .ready (.panic (.text "boom"))
    let text : Argument := .typed .text "note"
    let two : Arguments := ⟨[text, .callback 7, .callback 8]⟩
    let none : Arguments := ⟨[text]⟩
    let w := World.initial (Reply.inOrder [])
    let nested : TypeExpr := .callback (.single (.callback .string))
    let cold : TypeExpr := .single (.callback (.future .string))
    ∃ m m', Handler.resolve Adapter.standard nested = .ok m ∧
      Handler.resolve Adapter.standard cold = .ok m' ∧ w.Idle ∧ w.shut = false ∧
      (∃ below out u, driven 7 nested.layers m.handler call two w =
          some (.result (.error (.execution (.panicked (.text "boom")))), u) ∧
        out = [(7, .ok (.single below)),
          (7, .error (.execution (.panicked (.text "boom"))))] ∧ u.settle.delivered = out) ∧
      ∃ u, Uncalled 7 [single] m'.handler call none w u := by
  intro call text two none w nested cold
  have hidle : w.Idle := fun e he => by cases he
  obtain ⟨m, hm⟩ : ∃ m, Handler.resolve Adapter.standard nested = .ok m := ⟨_, rfl⟩
  obtain ⟨m', hm'⟩ : ∃ m', Handler.resolve Adapter.standard cold = .ok m' := ⟨_, rfl⟩
  refine ⟨m, m', hm, hm', hidle, rfl, ?_, ?_⟩
  · have hvalues : two.values = [text] ++ .callback 7 :: [.callback 8] := rfl
    obtain ⟨core, callType, start, out, u, hcore, -, hdriven, -, hback⟩ :=
      (callbacks_get_one_outcome_each hm call hidle rfl).1 [text] [.callback 8] hvalues
        (fun i hi => by simp [text] at hi)
    have hperform : core call two = .panic (.text "boom") := by
      cases hcore with
      | stream _ hname => exact absurd hname (by decide)
      | headers | document | terminal => rfl
    rw [hperform] at hdriven hback
    have hhanded : Handed 7 (.panic (.text "boom")) [callback, single, callback] out := hback.handed
    -- the first outcome is the single below the outer layer, the second the end of the call
    obtain ⟨below, hout⟩ : ∃ below, out = [(7, .ok (.single below)),
        (7, .error (.execution (.panicked (.text "boom"))))] := by
      cases hhanded with
      | callback houter hinner =>
        obtain ⟨v, rfl, below, rfl⟩ := houter
        cases hinner with
        | single hinner =>
          cases hinner with
          | callback hbottom hnil =>
            cases hnil
            refine ⟨below, ?_⟩
            rw [hbottom]
            rfl
    exact ⟨below, out, u, hdriven, hout, hback.total trivial⟩
  · exact (callbacks_get_one_outcome_each hm' call hidle rfl).2
      (fun i hi => by simp [none, text] at hi) [single] [future] rfl (by decide)

end Layer
end Endpoint
