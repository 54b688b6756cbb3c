import Endpoint.Proofs.Layering
import Endpoint.Proofs.Pool

/-!
Typing of work and of the pool. Work makes a shape (`Makes`) when whatever it ends in has the shape,
whatever the other side answers, and when it puts nothing on the pool but the work below a hot layer
of its shape, once. A `Ledger` holds the shapes of the tasks, by their tickets, and those of the
outcomes that callbacks got; it only ever grows. A pool fits it (`Fits`) when every task makes its
shape and all tasks stem from one another, layer by layer: their shapes get deeper, and only the
last of them can put another one there.

What is proved: every change of the world keeps the pool fitting, and so does a step of a task
(`Makes.step`), running work to its end (`Makes.run`), and hence every order of steps
(`Fits.moves`). So every outcome is that of a layer of its own.
-/
namespace Endpoint

/-- What typing refers to: how the other side replies, which errors there may be, and the shape of
the declared type. An error that blames no type may always be. -/
structure Premises where
  reply : Nat → WireRequest → Reply
  excused : Error → Prop
  declared : Shape
  excuses : ∀ e, e.isMistyped = false → excused e

/-- A hot layer hands the work below it to the pool, for a future or for a callback. -/
inductive Shape.Hands : Shape → Delivery → Shape → Prop where
  | future (s : Shape) : Hands (.future s) .future s
  | callback (s : Shape) (id : Nat) : Hands (.callback s) (.callback id) s

namespace Shape.Hands
variable {s u : Shape} {d : Delivery}

theorem isHot (h : s.Hands d u) : s.isHot = true := by
  cases h <;> rfl

theorem depth_lt (h : s.Hands d u) : u.depth < s.depth := by
  cases h <;> exact Nat.lt_succ_self _

theorem floor_eq (h : s.Hands d u) : u.floor = s.floor := by
  cases h <;> rfl

end Shape.Hands

/-- The work makes a value of a shape, when the tasks on the pool make the shapes of the list. Work
that moves may still hand the work below its outermost layer to the pool; other work puts nothing
there. -/
inductive Makes (σ : Premises) : List Shape → Bool → Shape → Task → Prop where
  | value {Γ : List Shape} {b : Bool} {s : Shape} {v : Value} : s.Holds v →
    Makes σ Γ b s (.done (.ok v))
  | future {Γ : List Shape} {b : Bool} {s : Shape} {ticket : Nat} : Γ[ticket]? = some s →
    Makes σ Γ b (.future s) (.done (.ok (.future ticket)))
  | callback {Γ : List Shape} {b : Bool} {s : Shape} : Makes σ Γ b (.callback s) (.done (.ok .unit))
  | single {Γ : List Shape} {b : Bool} {s : Shape} {below : Task} : Makes σ Γ true s below →
    Makes σ Γ b (.single s) (.done (.ok (.single below)))
  | stream {Γ : List Shape} {b : Bool} {s : Shape} {below : Task} :
    Makes σ Γ false (.list s) below → Makes σ Γ b (.stream s) (.done (.ok (.stream below)))
  | fail {Γ : List Shape} {b : Bool} {s : Shape} {e : Error} : σ.excused e →
    Makes σ Γ b s (.done (.error e))
  | panic {Γ : List Shape} {b : Bool} {s : Shape} (p : Payload) : Makes σ Γ b s (.panic p)
  | count {Γ : List Shape} {b : Bool} {s : Shape} {next : Task} : Makes σ Γ b s next →
    Makes σ Γ b s (.count next)
  | report {Γ : List Shape} {b : Bool} {s : Shape} (event : Event) {next : Task} :
    Makes σ Γ b s next → Makes σ Γ b s (.report event next)
  | log {Γ : List Shape} {b : Bool} {s : Shape} (line : String) {next : Task} :
    Makes σ Γ b s next → Makes σ Γ b s (.log line next)
  | send {Γ : List Shape} {b : Bool} {s : Shape} {q : WireRequest}
    {next : Except Error WireResponse → Task} : (∀ a, Makes σ Γ b s (next (.ok a))) →
    (∀ n e, σ.reply n q = .fail e → Makes σ Γ b s (next (.error e))) →
    Makes σ Γ b s (.send q next)
  | spawn {Γ : List Shape} {s u : Shape} {work : Task} {d : Delivery} {next : Nat → Task} :
    s.Hands d u → Makes σ Γ true u work →
    (∀ id, d = .callback id → u ∈ σ.declared.handed) →
    (∀ Δ ticket, Γ <+: Δ → Δ[ticket]? = some u → Makes σ Δ false s (next ticket)) →
    Makes σ Γ true s (.spawn work d next)
  | release {Γ : List Shape} {b : Bool} {s : Shape} (v : Value) {next : Task} :
    Makes σ Γ b s next → Makes σ Γ b s (.release v next)

namespace Makes
variable {σ : Premises} {Γ Δ : List Shape} {b : Bool} {s u : Shape} {t : Task}

theorem getElem?_mono (h : Γ <+: Δ) {ticket : Nat} (ht : Γ[ticket]? = some s) :
    Δ[ticket]? = some s := by
  obtain ⟨rest, rfl⟩ := h
  rw [List.getElem?_append_left (List.getElem?_eq_some_iff.mp ht).1, ht]

theorem mono (h : Makes σ Γ b s t) (hΔ : Γ <+: Δ) : Makes σ Δ b s t := by
  induction h generalizing Δ with
  | value hv => exact .value hv
  | future ht => exact .future (getElem?_mono hΔ ht)
  | callback => exact .callback
  | single _ ih => exact .single (ih hΔ)
  | stream _ ih => exact .stream (ih hΔ)
  | fail he => exact .fail he
  | panic p => exact .panic p
  | count _ ih => exact .count (ih hΔ)
  | report event _ ih => exact .report event (ih hΔ)
  | log line _ ih => exact .log line (ih hΔ)
  | send _ _ ihok ihfail => exact .send (fun a => ihok a hΔ) fun n e he => ihfail n e he hΔ
  | spawn hands _ hd hnext ihwork _ =>
    exact .spawn hands (ihwork hΔ) hd fun Δ' ticket hΔ' ht => hnext Δ' ticket (hΔ.trans hΔ') ht
  | release v _ ih => exact .release v (ih hΔ)

/-- Whether work moves matters for hot layers only. -/
theorem of_moves (h : Makes σ Γ b s t) {b' : Bool} (hb : b = true → s.isHot = true → b' = true) :
    Makes σ Γ b' s t := by
  induction h with
  | value hv => exact .value hv
  | future ht => exact .future ht
  | callback => exact .callback
  | single hbelow _ => exact .single hbelow
  | stream hbelow _ => exact .stream hbelow
  | fail he => exact .fail he
  | panic p => exact .panic p
  | count _ ih => exact .count (ih hb)
  | report event _ ih => exact .report event (ih hb)
  | log line _ ih => exact .log line (ih hb)
  | send _ _ ihok ihfail => exact .send (fun a => ihok a hb) fun n e he => ihfail n e he hb
  | spawn hands hwork hd hnext _ _ =>
    rw [hb rfl hands.isHot]
    exact .spawn hands hwork hd hnext
  | release v _ ih => exact .release v (ih hb)

theorem of_still (h : Makes σ Γ false s t) : Makes σ Γ b s t := h.of_moves fun hb => by cases hb

theorem still_of_done {r : Except Error Value} (h : Makes σ Γ b s (.done r)) :
    Makes σ Γ false s (.done r) := by
  cases h with
  | value hv => exact .value hv
  | future ht => exact .future ht
  | callback => exact .callback
  | single hbelow => exact .single hbelow
  | stream hbelow => exact .stream hbelow
  | fail he => exact .fail he

/-- Work that goes on makes what is made of its result. Where it may hand on the work below its
layer, this is the layer of the whole. -/
theorem andThen {f : Except Error Value → Task} (h : Makes σ Γ b s t) (hsame : b = true → u = s)
    (hf : ∀ Δ r, Γ <+: Δ → Makes σ Δ false s (.done r) → Makes σ Δ false u (f r)) :
    Makes σ Γ b u (t.andThen f) := by
  have hend {Γ : List Shape} {b : Bool} {r : Except Error Value}
      (hf : ∀ Δ r, Γ <+: Δ → Makes σ Δ false s (.done r) → Makes σ Δ false u (f r))
      (h : Makes σ Γ b s (.done r)) : Makes σ Γ b u (f r) :=
    (hf Γ r List.prefix_rfl h.still_of_done).of_still
  induction h with
  | value hv => exact hend hf (.value hv)
  | future ht => exact hend hf (.future ht)
  | callback => exact hend hf .callback
  | single hbelow _ => exact hend hf (.single hbelow)
  | stream hbelow _ => exact hend hf (.stream hbelow)
  | fail he => exact hend hf (.fail he)
  | panic p => exact .panic p
  | count _ ih => exact .count (ih hsame hf hend)
  | report event _ ih => exact .report event (ih hsame hf hend)
  | log line _ ih => exact .log line (ih hsame hf hend)
  | send _ _ ihok ihfail =>
    exact .send (fun a => ihok a hsame hf hend) fun n e he => ihfail n e he hsame hf hend
  | spawn hands hwork hd _ _ ihnext =>
    obtain rfl := hsame rfl
    refine .spawn hands hwork hd fun Δ ticket hΔ ht => ?_
    exact ihnext Δ ticket hΔ ht (fun _ => rfl) (fun Δ' r hΔ' => hf Δ' r (hΔ.trans hΔ')) hend
  | release v _ ih => exact .release v (ih hsame hf hend)

theorem reportAll (h : Makes σ Γ b s t) (events : List Event) :
    Makes σ Γ b s (.reportAll events t) := by
  induction events with
  | nil => exact h
  | cons event events ih => exact .report event ih

end Makes

/-! ## Pools that fit -/

/-- What has come to a pool: the shapes of its tasks, by their tickets, and those of the outcomes
that callbacks got, in their order. Only the mover may yet put another task there by itself. -/
structure Ledger where
  tasks : List Shape
  outcomes : List Shape
  mover : Option Nat

namespace Ledger
variable {L M N : Ledger}

def empty : Ledger := ⟨[], [], none⟩

/-- The ledger with one more task, if there is one, which is the mover then. -/
def put (L : Ledger) : Option Shape → Ledger
  | none => L
  | some u => ⟨L.tasks ++ [u], L.outcomes, some L.tasks.length⟩

/-- The ledger while a task is busy: the task does not move, its own work does. -/
def start (L : Ledger) (ticket : Nat) : Ledger := { L with mover := L.mover.filter (· != ticket) }

/-- One ledger has all that another one has, in the same places. -/
structure Extends (L M : Ledger) : Prop where
  tasks : L.tasks <+: M.tasks
  outcomes : L.outcomes <+: M.outcomes

theorem Extends.refl (L : Ledger) : L.Extends L := ⟨List.prefix_rfl, List.prefix_rfl⟩

theorem Extends.trans (h : L.Extends M) (h' : M.Extends N) : L.Extends N :=
  ⟨h.tasks.trans h'.tasks, h.outcomes.trans h'.outcomes⟩

theorem extends_put (L : Ledger) (new : Option Shape) : L.Extends (L.put new) := by
  cases new with
  | none => exact .refl L
  | some u => exact ⟨List.prefix_append .., List.prefix_rfl⟩

/-- A pool has gone from one ledger to another by itself: without a mover it stands still. -/
structure Grows (L M : Ledger) : Prop extends Extends L M where
  still : L.mover = none → M.mover = none

theorem Grows.refl (L : Ledger) : L.Grows L := ⟨.refl L, id⟩

theorem Grows.trans (h : L.Grows M) (h' : M.Grows N) : L.Grows N :=
  ⟨h.toExtends.trans h'.toExtends, fun hL => h'.still (h.still hL)⟩

/-- The ledger is in order: tasks get deeper, but not below the floor, and none but the last one may
move; outcomes are those of different callback layers. -/
structure InOrder (σ : Premises) (floor : Nat) (L : Ledger) : Prop where
  falling : L.tasks.Pairwise fun a b => b.depth < a.depth
  floor : ∀ u ∈ L.tasks, floor ≤ u.floor
  last : ∀ t, L.mover = some t → t + 1 = L.tasks.length
  nodup : L.outcomes.Nodup
  outcomes : ∀ u ∈ L.outcomes, u ∈ L.tasks ∧ u ∈ σ.declared.handed

namespace InOrder
variable {σ : Premises} {floor : Nat} {u : Shape}

theorem eq_of_getElem? (h : L.InOrder σ floor) {i j : Nat} (hi : L.tasks[i]? = some u)
    (hj : L.tasks[j]? = some u) : i = j := by
  obtain ⟨hilt, hi⟩ := List.getElem?_eq_some_iff.mp hi
  obtain ⟨hjlt, hj⟩ := List.getElem?_eq_some_iff.mp hj
  have hfall := List.pairwise_iff_getElem.mp h.falling
  rcases Nat.lt_trichotomy i j with hlt | heq | hgt
  · have hdepth := hfall i j hilt hjlt hlt
    rw [hi, hj] at hdepth
    omega
  · exact heq
  · have hdepth := hfall j i hjlt hilt hgt
    rw [hi, hj] at hdepth
    omega

theorem depth_le (h : L.InOrder σ floor) {t : Nat} (hmover : L.mover = some t)
    (ht : L.tasks[t]? = some u) : ∀ x ∈ L.tasks, u.depth ≤ x.depth := by
  intro x hx
  have hlast := h.last t hmover
  obtain ⟨i, hi⟩ := List.mem_iff_getElem?.mp hx
  obtain ⟨hilt, hi⟩ := List.getElem?_eq_some_iff.mp hi
  obtain ⟨htlt, ht⟩ := List.getElem?_eq_some_iff.mp ht
  rcases Nat.lt_or_ge i t with hlt | hge
  · have hdepth := List.pairwise_iff_getElem.mp h.falling i t hilt htlt hlt
    rw [hi, ht] at hdepth
    exact Nat.le_of_lt hdepth
  · obtain rfl : i = t := by omega
    obtain rfl : u = x := ht.symm.trans hi
    exact Nat.le_refl _

theorem put (h : L.InOrder σ floor) (hdeeper : ∀ x ∈ L.tasks, u.depth < x.depth)
    (hfloor : floor ≤ u.floor) : (L.put (some u)).InOrder σ floor where
  falling := by
    refine List.pairwise_append.mpr ⟨h.falling, List.pairwise_singleton _ _, fun x hx y hy => ?_⟩
    rw [List.mem_singleton.mp hy]
    exact hdeeper x hx
  floor x hx := by
    rcases List.mem_append.mp hx with hx | hx
    · exact h.floor x hx
    · rw [List.mem_singleton.mp hx]
      exact hfloor
  last t ht := by
    cases ht
    simp [Ledger.put]
  nodup := h.nodup
  outcomes x hx := ⟨List.mem_append_left _ (h.outcomes x hx).1, (h.outcomes x hx).2⟩

end InOrder

theorem start_mover (L : Ledger) {ticket t : Nat} (ht : t ≠ ticket) :
    ((L.start ticket).mover == some t) = (L.mover == some t) := by
  cases hm : L.mover with
  | none => simp [start, hm]
  | some m =>
    by_cases heq : m = ticket
    · subst heq
      simp [start, hm, Option.filter, Ne.symm ht]
    · simp [start, hm, Option.filter, heq]

end Ledger

/-- A task stands well for its shape: what is left of it makes the shape, or its result is of it. -/
def Progress.Fits (σ : Premises) (Γ : List Shape) (b : Bool) (u : Shape) : Progress → Prop
  | .pending work => Makes σ Γ b u work
  | .finished r => Makes σ Γ false u (.done r)
  | .discarded => True

theorem Progress.Fits.mono {σ : Premises} {Γ Δ : List Shape} {b : Bool} {u : Shape} {p : Progress}
    (h : p.Fits σ Γ b u) (hΔ : Γ <+: Δ) : p.Fits σ Δ b u := by
  cases p with
  | pending work => exact Makes.mono h hΔ
  | finished r => exact Makes.mono h hΔ
  | discarded => trivial

/-- A task fits its shape. How a busy one stands is left open. -/
structure Entry.Fits (σ : Premises) (L : Ledger) (moves busy : Bool) (u : Shape) (e : Entry) :
    Prop where
  progress : busy = false → e.progress.Fits σ L.tasks moves u
  fresh : busy = true ∨ e.progress.isPending = true → u ∉ L.outcomes
  delivery : ∀ id, e.delivery = .callback id → u ∈ σ.declared.handed

/-- The pool fits its ledger; one task may be busy. -/
structure Fits (σ : Premises) (floor : Nat) (L : Ledger) (busy : Option Nat) (w : World) :
    Prop where
  length : w.entries.length = L.tasks.length
  reply : w.reply = σ.reply
  inOrder : L.InOrder σ floor
  task : ∀ (t : Nat) e u, w.entries[t]? = some e → L.tasks[t]? = some u →
    e.Fits σ L (L.mover == some t) (busy == some t) u
  delivered : List.Forall₂ (fun u x => Makes σ L.tasks false u (.done x.2)) L.outcomes w.delivered

namespace Fits
open World
variable {σ : Premises} {floor : Nat} {L : Ledger} {busy : Option Nat} {w : World} {u : Shape}
  {ticket : Nat}

/-- Only the tasks, the outcomes and the other side play a part. -/
theorem of_entries {v : World} (h : Fits σ floor L busy w) (hentries : v.entries = w.entries)
    (hdelivered : v.delivered = w.delivered) (hreply : v.reply = w.reply) :
    Fits σ floor L busy v where
  length := by rw [hentries, h.length]
  reply := by rw [hreply, h.reply]
  inOrder := h.inOrder
  task t e u he := h.task t e u (hentries ▸ he)
  delivered := hdelivered ▸ h.delivered

theorem empty (hreply : w.reply = σ.reply) (hentries : w.entries = [])
    (hdelivered : w.delivered = []) : Fits σ floor .empty none w where
  length := by rw [hentries]; rfl
  reply := hreply
  inOrder := by constructor <;> simp [Ledger.empty]
  task t e u he := by
    rw [hentries] at he
    cases he
  delivered := by
    rw [hdelivered]
    exact .nil

theorem lower (h : Fits σ floor L busy w) {floor' : Nat} (hle : floor' ≤ floor) :
    Fits σ floor' L busy w :=
  { h with
    inOrder := { h.inOrder with floor := fun u hu => Nat.le_trans hle (h.inOrder.floor u hu) } }

/-- A mover under a layer that is not hot does not move. -/
theorem still (h : Fits σ floor L busy w)
    (hcold : ∀ t u, L.mover = some t → L.tasks[t]? = some u → u.isHot = false) :
    Fits σ floor { L with mover := none } busy w := by
  refine ⟨h.length, h.reply, { h.inOrder with last := fun t ht => by cases ht },
    fun t e u he hu => ?_, h.delivered⟩
  have htask := h.task t e u he hu
  refine ⟨fun hbusy => ?_, htask.fresh, htask.delivery⟩
  have hprogress := htask.progress hbusy
  cases hp : e.progress with
  | pending work =>
    rw [hp] at hprogress
    refine Makes.of_moves hprogress fun hmoves hhot => ?_
    rw [hcold t u (by simpa using hmoves) hu] at hhot
    cases hhot
  | finished _ | discarded =>
    rw [hp] at hprogress
    exact hprogress

theorem exists_shape (h : Fits σ floor L busy w) {e : Entry} (he : w.entries[ticket]? = some e) :
    ∃ u, L.tasks[ticket]? = some u := by
  have hlt := (List.getElem?_eq_some_iff.mp he).1
  rw [h.length] at hlt
  exact ⟨L.tasks[ticket], List.getElem?_eq_getElem hlt⟩

theorem exists_entry (h : Fits σ floor L busy w) (hu : L.tasks[ticket]? = some u) :
    ∃ e, w.entries[ticket]? = some e := by
  have hlt := (List.getElem?_eq_some_iff.mp hu).1
  rw [← h.length] at hlt
  exact ⟨w.entries[ticket], List.getElem?_eq_getElem hlt⟩

theorem exists_outcome (h : Fits σ floor L busy w) {i : Nat} {x : Nat × Except Error Value}
    (hx : w.delivered[i]? = some x) :
    ∃ u, L.outcomes[i]? = some u ∧ Makes σ L.tasks false u (.done x.2) := by
  obtain ⟨hi, rfl⟩ := List.getElem?_eq_some_iff.mp hx
  have hlt : i < L.outcomes.length := h.delivered.length_eq ▸ hi
  exact ⟨L.outcomes[i], List.getElem?_eq_getElem hlt, h.delivered.get hlt hi⟩

/-- A task that is put on the pool lies below all that are there, and none of these moves. -/
theorem spawn (h : Fits σ floor L busy w) (hstill : L.mover = none) {work : Task}
    (hwork : Makes σ L.tasks true u work) {d : Delivery}
    (hd : ∀ id, d = .callback id → u ∈ σ.declared.handed)
    (hdeeper : ∀ x ∈ L.tasks, u.depth < x.depth) (hfloor : floor ≤ u.floor) :
    Fits σ floor (L.put (some u)) busy (w.spawn work d) := by
  have hgrows : L.tasks <+: (L.put (some u)).tasks := (L.extends_put (some u)).tasks
  have hnew : u ∉ L.outcomes := fun hu =>
    absurd (hdeeper u (h.inOrder.outcomes u hu).1) (Nat.lt_irrefl _)
  refine ⟨?_, h.reply, h.inOrder.put hdeeper hfloor, fun t e s he hs => ?_,
    h.delivered.imp fun _ _ hx => hx.mono hgrows⟩
  · simp [World.spawn, Ledger.put, h.length]
  · rcases entry_of_spawn he with he | ⟨rfl, rfl⟩
    · have hlt := (List.getElem?_eq_some_iff.mp he).1
      rw [h.length] at hlt
      have htask := h.task t e s he (by
        rwa [Ledger.put, List.getElem?_append_left hlt] at hs)
      have hmoves : ((L.put (some u)).mover == some t) = (L.mover == some t) := by
        simp [Ledger.put, hstill]
        omega
      rw [hmoves]
      exact ⟨fun hbusy => (htask.progress hbusy).mono hgrows, htask.fresh, htask.delivery⟩
    · obtain rfl : u = s := by
        rw [Ledger.put, h.length] at hs
        simpa using hs
      refine ⟨fun _ => ?_, fun _ => hnew, hd⟩
      rw [h.length, Ledger.put, beq_self_eq_true]
      cases w.shut with
      | true => trivial
      | false => exact hwork.mono hgrows

/-- A task is changed. Who moves and who is busy may change with it, but for the other tasks. -/
theorem update (h : Fits σ floor L busy w) {f : Entry → Entry} {mover busy' : Option Nat}
    (hlast : ∀ t, mover = some t → t + 1 = L.tasks.length)
    (hothers : ∀ t, t ≠ ticket →
      (mover == some t) = (L.mover == some t) ∧ (busy' == some t) = (busy == some t))
    (hf : ∀ e u, w.entries[ticket]? = some e → L.tasks[ticket]? = some u →
      (f e).Fits σ L (mover == some ticket) (busy' == some ticket) u) :
    Fits σ floor { L with mover } busy' (w.update ticket f) := by
  refine ⟨?_, h.reply, { h.inOrder with last := hlast }, fun t e s he hs => ?_, h.delivered⟩
  · rw [World.update, List.length_modify, h.length]
  · obtain ⟨e', he', rfl⟩ := entry_of_update he
    by_cases ht : ticket = t
    · subst ht
      rw [if_pos rfl]
      have htask := hf e' s he' hs
      exact ⟨htask.progress, htask.fresh, htask.delivery⟩
    · have htask := h.task t e' s he' hs
      rw [if_neg ht, (hothers t (Ne.symm ht)).1, (hothers t (Ne.symm ht)).2]
      exact ⟨htask.progress, htask.fresh, htask.delivery⟩

theorem abandon (h : Fits σ floor L busy w) (r : Except Error Value) :
    Fits σ floor L busy (w.abandon r) := by
  unfold World.abandon
  split
  · refine h.update h.inOrder.last (fun _ _ => ⟨rfl, rfl⟩) fun e u he hu => ?_
    have htask := h.task _ e u he hu
    exact ⟨htask.progress, htask.fresh, htask.delivery⟩
  · exact h

theorem start (h : Fits σ floor L none w) {e : Entry} {work : Task}
    (he : w.entries[ticket]? = some e) (hp : e.progress = .pending work) :
    Fits σ floor (L.start ticket) (some ticket) w := by
  refine ⟨h.length, h.reply, { h.inOrder with last := fun t ht => ?_ }, fun t e' u he' hu => ?_,
    h.delivered⟩
  · exact h.inOrder.last t (Option.filter_eq_some_iff.mp ht).1
  · have htask := h.task t e' u he' hu
    by_cases ht : t = ticket
    · subst ht
      obtain rfl : e' = e := Option.some.inj (he'.symm.trans he)
      refine ⟨fun hbusy => by simp at hbusy, fun _ => htask.fresh (.inr ?_), htask.delivery⟩
      rw [hp]
      rfl
    · rw [L.start_mover ht, show (some ticket == some t) = (none == some t) by simp [Ne.symm ht]]
      exact ⟨htask.progress, htask.fresh, htask.delivery⟩

theorem guarded {Γ : List Shape} {o : Outcome}
    (ho : ∀ r, o = .result r → Makes σ Γ false u (.done r)) :
    Makes σ Γ false u (.done o.guarded) := by
  cases o with
  | result r => exact ho r rfl
  | panic p => exact .fail (σ.excuses _ rfl)

theorem conclude (h : Fits σ floor L (some ticket) w) {o : Outcome}
    (hu : L.tasks[ticket]? = some u)
    (ho : ∀ r, o = .result r → Makes σ L.tasks false u (.done r)) :
    Fits σ floor L none (w.conclude ticket o) := by
  have hothers (t : Nat) (ht : t ≠ ticket) : (L.mover == some t) = (L.mover == some t) ∧
      ((none : Option Nat) == some t) = (some ticket == some t) :=
    ⟨rfl, by simp [Ne.symm ht]⟩
  have hf (v : World) (hv : Fits σ floor L (some ticket) v) (e : Entry) (s : Shape)
      (he : v.entries[ticket]? = some e) (hs : L.tasks[ticket]? = some s) :
      ({ e with progress := .finished o.guarded } : Entry).Fits σ L (L.mover == some ticket)
        ((none : Option Nat) == some ticket) s := by
    obtain rfl : u = s := Option.some.inj (hu.symm.trans hs)
    refine ⟨fun _ => guarded ho, fun h => ?_, (hv.task ticket e u he hs).delivery⟩
    simp [Progress.isPending] at h
  cases o with
  | result r => exact h.update h.inOrder.last hothers (hf w h)
  | panic p =>
    have hreported : Fits σ floor L (some ticket) (w.report (.panicked p.message)) :=
      h.of_entries rfl rfl rfl
    exact hreported.update h.inOrder.last hothers (hf _ hreported)

theorem not_pending_of_conclude {o : Outcome} {e : Entry}
    (he : (w.conclude ticket o).entries[ticket]? = some e) : e.progress.isPending = false := by
  rw [conclude_entries, List.getElem?_modify] at he
  obtain ⟨e', -, rfl⟩ := Option.map_eq_some_iff.mp he
  rw [if_pos rfl]
  rfl

/-- The busy task is finished, and its outcome is handed over if it is for a callback; a panic
becomes an error of any shape. -/
theorem finish (h : Fits σ floor L (some ticket) w) {e : Entry} {o : Outcome}
    (hu : L.tasks[ticket]? = some u)
    (ho : ∀ r, o = .result r → Makes σ L.tasks false u (.done r))
    (hd : ∀ id, e.delivery = .callback id → u ∈ σ.declared.handed) :
    ∃ M, L.Grows M ∧ Fits σ floor M none (w.finish ticket e o) := by
  have hconclude := h.conclude hu ho
  apply finish_cases (P := fun v => ∃ M, L.Grows M ∧ Fits σ floor M none v)
  · exact fun _ => ⟨L, .refl L, hconclude⟩
  · intro id hid
    obtain ⟨e', he'⟩ := h.exists_entry hu
    have hnew : u ∉ L.outcomes := (h.task ticket e' u he' hu).fresh (.inl (by simp))
    refine ⟨{ L with outcomes := L.outcomes ++ [u] },
      ⟨⟨List.prefix_rfl, List.prefix_append ..⟩, fun h => h⟩, hconclude.length, hconclude.reply,
      { hconclude.inOrder with nodup := ?_, outcomes := fun x hx => ?_ },
      fun t x s hx hs => ?_, ?_⟩
    · exact List.nodup_append.mpr ⟨h.inOrder.nodup, by simp, fun a ha b hb hab =>
        hnew (by rwa [← List.mem_singleton.mp hb, ← hab])⟩
    · rcases List.mem_append.mp hx with hx | hx
      · exact h.inOrder.outcomes x hx
      · rw [List.mem_singleton.mp hx]
        exact ⟨List.mem_of_getElem? hu, hd _ hid⟩
    · have htask := hconclude.task t x s hx hs
      refine ⟨htask.progress, fun hpending hmem => ?_, htask.delivery⟩
      rcases List.mem_append.mp hmem with hmem | hmem
      · exact htask.fresh hpending hmem
      · -- no two tasks have one shape, and the one that has this shape has just finished
        obtain rfl := List.mem_singleton.mp hmem
        obtain rfl := hconclude.inOrder.eq_of_getElem? hs hu
        rcases hpending with hbusy | hpending
        · simp at hbusy
        · rw [not_pending_of_conclude hx] at hpending
          cases hpending
    · exact List.rel_append hconclude.delivered (.cons (guarded ho) .nil)
  · exact fun _ => ⟨L, .refl L, (hconclude.abandon _).of_entries rfl rfl rfl⟩

end Fits

/-! ## Doing work -/

/-- Work may move where nobody else does, when it is as deep as anything on the pool and gets no
deeper than the floor. -/
structure Ledger.Admits (L : Ledger) (floor : Nat) (s : Shape) : Prop where
  still : L.mover = none
  deepest : ∀ x ∈ L.tasks, s.depth ≤ x.depth
  floor : floor ≤ s.floor

/-- Work of a shape was done, and at most it has put the work below its layer on the pool. -/
structure Ran (σ : Premises) (floor : Nat) (L : Ledger) (busy : Option Nat) (b : Bool) (s : Shape)
    (new : Option Shape) (w : World) : Prop where
  fits : Fits σ floor (L.put new) busy w
  below : ∀ u, new = some u → b = true ∧ u.depth < s.depth

namespace Makes
open World
variable {σ : Premises} {floor : Nat} {L : Ledger} {busy : Option Nat} {b : Bool} {s u : Shape}
  {t : Task} {w : World}

theorem ran_of_nothing (h : Fits σ floor L busy w) : Ran σ floor L busy b s none w :=
  ⟨h, fun u hu => by cases hu⟩

theorem spawned (h : Fits σ floor L busy w) (hadmits : L.Admits floor s) {work : Task}
    {d : Delivery} (hands : s.Hands d u) (hwork : Makes σ L.tasks true u work)
    (hd : ∀ id, d = .callback id → u ∈ σ.declared.handed) :
    Fits σ floor (L.put (some u)) busy (w.spawn work d) ∧
      (L.put (some u)).tasks[w.nextTicket]? = some u := by
  refine ⟨h.spawn hadmits.still hwork hd (fun x hx => ?_) (hands.floor_eq ▸ hadmits.floor), ?_⟩
  · exact Nat.lt_of_lt_of_le hands.depth_lt (hadmits.deepest x hx)
  · rw [nextTicket, h.length]
    exact List.getElem?_concat_length

/-- Work that makes a shape ends in a result of it, and the pool fits all along. -/
theorem run (h : Makes σ L.tasks b s t) (hw : Fits σ floor L busy w)
    (hmay : b = true → L.Admits floor s) :
    ∃ new, Ran σ floor L busy b s new (t.run w).2 ∧
      ∀ r, (t.run w).1 = .result r → Makes σ (L.put new).tasks false s (.done r) := by
  -- work that has ended leaves the pool and its result is what it is
  have hdone {L : Ledger} {b : Bool} {s : Shape} {w : World} {r : Except Error Value}
      (h : Makes σ L.tasks b s (.done r)) (hw : Fits σ floor L busy w) :
      ∃ new, Ran σ floor L busy b s new w ∧
        ∀ r', Outcome.result r = .result r' → Makes σ (L.put new).tasks false s (.done r') :=
    ⟨none, ran_of_nothing hw, fun r' hr => Outcome.result.inj hr ▸ h.still_of_done⟩
  generalize hΓ : L.tasks = Γ at h
  induction h generalizing w L with
  | value hv => exact hdone (.value hv) hw
  | future ht => exact hdone (.future (hΓ ▸ ht)) hw
  | callback => exact hdone .callback hw
  | single hbelow _ => exact hdone (.single (hΓ ▸ hbelow)) hw
  | stream hbelow _ => exact hdone (.stream (hΓ ▸ hbelow)) hw
  | fail he => exact hdone (.fail he) hw
  | panic p => exact ⟨none, ran_of_nothing hw, fun r hr => by cases hr⟩
  | count _ ih | report _ _ ih | log _ _ ih => exact ih (hw.of_entries rfl rfl rfl) hmay hΓ
  | @send Γ b s q next _ _ ihok ihfail =>
    have hposted : Fits σ floor L busy (w.post q) := hw.of_entries rfl rfl rfl
    simp only [Work.run]
    cases hreply : w.reply w.sent.length q with
    | answer a => exact ihok a hposted hmay hΓ
    | fail e => exact ihfail _ e (hw.reply ▸ hreply) hposted hmay hΓ
    | panic p => exact ⟨none, ran_of_nothing hposted, fun r hr => by cases hr⟩
  | @spawn Γ s u work d next hands hwork hd _ _ ihnext =>
    subst hΓ
    obtain ⟨hfits, hticket⟩ := spawned hw (hmay rfl) hands hwork hd
    obtain ⟨new, hran, hresult⟩ := ihnext _ w.nextTicket (L.extends_put (some u)).tasks hticket
      hfits (fun h => by cases h) rfl
    -- what comes after it puts nothing else on the pool
    obtain rfl : new = none := by
      cases new with
      | none => rfl
      | some x => cases (hran.below x rfl).1
    refine ⟨some u, ⟨hran.fits, fun x hx => ?_⟩, hresult⟩
    cases hx
    exact ⟨rfl, hands.depth_lt⟩
  | release v _ ih => exact ih (hw.abandon _) hmay hΓ

/-- So does one step of it, and what is left makes the shape. -/
theorem step (h : Makes σ L.tasks b s t) (hw : Fits σ floor L busy w)
    (hmay : b = true → L.Admits floor s) :
    ∃ new, Ran σ floor L busy b s new (t.step w).2 ∧
      match (t.step w).1 with
      | .inl rest => Makes σ (L.put new).tasks (b && new.isNone) s rest
      | .inr o => ∀ r, o = .result r → Makes σ (L.put new).tasks false s (.done r) := by
  have hgoes {rest : Task} {v : World} (hrest : Makes σ L.tasks b s rest)
      (hv : Fits σ floor L busy v) : ∃ new, Ran σ floor L busy b s new v ∧
        Makes σ (L.put new).tasks (b && new.isNone) s rest := by
    refine ⟨none, ran_of_nothing hv, ?_⟩
    rw [Option.isNone_none, Bool.and_true]
    exact hrest
  cases t with
  | done r =>
    exact ⟨none, ran_of_nothing hw, fun r' hr => Outcome.result.inj hr ▸ h.still_of_done⟩
  | panic p => exact ⟨none, ran_of_nothing hw, fun r hr => by cases hr⟩
  | count next =>
    cases h with
    | count hnext => exact hgoes hnext (hw.of_entries rfl rfl rfl)
  | report event next =>
    cases h with
    | report _ hnext => exact hgoes hnext (hw.of_entries rfl rfl rfl)
  | log line next =>
    cases h with
    | log _ hnext => exact hgoes hnext (hw.of_entries rfl rfl rfl)
  | send q next =>
    have hposted : Fits σ floor L busy (w.post q) := hw.of_entries rfl rfl rfl
    cases h with
    | send hok hfail =>
      simp only [Work.step]
      cases hreply : w.reply w.sent.length q with
      | answer a => exact hgoes (hok a) hposted
      | fail e => exact hgoes (hfail _ e (hw.reply ▸ hreply)) hposted
      | panic p => exact ⟨none, ran_of_nothing hposted, fun r hr => by cases hr⟩
  | spawn work d next =>
    cases h with
    | @spawn _ _ u _ _ _ hands hwork hd hnext =>
      obtain ⟨hfits, hticket⟩ := spawned hw (hmay rfl) hands hwork hd
      refine ⟨some u, ⟨hfits, fun x hx => ?_⟩, hnext _ _ (L.extends_put (some u)).tasks hticket⟩
      cases hx
      exact ⟨rfl, hands.depth_lt⟩
  | release v next =>
    cases h with
    | release _ hnext => exact hgoes hnext (hw.abandon _)

end Makes

/-! ## Every order of steps -/

namespace Fits
open World
variable {σ : Premises} {floor : Nat} {L : Ledger} {w : World} {u : Shape} {ticket : Nat}

theorem admits (h : Fits σ floor L none w) (hu : L.tasks[ticket]? = some u)
    (hmover : (L.mover == some ticket) = true) : (L.start ticket).Admits floor u := by
  have hmover : L.mover = some ticket := by simpa using hmover
  exact ⟨by simp [Ledger.start, hmover, Option.filter], h.inOrder.depth_le hmover hu,
    h.inOrder.floor u (List.mem_of_getElem? hu)⟩

/-- A task puts another one on the pool only if it is the mover. -/
theorem grows_of_ran {new : Option Shape} {v : World}
    (hran : Ran σ floor (L.start ticket) (some ticket) (L.mover == some ticket) u new v) :
    L.Grows ((L.start ticket).put new) := by
  cases new with
  | none =>
    exact ⟨⟨List.prefix_rfl, List.prefix_rfl⟩, fun h => by simp [Ledger.put, Ledger.start, h]⟩
  | some x =>
    refine ⟨⟨List.prefix_append .., List.prefix_rfl⟩, fun h => ?_⟩
    have hmoves := (hran.below x rfl).1
    rw [h] at hmoves
    cases hmoves

theorem resume (h : Fits σ floor L none w) (hu : L.tasks[ticket]? = some u) {new : Option Shape}
    {v : World} {rest : Task}
    (hran : Ran σ floor (L.start ticket) (some ticket) (L.mover == some ticket) u new v)
    (hrest : Makes σ ((L.start ticket).put new).tasks ((L.mover == some ticket) && new.isNone) u
      rest) :
    ∃ M, L.Grows M ∧
      Fits σ floor M none (v.update ticket fun e => { e with progress := .pending rest }) := by
  have hgrows := grows_of_ran hran
  have hu' := Makes.getElem?_mono hgrows.tasks hu
  have hfits := hran.fits
  have hbusy (t : Nat) (ht : t ≠ ticket) :
      ((none : Option Nat) == some t) = (some ticket == some t) := by
    simp [Ne.symm ht]
  have hentry {moves : Bool} (hrest : Makes σ ((L.start ticket).put new).tasks moves u rest)
      (e : Entry) (s : Shape) (he : v.entries[ticket]? = some e)
      (hs : ((L.start ticket).put new).tasks[ticket]? = some s) :
      ({ e with progress := .pending rest } : Entry).Fits σ ((L.start ticket).put new) moves
        ((none : Option Nat) == some ticket) s := by
    obtain rfl : u = s := Option.some.inj (hu'.symm.trans hs)
    have htask := hfits.task ticket e u he hs
    exact ⟨fun _ => hrest, fun _ => htask.fresh (.inl (by simp)), htask.delivery⟩
  cases new with
  | none =>
    -- it moves again if it did before
    rw [Option.isNone_none, Bool.and_true] at hrest
    refine ⟨L, .refl L, ?_⟩
    exact hfits.update h.inOrder.last
      (fun t ht => ⟨(L.start_mover ht).symm, hbusy t ht⟩) (hentry hrest)
  | some x =>
    have hlt := (List.getElem?_eq_some_iff.mp hu).1
    rw [Option.isNone_some, Bool.and_false] at hrest
    exact ⟨_, hgrows, hfits.update hfits.inOrder.last (fun t ht => ⟨rfl, hbusy t ht⟩)
      (hentry hrest.of_still)⟩

theorem complete (h : Fits σ floor L none w) (ticket : Nat) :
    ∃ M, L.Grows M ∧ Fits σ floor M none (w.complete ticket) := by
  refine complete_cases (P := fun v => ∃ M, L.Grows M ∧ Fits σ floor M none v) ⟨L, .refl L, h⟩ ?_
  intro e work he hp
  obtain ⟨u, hu⟩ := h.exists_shape he
  have htask := h.task ticket e u he hu
  have hwork := htask.progress rfl
  rw [hp] at hwork
  obtain ⟨new, hran, hresult⟩ :=
    Makes.run (L := L.start ticket) hwork (h.start he hp) (h.admits hu)
  have hgrows := grows_of_ran hran
  obtain ⟨M, hM, hfits⟩ :=
    hran.fits.finish (Makes.getElem?_mono hgrows.tasks hu) hresult htask.delivery
  exact ⟨M, hgrows.trans hM, hfits⟩

theorem advance (h : Fits σ floor L none w) (ticket : Nat) :
    ∃ M, L.Grows M ∧ Fits σ floor M none (w.advance ticket) := by
  unfold World.advance
  cases he : w.entries[ticket]? with
  | none => exact ⟨L, .refl L, h⟩
  | some e =>
    obtain ⟨u, hu⟩ := h.exists_shape he
    have htask := h.task ticket e u he hu
    have hwork := htask.progress rfl
    cases hp : e.progress with
    | pending work =>
      rw [hp] at hwork
      simp only [hp]
      obtain ⟨new, hran, hleft⟩ :=
        Makes.step (L := L.start ticket) hwork (h.start he hp) (h.admits hu)
      have hgrows := grows_of_ran hran
      obtain ⟨next, v, hstep⟩ : ∃ next v, work.step w = (next, v) := ⟨_, _, rfl⟩
      rw [hstep] at hran hleft ⊢
      cases next with
      | inl rest => exact h.resume hu hran hleft
      | inr o =>
        obtain ⟨M, hM, hfits⟩ :=
          hran.fits.finish (Makes.getElem?_mono hgrows.tasks hu) hleft htask.delivery
        exact ⟨M, hgrows.trans hM, hfits⟩
    | finished _ | discarded =>
      simp only [hp]
      exact ⟨L, .refl L, h⟩

theorem discard (h : Fits σ floor L none w) (ticket : Nat) :
    Fits σ floor L none (w.discard ticket) := by
  refine h.update h.inOrder.last (fun _ _ => ⟨rfl, rfl⟩) fun e u he hu => ?_
  have htask := h.task ticket e u he hu
  cases hp : e.progress with
  | pending work =>
    refine ⟨fun _ => trivial, fun hpending => ?_, htask.delivery⟩
    simp [Progress.isPending] at hpending
  | finished _ | discarded => exact htask

/-- Whatever the pool does in whatever order, it keeps fitting. -/
theorem moves (h : Fits σ floor L none w) (ms : List Move) :
    ∃ M, L.Grows M ∧ Fits σ floor M none (w.moves ms) := by
  induction ms generalizing L w with
  | nil => exact ⟨L, .refl L, h⟩
  | cons m ms ih =>
    have hmove : ∃ M, L.Grows M ∧ Fits σ floor M none (w.move m) := by
      cases m with
      | advance ticket => exact h.advance ticket
      | complete ticket => exact h.complete ticket
      | discard ticket => exact ⟨L, .refl L, h.discard ticket⟩
    obtain ⟨M, hM, hfits⟩ := hmove
    obtain ⟨N, hN, hfits'⟩ := ih hfits
    exact ⟨N, hM.trans hN, hfits'⟩

theorem settle (h : Fits σ floor L none w) : ∃ M, L.Grows M ∧ Fits σ floor M none w.settle := by
  refine settleFrom_induction (P := fun v => ∃ M, L.Grows M ∧ Fits σ floor M none v) ?_
    ⟨L, .refl L, h⟩ _ _
  rintro v ticket ⟨M, hM, hfits⟩
  obtain ⟨N, hN, hfits'⟩ := hfits.complete ticket
  exact ⟨N, hM.trans hN, hfits'⟩

theorem await (h : Fits σ floor L none w) (hu : L.tasks[ticket]? = some u) :
    Makes σ L.tasks false u (.done (w.await ticket)) := by
  unfold World.await World.result?
  cases he : w.entries[ticket]? with
  | none => exact .fail (σ.excuses _ rfl)
  | some e =>
    have hp := (h.task ticket e u he hu).progress rfl
    cases hprogress : e.progress with
    | pending work =>
      simp only [hprogress]
      exact .fail (σ.excuses _ rfl)
    | finished r =>
      rw [hprogress] at hp
      simp only [hprogress]
      exact hp
    | discarded =>
      simp only [hprogress]
      exact .fail (σ.excuses _ rfl)

end Fits
end Endpoint
