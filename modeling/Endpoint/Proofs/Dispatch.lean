import Endpoint.Bridge
import Endpoint.Proofs.Pool

/-!
Many dispatches on one pool. Callers dispatch work and ask for the futures that they get, or drop
them; the pool does one step of one task after another, discards tasks, or is closed. All this may
happen in any order (`Act`).

What is proved:
  1. `Dispatch.run_task`: a dispatch makes one task, or none if starting the call panics;
  2. `Session.task?_after`: what becomes of a task is settled by its own work and its own turns
     (`Session.fate`): its steps are done in their order, each once, up to its end or until it is
     discarded;
  3. `Session.accounted_act`: at any time callbacks have got exactly the results of their own tasks
     that have finished, one for each task;
  4. `Session.Sound.act`: what callers were given for a future is the result of its task, once, and
     `Session.issued_act`: until then, or until they drop it, they have the future.
-/
namespace Endpoint

/-! ## Dispatching -/

/-- The work of a call that starts without a panic. -/
def Launch.work? {V : Type} : Launch V → Option (Work V)
  | ready work => some work
  | panic _ => none
  | count next | report _ next => next.work?

/-- The ways to dispatch work: for a future or for a callback, as it is or by starting a call. -/
inductive Dispatch where
  | submit (work : Task)
  | execute (call : Call)
  | enqueueTask (work : Task) (id : Nat)
  | enqueue (call : Call) (id : Nat)

namespace Dispatch

/-- What whoever dispatches does. -/
def task : Dispatch → Task
  | submit work => Bridge.submit work
  | execute call => Bridge.execute call
  | enqueueTask work id => Bridge.enqueueTask work id
  | enqueue call id => Bridge.enqueue call id

/-- The work that is dispatched. There is none where starting a call panics. -/
def work? : Dispatch → Option Task
  | submit work | enqueueTask work _ => some work
  | execute call | enqueue call _ => call.work?

def delivery : Dispatch → Delivery
  | submit _ | execute _ => .future
  | enqueueTask _ id | enqueue _ id => .callback id

/-- The futures that callers get for a task of the given ticket. -/
def futures (d : Dispatch) (ticket : Nat) : List Nat :=
  match d.delivery with
  | .future => [ticket]
  | .callback _ => []

/-- What whoever dispatches gets for a task of the given ticket. -/
def answer (d : Dispatch) (ticket : Nat) : Value :=
  match d.delivery with
  | .future => .future ticket
  | .callback _ => .unit

end Dispatch

/-- The pool is the same in two worlds, and so is what callbacks got. -/
structure World.SamePool (w v : World) : Prop where
  entries : v.entries = w.entries
  shut : v.shut = w.shut
  delivered : v.delivered = w.delivered

/-- Starting a call leaves the pool alone, and either its work is put there or it panics. -/
theorem Launch.run_spawn (call : Call) (d : Delivery) (g : Nat → Value) (w : World) :
    ∃ u, w.SamePool u ∧
      match call.work? with
      | some c => (call.andThen fun work => .spawn work d fun ticket => .ok (g ticket)).run w =
          (.result (.ok (g w.entries.length)), u.spawn c d)
      | none => ∃ p, (call.andThen fun work => .spawn work d fun ticket => .ok (g ticket)).run w =
          (.panic p, u) := by
  induction call generalizing w with
  | ready c => exact ⟨w, ⟨rfl, rfl, rfl⟩, rfl⟩
  | panic p => exact ⟨w, ⟨rfl, rfl, rfl⟩, p, rfl⟩
  | count next ih =>
    obtain ⟨u, hu, h⟩ := ih w.count
    exact ⟨u, ⟨hu.entries, hu.shut, hu.delivered⟩, h⟩
  | report e next ih =>
    obtain ⟨u, hu, h⟩ := ih (w.report e)
    exact ⟨u, ⟨hu.entries, hu.shut, hu.delivered⟩, h⟩

/-- Dispatching puts the work on the pool as one new task, unless starting the call panics. -/
theorem Dispatch.run_task (d : Dispatch) (w : World) :
    ∃ u, w.SamePool u ∧
      match d.work? with
      | some c => d.task.run w =
          (.result (.ok (d.answer w.entries.length)), u.spawn c d.delivery)
      | none => ∃ p, d.task.run w = (.panic p, u) := by
  cases d with
  | submit work => exact Launch.run_spawn (.ready work) .future .future w
  | enqueueTask work id => exact Launch.run_spawn (.ready work) (.callback id) (fun _ => .unit) w
  | execute call =>
    obtain ⟨u, hu, h⟩ := call.run_spawn .future .future (w.report .dispatching)
    exact ⟨u, ⟨hu.entries, hu.shut, hu.delivered⟩, h⟩
  | enqueue call id =>
    obtain ⟨u, hu, h⟩ := call.run_spawn (.callback id) (fun _ => .unit) (w.report .enqueueing)
    exact ⟨u, ⟨hu.entries, hu.shut, hu.delivered⟩, h⟩

/-! ## Callers and the pool -/

/-- The future that an outcome hands to whoever dispatches. -/
def Outcome.futures : Outcome → List Nat
  | .result (.ok (.future ticket)) => [ticket]
  | _ => []

/-- One thing that callers or the pool do. Waiting is asking once, which may have to be repeated. -/
inductive Act where
  | dispatch (d : Dispatch)
  | await (ticket : Nat)
  | drop (ticket : Nat)
  | advance (ticket : Nat)
  | discard (ticket : Nat)
  | close

/-- The world, the futures that callers hold, and what they were given for futures. -/
structure Session where
  world : World
  held : List Nat
  yielded : List (Nat × Except Error Value)

namespace Session

/-- Nothing has been dispatched. -/
def start (reply : Nat → WireRequest → Reply) : Session := ⟨.initial reply, [], []⟩

/-- A future that yields its result is used up; one that is dropped is not waited for any more. -/
def act (s : Session) : Act → Session
  | .dispatch d =>
    { s with
      world := (d.task.run s.world).2
      held := s.held ++ (d.task.run s.world).1.futures }
  | .await ticket =>
    if ticket ∈ s.held then
      match s.world.result? ticket with
      | some r => { s with
          held := s.held.erase ticket
          yielded := s.yielded ++ [(ticket, r)] }
      | none => s
    else s
  | .drop ticket =>
    if ticket ∈ s.held then
      { s with world := s.world.release ticket, held := s.held.erase ticket }
    else s
  | .advance ticket => { s with world := s.world.advance ticket }
  | .discard ticket => { s with world := s.world.discard ticket }
  | .close => { s with world := { s.world with shut := true } }

/-- All acts of a list, one after another. -/
def after (s : Session) (acts : List Act) : Session := acts.foldl act s

variable {s : Session} {d : Dispatch} {c : Task}

theorem act_dispatch (hwork : d.work? = some c) :
    ∃ u, s.world.SamePool u ∧ s.act (.dispatch d) =
      ⟨u.spawn c d.delivery, s.held ++ d.futures s.world.entries.length, s.yielded⟩ := by
  obtain ⟨u, hu, hrun⟩ := d.run_task s.world
  rw [hwork] at hrun
  refine ⟨u, hu, ?_⟩
  simp only [act, hrun, Dispatch.futures, Dispatch.answer]
  cases d.delivery <;> rfl

theorem act_dispatch_of_none (hwork : d.work? = none) :
    ∃ u, s.world.SamePool u ∧ s.act (.dispatch d) = ⟨u, s.held, s.yielded⟩ := by
  obtain ⟨u, hu, hrun⟩ := d.run_task s.world
  rw [hwork] at hrun
  obtain ⟨p, hrun⟩ := hrun
  refine ⟨u, hu, ?_⟩
  simp only [act, hrun, Outcome.futures, List.append_nil]

/-- Asking for a future yields the result of its task, if that is there. -/
theorem act_await (s : Session) (ticket : Nat) :
    s.act (.await ticket) = s ∨ ∃ r, ticket ∈ s.held ∧ s.world.result? ticket = some r ∧
      s.act (.await ticket) =
        { s with held := s.held.erase ticket, yielded := s.yielded ++ [(ticket, r)] } := by
  simp only [act]
  split
  · next hheld =>
    cases hr : s.world.result? ticket with
    | none => exact .inl rfl
    | some r => exact .inr ⟨r, hheld, rfl, rfl⟩
  · exact .inl rfl

theorem act_drop (s : Session) (ticket : Nat) :
    s.act (.drop ticket) = s ∨ ticket ∈ s.held ∧ s.act (.drop ticket) =
      { s with world := s.world.release ticket, held := s.held.erase ticket } := by
  simp only [act]
  split
  · next hheld => exact .inr ⟨hheld, rfl⟩
  · exact .inl rfl

end Session

/-! ## One task -/

/-- A task that has done one step of its work, either with work left or with its end. -/
def Progress.next : Task ⊕ Outcome → Progress
  | .inl rest => .pending rest
  | .inr o => .finished o.guarded

/-- What an act makes of the task of a ticket, in the world where it happens. -/
def Act.does (ticket : Nat) (w : World) : Act → Progress → Progress
  | .advance t, .pending c => if t = ticket then .next (c.step w).1 else .pending c
  | .discard t, .pending c => if t = ticket then .discarded else .pending c
  | _, p => p

theorem Act.does_of_ended {p : Progress} (hp : p.isPending = false) (ticket : Nat) (w : World)
    (a : Act) : a.does ticket w p = p := by
  cases p with
  | pending c => cases hp
  | finished r | discarded => cases a <;> rfl

theorem Act.does_advance_of_ne {ticket t : Nat} (h : ticket ≠ t) (w : World) (p : Progress) :
    Act.does t w (.advance ticket) p = p := by
  cases p with
  | pending c => exact if_neg h
  | finished r | discarded => rfl

/-- What becomes of the task of a ticket: it does its own steps at its own turns, up to its end or
until it is discarded. -/
def Session.fate (ticket : Nat) : List Act → Session → Progress → Progress
  | [], _, p => p
  | a :: acts, s, p => fate ticket acts (s.act a) (a.does ticket s.world p)

namespace World
variable {w v : World} {d : Delivery} {p : Progress} {t ticket : Nat}

/-- Where the result of a task goes, and how it stands. -/
def task? (w : World) (ticket : Nat) : Option (Delivery × Progress) :=
  w.entries[ticket]?.map fun e => (e.delivery, e.progress)

theorem result?_eq_task? (w : World) (t : Nat) :
    w.result? t = (w.task? t).bind fun x => x.2.result? := by
  rw [result?_eq_bind, task?]
  cases w.entries[t]? <;> rfl

theorem Keeps.task? (h : Keeps w v) (ht : w.task? t = some (d, p)) : v.task? t = some (d, p) := by
  obtain ⟨e, he, hx⟩ := Option.map_eq_some_iff.mp ht
  obtain ⟨e', he', hp, hd⟩ := h.entry t e he
  rw [World.task?, he', Option.map_some, hp, hd, hx]

theorem step_keeps (c : Task) (w : World) : Keeps w (c.step w).2 := by
  cases c with
  | done | panic => exact .refl w
  | count | report | log => exact .of_entries rfl rfl rfl rfl
  | send q next =>
    have hpost : Keeps w (w.post q) := .of_entries rfl rfl rfl rfl
    simp only [Work.step]
    cases w.reply w.sent.length q <;> exact hpost
  | spawn work d next => exact keeps_spawn w work d
  | release u next => exact keeps_abandon w _

theorem task?_spawn (w : World) (c : Task) (d : Delivery) :
    (w.spawn c d).task? w.entries.length =
      some (d, if w.shut then .discarded else .pending c) := by
  simp [task?, spawn]

/-- The task of a ticket that is changed stands as the change says, for the same receiver, and all
other tasks stand as before. -/
theorem task?_update {f : Entry → Entry} {g : Progress → Progress}
    (hf : ∀ e, (f e).delivery = e.delivery ∧ (f e).progress = g e.progress) (w : World)
    (ticket t : Nat) :
    (w.update ticket f).task? t =
      (w.task? t).map fun x => if ticket = t then (x.1, g x.2) else x := by
  simp only [task?, update, List.getElem?_modify]
  cases w.entries[t]? with
  | none => rfl
  | some e =>
    simp only [Option.map_some, Option.map_eq_map]
    split
    · rw [(hf e).1, (hf e).2]
    · rfl

theorem task?_release (w : World) (ticket t : Nat) : (w.release ticket).task? t = w.task? t := by
  rw [release, task?_update (g := id)]
  · simp
  · exact fun _ => ⟨rfl, rfl⟩

theorem task?_abandon (w : World) (r : Except Error Value) (t : Nat) :
    (w.abandon r).task? t = w.task? t := by
  unfold abandon
  split
  · exact task?_release w _ t
  · rfl

theorem task?_finish (w : World) (ticket : Nat) (e : Entry) (o : Outcome) (t : Nat) :
    (w.finish ticket e o).task? t =
      (w.task? t).map fun x => if ticket = t then (x.1, .finished o.guarded) else x := by
  have hconclude : (w.conclude ticket o).task? t =
      (w.task? t).map fun x => if ticket = t then (x.1, .finished o.guarded) else x := by
    unfold conclude
    rw [task?_update (g := fun _ => .finished o.guarded)]
    · cases o <;> rfl
    · exact fun _ => ⟨rfl, rfl⟩
  rw [← hconclude]
  refine finish_cases (P := fun v => v.task? t = (w.conclude ticket o).task? t) ?_ ?_ ?_
  · exact fun _ => rfl
  · exact fun _ _ => rfl
  · exact fun _ => task?_abandon _ _ t

theorem task?_discard (h : w.task? t = some (d, p)) (ticket : Nat) :
    (w.discard ticket).task? t = some (d, Act.does t w (.discard ticket) p) := by
  rw [discard, task?_update (g := fun p => Act.does t w (.discard t) p), h, Option.map_some]
  · split
    · next ht => rw [ht]
    · next ht => cases p <;> simp [Act.does, ht]
  · intro e
    cases hp : e.progress <;> simp [hp, Act.does]

theorem task?_advance_pending {e : Entry} {c : Task} (he : w.entries[ticket]? = some e)
    (hp : e.progress = .pending c) (t : Nat) :
    (w.advance ticket).task? t =
      ((c.step w).2.task? t).map fun x => if ticket = t then (x.1, .next (c.step w).1) else x := by
  obtain ⟨next, u, hstep⟩ : ∃ next u, c.step w = (next, u) := ⟨_, _, rfl⟩
  simp only [advance, he, hp, hstep]
  cases next with
  | inl rest =>
    refine task?_update (g := fun _ => .pending rest) ?_ u ticket t
    exact fun _ => ⟨rfl, rfl⟩
  | inr o => exact task?_finish u ticket e o t

/-- A turn is a step of the task whose turn it is; the others stand as they stood. -/
theorem task?_advance (h : w.task? t = some (d, p)) (ticket : Nat) :
    (w.advance ticket).task? t = some (d, Act.does t w (.advance ticket) p) := by
  cases he : w.entries[ticket]? with
  | none =>
    have hne : ticket ≠ t := by
      rintro rfl
      rw [task?, he] at h
      cases h
    rw [Act.does_advance_of_ne hne, advance, he]
    exact h
  | some e =>
    have hown : ticket = t → p = e.progress := by
      rintro rfl
      rw [task?, he] at h
      exact (congrArg Prod.snd (Option.some.inj h)).symm
    cases hp : e.progress with
    | pending c =>
      rw [task?_advance_pending he hp, (step_keeps c w).task? h, Option.map_some]
      by_cases ht : ticket = t
      · rw [if_pos ht, hown ht, hp, Act.does, if_pos ht]
      · rw [if_neg ht, Act.does_advance_of_ne ht]
    | finished r | discarded =>
      have hsame : w.advance ticket = w := by
        simp only [advance, he, hp]
      have hdoes : Act.does t w (.advance ticket) p = p := by
        by_cases ht : ticket = t
        · rw [hown ht, hp, Act.does_of_ended rfl]
        · exact Act.does_advance_of_ne ht w p
      rw [hsame, hdoes, h]

end World

theorem Session.task?_act {s : Session} {t : Nat} {d : Delivery} {p : Progress}
    (h : s.world.task? t = some (d, p)) (a : Act) :
    (s.act a).world.task? t = some (d, a.does t s.world p) := by
  cases a with
  | dispatch e => exact ((World.run_keeps e.task s.world).task? h).trans (by cases p <;> rfl)
  | advance ticket => exact World.task?_advance h ticket
  | discard ticket => exact World.task?_discard h ticket
  | close => exact h.trans (by cases p <;> rfl)
  | await ticket =>
    have hworld : (s.act (.await ticket)).world = s.world := by
      rcases act_await s ticket with hact | ⟨r, -, -, hact⟩ <;> rw [hact]
    rw [hworld, h]
    cases p <;> rfl
  | drop ticket =>
    have htask : (s.act (.drop ticket)).world.task? t = s.world.task? t := by
      rcases act_drop s ticket with hact | ⟨-, hact⟩
      · rw [hact]
      · rw [hact]
        exact World.task?_release _ _ _
    rw [htask, h]
    cases p <;> rfl

theorem Session.task?_after {s : Session} {t : Nat} {d : Delivery} {p : Progress}
    (h : s.world.task? t = some (d, p)) (acts : List Act) :
    (s.after acts).world.task? t = some (d, fate t acts s p) := by
  induction acts generalizing s p with
  | nil => exact h
  | cons a acts ih => exact ih (task?_act h a)

/-! ## What callbacks get -/

theorem filterMap_modify {α β : Type} {g : α → Option β} {f : α → α} {l : List α} {i : Nat}
    (h : ∀ x, l[i]? = some x → g (f x) = g x) : (l.modify i f).filterMap g = l.filterMap g := by
  induction l generalizing i with
  | nil => cases i <;> rfl
  | cons x l ih =>
    cases i with
    | zero => rw [List.modify_zero_cons, List.filterMap_cons, List.filterMap_cons, h x rfl]
    | succ i => rw [List.modify_succ_cons, List.filterMap_cons, List.filterMap_cons, ih h]

theorem filterMap_modify_perm {α β : Type} {g : α → Option β} {f : α → α} {l : List α} {i : Nat}
    {x : α} {y : β} (hx : l[i]? = some x) (hnone : g x = none) (hsome : g (f x) = some y) :
    ((l.modify i f).filterMap g).Perm (l.filterMap g ++ [y]) := by
  induction l generalizing i with
  | nil => cases hx
  | cons x' l ih =>
    cases i with
    | zero =>
      obtain rfl : x' = x := Option.some.inj hx
      rw [List.modify_zero_cons, List.filterMap_cons_some hsome, List.filterMap_cons_none hnone]
      exact (List.perm_append_singleton y _).symm
    | succ i =>
      rw [List.modify_succ_cons, List.filterMap_cons, List.filterMap_cons]
      cases g x' with
      | none => exact ih hx
      | some z => exact (ih hx).cons z

theorem filterMap_single {α β : Type} {g : α → Option β} {l : List α} {i : Nat} {x : α}
    (hx : l[i]? = some x) (h : ∀ j y, j ≠ i → l[j]? = some y → g y = none) :
    l.filterMap g = (g x).toList := by
  induction l generalizing i with
  | nil => cases hx
  | cons x' l ih =>
    cases i with
    | zero =>
      obtain rfl : x' = x := Option.some.inj hx
      have hrest : l.filterMap g = [] := by
        rw [List.filterMap_eq_nil_iff]
        intro y hy
        obtain ⟨j, hj⟩ := List.getElem?_of_mem hy
        exact h (j + 1) y (by omega) hj
      rw [List.filterMap_cons, hrest]
      cases g x' <;> rfl
    | succ i =>
      rw [List.filterMap_cons_none (h 0 x' (by omega) rfl)]
      exact ih hx fun j y hj => h (j + 1) y (by omega)

def Progress.handed? : Progress → Option (Except Error Value)
  | .finished r => some r
  | .pending _ | .discarded => none

/-- What a task has handed to a callback. -/
def Entry.outcome? (e : Entry) : Option (Nat × Except Error Value) :=
  match e.delivery with
  | .future => none
  | .callback id => e.progress.handed?.map (id, ·)

theorem Entry.outcome?_of_pending {e : Entry} {c : Task} (hp : e.progress = .pending c) :
    e.outcome? = none := by
  unfold outcome?
  cases e.delivery <;> simp [hp, Progress.handed?]

namespace World
variable {w : World} {ticket : Nat}

/-- What tasks have handed to callbacks, in the order of the tickets. -/
def owed (w : World) : List (Nat × Except Error Value) := w.entries.filterMap Entry.outcome?

/-- Callbacks have got what the tasks have handed to them, each outcome once. -/
def Accounted (w : World) : Prop := w.delivered.Perm w.owed

theorem owed_spawn (w : World) (c : Task) (d : Delivery) : (w.spawn c d).owed = w.owed := by
  have hnone : Entry.outcome? ⟨d, true, if w.shut then .discarded else .pending c⟩ = none := by
    unfold Entry.outcome?
    cases d <;> cases w.shut <;> rfl
  rw [owed, spawn, List.filterMap_append, List.filterMap_cons_none hnone, List.filterMap_nil,
    List.append_nil, owed]

theorem owed_release (w : World) (ticket : Nat) : (w.release ticket).owed = w.owed :=
  filterMap_modify fun _ _ => rfl

theorem owed_abandon (w : World) (r : Except Error Value) : (w.abandon r).owed = w.owed := by
  unfold abandon
  split
  · exact owed_release w _
  · rfl

theorem owed_step (c : Task) (w : World) : (c.step w).2.owed = w.owed := by
  cases c with
  | done | panic | count | report | log => rfl
  | send q next =>
    simp only [Work.step]
    cases w.reply w.sent.length q <;> rfl
  | spawn work d next => exact owed_spawn w work d
  | release u next => exact owed_abandon w _

/-- A pending task that is finished has handed on its result, if it is for a callback. -/
theorem owed_finish {e e' : Entry} {c : Task} (he : w.entries[ticket]? = some e')
    (hd : e'.delivery = e.delivery) (hp : e'.progress = .pending c) (o : Outcome) :
    (w.finish ticket e o).owed.Perm (w.owed ++ e.delivery.outcomes o.guarded) := by
  have hnone := Entry.outcome?_of_pending hp
  have hconclude : (w.conclude ticket o).owed.Perm
      (w.owed ++ e.delivery.outcomes o.guarded) := by
    rw [owed, conclude_entries]
    cases hdelivery : e.delivery with
    | future =>
      rw [Delivery.outcomes, List.append_nil, filterMap_modify, owed]
      intro x hx
      rw [Option.some.inj (hx.symm.trans he), hnone]
      simp [Entry.outcome?, hd, hdelivery]
    | callback id =>
      refine filterMap_modify_perm he hnone ?_
      simp [Entry.outcome?, hd, hdelivery, Progress.handed?]
  refine finish_cases
    (P := fun v => v.owed.Perm (w.owed ++ e.delivery.outcomes o.guarded)) ?_ ?_ ?_
  · exact fun _ => hconclude
  · exact fun _ _ => hconclude
  · intro _
    exact (owed_abandon (w.conclude ticket o) o.guarded) ▸ hconclude

theorem Accounted.advance (h : w.Accounted) (ticket : Nat) : (w.advance ticket).Accounted := by
  unfold World.advance
  cases he : w.entries[ticket]? with
  | none => exact h
  | some e =>
    cases hp : e.progress with
    | finished r | discarded =>
      simp only [hp]
      exact h
    | pending c =>
      have hkeeps := step_keeps c w
      have howed := owed_step c w
      obtain ⟨e', he', hp', hd'⟩ := hkeeps.entry ticket e he
      obtain ⟨next, u, hstep⟩ : ∃ next u, c.step w = (next, u) := ⟨_, _, rfl⟩
      rw [hstep] at hkeeps howed he'
      simp only [hp, hstep]
      have hu : u.Accounted := by
        rw [Accounted, hkeeps.delivered, howed]
        exact h
      rw [hp] at hp'
      cases next with
      | inl rest =>
        have hsame : (u.update ticket fun e => { e with progress := .pending rest }).owed =
            u.owed := by
          refine filterMap_modify fun x hx => ?_
          rw [Option.some.inj (hx.symm.trans he'), Entry.outcome?_of_pending hp']
          exact Entry.outcome?_of_pending rfl
        rw [Accounted, hsame]
        exact hu
      | inr o =>
        rw [Accounted, finish_delivered]
        exact (hu.append_right _).trans (owed_finish he' hd' hp' o).symm

theorem Accounted.discard (h : w.Accounted) (ticket : Nat) : (w.discard ticket).Accounted := by
  have hsame : (w.discard ticket).owed = w.owed := by
    refine filterMap_modify fun e _ => ?_
    cases hp : e.progress with
    | pending c =>
      rw [Entry.outcome?_of_pending hp]
      unfold Entry.outcome?
      cases e.delivery <;> rfl
    | finished r | discarded => rfl
  rw [Accounted, hsame]
  exact h

/-- A callback that only one task is for has got the result of this task, once, if it has finished,
and nothing otherwise. -/
theorem Accounted.alone (h : w.Accounted) {t id : Nat} {p : Progress}
    (htask : w.task? t = some (.callback id, p))
    (hothers : ∀ i x, i ≠ t → w.task? i = some x → x.1 ≠ .callback id) :
    w.delivered.filter (fun x => x.1 == id) = p.handed?.toList.map (id, ·) := by
  obtain ⟨e, he, hx⟩ := Option.map_eq_some_iff.mp htask
  obtain ⟨hd, rfl⟩ := Prod.mk.inj hx
  -- of all that tasks have handed over, only what this one has is for the callback
  have hone : w.owed.filter (fun x => x.1 == id) = e.progress.handed?.toList.map (id, ·) := by
    rw [owed, List.filter_filterMap, filterMap_single he]
    · simp only [Entry.outcome?, hd]
      cases e.progress.handed? <;> simp
    · intro i e' hi he'
      have hother : e'.delivery ≠ .callback id :=
        hothers i (e'.delivery, e'.progress) hi (by rw [task?, he', Option.map_some])
      unfold Entry.outcome?
      cases hd' : e'.delivery with
      | future => rfl
      | callback id' =>
        have hne : id' ≠ id := fun hid => hother (by rw [hd', hid])
        cases e'.progress.handed? <;> simp [hne]
  have hperm := h.filter (fun x => x.1 == id)
  rw [hone] at hperm
  cases hp : e.progress.handed? with
  | none =>
    rw [hp] at hperm
    exact hperm.eq_nil
  | some r =>
    rw [hp] at hperm
    exact List.perm_singleton.mp hperm

end World

theorem World.SamePool.accounted {w v : World} (h : w.SamePool v) (hw : w.Accounted) :
    v.Accounted := by
  rw [Accounted, owed, h.entries, h.delivered]
  exact hw

theorem Session.accounted_act {s : Session} (h : s.world.Accounted) (a : Act) :
    (s.act a).world.Accounted := by
  cases a with
  | dispatch d =>
    cases hwork : d.work? with
    | some c =>
      obtain ⟨u, hu, hact⟩ := act_dispatch (s := s) hwork
      rw [hact, World.Accounted, World.owed_spawn]
      exact hu.accounted h
    | none =>
      obtain ⟨u, hu, hact⟩ := act_dispatch_of_none (s := s) hwork
      rw [hact]
      exact hu.accounted h
  | advance ticket => exact h.advance ticket
  | discard ticket => exact h.discard ticket
  | close => exact h
  | await ticket => rcases act_await s ticket with hact | ⟨r, -, -, hact⟩ <;> rw [hact] <;> exact h
  | drop ticket =>
    rcases act_drop s ticket with hact | ⟨-, hact⟩
    · rw [hact]
      exact h
    · rw [hact, World.Accounted, World.owed_release]
      exact h

/-! ## What callers get -/

theorem World.lt_of_task? {w : World} {t : Nat} {x : Delivery × Progress}
    (h : w.task? t = some x) : t < w.entries.length := by
  obtain ⟨e, he, -⟩ := Option.map_eq_some_iff.mp h
  exact (List.getElem?_eq_some_iff.mp he).1

namespace Session
variable {s : Session} {t : Nat} {r : Except Error Value}

theorem result?_act (h : s.world.result? t = some r) (a : Act) :
    (s.act a).world.result? t = some r := by
  rw [World.result?_eq_task?] at h ⊢
  obtain ⟨⟨d, p⟩, htask, hp⟩ := Option.bind_eq_some_iff.mp h
  have hended : p.isPending = false := by
    cases p with
    | pending c => cases hp
    | finished r | discarded => rfl
  rw [task?_act htask, Act.does_of_ended hended]
  exact hp

/-- The futures that were ever handed out and not dropped. -/
def issued (s : Session) : List Nat := s.held ++ s.yielded.map Prod.fst

/-- A future that yields its result moves from those that are held to those that are used up. -/
theorem perm_issued_await (ht : t ∈ s.held) (r : Except Error Value) :
    (s.held.erase t ++ (s.yielded ++ [(t, r)]).map Prod.fst).Perm s.issued := by
  rw [List.map_append, List.map_singleton, ← List.append_assoc]
  refine (List.perm_append_singleton t _).trans ?_
  exact (List.perm_cons_erase ht).symm.append_right _

/-- Callers hold different futures, each for a task of its own, and a future that was used up has
yielded the result of its task. -/
structure Sound (s : Session) : Prop where
  future : ∀ t ∈ s.issued, ∃ p, s.world.task? t = some (.future, p)
  nodup : s.issued.Nodup
  result : ∀ t r, (t, r) ∈ s.yielded → s.world.result? t = some r

theorem sound_start (reply : Nat → WireRequest → Reply) : (start reply).Sound where
  future t ht := by cases ht
  nodup := List.nodup_nil
  result t r hr := by cases hr

/-- An act that hands out no future and only yields results that are there leaves a session
sound. -/
theorem Sound.of_issued (h : s.Sound) {a : Act} {held : List Nat}
    {yielded : List (Nat × Except Error Value)}
    (hact : s.act a = ⟨(s.act a).world, held, yielded⟩)
    (hnodup : (held ++ yielded.map Prod.fst).Nodup)
    (hsub : held ++ yielded.map Prod.fst ⊆ s.issued)
    (hresult : ∀ t r, (t, r) ∈ yielded → (t, r) ∈ s.yielded ∨ s.world.result? t = some r) :
    (s.act a).Sound := by
  have hissued : (s.act a).issued = held ++ yielded.map Prod.fst := by
    rw [hact, issued]
  have hyielded : (s.act a).yielded = yielded := by
    rw [hact]
  refine ⟨fun t ht => ?_, hissued ▸ hnodup, fun t r hr => ?_⟩
  · obtain ⟨p, hp⟩ := h.future t (hsub (hissued ▸ ht))
    exact ⟨_, task?_act hp a⟩
  · rcases hresult t r (hyielded ▸ hr) with hr | hr
    · exact result?_act (h.result t r hr) a
    · exact result?_act hr a

/-- A dispatch hands out at most one future, that of its own new task. -/
theorem Sound.dispatch (h : s.Sound) (d : Dispatch) : (s.act (.dispatch d)).Sound := by
  have hnone {u : World} (hact : s.act (.dispatch d) = ⟨u, s.held, s.yielded⟩) :
      (s.act (.dispatch d)).Sound :=
    h.of_issued (hact.trans (by rw [hact])) h.nodup (List.Subset.refl _) fun _ _ => .inl
  cases hwork : d.work? with
  | none =>
    obtain ⟨u, -, hact⟩ := act_dispatch_of_none (s := s) hwork
    exact hnone hact
  | some c =>
    obtain ⟨u, hu, hact⟩ := act_dispatch (s := s) hwork
    cases hd : d.delivery with
    | callback id =>
      rw [Dispatch.futures, hd, List.append_nil] at hact
      exact hnone hact
    | future =>
      rw [Dispatch.futures, hd] at hact
      have hperm : (s.act (.dispatch d)).issued.Perm (s.world.entries.length :: s.issued) := by
        rw [hact, issued, issued]
        simp only [List.append_assoc, List.singleton_append]
        exact List.perm_middle
      have hfresh : s.world.entries.length ∉ s.issued := fun hmem => by
        obtain ⟨p, hp⟩ := h.future _ hmem
        exact Nat.lt_irrefl _ (World.lt_of_task? hp)
      refine ⟨fun t ht => ?_, ?_, fun t r hr => ?_⟩
      · rcases List.mem_cons.mp (hperm.mem_iff.mp ht) with rfl | ht
        · rw [hact, ← hu.entries]
          exact ⟨_, World.task?_spawn u c .future⟩
        · obtain ⟨p, hp⟩ := h.future t ht
          exact ⟨_, task?_act hp _⟩
      · rw [hperm.nodup_iff, List.nodup_cons]
        exact ⟨hfresh, h.nodup⟩
      · rw [hact] at hr
        exact result?_act (h.result t r hr) _

theorem Sound.act (h : s.Sound) (a : Act) : (s.act a).Sound := by
  cases a with
  | dispatch d => exact h.dispatch d
  | advance | discard | close =>
    exact h.of_issued rfl h.nodup (List.Subset.refl _) fun _ _ => .inl
  | await ticket =>
    rcases act_await s ticket with hact | ⟨r, ht, hr, hact⟩
    · rw [hact]
      exact h
    · have hperm := perm_issued_await ht r
      refine h.of_issued (hact.trans (by rw [hact])) (hperm.nodup_iff.mpr h.nodup) hperm.subset ?_
      intro t r' hmem
      rcases List.mem_append.mp hmem with hmem | hmem
      · exact .inl hmem
      · obtain ⟨rfl, rfl⟩ := Prod.mk.inj (List.mem_singleton.mp hmem)
        exact .inr hr
  | drop ticket =>
    rcases act_drop s ticket with hact | ⟨-, hact⟩
    · rw [hact]
      exact h
    · have hsub : (s.held.erase ticket ++ s.yielded.map Prod.fst).Sublist s.issued :=
        List.erase_sublist.append_right _
      exact h.of_issued (hact.trans (by rw [hact])) (h.nodup.sublist hsub) hsub.subset
        fun _ _ => .inl

theorem sound_after (h : s.Sound) (acts : List Act) : (s.after acts).Sound := by
  induction acts generalizing s with
  | nil => exact h
  | cons a acts ih => exact ih (h.act a)

theorem accounted_after (h : s.world.Accounted) (acts : List Act) :
    (s.after acts).world.Accounted := by
  induction acts generalizing s with
  | nil => exact h
  | cons a acts ih => exact ih (accounted_act h a)

/-- A future that a caller has got is held until it is used up or dropped. -/
theorem issued_act (h : t ∈ s.issued) {a : Act} (ha : a ≠ .drop t) : t ∈ (s.act a).issued := by
  cases a with
  | dispatch d =>
    have hheld : s.held ⊆ (s.act (.dispatch d)).held := List.subset_append_left _ _
    rcases List.mem_append.mp h with h | h
    · exact List.mem_append_left _ (hheld h)
    · exact List.mem_append_right _ h
  | advance | discard | close => exact h
  | await ticket =>
    rcases act_await s ticket with hact | ⟨r, ht, -, hact⟩
    · rw [hact]
      exact h
    · rw [hact]
      exact (perm_issued_await ht r).mem_iff.mpr h
  | drop ticket =>
    rcases act_drop s ticket with hact | ⟨-, hact⟩
    · rw [hact]
      exact h
    · have hne : t ≠ ticket := fun hne => ha (by rw [hne])
      rw [hact]
      rcases List.mem_append.mp h with h | h
      · exact List.mem_append_left _ ((List.mem_erase_of_ne hne).mpr h)
      · exact List.mem_append_right _ h

theorem issued_after (h : t ∈ s.issued) {acts : List Act} (hacts : .drop t ∉ acts) :
    t ∈ (s.after acts).issued := by
  induction acts generalizing s with
  | nil => exact h
  | cons a acts ih =>
    rw [List.mem_cons, not_or] at hacts
    exact ih (issued_act h (Ne.symm hacts.1)) hacts.2

end Session

end Endpoint
