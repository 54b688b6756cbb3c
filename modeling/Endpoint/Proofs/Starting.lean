import Endpoint.Proofs.Dispatch

/-!
Calls that act or panic when they are started. The bridge means to refuse where nothing may block,
and to turn every panic into an error, but it starts a call before it does either: what the start
does is done in any case, and a panic of the start reaches whoever dispatches.

What is proved:
  1. `Launch.run_andThen`, `Bridge.block_eq`: a dispatch is the start of the call, then the rest;
  2. `World.settle_turn`: work on the pool is done when its turn comes, and its panic is its result;
  3. `Launch.run_perform`: what a start counts and reports does not change how its work ends;
  4. `promises_kept_iff`: so a refusal leaves no trace exactly of the calls whose start does
     nothing, and panics are contained exactly of those whose start does not panic.
-/
namespace Endpoint

/-! ## Starting a call -/

namespace Launch

/-- Starting a call: the work that it hands out or the panic that it ends in, and the world then. -/
def start : Call → World → Except Payload Task × World
  | ready work, w => (.ok work, w)
  | panic payload, w => (.error payload, w)
  | count next, w => start next w.count
  | report event next, w => start next (w.report event)

theorem start_of_work? {c : Call} {t : Task} (h : c.work? = some t) (w : World) :
    (start c w).1 = .ok t := by
  induction c generalizing w with
  | ready work => exact congrArg Except.ok (Option.some.inj h)
  | panic p => cases h
  | count next ih => exact ih h w.count
  | report e next ih => exact ih h (w.report e)

theorem start_of_work?_none {c : Call} (h : c.work? = none) (w : World) :
    ∃ p, (start c w).1 = .error p := by
  induction c generalizing w with
  | ready work => cases h
  | panic p => exact ⟨p, rfl⟩
  | count next ih => exact ih h w.count
  | report e next ih => exact ih h (w.report e)

theorem start_samePool (c : Call) (w : World) : w.SamePool (start c w).2 := by
  induction c generalizing w with
  | ready | panic => exact ⟨rfl, rfl, rfl⟩
  | count next ih =>
    obtain ⟨hentries, hshut, hdelivered⟩ := ih w.count
    exact ⟨hentries, hshut, hdelivered⟩
  | report e next ih =>
    obtain ⟨hentries, hshut, hdelivered⟩ := ih (w.report e)
    exact ⟨hentries, hshut, hdelivered⟩

theorem start_grows (c : Call) (w : World) :
    w.executions ≤ (start c w).2.executions ∧ w.trace.length ≤ (start c w).2.trace.length := by
  induction c generalizing w with
  | ready | panic => exact ⟨Nat.le_refl _, Nat.le_refl _⟩
  | count next ih =>
    obtain ⟨hexecutions, htrace⟩ := ih w.count
    exact ⟨Nat.le_of_succ_le hexecutions, htrace⟩
  | report e next ih =>
    obtain ⟨hexecutions, htrace⟩ := ih (w.report e)
    have hmore : (w.report e).trace.length = w.trace.length + 1 := by simp [World.report]
    exact ⟨hexecutions, by rw [start]; omega⟩

theorem ready_of_start {c : Call} {w : World} {t : Task} (h : start c w = (.ok t, w)) :
    c = .ready t := by
  cases c with
  | ready work =>
    obtain ⟨hwork, -⟩ := Prod.mk.inj h
    rw [Except.ok.inj hwork]
  | panic p => cases h
  | count next =>
    -- the world has counted at least one execution more
    have hgrows := (start_grows next w.count).1
    have hsame : (start next w.count).2 = w := congrArg Prod.snd h
    rw [hsame] at hgrows
    exact (Nat.not_succ_le_self _ hgrows).elim
  | report e next =>
    have hgrows := (start_grows next (w.report e)).2
    have hsame : (start next (w.report e)).2 = w := congrArg Prod.snd h
    rw [hsame, World.report, List.length_append] at hgrows
    exact (Nat.not_succ_le_self _ hgrows).elim

theorem run_andThen (c : Call) (f : Task → Task) (w : World) :
    (c.andThen f).run w = match start c w with
      | (.ok t, u) => (f t).run u
      | (.error p, u) => (.panic p, u) := by
  induction c generalizing w with
  | ready | panic => rfl
  | count next ih => exact ih w.count
  | report e next ih => exact ih (w.report e)

/-- What has been counted and reported before does not change how work ends. -/
theorem run_fst_of_noted (t : Task) (w : World) (n : Nat) (es : List Event) :
    (t.run { w with executions := n, trace := es }).1 = (t.run w).1 := by
  induction t generalizing w n es with
  | done | panic => rfl
  | count next ih => exact (ih w (n + 1) es).trans (ih w (w.executions + 1) w.trace).symm
  | report e next ih =>
    exact (ih w n (es ++ [e])).trans (ih w w.executions (w.trace ++ [e])).symm
  | log line next ih => exact ih (w.write line) n es
  | send q next ih =>
    have hpost (answer : Except Error WireResponse) :
        ((next answer).run (World.post { w with executions := n, trace := es } q)).1 =
          ((next answer).run (w.post q)).1 := ih answer (w.post q) (n + 1) es
    simp only [Work.run]
    cases w.reply w.sent.length q with
    | answer response => exact hpost _
    | fail error => exact hpost _
    | panic p => rfl
  | spawn work d next _ ih => exact ih w.nextTicket (w.spawn work d) n es
  | release v next ih =>
    have habandon : World.abandon { w with executions := n, trace := es } (.ok v) =
        { w.abandon (.ok v) with executions := n, trace := es } := by
      cases v <;> rfl
    simp only [Work.run]
    rw [habandon]
    exact ih (w.abandon (.ok v)) n es

theorem run_perform {c : Call} {t : Task} (h : c.work? = some t) (w : World) :
    (c.perform.run w).1 = (t.run w).1 := by
  induction c generalizing w with
  | ready work =>
    obtain rfl := Option.some.inj h
    rfl
  | panic p => cases h
  | count next ih => exact (ih h w.count).trans (run_fst_of_noted t w (w.executions + 1) w.trace)
  | report e next ih =>
    exact (ih h (w.report e)).trans (run_fst_of_noted t w w.executions (w.trace ++ [e]))

end Launch

/-! ## Turns -/

namespace World
variable {w : World} {d : Delivery} {p : Progress} {t ticket : Nat}

/-- The world when the turn of a ticket comes: the tasks before it have finished. -/
def turn (w : World) (ticket : Nat) : World := settleFrom ticket 0 w

theorem task?_complete_of_ne (hne : ticket ≠ t) (ht : w.task? t = some (d, p)) :
    (w.complete ticket).task? t = some (d, p) := by
  refine complete_cases (P := fun v => v.task? t = some (d, p)) ht fun e work he _ => ?_
  rw [task?_finish, (run_keeps work w).task? ht, Option.map_some, if_neg hne]

theorem length_complete_le (w : World) (ticket : Nat) :
    w.entries.length ≤ (w.complete ticket).entries.length := by
  refine complete_cases (P := fun v => w.entries.length ≤ v.entries.length) (Nat.le_refl _)
    fun e work he _ => ?_
  rw [finish_length]
  exact (run_keeps work w).length_le

theorem settleFrom_split (k fuel ticket : Nat) (h : ticket + k ≤ w.entries.length) :
    settleFrom (k + fuel) ticket w = settleFrom fuel (ticket + k) (settleFrom k ticket w) := by
  induction k generalizing ticket w with
  | zero => rw [Nat.zero_add]; rfl
  | succ k ih =>
    have hlt : ticket < w.entries.length := by omega
    have hlength := length_complete_le w ticket
    rw [Nat.succ_add, settleFrom, if_pos hlt, settleFrom, if_pos hlt,
      ih (ticket + 1) (by omega), Nat.add_right_comm, Nat.add_assoc]

theorem task?_settleFrom (k first : Nat) (hk : first + k ≤ t) (ht : w.task? t = some (d, p)) :
    (settleFrom k first w).task? t = some (d, p) := by
  induction k generalizing first w with
  | zero => exact ht
  | succ k ih =>
    rw [settleFrom]
    split
    · exact ih (first + 1) (by omega) (task?_complete_of_ne (by omega) ht)
    · exact ht

/-- A task that is left to do ends as its work ends, and its receiver gets this. -/
theorem complete_pending {work : Task} (h : w.task? t = some (d, .pending work)) :
    (w.complete t).result? t = some (work.run w).1.guarded ∧
      (w.complete t).delivered = w.delivered ++ d.outcomes (work.run w).1.guarded := by
  obtain ⟨e, he, hx⟩ := Option.map_eq_some_iff.mp h
  obtain ⟨rfl, hp⟩ := Prod.mk.inj hx
  have hkeeps := run_keeps work w
  have hcomplete : w.complete t = (work.run w).2.finish t e (work.run w).1 := by
    simp only [complete, he, hp]
  have hlt : t < (work.run w).2.entries.length := by
    obtain ⟨e', he', -⟩ := hkeeps.entry t e he
    exact (List.getElem?_eq_some_iff.mp he').1
  rw [hcomplete]
  exact ⟨by rw [result?_finish e _ hlt, if_pos rfl], by rw [finish_delivered, hkeeps.delivered]⟩

/-- **Work on the pool is done when its turn comes**, and its result is its end, a panic being an
error. -/
theorem settle_turn {work : Task} (h : w.task? t = some (d, .pending work)) :
    w.settle.result? t = some (work.run (w.turn t)).1.guarded ∧
      ∃ got, w.settle.delivered = w.delivered ++ got ∧
        ∀ x ∈ d.outcomes (work.run (w.turn t)).1.guarded, x ∈ got := by
  have hlt : t < w.entries.length := by
    obtain ⟨e, he, -⟩ := Option.map_eq_some_iff.mp h
    exact (List.getElem?_eq_some_iff.mp he).1
  have hturn : (w.turn t).task? t = some (d, .pending work) := task?_settleFrom t 0 (by omega) h
  have hlt' : t < (w.turn t).entries.length := by
    obtain ⟨e, he, -⟩ := Option.map_eq_some_iff.mp hturn
    exact (List.getElem?_eq_some_iff.mp he).1
  obtain ⟨rest, hfuel⟩ : ∃ rest, w.entries.length * layers = t + (rest + 1) :=
    ⟨w.entries.length * layers - (t + 1), by rw [layers]; omega⟩
  have hsettle : w.settle = settleFrom rest (t + 1) ((w.turn t).complete t) := by
    rw [settle, hfuel, settleFrom_split t (rest + 1) 0 (by omega), Nat.zero_add, settleFrom,
      ← turn, if_pos hlt']
  obtain ⟨hresult, hdelivered⟩ := complete_pending hturn
  have hgrows := settleFrom_grows rest (t + 1) ((w.turn t).complete t)
  obtain ⟨before, hbefore⟩ := (settleFrom_grows t 0 w).delivered
  obtain ⟨later, hlater⟩ := hgrows.delivered
  rw [← turn] at hbefore
  rw [← hsettle] at hgrows hlater
  refine ⟨hgrows.result t _ hresult,
    before ++ (d.outcomes (work.run (w.turn t)).1.guarded ++ later), ?_, fun x hx => ?_⟩
  · rw [← hlater, hdelivered, ← hbefore, List.append_assoc, List.append_assoc]
  · exact List.mem_append_right _ (List.mem_append_left _ hx)

end World

/-! ## What the bridge does with a call -/

namespace Bridge

/-- Every form of dispatch starts the call before it does anything else. What the start does is
done, and a panic of the start is a panic of whoever dispatches, who then has put nothing on the
pool. -/
structure StartsFirst (c : Call) : Prop where
  block : ∀ inAsync w, block inAsync c w = match c.start w with
    | (.ok work, u) => (.ok (blockOn inAsync work u).1, (blockOn inAsync work u).2)
    | (.error p, u) => (.error p, u)
  execute : ∀ w, (execute c).run w = match c.start (w.report .dispatching) with
    | (.ok work, u) => (.result (.ok (.future w.nextTicket)), u.spawn work .future)
    | (.error p, u) => (.panic p, u)
  enqueue : ∀ id w, (enqueue c id).run w = match c.start (w.report .enqueueing) with
    | (.ok work, u) => (.result (.ok .unit), u.spawn work (.callback id))
    | (.error p, u) => (.panic p, u)

theorem block_eq (inAsync : Bool) (c : Call) (w : World) :
    block inAsync c w = match c.start w with
      | (.ok work, u) => (.ok (blockOn inAsync work u).1, (blockOn inAsync work u).2)
      | (.error p, u) => (.error p, u) := by
  induction c generalizing w with
  | ready | panic => rfl
  | count next ih => exact ih w.count
  | report e next ih => exact ih (w.report e)

theorem startsFirst (c : Call) : StartsFirst c where
  block inAsync w := block_eq inAsync c w
  execute w := by
    have hpool := Launch.start_samePool c (w.report .dispatching)
    have hticket : (c.start (w.report .dispatching)).2.nextTicket = w.nextTicket :=
      congrArg List.length hpool.entries
    refine (Launch.run_andThen c submit (w.report .dispatching)).trans ?_
    generalize c.start (w.report .dispatching) = started at hticket ⊢
    obtain ⟨ends, u⟩ := started
    cases ends with
    | error p => rfl
    | ok work => rw [← hticket]; rfl
  enqueue id w := by
    refine (Launch.run_andThen c (fun work => enqueueTask work id) (w.report .enqueueing)).trans ?_
    generalize c.start (w.report .enqueueing) = started
    obtain ⟨ends, u⟩ := started
    cases ends <;> rfl

/-- Blocking in an asynchronous context is refused, and nothing of the call is done. -/
def Refused (c : Call) : Prop :=
  ∀ w, block true c w = (.ok (.error (.execution .wouldBlock)), w)

/-- However a call ends, its start included, it ends on the pool: a panic of it is the error that a
future yields, a callback gets, or a caller that blocks is given. -/
structure Contained (c : Call) : Prop where
  future : ∀ w, w.shut = false → ∃ u,
    (execute c).run w = (.result (.ok (.future w.nextTicket)), u) ∧
      u.settle.await w.nextTicket = (c.perform.run (u.turn w.nextTicket)).1.guarded
  callback : ∀ id w, w.shut = false → ∃ u, (enqueue c id).run w = (.result (.ok .unit), u) ∧
    ∃ got, u.settle.delivered = w.delivered ++ got ∧
      (id, (c.perform.run (u.turn w.nextTicket)).1.guarded) ∈ got
  blocked : ∀ w, w.shut = false → ∃ u : World, block false c w =
    (.ok (c.perform.run (u.turn w.nextTicket)).1.guarded, u.settle)

theorem refused_iff (c : Call) : Refused c ↔ ∃ work, c = .ready work := by
  constructor
  · intro h
    have hblock := h (.initial (Reply.inOrder []))
    rw [block_eq] at hblock
    cases hstart : c.start (.initial (Reply.inOrder [])) with
    | mk ends u =>
      rw [hstart] at hblock
      cases ends with
      | error p => cases (Prod.mk.inj hblock).1
      | ok work =>
        have hworld : u = .initial (Reply.inOrder []) := congrArg Prod.snd hblock
        rw [hworld] at hstart
        exact ⟨work, Launch.ready_of_start hstart⟩
  · rintro ⟨work, rfl⟩ w
    rfl

/-- A call whose work is put on an open pool ends there, and this is the result of its task. -/
theorem await_spawn {c : Call} {work : Task} {w v : World} (h : c.work? = some work)
    (hpool : w.SamePool v) (hopen : w.shut = false) (d : Delivery) :
    (v.spawn work d).settle.await w.nextTicket =
        (c.perform.run ((v.spawn work d).turn w.nextTicket)).1.guarded ∧
      ∃ got, (v.spawn work d).settle.delivered = w.delivered ++ got ∧
        ∀ x ∈ d.outcomes (c.perform.run ((v.spawn work d).turn w.nextTicket)).1.guarded,
          x ∈ got := by
  have hticket : v.entries.length = w.nextTicket := congrArg List.length hpool.entries
  have htask : (v.spawn work d).task? w.nextTicket = some (d, .pending work) := by
    have hspawn := World.task?_spawn v work d
    rw [hticket, hpool.shut, hopen] at hspawn
    exact hspawn
  obtain ⟨hresult, got, hdelivered, hgot⟩ := World.settle_turn htask
  rw [Launch.run_perform h]
  refine ⟨by rw [World.await, hresult]; rfl, got, ?_, hgot⟩
  rw [hdelivered, ← hpool.delivered]
  rfl

theorem contained_of_work? {c : Call} {work : Task} (h : c.work? = some work) : Contained c := by
  have hstart (w : World) : c.start w = (.ok work, (c.start w).2) :=
    Prod.ext (Launch.start_of_work? h w) rfl
  have hpool (w : World) (e : Event) : w.SamePool (c.start (w.report e)).2 := by
    obtain ⟨hentries, hshut, hdelivered⟩ := Launch.start_samePool c (w.report e)
    exact ⟨hentries, hshut, hdelivered⟩
  refine ⟨fun w hopen => ?_, fun id w hopen => ?_, fun w hopen => ?_⟩
  · have hrun := (startsFirst c).execute w
    rw [hstart] at hrun
    exact ⟨_, hrun, (await_spawn h (hpool w _) hopen .future).1⟩
  · have hrun := (startsFirst c).enqueue id w
    rw [hstart] at hrun
    obtain ⟨-, got, hdelivered, hgot⟩ := await_spawn h (hpool w .enqueueing) hopen (.callback id)
    exact ⟨_, hrun, got, hdelivered, hgot _ (List.mem_singleton_self _)⟩
  · have hsame := Launch.start_samePool c w
    have hticket : (c.start w).2.nextTicket = w.nextTicket := congrArg List.length hsame.entries
    have hawait := (await_spawn h hsame hopen .future).1
    refine ⟨(c.start w).2.spawn work .future, ?_⟩
    rw [block_eq, hstart, ← hawait, ← hticket]
    rfl

theorem contained_iff (c : Call) : Contained c ↔ ∃ work, c.work? = some work := by
  constructor
  · intro h
    obtain ⟨u, hrun, -⟩ := h.future (.initial (Reply.inOrder [])) rfl
    cases hwork : c.work? with
    | some work => exact ⟨work, rfl⟩
    | none =>
      -- the start panics, and so does the dispatch
      obtain ⟨p, hp⟩ :=
        Launch.start_of_work?_none hwork (.report (.initial (Reply.inOrder [])) .dispatching)
      rw [(startsFirst c).execute] at hrun
      cases hstart : c.start (.report (.initial (Reply.inOrder [])) .dispatching) with
      | mk ends v =>
        rw [hstart] at hp hrun
        obtain rfl : ends = .error p := hp
        cases (Prod.mk.inj hrun).1
  · rintro ⟨work, h⟩
    exact contained_of_work? h

/-- **What the bridge promises holds of calls that do nothing when they are started.** Whatever the
call, its start comes first. So a caller that may not block is refused without a trace of the call
exactly if the start does nothing, and panics stay on the pool exactly if the start does not
panic. -/
theorem promises_kept_iff (c : Call) :
    StartsFirst c ∧ (Refused c ↔ ∃ work, c = .ready work) ∧
      (Contained c ↔ ∃ work, c.work? = some work) :=
  ⟨startsFirst c, refused_iff c, contained_iff c⟩

/-- A call whose start counts an execution is executed although the caller is refused, and a panic
of a start reaches the caller. -/
theorem start_escapes :
    let w := World.initial (Reply.inOrder [])
    let acting : Call := .count (.ready (.ok .unit))
    let broken : Call := .panic (.text "boom")
    ¬Refused acting ∧ (block true acting w).2.executions = 1 ∧
      ¬Contained broken ∧ ((execute broken).run w).1 = .panic (.text "boom") ∧
      ((enqueue broken 0).run w).1 = .panic (.text "boom") ∧
      (block false broken w).1 = .error (.text "boom") := by
  intro w acting broken
  refine ⟨fun h => ?_, rfl, fun h => ?_, rfl, rfl, rfl⟩
  · have hexecutions : (1 : Nat) = 0 := congrArg (fun x => x.2.executions) (h w)
    cases hexecutions
  · obtain ⟨u, hrun, -⟩ := h.future w rfl
    cases (Prod.mk.inj hrun).1

end Bridge
end Endpoint
