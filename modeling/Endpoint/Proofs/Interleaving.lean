import Endpoint.Proofs.Dispatch
import Mathlib.Data.List.Nodup

/-!
Dispatches in every order of acts, and on schedules without end. No dispatch has to do with another:
each makes a task of its own, whose result depends on its own steps alone, and this result goes
where the dispatch said.

What is proved:
  1. `Session.leads_of_fate`, `Session.discard_of_fate`: the result of a task is an end of its own
     work, and a task is lost only where it was discarded;
  2. `Session.ends_of_fair`: a task whose turn comes again and again ends, since there is less left
     of its work after each step (`Work.acc_below`);
  3. `Session.dispatches_stay_apart`: so it is for every dispatch.
-/
namespace Endpoint

/-! ## To the end -/

/-- Work leads to an end: its own steps, wherever they are done, come to it. -/
inductive Work.Leads : Task → Outcome → Prop where
  | ends {c : Task} {w : World} {o : Outcome} : (c.step w).1 = .inr o → Leads c o
  | goes {c rest : Task} {w : World} {o : Outcome} : (c.step w).1 = .inl rest → Leads rest o →
    Leads c o

/-- What is left of work after a step. -/
def Work.Below (rest c : Task) : Prop := ∃ w, (c.step w).1 = .inl rest

/-- Work can only be done for so long. -/
theorem Work.acc_below (c : Task) : Acc Work.Below c := by
  induction c with
  | done | panic =>
    refine ⟨_, ?_⟩
    rintro rest ⟨w, h⟩
    cases h
  | count _ ih | report _ _ ih | log _ _ ih | release _ _ ih =>
    refine ⟨_, ?_⟩
    rintro rest ⟨w, h⟩
    cases h
    exact ih
  | send q next ih =>
    refine ⟨_, ?_⟩
    rintro rest ⟨w, h⟩
    simp only [step] at h
    cases hreply : w.reply w.sent.length q with
    | answer a => rw [hreply] at h; cases h; exact ih _
    | fail e => rw [hreply] at h; cases h; exact ih _
    | panic p => rw [hreply] at h; cases h
  | spawn work d next _ ih =>
    refine ⟨_, ?_⟩
    rintro rest ⟨w, h⟩
    cases h
    exact ih _

/-- A task that is left to do stands still, does a step at its turn, or is discarded. -/
theorem Act.does_pending (a : Act) (t : Nat) (w : World) (c : Task) :
    a.does t w (.pending c) = .pending c ∨
      a = .advance t ∧ a.does t w (.pending c) = .next (c.step w).1 ∨
      a = .discard t ∧ a.does t w (.pending c) = .discarded := by
  cases a with
  | dispatch | await | drop | close => exact .inl rfl
  | advance ticket =>
    by_cases ht : ticket = t
    · exact .inr (.inl ⟨by rw [ht], if_pos ht⟩)
    · exact .inl (if_neg ht)
  | discard ticket =>
    by_cases ht : ticket = t
    · exact .inr (.inr ⟨by rw [ht], if_pos ht⟩)
    · exact .inl (if_neg ht)

namespace Session
variable {s : Session} {t : Nat} {d : Delivery} {c : Task} {r : Except Error Value}

theorem fate_of_ended {p : Progress} (hp : p.isPending = false) (t : Nat) (acts : List Act)
    (s : Session) : fate t acts s p = p := by
  induction acts generalizing s with
  | nil => rfl
  | cons a acts ih => rw [fate, Act.does_of_ended hp, ih]

theorem leads_of_fate {acts : List Act} (h : fate t acts s (.pending c) = .finished r) :
    ∃ o, c.Leads o ∧ r = o.guarded := by
  induction acts generalizing s c with
  | nil => cases h
  | cons a acts ih =>
    rw [fate] at h
    rcases a.does_pending t s.world c with hsame | ⟨-, hnext⟩ | ⟨-, hgone⟩
    · rw [hsame] at h
      exact ih h
    · rw [hnext] at h
      cases hstep : (c.step s.world).1 with
      | inl rest =>
        rw [hstep] at h
        obtain ⟨o, ho, hr⟩ := ih h
        exact ⟨o, .goes hstep ho, hr⟩
      | inr o =>
        rw [hstep, Progress.next, fate_of_ended rfl] at h
        exact ⟨o, .ends hstep, (Progress.finished.inj h).symm⟩
    · rw [hgone, fate_of_ended rfl] at h
      cases h

theorem discard_of_fate {acts : List Act} (h : fate t acts s (.pending c) = .discarded) :
    .discard t ∈ acts := by
  induction acts generalizing s c with
  | nil => cases h
  | cons a acts ih =>
    rw [fate] at h
    rcases a.does_pending t s.world c with hsame | ⟨-, hnext⟩ | ⟨rfl, -⟩
    · rw [hsame] at h
      exact List.mem_cons_of_mem _ (ih h)
    · rw [hnext] at h
      cases hstep : (c.step s.world).1 with
      | inl rest =>
        rw [hstep] at h
        exact List.mem_cons_of_mem _ (ih h)
      | inr o =>
        rw [hstep, Progress.next, fate_of_ended rfl] at h
        cases h
    · exact List.mem_cons_self

/-- The session after the first acts of an endless schedule. -/
def upTo (s : Session) (σ : Nat → Act) (n : Nat) : Session := s.after ((List.range n).map σ)

theorem upTo_succ (s : Session) (σ : Nat → Act) (n : Nat) :
    s.upTo σ (n + 1) = (s.upTo σ n).act (σ n) := by
  rw [upTo, List.range_succ, List.map_append, after, List.foldl_append]
  rfl

theorem task?_upTo_succ {σ : Nat → Act} {n : Nat} {p : Progress}
    (h : (s.upTo σ n).world.task? t = some (d, p)) :
    (s.upTo σ (n + 1)).world.task? t = some (d, (σ n).does t (s.upTo σ n).world p) := by
  rw [upTo_succ]
  exact task?_act h (σ n)

/-- A task has ended, or there is less left of its work. -/
def Gone (c : Task) (p : Progress) : Prop :=
  p.isPending = false ∨ ∃ rest, p = .pending rest ∧ rest.Below c

theorem gone_next (c : Task) (w : World) : Gone c (.next (c.step w).1) := by
  cases hstep : (c.step w).1 with
  | inl rest => exact .inr ⟨rest, rfl, w, hstep⟩
  | inr o => exact .inl rfl

/-- A task whose turn will come again does not stand still for ever. -/
theorem moves_of_fair {σ : Nat → Act} (hfair : ∀ n, ∃ m, n ≤ m ∧ σ m = .advance t) {n : Nat}
    (h : (s.upTo σ n).world.task? t = some (d, .pending c)) :
    ∃ m p, n ≤ m ∧ (s.upTo σ m).world.task? t = some (d, p) ∧ Gone c p := by
  -- until it moves, it stands as it stood
  have hstill (k : Nat) : (s.upTo σ (n + k)).world.task? t = some (d, .pending c) ∨
      ∃ m p, n ≤ m ∧ (s.upTo σ m).world.task? t = some (d, p) ∧ Gone c p := by
    induction k with
    | zero => exact .inl h
    | succ k ih =>
      rcases ih with hk | hmoved
      · have hnext := task?_upTo_succ hk
        rcases (σ (n + k)).does_pending t (s.upTo σ (n + k)).world c with
          hsame | ⟨-, hstep⟩ | ⟨-, hgone⟩
        · exact .inl (hsame ▸ hnext)
        · exact .inr ⟨n + k + 1, _, by omega, hstep ▸ hnext, gone_next c _⟩
        · exact .inr ⟨n + k + 1, _, by omega, hgone ▸ hnext, .inl rfl⟩
      · exact .inr hmoved
  obtain ⟨m, hm, hturn⟩ := hfair n
  rcases hstill (m - n) with hk | hmoved
  · rw [Nat.add_sub_cancel' hm] at hk
    have hnext := task?_upTo_succ hk
    rw [hturn, Act.does, if_pos rfl] at hnext
    exact ⟨m + 1, _, by omega, hnext, gone_next c _⟩
  · exact hmoved

theorem ends_of_fair {σ : Nat → Act} (hfair : ∀ n, ∃ m, n ≤ m ∧ σ m = .advance t) {n : Nat}
    (h : (s.upTo σ n).world.task? t = some (d, .pending c)) :
    ∃ m p, n ≤ m ∧ (s.upTo σ m).world.task? t = some (d, p) ∧ p.isPending = false := by
  induction Work.acc_below c generalizing n with
  | intro c _ ih =>
    obtain ⟨m, p, hm, hp, hended | ⟨rest, rfl, hbelow⟩⟩ := moves_of_fair hfair h
    · exact ⟨m, p, hm, hp, hended⟩
    · obtain ⟨m', p, hm', hp⟩ := ih rest hbelow hp
      exact ⟨m', p, by omega, hp⟩

theorem result?_upTo {σ : Nat → Act} {n m : Nat} (h : n ≤ m)
    (hr : (s.upTo σ n).world.result? t = some r) : (s.upTo σ m).world.result? t = some r := by
  induction h with
  | refl => exact hr
  | step _ ih =>
    rw [upTo_succ]
    exact result?_act ih _

theorem upTo_split (s : Session) (σ : Nat → Act) {k n : Nat} (h : k < n) :
    ∃ acts, s.upTo σ n = ((s.upTo σ k).act (σ k)).after acts ∧ ∀ a ∈ acts, ∃ m, σ m = a := by
  induction n with
  | zero => cases h
  | succ n ih =>
    rcases Nat.lt_or_ge k n with hk | hk
    · obtain ⟨acts, hacts, hmem⟩ := ih hk
      refine ⟨acts ++ [σ n], ?_, fun a ha => ?_⟩
      · rw [upTo_succ, hacts, after, after, List.foldl_append]
        rfl
      · rcases List.mem_append.mp ha with ha | ha
        · exact hmem a ha
        · exact ⟨n, (List.mem_singleton.mp ha).symm⟩
    · obtain rfl : k = n := by omega
      exact ⟨[], upTo_succ s σ k, fun a ha => by cases ha⟩

/-! ## Dispatches stay apart -/

/-- What becomes of the task that a dispatch makes, in the course of the acts after it. -/
def progress (v : Session) (d : Dispatch) (c : Task) (acts : List Act) : Progress :=
  fate v.world.entries.length acts (v.act (.dispatch d))
    (if v.world.shut then .discarded else .pending c)

def since (v : Session) (d : Dispatch) (acts : List Act) : Session :=
  (v.act (.dispatch d)).after acts

/-- A dispatch and all that follows, as far as it concerns the dispatch. It makes one task, which
stands as its own steps have it: it has a result that its own work leads to, or it was discarded. If
it is for a future, then whoever asks for that gets the result of this task, or an error if it was
discarded, and gets it once; until then the future is there, unless it was dropped. If it is for a
callback that no other task is for, this has got the result of this task once it has finished, and
nothing before. -/
structure Apart (d : Dispatch) (c : Task) (v : Session) (acts : List Act) : Prop where
  single : (v.act (.dispatch d)).world.entries =
    v.world.entries ++ [⟨d.delivery, true, if v.world.shut then .discarded else .pending c⟩]
  task : (v.since d acts).world.task? v.world.entries.length =
    some (d.delivery, v.progress d c acts)
  own : ∀ r, v.progress d c acts = .finished r → ∃ o, c.Leads o ∧ r = o.guarded
  gone : v.progress d c acts = .discarded →
    v.world.shut = true ∨ .discard v.world.entries.length ∈ acts
  yields : ∀ r, (v.world.entries.length, r) ∈ (v.since d acts).yielded →
    d.delivery = .future ∧ (v.progress d c acts).result? = some r
  once : ((v.since d acts).yielded.map Prod.fst).count v.world.entries.length ≤ 1
  waits : d.delivery = .future → .drop v.world.entries.length ∉ acts →
    v.world.entries.length ∈ (v.since d acts).issued
  asks : v.world.entries.length ∈ (v.since d acts).held →
    ∀ r, (v.progress d c acts).result? = some r →
      (v.world.entries.length, r) ∈
        ((v.since d acts).act (.await v.world.entries.length)).yielded
  calls : ∀ id, d.delivery = .callback id →
    (∀ t x, t ≠ v.world.entries.length →
      (v.since d acts).world.task? t = some x → x.1 ≠ .callback id) →
    (v.since d acts).world.delivered.filter (fun x => x.1 == id) =
      (v.progress d c acts).handed?.toList.map (id, ·)

theorem await_yields (hheld : t ∈ s.held) (hr : s.world.result? t = some r) :
    (t, r) ∈ (s.act (.await t)).yielded := by
  simp only [act, if_pos hheld, hr]
  exact List.mem_append_right _ (List.mem_singleton_self _)

theorem task?_dispatch {d : Dispatch} (hwork : d.work? = some c) (v : Session) :
    (v.act (.dispatch d)).world.task? v.world.entries.length =
      some (d.delivery, if v.world.shut then .discarded else .pending c) := by
  obtain ⟨u, hu, hact⟩ := act_dispatch (s := v) hwork
  rw [hact, ← hu.entries, ← hu.shut]
  exact World.task?_spawn u c d.delivery

theorem Sound.apart {v : Session} (h : v.Sound) (haccounted : v.world.Accounted) {d : Dispatch}
    (hwork : d.work? = some c) (acts : List Act) : Apart d c v acts := by
  obtain ⟨u, hu, hact⟩ := act_dispatch (s := v) hwork
  have hsound : (v.since d acts).Sound := sound_after (h.act _) acts
  have htask : (v.since d acts).world.task? v.world.entries.length =
      some (d.delivery, v.progress d c acts) := task?_after (task?_dispatch hwork v) acts
  have hresult : (v.since d acts).world.result? v.world.entries.length =
      (v.progress d c acts).result? := by
    rw [World.result?_eq_task?, htask, Option.bind_some]
  refine ⟨?_, htask, fun r hr => ?_, fun hgone => ?_, fun r hr => ⟨?_, ?_⟩, ?_, fun hd hdrop => ?_,
    fun hheld r hr => ?_, fun id hd hothers => ?_⟩
  · rw [hact, World.spawn, hu.entries, hu.shut]
  · unfold progress at hr
    cases hshut : v.world.shut with
    | true =>
      rw [hshut, if_pos rfl, fate_of_ended rfl] at hr
      cases hr
    | false =>
      rw [hshut] at hr
      exact leads_of_fate hr
  · unfold progress at hgone
    cases hshut : v.world.shut with
    | true => exact .inl rfl
    | false =>
      rw [hshut] at hgone
      exact .inr (discard_of_fate hgone)
  · obtain ⟨p, hp⟩ := hsound.future v.world.entries.length
      (List.mem_append_right _ (List.mem_map_of_mem hr))
    rw [htask] at hp
    exact congrArg Prod.fst (Option.some.inj hp)
  · rw [← hresult]
    exact hsound.result _ r hr
  · exact List.nodup_iff_count_le_one.mp (hsound.nodup.of_append_right) _
  · refine issued_after (List.mem_append_left _ ?_) hdrop
    rw [hact, Dispatch.futures, hd]
    exact List.mem_append_right _ (List.mem_singleton_self _)
  · exact await_yields hheld (hresult.trans hr)
  · rw [hd] at htask
    exact (accounted_after (accounted_act haccounted _) acts).alone htask hothers

/-- A dispatch on a schedule without end comes to its end: its task finishes, unless it is
discarded, and if it is for a future that is asked for again and again and never dropped, this
yields. -/
structure Completes (s : Session) (σ : Nat → Act) (k : Nat) (d : Dispatch) : Prop where
  ends : ∃ n p, k < n ∧
    (s.upTo σ n).world.task? (s.upTo σ k).world.entries.length = some (d.delivery, p) ∧
    ((∃ r, p = .finished r) ∨ p = .discarded ∧ ((s.upTo σ k).world.shut = true ∨
      ∃ m, σ m = .discard (s.upTo σ k).world.entries.length))
  yields : d.delivery = .future →
    (∀ n, ∃ m, n ≤ m ∧ σ m = .await (s.upTo σ k).world.entries.length) →
    (∀ m, σ m ≠ .drop (s.upTo σ k).world.entries.length) →
    ∃ n r, ((s.upTo σ k).world.entries.length, r) ∈ (s.upTo σ n).yielded

theorem ends_of_dispatch {σ : Nat → Act} {k : Nat} {d : Dispatch} (hd : σ k = .dispatch d)
    (hwork : d.work? = some c)
    (hfair : ∀ n, ∃ m, n ≤ m ∧ σ m = .advance (s.upTo σ k).world.entries.length) :
    ∃ n p, k < n ∧
      (s.upTo σ n).world.task? (s.upTo σ k).world.entries.length = some (d.delivery, p) ∧
      p.isPending = false := by
  have hbegun := task?_dispatch hwork (s.upTo σ k)
  rw [← hd, ← upTo_succ] at hbegun
  cases hshut : (s.upTo σ k).world.shut with
  | true =>
    rw [hshut, if_pos rfl] at hbegun
    exact ⟨k + 1, _, Nat.lt_succ_self k, hbegun, rfl⟩
  | false =>
    rw [hshut] at hbegun
    exact ends_of_fair hfair hbegun

/-- On a schedule a dispatch goes its own way up to any point after it. -/
theorem Sound.apart_upTo (h : s.Sound) (haccounted : s.world.Accounted) {σ : Nat → Act}
    {k m : Nat} {d : Dispatch} (hd : σ k = .dispatch d) (hwork : d.work? = some c) (hm : k < m) :
    ∃ acts, s.upTo σ m = (s.upTo σ k).since d acts ∧ (∀ a ∈ acts, ∃ i, σ i = a) ∧
      Apart d c (s.upTo σ k) acts := by
  obtain ⟨acts, hacts, hmem⟩ := upTo_split s σ hm
  rw [hd] at hacts
  have hsound : (s.upTo σ k).Sound := sound_after h _
  exact ⟨acts, hacts, hmem, hsound.apart (accounted_after haccounted _) hwork acts⟩

theorem Sound.completes (h : s.Sound) (haccounted : s.world.Accounted) {σ : Nat → Act} {k : Nat}
    {d : Dispatch} (hd : σ k = .dispatch d) (hwork : d.work? = some c)
    (hfair : ∀ n, ∃ m, n ≤ m ∧ σ m = .advance (s.upTo σ k).world.entries.length) :
    Completes s σ k d := by
  obtain ⟨n, p, hn, hp, hended⟩ := ends_of_dispatch hd hwork hfair
  refine ⟨⟨n, p, hn, hp, ?_⟩, fun hfuture hawait hdrop => ?_⟩
  · cases p with
    | pending c => cases hended
    | finished r => exact .inl ⟨r, rfl⟩
    | discarded =>
      obtain ⟨acts, hacts, hmem, ha⟩ := h.apart_upTo haccounted hd hwork hn
      rw [hacts, ha.task] at hp
      refine .inr ⟨rfl, (ha.gone ?_).imp_right fun hdiscard => hmem _ hdiscard⟩
      exact congrArg Prod.snd (Option.some.inj hp)
  · obtain ⟨r, hr⟩ : ∃ r, p.result? = some r := by
      cases p with
      | pending c => cases hended
      | finished r | discarded => exact ⟨_, rfl⟩
    -- the first time that it is asked for after its task has ended, the future yields
    obtain ⟨m, hm, hask⟩ := hawait n
    have hresult : (s.upTo σ m).world.result? (s.upTo σ k).world.entries.length = some r := by
      refine result?_upTo hm ?_
      rw [World.result?_eq_task?, hp]
      exact hr
    obtain ⟨acts, hacts, hmem, ha⟩ := h.apart_upTo haccounted hd hwork (Nat.lt_of_lt_of_le hn hm)
    have hissued := ha.waits hfuture fun hmem' => by
      obtain ⟨i, hi⟩ := hmem _ hmem'
      exact hdrop i hi
    rw [← hacts] at hissued
    rcases List.mem_append.mp hissued with hheld | hyielded
    · refine ⟨m + 1, r, ?_⟩
      rw [upTo_succ, hask]
      exact await_yields hheld hresult
    · obtain ⟨⟨t, r'⟩, hr', rfl⟩ := List.mem_map.mp hyielded
      exact ⟨m, r', hr'⟩

/-- **Dispatches on one pool stay apart.** Callers dispatch any works on a pool, ask for the futures
that they get and drop them, and the pool does steps of its tasks, discards them and is closed, in
any order. Every dispatch goes its own way (`Apart`); at any time callbacks have got the results of
exactly those tasks of theirs that have finished, each once; and a task whose turn comes again and
again is done to its end, whatever becomes of its future (`Completes`). -/
theorem dispatches_stay_apart (reply : Nat → WireRequest → Reply) :
    (∀ before d c acts, Dispatch.work? d = some c →
      Apart d c ((start reply).after before) acts) ∧
    (∀ acts, ((start reply).after acts).world.Accounted) ∧
    ∀ σ k d c, σ k = .dispatch d → d.work? = some c →
      (∀ n, ∃ m, n ≤ m ∧ σ m = .advance ((start reply).upTo σ k).world.entries.length) →
      Completes (start reply) σ k d := by
  have hstart : (start reply).world.Accounted := List.Perm.refl []
  refine ⟨fun before d c acts hwork => ?_, accounted_after hstart,
    fun σ k d c hd hwork hfair => (sound_start reply).completes hstart hd hwork hfair⟩
  exact (sound_after (sound_start reply) before).apart (accounted_after hstart before) hwork acts

/-- Three dispatches and their turns in between one another. The first is waited for and yields, the
second ends in a panic that its callback gets as an error, the third is discarded and its future
yields an error. On a schedule where the first is moved and asked for in turns, its future
yields. -/
theorem dispatches_stay_apart_of_three :
    let reply := Reply.inOrder []
    let counted : Task := .count (.ok .unit)
    let broken : Task := .panic (.text "boom")
    let later : List Act := [.advance 0, .dispatch (.enqueue (.ready broken) 7), .advance 1,
      .dispatch (.submit counted), .advance 0, .discard 2, .await 2, .await 0]
    let s := (start reply).after (.dispatch (.submit counted) :: later)
    let σ : Nat → Act := fun n =>
      if n = 0 then .dispatch (.submit counted) else if n % 2 = 1 then .advance 0 else .await 0
    Apart (.submit counted) counted (start reply) later ∧ s.world.Accounted ∧
      s.yielded = [(2, .error (.execution .lost)), (0, .ok .unit)] ∧
      s.world.delivered = [(7, .error (.execution (.panicked (.text "boom"))))] ∧
      σ 0 = .dispatch (.submit counted) ∧ (∀ n, ∃ m, n ≤ m ∧ σ m = .advance 0) ∧
      ∃ n r, (0, r) ∈ ((start reply).upTo σ n).yielded := by
  intro reply counted broken later s σ
  obtain ⟨hapart, haccounted, hcompletes⟩ := dispatches_stay_apart reply
  have hadvance (n : Nat) : ∃ m, n ≤ m ∧ σ m = .advance 0 := by
    refine ⟨2 * n + 1, by omega, ?_⟩
    simp only [σ]
    rw [if_neg (by omega), if_pos (by omega)]
  have hawait (n : Nat) : ∃ m, n ≤ m ∧ σ m = .await 0 := by
    refine ⟨2 * n + 2, by omega, ?_⟩
    simp only [σ]
    rw [if_neg (by omega), if_neg (by omega)]
  have hkept (n : Nat) : σ n ≠ .drop 0 := by
    simp only [σ]
    split
    · simp
    · split <;> simp
  refine ⟨hapart [] (.submit counted) counted later rfl, haccounted _, rfl, rfl, rfl, hadvance, ?_⟩
  exact (hcompletes σ 0 (.submit counted) counted rfl rfl hadvance).yields rfl hawait hkept

end Session
end Endpoint
