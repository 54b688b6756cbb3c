import Endpoint.World

/-!
What happens to the pool while work runs and tasks finish. Work that runs leaves every task where it
stands and only adds tasks (`run_keeps`); finishing a task gives it a result. So a result that is
there stays, and so does every outcome that a callback got (`settleFrom_grows`). What completing one
task preserves, settling the world preserves (`complete_cases`, `settleFrom_induction`), and what
holds of all that is left to do on the pool (`Leaves`) holds on when a task is finished.

Two classes of worlds and works make a run predictable. In an idle world no task is left to do, so
settling it changes nothing. Direct work puts nothing on the pool: how it ends, what it executes,
sends and logs does not depend on the pool at all (`run_fst_of_direct`, `run_sameBooks`), and it
leaves an idle world idle.
-/
namespace Endpoint

/-- The result of a task, once it has one. -/
def Progress.result? : Progress → Option (Except Error Value)
  | .pending _ => none
  | .finished r => some r
  | .discarded => some (.error (.execution .lost))

def Progress.isPending : Progress → Bool
  | .pending _ => true
  | _ => false

theorem Progress.result?_eq_none_iff {p : Progress} : p.result? = none ↔ p.isPending = true := by
  cases p <;> simp [result?, isPending]

namespace World

theorem result?_eq_bind (w : World) (t : Nat) :
    w.result? t = w.entries[t]?.bind fun e => e.progress.result? := by
  unfold result?
  cases w.entries[t]? with
  | none => rfl
  | some e => cases h : e.progress <;> simp [Progress.result?, h]

theorem entry_of_spawn {w : World} {work : Task} {d : Delivery} {t : Nat} {e : Entry}
    (h : (w.spawn work d).entries[t]? = some e) :
    w.entries[t]? = some e ∨
      t = w.entries.length ∧ e = ⟨d, true, if w.shut then .discarded else .pending work⟩ := by
  have hlt : t < w.entries.length + 1 := by
    have hlength := (List.getElem?_eq_some_iff.mp h).1
    simpa [spawn] using hlength
  rcases Nat.lt_or_ge t w.entries.length with ht | ht
  · rw [spawn, List.getElem?_append_left ht] at h
    exact .inl h
  · obtain rfl : t = w.entries.length := by omega
    rw [spawn, List.getElem?_concat_length] at h
    exact .inr ⟨rfl, (Option.some.inj h).symm⟩

theorem entry_of_update {w : World} {ticket : Nat} {f : Entry → Entry} {t : Nat} {e : Entry}
    (h : (w.update ticket f).entries[t]? = some e) :
    ∃ e', w.entries[t]? = some e' ∧ e = if ticket = t then f e' else e' := by
  rw [update, List.getElem?_modify] at h
  obtain ⟨e', he', rfl⟩ := Option.map_eq_some_iff.mp h
  refine ⟨e', he', ?_⟩
  split <;> rfl

/-! ## Running work -/

/-- One world keeps what another has: its tasks stand as they stood, for the same receivers, and no
outcome was handed over. -/
structure Keeps (w w' : World) : Prop where
  entry : ∀ (t : Nat) e, w.entries[t]? = some e →
    ∃ e', w'.entries[t]? = some e' ∧ e'.progress = e.progress ∧ e'.delivery = e.delivery
  delivered : w'.delivered = w.delivered
  reply : w'.reply = w.reply
  shut : w'.shut = w.shut

namespace Keeps
variable {w v u : World}

theorem refl (w : World) : Keeps w w := ⟨fun _ e he => ⟨e, he, rfl, rfl⟩, rfl, rfl, rfl⟩

theorem trans (h : Keeps w v) (h' : Keeps v u) : Keeps w u where
  entry t e he := by
    obtain ⟨e₁, he₁, hp₁, hd₁⟩ := h.entry t e he
    obtain ⟨e₂, he₂, hp₂, hd₂⟩ := h'.entry t e₁ he₁
    exact ⟨e₂, he₂, hp₂.trans hp₁, hd₂.trans hd₁⟩
  delivered := h'.delivered.trans h.delivered
  reply := h'.reply.trans h.reply
  shut := h'.shut.trans h.shut

theorem of_entries (hentries : v.entries = w.entries) (hdelivered : v.delivered = w.delivered)
    (hreply : v.reply = w.reply) (hshut : v.shut = w.shut) : Keeps w v :=
  ⟨fun _ e he => ⟨e, by rw [hentries]; exact he, rfl, rfl⟩, hdelivered, hreply, hshut⟩

theorem result? (h : Keeps w v) {t : Nat} {r : Except Error Value} (hr : w.result? t = some r) :
    v.result? t = some r := by
  rw [result?_eq_bind] at hr ⊢
  obtain ⟨e, he, hp⟩ := Option.bind_eq_some_iff.mp hr
  obtain ⟨e', he', hp', -⟩ := h.entry t e he
  simp only [he', Option.bind_some, hp', hp]

theorem length_le (h : Keeps w v) : w.entries.length ≤ v.entries.length := by
  rcases Nat.eq_zero_or_pos w.entries.length with h0 | hpos
  · omega
  · have hlt : w.entries.length - 1 < w.entries.length := by omega
    obtain ⟨e', he', -⟩ := h.entry _ _ (List.getElem?_eq_getElem hlt)
    have := (List.getElem?_eq_some_iff.mp he').1
    omega

end Keeps

theorem keeps_spawn (w : World) (work : Task) (d : Delivery) : Keeps w (w.spawn work d) where
  entry t e he := by
    have hlt := (List.getElem?_eq_some_iff.mp he).1
    exact ⟨e, by simp only [spawn, List.getElem?_append_left hlt, he], rfl, rfl⟩
  delivered := rfl
  reply := rfl
  shut := rfl

theorem keeps_release (w : World) (t : Nat) : Keeps w (w.release t) where
  entry i e he := by
    simp only [release, update, List.getElem?_modify, he]
    split
    · exact ⟨_, rfl, rfl, rfl⟩
    · exact ⟨e, rfl, rfl, rfl⟩
  delivered := rfl
  reply := rfl
  shut := rfl

theorem keeps_abandon (w : World) (r : Except Error Value) : Keeps w (w.abandon r) := by
  unfold abandon
  split
  · exact keeps_release w _
  · exact .refl w

theorem run_keeps (t : Task) (w : World) : Keeps w (t.run w).2 := by
  induction t generalizing w with
  | done | panic => exact .refl w
  | count _ ih | report _ _ ih | log _ _ ih =>
    simp only [Work.run]
    refine .trans (.of_entries ?_ ?_ ?_ ?_) (ih _) <;> rfl
  | send q _ ih =>
    simp only [Work.run]
    have hpost : Keeps w (w.post q) := .of_entries rfl rfl rfl rfl
    cases w.reply w.sent.length q with
    | answer a => exact hpost.trans (ih _ _)
    | fail e => exact hpost.trans (ih _ _)
    | panic p => exact hpost
  | spawn work d _ _ ih => exact (keeps_spawn w work d).trans (ih _ _)
  | release v _ ih => exact (keeps_abandon w _).trans (ih _)

/-! ## Finishing tasks -/

/-- One world has grown out of another: every result is still there, and so is every outcome that
was handed over. -/
structure Grows (w w' : World) : Prop where
  result : ∀ t r, w.result? t = some r → w'.result? t = some r
  delivered : w.delivered <+: w'.delivered

namespace Grows
variable {w v u : World}

theorem refl (w : World) : Grows w w := ⟨fun _ _ h => h, List.prefix_rfl⟩

theorem trans (h : Grows w v) (h' : Grows v u) : Grows w u :=
  ⟨fun t r hr => h'.result t r (h.result t r hr), h.delivered.trans h'.delivered⟩

theorem outcome (h : Grows w v) {k : Nat} {x : Nat × Except Error Value}
    (hx : w.delivered[k]? = some x) : v.delivered[k]? = some x := by
  obtain ⟨rest, hrest⟩ := h.delivered
  rw [← hrest, List.getElem?_append_left (List.getElem?_eq_some_iff.mp hx).1, hx]

end Grows

theorem Keeps.grows {w v : World} (h : Keeps w v) : Grows w v :=
  ⟨fun _ _ => h.result?, h.delivered ▸ List.prefix_rfl⟩

theorem result?_release (w : World) (t i : Nat) : (w.release t).result? i = w.result? i := by
  rw [result?_eq_bind, result?_eq_bind]
  simp only [release, update, List.getElem?_modify]
  cases w.entries[i]? with
  | none => rfl
  | some e => split <;> rfl

theorem result?_abandon (w : World) (r : Except Error Value) (i : Nat) :
    (w.abandon r).result? i = w.result? i := by
  unfold abandon
  split
  · exact result?_release w _ i
  · rfl

end World

/-- What is handed over of a result: it, to a callback. -/
def Delivery.outcomes (r : Except Error Value) : Delivery → List (Nat × Except Error Value)
  | .future => []
  | .callback id => [(id, r)]

namespace World

/-- The world once the task of a ticket has its result. A panic has been reported before. -/
def conclude (w : World) (t : Nat) (o : Outcome) : World :=
  World.update
    (match o with
      | .result _ => w
      | .panic p => w.report (.panicked p.message))
    t fun e => { e with progress := .finished o.guarded }

theorem conclude_entries (w : World) (t : Nat) (o : Outcome) :
    (w.conclude t o).entries =
      w.entries.modify t fun e => { e with progress := .finished o.guarded } := by
  cases o <;> rfl

theorem conclude_delivered (w : World) (t : Nat) (o : Outcome) :
    (w.conclude t o).delivered = w.delivered := by
  cases o <;> rfl

/-- What a task that is finished leaves: its result is kept for a future, handed to a callback, or
dropped when nobody waits for the future. -/
theorem finish_cases {P : World → Prop} {w : World} {t : Nat} {e : Entry} {o : Outcome}
    (hkept : e.delivery = .future → P (w.conclude t o))
    (hhanded : ∀ id, e.delivery = .callback id →
      P { w.conclude t o with delivered := (w.conclude t o).delivered ++ [(id, o.guarded)] })
    (hdropped : e.delivery = .future →
      P (((w.conclude t o).abandon o.guarded).report .resultDropped)) :
    P (w.finish t e o) := by
  unfold finish
  cases hd : e.delivery with
  | callback id => exact hhanded id hd
  | future =>
    simp only
    split
    · exact hkept hd
    · exact hdropped hd

theorem result?_conclude {w : World} {t : Nat} (o : Outcome) (ht : t < w.entries.length) (i : Nat) :
    (w.conclude t o).result? i = if i = t then some o.guarded else w.result? i := by
  rw [result?_eq_bind, result?_eq_bind, conclude_entries, List.getElem?_modify]
  by_cases hi : i = t
  · subst hi
    simp [List.getElem?_eq_getElem ht, Progress.result?]
  · simp [hi, Ne.symm hi]

/-- A task that is finished has its result, and no other task is touched. -/
theorem result?_finish {w : World} {t : Nat} (e : Entry) (o : Outcome) (ht : t < w.entries.length)
    (i : Nat) :
    (w.finish t e o).result? i = if i = t then some o.guarded else w.result? i := by
  have hconclude := result?_conclude o ht i
  refine finish_cases (P := fun v => v.result? i = if i = t then some o.guarded else w.result? i)
    ?_ ?_ ?_
  · exact fun _ => hconclude
  · exact fun _ _ => hconclude
  · intro _
    exact (result?_abandon _ o.guarded i).trans hconclude

theorem abandon_delivered (w : World) (r : Except Error Value) :
    (w.abandon r).delivered = w.delivered := (keeps_abandon w r).delivered

theorem finish_delivered (w : World) (t : Nat) (e : Entry) (o : Outcome) :
    (w.finish t e o).delivered = w.delivered ++ e.delivery.outcomes o.guarded := by
  refine finish_cases (P := fun v => v.delivered = w.delivered ++ e.delivery.outcomes o.guarded)
    ?_ ?_ ?_
  · intro hd
    rw [hd, conclude_delivered, Delivery.outcomes, List.append_nil]
  · intro id hd
    rw [hd, conclude_delivered]
    rfl
  · intro hd
    rw [hd, Delivery.outcomes, List.append_nil]
    exact (abandon_delivered _ _).trans (conclude_delivered w t o)

theorem finish_grows {w : World} {t : Nat} (e : Entry) (o : Outcome) (ht : t < w.entries.length)
    (hpending : w.result? t = none) : Grows w (w.finish t e o) where
  result i r hr := by
    rw [result?_finish e o ht, if_neg]
    · exact hr
    · rintro rfl
      rw [hpending] at hr
      cases hr
  delivered := by
    rw [finish_delivered]
    exact List.prefix_append ..

/-! ## Completing tasks -/

/-- A task that is left to do is completed by running and finishing it; any other is left alone. -/
theorem complete_cases {P : World → Prop} {w : World} {t : Nat} (hsame : P w)
    (hrun : ∀ e work, w.entries[t]? = some e → e.progress = .pending work →
      P ((work.run w).2.finish t e (work.run w).1)) : P (w.complete t) := by
  unfold complete
  cases he : w.entries[t]? with
  | none => exact hsame
  | some e =>
    cases hp : e.progress with
    | pending work =>
      simp only [hp]
      exact hrun e work he hp
    | finished _ | discarded =>
      simp only [hp]
      exact hsame

/-- What completing one task preserves, settling the world preserves. -/
theorem settleFrom_induction {P : World → Prop} (hcomplete : ∀ v t, P v → P (v.complete t))
    {w : World} (h : P w) (fuel t : Nat) : P (settleFrom fuel t w) := by
  induction fuel generalizing t w with
  | zero => exact h
  | succ fuel ih =>
    rw [settleFrom]
    split
    · exact ih (hcomplete w t h) (t + 1)
    · exact h

theorem complete_grows (w : World) (t : Nat) : Grows w (w.complete t) := by
  refine complete_cases (.refl w) fun e work he hp => ?_
  -- running leaves the task pending, so that finishing it takes no result away
  have hkeeps := run_keeps work w
  obtain ⟨e', he', hp', -⟩ := hkeeps.entry t e he
  refine hkeeps.grows.trans (finish_grows e _ (List.getElem?_eq_some_iff.mp he').1 ?_)
  rw [result?_eq_bind, he', Option.bind_some, hp', hp]
  rfl

theorem settleFrom_grows (fuel t : Nat) (w : World) : Grows w (settleFrom fuel t w) :=
  settleFrom_induction (fun v t h => h.trans (complete_grows v t)) (.refl w) fuel t

/-! ## What is left to do -/

/-- Whatever is left to do on the pool, but for a busy task, is so, given where its result goes. -/
def Leaves (P : Delivery → Task → Prop) (busy : Option Nat) (w : World) : Prop :=
  ∀ (t : Nat) e work, w.entries[t]? = some e → busy ≠ some t → e.progress = .pending work →
    P e.delivery work

namespace Leaves
variable {P : Delivery → Task → Prop} {busy : Option Nat} {w : World}

theorem spawn (h : Leaves P busy w) {work : Task} {d : Delivery}
    (hwork : busy ≠ some w.entries.length → P d work) : Leaves P busy (w.spawn work d) := by
  intro t e left he hbusy hp
  obtain he | ⟨rfl, rfl⟩ := entry_of_spawn he
  · exact h t e left he hbusy hp
  · simp only at hp
    split at hp
    · cases hp
    · cases hp
      exact hwork hbusy

/-- A task that is changed has no more to do than before, and hands its result to the same
receiver. -/
theorem update (h : Leaves P busy w) (ticket : Nat) {f : Entry → Entry}
    (hf : ∀ e work, (f e).progress = .pending work → e.progress = .pending work ∧
      (f e).delivery = e.delivery) : Leaves P busy (w.update ticket f) := by
  intro t e left he hbusy hp
  obtain ⟨e', he', rfl⟩ := entry_of_update he
  by_cases ht : ticket = t
  · rw [if_pos ht] at hp ⊢
    obtain ⟨hp, hdelivery⟩ := hf e' left hp
    rw [hdelivery]
    exact h t e' left he' hbusy hp
  · rw [if_neg ht] at hp ⊢
    exact h t e' left he' hbusy hp

theorem abandon (h : Leaves P busy w) (r : Except Error Value) :
    Leaves P busy (w.abandon r) := by
  unfold World.abandon
  split
  · exact h.update _ fun _ _ hp => ⟨hp, rfl⟩
  · exact h

theorem conclude (h : Leaves P busy w) {ticket : Nat}
    (hbusy : ∀ t, busy = some t → t = ticket) (o : Outcome) :
    Leaves P none (w.conclude ticket o) := by
  intro t e left he _ hp
  rw [conclude_entries] at he
  obtain ⟨e', he', rfl⟩ := entry_of_update (w := w) he
  by_cases ht : ticket = t
  · rw [if_pos ht] at hp
    cases hp
  · rw [if_neg ht] at hp ⊢
    exact h t e' left he' (fun hbusy' => ht (hbusy t hbusy').symm) hp

theorem finish (h : Leaves P busy w) {ticket : Nat} (hbusy : ∀ t, busy = some t → t = ticket)
    (e : Entry) (o : Outcome) : Leaves P none (w.finish ticket e o) := by
  have hconclude := h.conclude hbusy o
  apply finish_cases
  · exact fun _ => hconclude
  · exact fun _ _ => hconclude
  · exact fun _ => hconclude.abandon _

end Leaves

/-! ## Idle worlds -/

/-- No task is left to do. -/
def Idle (w : World) : Prop := ∀ e ∈ w.entries, e.progress.isPending = false

theorem complete_of_not_pending {w : World} {t : Nat}
    (h : ∀ e, w.entries[t]? = some e → e.progress.isPending = false) : w.complete t = w := by
  refine complete_cases (P := fun v => v = w) rfl fun e work he hp => ?_
  have hdone := h e he
  rw [hp] at hdone
  cases hdone

theorem settleFrom_of_idle {w : World} (h : w.Idle) (fuel t : Nat) : settleFrom fuel t w = w := by
  refine settleFrom_induction (P := fun v => v = w) ?_ rfl fuel t
  rintro _ t rfl
  exact complete_of_not_pending fun e he => h e (List.mem_of_getElem? he)

theorem leaves_of_idle {w : World} (h : w.Idle) (P : Delivery → Task → Prop) (busy : Option Nat) :
    Leaves P busy w := by
  intro t e work he _ hp
  have hdone := h e (List.mem_of_getElem? he)
  rw [hp] at hdone
  cases hdone

/-- An idle world is settled. -/
theorem settle_of_idle {w : World} (h : w.Idle) : w.settle = w := settleFrom_of_idle h _ _

theorem idle_iff_result? {w : World} :
    w.Idle ↔ ∀ t, t < w.entries.length → w.result? t ≠ none := by
  constructor
  · intro h t ht hnone
    have hp := h _ (List.getElem_mem ht)
    rw [result?_eq_bind, List.getElem?_eq_getElem ht, Option.bind_some,
      Progress.result?_eq_none_iff, hp] at hnone
    cases hnone
  · intro h e he
    obtain ⟨t, ht, rfl⟩ := List.getElem_of_mem he
    have hsome := h t ht
    rw [result?_eq_bind, List.getElem?_eq_getElem ht, Option.bind_some, ne_eq,
      Progress.result?_eq_none_iff, Bool.not_eq_true] at hsome
    exact hsome

theorem settleFrom_add {w : World} (n : Nat) (hn : n ≤ w.entries.length)
    (h : ∀ (t : Nat) e, t < n → w.entries[t]? = some e → e.progress.isPending = false)
    (fuel t : Nat) (ht : t ≤ n) : settleFrom (fuel + (n - t)) t w = settleFrom fuel n w := by
  obtain ⟨k, rfl⟩ : ∃ k, n = t + k := ⟨n - t, by omega⟩
  rw [Nat.add_sub_cancel_left]
  induction k generalizing t with
  | zero => rfl
  | succ k ih =>
    -- one ticket is passed over, which costs one unit of fuel and changes nothing
    have hlt : t < w.entries.length := by omega
    have hskip : w.complete t = w := complete_of_not_pending fun e => h t e (by omega)
    rw [← Nat.add_assoc, settleFrom, if_pos hlt, hskip]
    rw [show t + (k + 1) = t + 1 + k by omega] at hn h ⊢
    exact ih (t + 1) hn h (by omega)

end World

/-! ## Direct work -/

/-- One world has done what another has done: it executed, sent and logged the same, and is answered
alike. -/
structure World.SameBooks (w v : World) : Prop where
  executions : v.executions = w.executions
  sent : v.sent = w.sent
  log : v.log = w.log
  reply : v.reply = w.reply

theorem World.SameBooks.refl (w : World) : SameBooks w w := ⟨rfl, rfl, rfl, rfl⟩

theorem World.SameBooks.trans {w v u : World} (h : SameBooks w v) (h' : SameBooks v u) :
    SameBooks w u :=
  ⟨h'.executions.trans h.executions, h'.sent.trans h.sent, h'.log.trans h.log,
    h'.reply.trans h.reply⟩

theorem World.abandon_sameBooks (w : World) (r : Except Error Value) :
    SameBooks w (w.abandon r) := by
  unfold abandon
  split <;> exact ⟨rfl, rfl, rfl, rfl⟩

theorem World.finish_sameBooks (w : World) (t : Nat) (e : Entry) (o : Outcome) :
    SameBooks w (w.finish t e o) := by
  have hconclude : SameBooks w (w.conclude t o) := by
    cases o <;> exact ⟨rfl, rfl, rfl, rfl⟩
  apply finish_cases
  · exact fun _ => hconclude
  · exact fun _ _ => ⟨hconclude.executions, hconclude.sent, hconclude.log, hconclude.reply⟩
  · intro _
    have habandon := hconclude.trans (abandon_sameBooks _ o.guarded)
    exact ⟨habandon.executions, habandon.sent, habandon.log, habandon.reply⟩

namespace Work

/-- The work puts nothing on the pool, however the other side answers. -/
def Direct {V : Type} : Work V → Prop
  | done _ | panic _ => True
  | count next | report _ next | log _ next | release _ next => next.Direct
  | send _ next => ∀ answer, (next answer).Direct
  | spawn _ _ _ => False

theorem Direct.reportAll {V : Type} (events : List Event) {t : Work V} (h : t.Direct) :
    (reportAll events t).Direct := by
  induction events with
  | nil => exact h
  | cons _ _ ih => exact ih

theorem Direct.andThen {V : Type} {f : Except Error V → Work V} (hf : ∀ r, (f r).Direct)
    {t : Work V} (h : t.Direct) : (t.andThen f).Direct := by
  induction t with
  | done r => exact hf r
  | panic p => trivial
  | count _ ih | report _ _ ih | log _ _ ih | release _ _ ih => exact ih h
  | send _ _ ih => exact fun answer => ih answer (h answer)
  | spawn _ _ _ _ _ => exact h.elim

/-- How direct work ends depends on what was sent and on the other side alone. -/
theorem run_fst_of_direct {t : Task} (h : t.Direct) {w v : World} (hsent : v.sent = w.sent)
    (hreply : v.reply = w.reply) : (t.run v).1 = (t.run w).1 := by
  induction t generalizing w v with
  | done | panic => rfl
  | count _ ih | report _ _ ih | log _ _ ih => exact ih h hsent hreply
  | send q _ ih =>
    have hposted : (v.post q).sent = (w.post q).sent := congrArg (· ++ [q]) hsent
    simp only [run]
    rw [hreply, hsent]
    cases w.reply w.sent.length q with
    | answer a => exact ih _ (h _) hposted hreply
    | fail e => exact ih _ (h _) hposted hreply
    | panic p => rfl
  | spawn _ _ _ _ _ => exact h.elim
  | release r _ ih =>
    have hw := World.abandon_sameBooks w (.ok r)
    have hv := World.abandon_sameBooks v (.ok r)
    exact ih h ((hv.sent.trans hsent).trans hw.sent.symm)
      ((hv.reply.trans hreply).trans hw.reply.symm)

/-- Where the books are the same, direct work keeps them the same. -/
theorem run_sameBooks {t : Task} (h : t.Direct) {w v : World} (hbooks : w.SameBooks v) :
    (t.run w).2.SameBooks (t.run v).2 := by
  induction t generalizing w v with
  | done | panic => exact hbooks
  | count _ ih =>
    exact ih h ⟨congrArg (· + 1) hbooks.executions, hbooks.sent, hbooks.log, hbooks.reply⟩
  | report _ _ ih => exact ih h ⟨hbooks.executions, hbooks.sent, hbooks.log, hbooks.reply⟩
  | log line _ ih =>
    exact ih h ⟨hbooks.executions, hbooks.sent, congrArg (· ++ [line]) hbooks.log, hbooks.reply⟩
  | send q _ ih =>
    have hposted : (w.post q).SameBooks (v.post q) :=
      ⟨congrArg (· + 1) hbooks.executions, congrArg (· ++ [q]) hbooks.sent, hbooks.log,
        hbooks.reply⟩
    simp only [run]
    rw [hbooks.reply, hbooks.sent]
    cases w.reply w.sent.length q with
    | answer a => exact ih _ (h _) hposted
    | fail e => exact ih _ (h _) hposted
    | panic p => exact hposted
  | spawn _ _ _ _ _ => exact h.elim
  | release r _ ih =>
    have hw := World.abandon_sameBooks w (.ok r)
    have hv := World.abandon_sameBooks v (.ok r)
    exact ih h ⟨hv.executions.trans (hbooks.executions.trans hw.executions.symm),
      hv.sent.trans (hbooks.sent.trans hw.sent.symm), hv.log.trans (hbooks.log.trans hw.log.symm),
      hv.reply.trans (hbooks.reply.trans hw.reply.symm)⟩

end Work

namespace World

theorem abandon_length (w : World) (r : Except Error Value) :
    (w.abandon r).entries.length = w.entries.length := by
  unfold abandon
  split
  · exact List.length_modify ..
  · rfl

theorem run_length {t : Task} (h : t.Direct) (w : World) :
    (t.run w).2.entries.length = w.entries.length := by
  induction t generalizing w with
  | done | panic => rfl
  | count _ ih | report _ _ ih | log _ _ ih =>
    simp only [Work.run]
    exact ih h _
  | send q _ ih =>
    simp only [Work.run]
    cases w.reply w.sent.length q with
    | answer a => exact ih _ (h _) _
    | fail e => exact ih _ (h _) _
    | panic p => rfl
  | spawn _ _ _ _ _ => exact h.elim
  | release r _ ih => exact (ih h _).trans (abandon_length w _)

theorem finish_length (w : World) (t : Nat) (e : Entry) (o : Outcome) :
    (w.finish t e o).entries.length = w.entries.length := by
  have hconclude : (w.conclude t o).entries.length = w.entries.length := by
    rw [conclude_entries, List.length_modify]
  refine finish_cases (P := fun v => v.entries.length = w.entries.length) ?_ ?_ ?_
  · exact fun _ => hconclude
  · exact fun _ _ => hconclude
  · exact fun _ => (abandon_length _ _).trans hconclude

/-! ## Fresh tasks -/

/-- The world with one more task, which has finished and handed its result on. -/
def land (w : World) (d : Delivery) (r : Except Error Value) : World :=
  { w with
    entries := w.entries ++ [⟨d, true, .finished r⟩]
    delivered := w.delivered ++ d.outcomes r }

theorem land_length (w : World) (d : Delivery) (r : Except Error Value) :
    (w.land d r).entries.length = w.entries.length + 1 := by
  simp [land]

theorem result?_land (w : World) (d : Delivery) (r : Except Error Value) :
    (w.land d r).result? w.entries.length = some r := by
  simp [result?, land]

theorem idle_land {w : World} (h : w.Idle) (d : Delivery) (r : Except Error Value) :
    (w.land d r).Idle := by
  intro e he
  rcases List.mem_append.mp he with he | he
  · exact h e he
  · rw [List.mem_singleton.mp he]
    rfl

theorem modify_append (f : Entry → Entry) (es : List Entry) (e : Entry) (rest : List Entry) :
    (es ++ e :: rest).modify es.length f = es ++ f e :: rest :=
  List.modifyTailIdx_add _ 0 es (e :: rest)

/-- A fresh task is finished where it stands, whether or not another one was put behind it. -/
theorem finish_fresh (w : World) (work : Task) (d : Delivery) (p : Progress)
    (r : Except Error Value) :
    (w.spawn work d).finish w.entries.length ⟨d, true, p⟩ (.result r) = w.land d r := by
  cases d <;>
    simp [finish, Outcome.guarded, spawn, update, land, Delivery.outcomes, modify_append]

theorem finish_fresh_spawn (w : World) (work below : Task) (d d' : Delivery) (p : Progress)
    (r : Except Error Value) :
    ((w.spawn work d).spawn below d').finish w.entries.length ⟨d, true, p⟩ (.result r) =
      (w.land d r).spawn below d' := by
  simp only [finish, Outcome.guarded, spawn, update, List.append_assoc, List.cons_append,
    List.nil_append, modify_append]
  cases d with
  | future =>
    simp [land, Delivery.outcomes]
    rfl
  | callback id =>
    simp [land, Delivery.outcomes]
    rfl

theorem complete_fresh {w : World} (hopen : w.shut = false) (work : Task) (d : Delivery) :
    (w.spawn work d).complete w.entries.length =
      (work.run (w.spawn work d)).2.finish w.entries.length ⟨d, true, .pending work⟩
        (work.run (w.spawn work d)).1 := by
  have he : (w.spawn work d).entries[w.entries.length]? = some ⟨d, true, .pending work⟩ := by
    simp [spawn, hopen]
  simp only [complete, he]

/-- Settling the world after a task was put on the pool starts with that task. -/
theorem settle_spawn {w : World} (h : w.Idle) (work : Task) (d : Delivery) :
    ∃ fuel, layers ≤ fuel ∧
      (w.spawn work d).settle = settleFrom fuel w.entries.length (w.spawn work d) := by
  have hlength : (w.spawn work d).entries.length = w.entries.length + 1 := by
    simp [spawn]
  -- what was there is passed over, which leaves enough fuel for what comes of the new task
  have hsettled : ∀ (t : Nat) e, t < w.entries.length → (w.spawn work d).entries[t]? = some e →
      e.progress.isPending = false := by
    intro t e ht he
    rw [show (w.spawn work d).entries[t]? = w.entries[t]? from List.getElem?_append_left ht] at he
    exact h e (List.mem_of_getElem? he)
  refine ⟨w.entries.length * (layers - 1) + layers, Nat.le_add_left .., ?_⟩
  have hskip := settleFrom_add w.entries.length (by omega) hsettled
    (w.entries.length * (layers - 1) + layers) 0 (Nat.zero_le _)
  rw [settle, ← hskip, hlength]
  congr 1
  simp only [layers]
  omega

/-- A fresh task that puts another one on the pool lands, and settling goes on with that one. -/
theorem settleFrom_fresh_spawn {w : World} (hopen : w.shut = false) (below : Task)
    (d d' : Delivery) (g : Nat → Except Error Value) (fuel : Nat) :
    settleFrom (fuel + 1) w.entries.length
        (w.spawn (.spawn below d' fun ticket => .done (g ticket)) d) =
      settleFrom fuel (w.land d (g (w.entries.length + 1))).entries.length
        ((w.land d (g (w.entries.length + 1))).spawn below d') := by
  have hlength : (w.spawn (.spawn below d' fun ticket => .done (g ticket)) d).entries.length =
      w.entries.length + 1 := by
    simp [spawn]
  rw [settleFrom, if_pos (by omega), complete_fresh hopen, land_length]
  simp only [Work.run, nextTicket, hlength]
  rw [finish_fresh_spawn]

/-- A fresh task that ends at once lands, and then nothing is left to do. -/
theorem settleFrom_fresh_done {w : World} (hidle : w.Idle) (hopen : w.shut = false)
    (r : Except Error Value) (d : Delivery) (fuel : Nat) :
    settleFrom (fuel + 1) w.entries.length (w.spawn (.done r) d) = w.land d r := by
  have hlength : (w.spawn (.done r) d).entries.length = w.entries.length + 1 := by
    simp [spawn]
  rw [settleFrom, if_pos (by omega), complete_fresh hopen]
  simp only [Work.run]
  rw [finish_fresh, settleFrom_of_idle (idle_land hidle d r)]

/-! ## Every order of steps -/

/-- One move of the pool: a step of a task, a task up to its end, or a task that is dropped. -/
inductive Move where
  | advance (ticket : Nat)
  | complete (ticket : Nat)
  | discard (ticket : Nat)

/-- The world after a move. -/
def move (w : World) : Move → World
  | .advance ticket => w.advance ticket
  | .complete ticket => w.complete ticket
  | .discard ticket => w.discard ticket

def moves (w : World) (ms : List Move) : World := ms.foldl move w

end World
end Endpoint
