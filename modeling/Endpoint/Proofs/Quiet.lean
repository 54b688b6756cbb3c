import Endpoint.Proofs.Pool

/-!
How often a line is written to the log. A call that starts by writing a line which neither it nor
any work that it puts on the pool writes again is counted by that line, whatever else it does: on a
quiet pool the number stays the same until the call is made (`Quiet.run`, `Quiet.settleFrom`).
-/
namespace Endpoint

/-- The work, and all work that it puts on the pool, never writes the line. -/
def Work.Silent {V : Type} (line : String) : Work V → Prop
  | done _ | panic _ => True
  | count next | report _ next | release _ next => next.Silent line
  | log l next => l ≠ line ∧ next.Silent line
  | send _ next => ∀ answer, (next answer).Silent line
  | spawn work _ next => work.Silent line ∧ ∀ ticket, (next ticket).Silent line

theorem Work.Silent.andThen {V : Type} {line : String} {f : Except Error V → Work V}
    (hf : ∀ r, (f r).Silent line) {t : Work V} (h : t.Silent line) : (t.andThen f).Silent line := by
  induction t with
  | done r => exact hf r
  | panic p => trivial
  | count _ ih | report _ _ ih | release _ _ ih => exact ih h
  | log _ _ ih => exact ⟨h.1, ih h.2⟩
  | send _ _ ih => exact fun answer => ih answer (h answer)
  | spawn _ _ _ _ ih => exact ⟨h.1, fun ticket => ih ticket (h.2 ticket)⟩

namespace World

/-- What is left to do on the pool, but for a busy task, never writes the line, and it was written
so many times. -/
structure Quiet (line : String) (n : Nat) (busy : Option Nat) (w : World) : Prop where
  silent : ∀ (t : Nat) e work, w.entries[t]? = some e → busy ≠ some t →
    e.progress = .pending work → work.Silent line
  written : w.log.count line = n

namespace Quiet
variable {line : String} {n : Nat} {busy : Option Nat} {w v : World}

theorem leaves (h : Quiet line n busy w) : Leaves (fun _ work => work.Silent line) busy w :=
  h.silent

theorem of_idle (h : w.Idle) : Quiet line (w.log.count line) busy w where
  silent := leaves_of_idle h (fun _ work => work.Silent line) busy
  written := rfl

theorem of_entries (h : Quiet line n busy w) (hentries : v.entries = w.entries)
    (hlog : v.log = w.log) : Quiet line n busy v where
  silent t e work he := h.silent t e work (hentries ▸ he)
  written := hlog ▸ h.written

theorem write (h : Quiet line n busy w) {l : String} (hl : l ≠ line) :
    Quiet line n busy (w.write l) where
  silent := h.silent
  written := by
    rw [World.write, List.count_append, h.written, List.count_singleton, if_neg, Nat.add_zero]
    rw [beq_iff_eq]
    exact hl

theorem mark (h : Quiet line n busy w) : Quiet line (n + 1) busy (w.write line) where
  silent := h.silent
  written := by
    rw [World.write, List.count_append, h.written, List.count_singleton_self]

theorem spawn (h : Quiet line n busy w) {work : Task} (d : Delivery)
    (hwork : busy ≠ some w.entries.length → work.Silent line) :
    Quiet line n busy (w.spawn work d) where
  silent := h.leaves.spawn hwork
  written := h.written

theorem abandon (h : Quiet line n busy w) (r : Except Error Value) :
    Quiet line n busy (w.abandon r) where
  silent := h.leaves.abandon r
  written := by
    rw [(abandon_sameBooks w r).log]
    exact h.written

theorem finish (h : Quiet line n busy w) {ticket : Nat} (hbusy : ∀ t, busy = some t → t = ticket)
    (e : Entry) (o : Outcome) : Quiet line n none (w.finish ticket e o) where
  silent := h.leaves.finish hbusy e o
  written := by
    rw [(finish_sameBooks w ticket e o).log]
    exact h.written

theorem run {t : Task} (ht : t.Silent line) (h : Quiet line n busy w) :
    Quiet line n busy (t.run w).2 := by
  induction t generalizing w with
  | done | panic => exact h
  | count _ ih | report _ _ ih => exact ih ht (h.of_entries rfl rfl)
  | log l _ ih => exact ih ht.2 (h.write ht.1)
  | send q _ ih =>
    have hposted : Quiet line n busy (w.post q) := h.of_entries rfl rfl
    simp only [Work.run]
    cases w.reply w.sent.length q with
    | answer a => exact ih _ (ht _) hposted
    | fail e => exact ih _ (ht _) hposted
    | panic p => exact hposted
  | spawn work d next _ ih => exact ih _ (ht.2 _) (h.spawn d fun _ => ht.1)
  | release v _ ih => exact ih ht (h.abandon _)

theorem complete (h : Quiet line n none w) (ticket : Nat) :
    Quiet line n none (w.complete ticket) := by
  have hnone (t : Nat) : none ≠ some t := fun ht => by cases ht
  refine complete_cases h fun e work he hp => ?_
  have hwork := h.silent ticket e work he (hnone _) hp
  exact (run hwork h).finish (fun t ht => absurd ht (hnone t)) e _

theorem settleFrom (fuel ticket : Nat) (h : Quiet line n none w) :
    Quiet line n none (World.settleFrom fuel ticket w) :=
  settleFrom_induction (fun _ ticket h => h.complete ticket) h fuel ticket

end Quiet
end World
end Endpoint
