import Endpoint.Proofs.Shape

/-!
How the layers of a shape come apart. Work of a shape goes down its layers by itself as long as they
are hot; a single stops it until somebody asks. Whoever takes a value to its end asks the singles
down to the next callback, and from there on it is the callback's outcome that has to be taken to
its end. So the layers of a shape are given out among its own value and the outcomes of its callback
layers, and each of them asks other singles.

What is proved: `comparable_of_mem`, of two outcomes one lies below the other, and `Waits.drive`,
taking one of them to its end takes nothing from the others.
-/
namespace Endpoint.Shape

variable {s u v : Shape}

/-- How many values are under way inside one another. -/
def depth : Shape → Nat
  | future s | callback s | single s => s.depth + 1
  | stream _ => 1
  | _ => 0

/-- The shapes of the outcomes that callbacks get, the outermost first. -/
def handed : Shape → List Shape
  | future s | single s => s.handed
  | callback s => s :: s.handed
  | _ => []

/-- The outermost layer puts the work below on the pool. -/
def isHot : Shape → Bool
  | future _ | callback _ => true
  | _ => false

/-- How deep work of a shape gets by itself: to the first layer that is not hot. -/
def floor : Shape → Nat
  | future s | callback s => s.floor
  | s => s.depth

/-- Taking a value of the shape to its end asks a single. -/
def asks : Shape → Bool
  | future s => s.asks
  | single _ => true
  | _ => false

/-- How deep work gets when a value of the shape is taken to its end: past the singles down to the
next callback, and below that by itself. -/
def reach : Shape → Nat
  | future s | single s => s.reach
  | callback s => s.floor
  | s => s.depth

theorem floor_le_depth (s : Shape) : s.floor ≤ s.depth := by
  induction s with
  | future s ih | callback s ih => exact Nat.le_succ_of_le ih
  | _ => exact Nat.le_refl _

theorem floor_lt_depth (h : s.isHot = true) : s.floor < s.depth := by
  cases s with
  | future s | callback s => exact Nat.lt_succ_of_le s.floor_le_depth
  | _ => cases h

theorem reach_le_floor (s : Shape) : s.reach ≤ s.floor := by
  induction s with
  | future s ih => exact ih
  | single s ih => exact Nat.le_trans ih (Nat.le_succ_of_le s.floor_le_depth)
  | _ => exact Nat.le_refl _

theorem depth_lt_of_mem_handed (h : u ∈ s.handed) : u.depth < s.depth := by
  induction s with
  | future s ih | single s ih => exact Nat.lt_succ_of_lt (ih h)
  | callback s ih =>
    rcases List.mem_cons.mp h with rfl | h
    · exact Nat.lt_succ_self _
    · exact Nat.lt_succ_of_lt (ih h)
  | _ => cases h

theorem floor_le_of_mem_handed (h : u ∈ s.handed) : u.floor ≤ s.floor := by
  induction s with
  | future s ih => exact ih h
  | single s ih => exact Nat.le_trans (ih h) (Nat.le_succ_of_le s.floor_le_depth)
  | callback s ih =>
    rcases List.mem_cons.mp h with rfl | h
    · exact Nat.le_refl _
    · exact ih h
  | _ => cases h

/-- What lies below the next callback is not reached past. -/
theorem floor_le_reach_of_mem_handed (h : u ∈ s.handed) : u.floor ≤ s.reach := by
  induction s with
  | future s ih | single s ih => exact ih h
  | callback s ih =>
    rcases List.mem_cons.mp h with rfl | h
    · exact Nat.le_refl _
    · exact floor_le_of_mem_handed h
  | _ => cases h

/-- A single that is asked stands above all that is handed over below it. -/
theorem floor_lt_floor_of_asks (hasks : s.asks = true) (h : u ∈ s.handed) :
    u.floor < s.floor := by
  induction s with
  | future s ih => exact ih hasks h
  | single s ih =>
    calc u.floor ≤ u.depth := u.floor_le_depth
      _ < s.depth := depth_lt_of_mem_handed h
      _ < (single s).floor := Nat.lt_succ_self _
  | _ => cases hasks

theorem comparable_of_mem_handed (hu : u ∈ s.handed) (hv : v ∈ s.handed) :
    u = v ∨ v ∈ u.handed ∨ u ∈ v.handed := by
  induction s with
  | future s ih | single s ih => exact ih hu hv
  | callback s ih =>
    rcases List.mem_cons.mp hu with rfl | hu
    · rcases List.mem_cons.mp hv with rfl | hv
      · exact .inl rfl
      · exact .inr (.inl hv)
    · rcases List.mem_cons.mp hv with rfl | hv
      · exact .inr (.inr hu)
      · exact ih hu hv
  | _ => cases hu

/-- Of the value of a shape and the outcomes of its callback layers, one lies below the other. -/
theorem comparable_of_mem (hu : u ∈ s :: s.handed) (hv : v ∈ s :: s.handed) :
    u = v ∨ v ∈ u.handed ∨ u ∈ v.handed := by
  rcases List.mem_cons.mp hu with rfl | hu
  · rcases List.mem_cons.mp hv with rfl | hv
    · exact .inl rfl
    · exact .inr (.inl hv)
  · rcases List.mem_cons.mp hv with rfl | hv
    · exact .inr (.inr hu)
    · exact comparable_of_mem_handed hu hv

/-- Nobody has asked the singles of the value or of an outcome, but for those that are done with: work
gets no deeper than the first of them. -/
def Waits (s : Shape) (done : List Shape) (floor : Nat) : Prop :=
  ∀ u ∈ s :: s.handed, u ∉ done → u.asks = true → u.floor ≤ floor

theorem waits_nil (s : Shape) : s.Waits [] s.floor := by
  intro u hu _ _
  rcases List.mem_cons.mp hu with rfl | hu
  · exact Nat.le_refl _
  · exact floor_le_of_mem_handed hu

/-- Taking one of them to its end asks nothing of the others. -/
theorem Waits.drive {done : List Shape} {floor floor' : Nat} (h : s.Waits done floor)
    (hv : v ∈ s :: s.handed) (hquiet : v.asks = false → floor' = floor)
    (hasks : v.asks = true → floor = v.floor ∧ v.reach ≤ floor') : s.Waits (v :: done) floor' := by
  intro u hu hnew huasks
  obtain ⟨hne, hnew⟩ := not_or.mp (mt List.mem_cons.mpr hnew)
  have hold := h u hu hnew huasks
  cases hvasks : v.asks with
  | false =>
    rw [hquiet hvasks]
    exact hold
  | true =>
    obtain ⟨hfloor, hreach⟩ := hasks hvasks
    rcases comparable_of_mem hu hv with heq | hbelow | habove
    · exact absurd heq hne
    · -- a single of `u` stands above `v`, so nobody could have got down to `v`
      have habsurd := floor_lt_floor_of_asks huasks hbelow
      omega
    · exact Nat.le_trans (floor_le_reach_of_mem_handed habove) hreach

end Endpoint.Shape
