import Endpoint.Adapter

/-!
Resolving is bounded unfolding, whatever the adapters answer. A declared type is unfolded by the
first adapter that supports what is left of it (`Unfolds`), and resolving does just that for at most
sixteen steps.

What is proved:
  1. `same_iff`: two types are the same exactly when they are equal once their bindings are taken
     away, so the check against unwrapping to itself sees through bindings;
  2. `resolveNoting_unfolds`: along an unfolding, resolving is resolving what is left and wrapping
     every adapter of the unfolding around it, the innermost first;
  3. `resolve_eq_iff_outcome`: the result of resolving is the one that the unfolding gives
     (`Outcome`): the handler with all adapters around it when nothing supports what is left, else
     the error of the first step that fails. Then no handler was wrapped at all.

Adapters are arbitrary functions here: they may grow a type, go in circles or support everything.
-/
namespace Endpoint

namespace TypeExpr

mutual
/-- The type with all bindings taken away. -/
def unbound : TypeExpr → TypeExpr
  | ⟨n, args, _⟩ => ⟨n, unboundAll args, none⟩

@[inherit_doc unbound]
def unboundAll : List TypeExpr → List TypeExpr
  | [] => []
  | t :: ts => unbound t :: unboundAll ts
end

mutual
theorem same_iff : ∀ a b : TypeExpr, a.same b = true ↔ a.unbound = b.unbound
  | ⟨n, as, _⟩, ⟨m, bs, _⟩ => by
    simp [same, unbound, sameAll_iff as bs]

theorem sameAll_iff : ∀ as bs : List TypeExpr, sameAll as bs = true ↔ unboundAll as = unboundAll bs
  | [], [] => by simp [sameAll, unboundAll]
  | [], _ :: _ => by simp [sameAll, unboundAll]
  | _ :: _, [] => by simp [sameAll, unboundAll]
  | a :: as, b :: bs => by
    simp [sameAll, unboundAll, same_iff a b, sameAll_iff as bs]
end

theorem unbound_name (t : TypeExpr) : t.unbound.name = t.name := by
  cases t
  rw [unbound]

theorem unbound_ne_generic (t : TypeExpr) (name : String) :
    t.unbound ≠ (generic name [t]).unbound := by
  intro h
  have hsize := congrArg sizeOf h
  simp only [generic, unbound, unboundAll, mk.sizeOf_spec, List.cons.sizeOf_spec] at hsize
  omega

end TypeExpr

namespace Adapter
variable {Handler : Type} {adapters : List (Adapter Handler)} {terminal : Handler}
  {declared : TypeExpr}

/-! ## Unfolding -/

/-- The adapter is the first that supports the type, in the order of registration. -/
def IsFirst (adapters : List (Adapter Handler)) (t : TypeExpr) (a : Adapter Handler) : Prop :=
  ∃ before after, adapters = before ++ a :: after ∧ a.supports t = true ∧
    ∀ b ∈ before, b.supports t = false

/-- No adapter supports the type. -/
def Unsupported (adapters : List (Adapter Handler)) (t : TypeExpr) : Prop :=
  ∀ a ∈ adapters, a.supports t = false

/-- A type unfolds to another: again and again the first adapter that supports what is left names
the next type, which is not the same. Each step is the adapter with the type it was asked about. -/
inductive Unfolds (adapters : List (Adapter Handler)) :
    TypeExpr → List (Adapter Handler × TypeExpr) → TypeExpr → Prop where
  | done (t : TypeExpr) : Unfolds adapters t [] t
  | step {t u v : TypeExpr} {a : Adapter Handler} {steps : List (Adapter Handler × TypeExpr)} :
    IsFirst adapters t a → a.innerType t = .ok u → u.unbound ≠ t.unbound →
    Unfolds adapters u steps v → Unfolds adapters t ((a, t) :: steps) v

/-- The handler with the adapters of an unfolding around it, the first one outermost. -/
def wrapAll (steps : List (Adapter Handler × TypeExpr)) (h : Handler) : Handler :=
  steps.foldr (fun s inner => s.1.adapt s.2 inner) h

theorem Unfolds.append {t u v : TypeExpr} {steps rest : List (Adapter Handler × TypeExpr)}
    (h : Unfolds adapters t steps u) (h' : Unfolds adapters u rest v) :
    Unfolds adapters t (steps ++ rest) v := by
  induction h with
  | done t => exact h'
  | step ha hu hne _ ih => exact .step ha hu hne (ih h')

theorem wrapAll_append (steps rest : List (Adapter Handler × TypeExpr)) (h : Handler) :
    wrapAll (steps ++ rest) h = wrapAll steps (wrapAll rest h) := List.foldr_append

theorem find?_eq_some_iff {t : TypeExpr} {a : Adapter Handler} :
    adapters.find? (·.supports t) = some a ↔ IsFirst adapters t a := by
  rw [List.find?_eq_some_iff_append]
  constructor
  · rintro ⟨ha, before, after, rfl, hb⟩
    exact ⟨before, after, rfl, ha, by simpa using hb⟩
  · rintro ⟨before, after, rfl, ha, hb⟩
    exact ⟨ha, before, after, rfl, by simpa using hb⟩

theorem find?_eq_none_iff {t : TypeExpr} :
    adapters.find? (·.supports t) = none ↔ Unsupported adapters t := by
  simp [Unsupported]

/-! ## Resolving with its wrappings noted -/

/-- Resolves what is left of a declared type and notes, in their order, the wrappings that are done:
which adapter was asked to wrap a handler, and for which type. -/
def resolveNoting (adapters : List (Adapter Handler)) (terminal : Handler) (declared : TypeExpr) :
    Nat → TypeExpr → Except Error (Resolved Handler) × List (Adapter Handler × TypeExpr)
  | 0, _ => (.error (.unresolved declared.display (.tooDeep maxNesting)), [])
  | left + 1, type =>
    match adapters.find? (·.supports type) with
    | none => (.ok ⟨terminal, declared, type⟩, [])
    | some adapter =>
      match adapter.innerType type with
      | .error e => (.error e, [])
      | .ok inner =>
        if inner.same type then
          (.error (.unresolved declared.display (.unwrapsToItself type.display)), [])
        else match resolveNoting adapters terminal declared left inner with
          | (.error e, noted) => (.error e, noted)
          | (.ok r, noted) =>
            (.ok { r with handler := adapter.adapt type r.handler }, noted ++ [(adapter, type)])

theorem resolveNoting_fst (left : Nat) (t : TypeExpr) :
    (resolveNoting adapters terminal declared left t).1 =
      resolveFrom adapters terminal declared left t := by
  induction left generalizing t with
  | zero => rfl
  | succ left ih =>
    cases hf : adapters.find? (·.supports t) with
    | none => simp only [resolveNoting, resolveFrom, hf]
    | some a =>
      cases hu : a.innerType t with
      | error e => simp only [resolveNoting, resolveFrom, hf, hu]
      | ok u =>
        have ih := ih u
        simp only [resolveNoting, resolveFrom, hf, hu, ← ih]
        split
        · rfl
        · cases resolveNoting adapters terminal declared left u with
          | mk r noted => cases r <;> rfl

/-- What was noted of the rest, with the wrappings of the steps before it. -/
def afterSteps (steps : List (Adapter Handler × TypeExpr)) :
    Except Error (Resolved Handler) × List (Adapter Handler × TypeExpr) →
      Except Error (Resolved Handler) × List (Adapter Handler × TypeExpr)
  | (.error e, noted) => (.error e, noted)
  | (.ok r, noted) => (.ok { r with handler := wrapAll steps r.handler }, noted ++ steps.reverse)

theorem afterSteps_nil (x : Except Error (Resolved Handler) × List (Adapter Handler × TypeExpr)) :
    afterSteps [] x = x := by
  obtain ⟨r, noted⟩ := x
  cases r <;> simp [afterSteps, wrapAll]

theorem resolveNoting_step {t u : TypeExpr} {a : Adapter Handler} (left : Nat)
    (ha : IsFirst adapters t a) (hu : a.innerType t = .ok u) (hne : u.unbound ≠ t.unbound) :
    resolveNoting adapters terminal declared (left + 1) t =
      afterSteps [(a, t)] (resolveNoting adapters terminal declared left u) := by
  have hs : u.same t = false := by
    rw [← Bool.not_eq_true, TypeExpr.same_iff]
    exact hne
  simp only [resolveNoting, find?_eq_some_iff.mpr ha, hu, hs, Bool.false_eq_true, if_false]
  cases resolveNoting adapters terminal declared left u with
  | mk r noted => cases r <;> rfl

/-- Along an unfolding, resolving is resolving what is left and wrapping the adapters around it. -/
theorem resolveNoting_unfolds {t u : TypeExpr} {steps : List (Adapter Handler × TypeExpr)}
    (h : Unfolds adapters t steps u) (left : Nat) :
    resolveNoting adapters terminal declared (left + steps.length) t =
      afterSteps steps (resolveNoting adapters terminal declared left u) := by
  induction h with
  | done t => exact (afterSteps_nil _).symm
  | step ha hu hne _ ih =>
    rw [List.length_cons, ← Nat.add_assoc, resolveNoting_step _ ha hu hne, ih]
    cases resolveNoting adapters terminal declared left _ with
    | mk r noted => cases r <;> simp [afterSteps, wrapAll]

/-! ## The outcome -/

/-- What becomes of a type when so many types may be looked at, and what is noted on the way. -/
inductive Outcome (adapters : List (Adapter Handler)) (terminal : Handler) (declared : TypeExpr)
    (left : Nat) (t : TypeExpr) :
    Except Error (Resolved Handler) → List (Adapter Handler × TypeExpr) → Prop where
  /-- Nothing supports what is left: all adapters are wrapped, the innermost first. -/
  | resolved {u : TypeExpr} {steps : List (Adapter Handler × TypeExpr)} :
    Unfolds adapters t steps u → steps.length < left → Unsupported adapters u →
    Outcome adapters terminal declared left t (.ok ⟨wrapAll steps terminal, declared, u⟩)
      steps.reverse
  /-- The first adapter that supports what is left has no inner type for it. -/
  | refused {u : TypeExpr} {steps : List (Adapter Handler × TypeExpr)} {a : Adapter Handler}
    {e : Error} :
    Unfolds adapters t steps u → steps.length < left → IsFirst adapters u a →
    a.innerType u = .error e → Outcome adapters terminal declared left t (.error e) []
  /-- The first adapter that supports what is left names the same type again. -/
  | unwrapsToItself {u v : TypeExpr} {steps : List (Adapter Handler × TypeExpr)}
    {a : Adapter Handler} :
    Unfolds adapters t steps u → steps.length < left → IsFirst adapters u a →
    a.innerType u = .ok v → v.unbound = u.unbound →
    Outcome adapters terminal declared left t
      (.error (.unresolved declared.display (.unwrapsToItself u.display))) []
  /-- The unfolding goes on after as many types as may be looked at. -/
  | tooDeep {u : TypeExpr} {steps : List (Adapter Handler × TypeExpr)} :
    Unfolds adapters t steps u → steps.length = left →
    Outcome adapters terminal declared left t
      (.error (.unresolved declared.display (.tooDeep maxNesting))) []

/-- A step before an outcome gives an outcome with one more wrapping. -/
theorem Outcome.afterStep {left : Nat} {t u : TypeExpr} {a : Adapter Handler}
    {x : Except Error (Resolved Handler) × List (Adapter Handler × TypeExpr)}
    (ha : IsFirst adapters t a) (hu : a.innerType t = .ok u) (hne : u.unbound ≠ t.unbound)
    (h : Outcome adapters terminal declared left u x.1 x.2) :
    Outcome adapters terminal declared (left + 1) t (afterSteps [(a, t)] x).1
      (afterSteps [(a, t)] x).2 := by
  obtain ⟨r, noted⟩ := x
  cases h with
  | @resolved v steps hsteps hlen hv =>
    have h' : Outcome adapters terminal declared (left + 1) t _ _ :=
      .resolved (Unfolds.step ha hu hne hsteps) (Nat.succ_lt_succ hlen) hv
    rw [List.reverse_cons] at h'
    exact h'
  | refused hsteps hlen hb he =>
    exact .refused (Unfolds.step ha hu hne hsteps) (Nat.succ_lt_succ hlen) hb he
  | unwrapsToItself hsteps hlen hb hv hsame =>
    exact .unwrapsToItself (Unfolds.step ha hu hne hsteps) (Nat.succ_lt_succ hlen) hb hv hsame
  | tooDeep hsteps hlen =>
    exact .tooDeep (Unfolds.step ha hu hne hsteps) (congrArg (· + 1) hlen)

/-- Resolving has an outcome. -/
theorem outcome_resolveNoting (left : Nat) (t : TypeExpr) :
    Outcome adapters terminal declared left t
      (resolveNoting adapters terminal declared left t).1
      (resolveNoting adapters terminal declared left t).2 := by
  induction left generalizing t with
  | zero => exact .tooDeep (.done t) rfl
  | succ left ih =>
    -- the first adapter decides: it ends the unfolding, or it takes one step
    cases hf : adapters.find? (·.supports t) with
    | none =>
      simp only [resolveNoting, hf]
      exact .resolved (.done t) (Nat.succ_pos left) (find?_eq_none_iff.mp hf)
    | some a =>
      have ha := find?_eq_some_iff.mp hf
      cases hu : a.innerType t with
      | error e =>
        simp only [resolveNoting, hf, hu]
        exact .refused (.done t) (Nat.succ_pos left) ha hu
      | ok u =>
        by_cases hne : u.unbound = t.unbound
        · simp only [resolveNoting, hf, hu, (TypeExpr.same_iff u t).mpr hne, if_true]
          exact .unwrapsToItself (.done t) (Nat.succ_pos left) ha hu hne
        · rw [resolveNoting_step left ha hu hne]
          exact (ih u).afterStep ha hu hne

theorem Outcome.eq_resolveNoting {left : Nat} {t : TypeExpr}
    {r : Except Error (Resolved Handler)} {noted : List (Adapter Handler × TypeExpr)}
    (h : Outcome adapters terminal declared left t r noted) :
    resolveNoting adapters terminal declared left t = (r, noted) := by
  -- what is left of the bound after the steps that went well
  have spare {n : Nat} (hlen : n < left) : ∃ m, left = m + 1 + n :=
    ⟨left - n - 1, by omega⟩
  cases h with
  | resolved hsteps hlen hu =>
    obtain ⟨m, rfl⟩ := spare hlen
    rw [resolveNoting_unfolds hsteps]
    simp [resolveNoting, find?_eq_none_iff.mpr hu, afterSteps]
  | refused hsteps hlen ha he =>
    obtain ⟨m, rfl⟩ := spare hlen
    rw [resolveNoting_unfolds hsteps]
    simp only [resolveNoting, find?_eq_some_iff.mpr ha, he, afterSteps]
  | unwrapsToItself hsteps hlen ha hv hsame =>
    obtain ⟨m, rfl⟩ := spare hlen
    rw [resolveNoting_unfolds hsteps]
    simp only [resolveNoting, find?_eq_some_iff.mpr ha, hv, (TypeExpr.same_iff _ _).mpr hsame,
      if_true, afterSteps]
  | tooDeep hsteps hlen =>
    rw [← hlen, ← Nat.zero_add (List.length _), resolveNoting_unfolds hsteps]
    rfl

/-- A type that unfolds in time to one that nothing supports is resolved. -/
theorem resolve_of_unfolds {t u : TypeExpr} {steps : List (Adapter Handler × TypeExpr)}
    (h : Unfolds adapters t steps u) (hlen : steps.length ≤ maxNesting)
    (hu : Unsupported adapters u) :
    resolve adapters terminal t = .ok ⟨wrapAll steps terminal, t, u⟩ := by
  have ho : Outcome adapters terminal t (maxNesting + 1) t _ _ :=
    .resolved h (Nat.lt_succ_of_le hlen) hu
  rw [resolve, ← resolveNoting_fst, ho.eq_resolveNoting]

/-- A resolved type is resolved by its first adapter and what that names, or stands for itself. -/
theorem resolveFrom_of_find? {left : Nat} {t u : TypeExpr} {a : Adapter Handler}
    {m : Resolved Handler} (ha : adapters.find? (·.supports t) = some a)
    (hu : a.innerType t = .ok u) (h : resolveFrom adapters terminal declared left t = .ok m) :
    ∃ left' m', left = left' + 1 ∧ resolveFrom adapters terminal declared left' u = .ok m' ∧
      m = { m' with handler := a.adapt t m'.handler } := by
  cases left with
  | zero => cases h
  | succ left =>
    simp only [resolveFrom, ha, hu] at h
    split at h
    · cases h
    · split at h
      · cases h
      · rename_i m' hm'
        exact ⟨left, m', rfl, hm', (Except.ok.inj h).symm⟩

theorem resolveFrom_of_unsupported {left : Nat} {t : TypeExpr} {m : Resolved Handler}
    (ht : adapters.find? (·.supports t) = none)
    (h : resolveFrom adapters terminal declared left t = .ok m) :
    0 < left ∧ m = ⟨terminal, declared, t⟩ := by
  cases left with
  | zero => cases h
  | succ left =>
    simp only [resolveFrom, ht] at h
    exact ⟨Nat.succ_pos left, (Except.ok.inj h).symm⟩

/-- **Resolving is bounded unfolding.** For all adapters and every declared type, resolving ends in
the one outcome that unfolding has when at most sixteen steps are taken (so seventeen types are
looked at), and it does the wrappings of that outcome: those of all steps on success, and none
otherwise. -/
theorem resolve_eq_iff_outcome (adapters : List (Adapter Handler)) (terminal : Handler)
    (declared : TypeExpr) :
    resolve adapters terminal declared =
        (resolveNoting adapters terminal declared (maxNesting + 1) declared).1 ∧
      ∀ r noted,
        resolveNoting adapters terminal declared (maxNesting + 1) declared = (r, noted) ↔
          Outcome adapters terminal declared (maxNesting + 1) declared r noted := by
  refine ⟨(resolveNoting_fst _ _).symm, fun r noted => ⟨fun h => ?_, Outcome.eq_resolveNoting⟩⟩
  have ho : Outcome adapters terminal declared _ declared _ _ :=
    outcome_resolveNoting (maxNesting + 1) declared
  rw [h] at ho
  exact ho

end Adapter
end Endpoint
