import Endpoint.Proofs.Unfolding

/-!
A type is known by its text, and by what it feeds to a hash function. Types of any size are shown
with three marks only, and names may be anything else: a name ends where the first mark stands, and
the mark says whether arguments follow, another argument comes, or the arguments are over.

What is proved:
  1. `same_of_display`: when the texts of two types are equal with anything behind them that may
     stand behind a type (`Stops`), the types are the same and so is what stands behind them;
  2. `display_unbound` and `feed_unbound`: bindings are neither shown nor fed;
  3. `same_of_feed`: what types feed begins with no other type's feed, whatever their names are;
  4. `shown_alike_iff_same`: so texts are equal exactly if the types are the same, and so are feeds.
-/
namespace Endpoint.TypeExpr

/-! ## Texts -/

def isMark (c : Char) : Bool := c == '<' || c == '>' || c == ','

/-- No name in the type holds a mark. -/
inductive Unmarked : TypeExpr → Prop where
  | intro {name : String} {args : List TypeExpr} {binding : Option Schema} :
    (∀ c ∈ name.toList, isMark c = false) → (∀ t ∈ args, Unmarked t) →
    Unmarked ⟨name, args, binding⟩

/-- What may stand behind a type: nothing, or the mark behind an argument. -/
inductive Stops : List Char → Prop where
  | nil : Stops []
  | comma (cs : List Char) : Stops (',' :: cs)
  | bracket (cs : List Char) : Stops ('>' :: cs)

/-- What is shown behind the name of a type with these arguments. -/
def argChars : List TypeExpr → List Char
  | [] => []
  | t :: ts => '<' :: (t.display.toList ++ ((displayRest ts).toList ++ ['>']))

theorem toList_display (name : String) (args : List TypeExpr) (binding : Option Schema) :
    (display ⟨name, args, binding⟩).toList = name.toList ++ argChars args := by
  cases args with
  | nil => rw [display, argChars, List.append_nil]
  | cons t ts => simp [display, argChars]

theorem toList_displayRest (t : TypeExpr) (ts : List TypeExpr) :
    (displayRest (t :: ts)).toList = ',' :: ' ' :: (t.display.toList ++ (displayRest ts).toList) := by
  simp [displayRest]

theorem isMark_argChars {args : List TypeExpr} {rest : List Char} (h : Stops rest) :
    ∀ c ∈ (argChars args ++ rest).head?, isMark c = true := by
  cases args with
  | nil => cases h <;> simp [argChars, isMark]
  | cons t ts => simp [argChars, isMark]

theorem stops_displayRest (ts : List TypeExpr) (rest : List Char) :
    Stops ((displayRest ts).toList ++ '>' :: rest) := by
  cases ts with
  | nil => exact .bracket rest
  | cons t ts =>
    rw [toList_displayRest]
    exact .comma _

/-- Texts before the first mark that are followed by it, or by nothing, are the same. -/
theorem eq_of_marked {a a' b b' : List Char} (ha : ∀ c ∈ a, isMark c = false)
    (ha' : ∀ c ∈ a', isMark c = false) (hb : ∀ c ∈ b.head?, isMark c = true)
    (hb' : ∀ c ∈ b'.head?, isMark c = true) (h : a ++ b = a' ++ b') : a = a' ∧ b = b' := by
  have htake {x y : List Char} (hx : ∀ c ∈ x, isMark c = false)
      (hy : ∀ c ∈ y.head?, isMark c = true) : (x ++ y).takeWhile (fun c => !isMark c) = x := by
    rw [List.takeWhile_append_of_pos (by simpa using hx)]
    cases y with
    | nil => simp
    | cons c y => simp [hy c rfl]
  have hfront : a = a' := by rw [← htake ha hb, h, htake ha' hb']
  subst hfront
  exact ⟨rfl, List.append_cancel_left h⟩

/-- An opening bracket stands behind no type, so there are arguments in both texts or in none. Either
way what is shown of them is the same, each with a comma in front. -/
theorem displayRest_of_argChars {as bs : List TypeExpr} {r r' : List Char} (hr : Stops r)
    (hr' : Stops r') (h : argChars as ++ r = argChars bs ++ r') :
    (displayRest as).toList ++ '>' :: r = (displayRest bs).toList ++ '>' :: r' := by
  cases as with
  | nil =>
    cases bs with
    | nil => exact congrArg ('>' :: ·) h
    | cons b bs =>
      rw [argChars, List.nil_append] at h
      subst h
      cases hr
  | cons a as =>
    cases bs with
    | nil =>
      rw [argChars, argChars, List.nil_append] at h
      subst h
      cases hr'
    | cons b bs =>
      simp only [argChars, List.cons_append, List.append_assoc, List.cons.injEq, List.nil_append,
        true_and] at h
      simp only [toList_displayRest, List.cons_append, List.append_assoc, h]

mutual
/-- The text of a type ends where it has to, so what may stand behind it does not matter. -/
theorem same_of_display : ∀ (a b : TypeExpr) {r r' : List Char}, a.Unmarked → b.Unmarked →
    Stops r → Stops r' → a.display.toList ++ r = b.display.toList ++ r' →
    a.same b = true ∧ r = r'
  | ⟨n, as, _⟩, ⟨m, bs, _⟩, r, r', .intro hn has, .intro hm hbs, hr, hr', h => by
    rw [toList_display, toList_display, List.append_assoc, List.append_assoc] at h
    obtain ⟨hname, hargs⟩ := eq_of_marked hn hm (isMark_argChars hr) (isMark_argChars hr') h
    obtain ⟨hall, hrest⟩ :=
      sameAll_of_displayRest as bs has hbs (displayRest_of_argChars hr hr' hargs)
    exact ⟨by rw [same, hall, String.toList_inj.mp hname, beq_self_eq_true, Bool.and_true], hrest⟩

theorem sameAll_of_displayRest : ∀ (as bs : List TypeExpr) {r r' : List Char},
    (∀ t ∈ as, t.Unmarked) → (∀ t ∈ bs, t.Unmarked) →
    (displayRest as).toList ++ '>' :: r = (displayRest bs).toList ++ '>' :: r' →
    sameAll as bs = true ∧ r = r'
  | [], [], _, _, _, _, h => ⟨rfl, (List.cons.inj h).2⟩
  | [], _ :: _, _, _, _, _, h => by
    rw [toList_displayRest] at h
    cases h
  | _ :: _, [], _, _, _, _, h => by
    rw [toList_displayRest] at h
    cases h
  | a :: as, b :: bs, r, r', has, hbs, h => by
    obtain ⟨ha, has⟩ := List.forall_mem_cons.mp has
    obtain ⟨hb, hbs⟩ := List.forall_mem_cons.mp hbs
    -- what stands behind the first argument is the other arguments and the closing bracket
    simp only [toList_displayRest, List.cons_append, List.append_assoc, List.cons.injEq,
      true_and] at h
    obtain ⟨hsame, h⟩ :=
      same_of_display a b ha hb (stops_displayRest as r) (stops_displayRest bs r') h
    obtain ⟨hall, hrest⟩ := sameAll_of_displayRest as bs has hbs h
    exact ⟨by rw [sameAll, hsame, hall, Bool.and_true], hrest⟩
end

mutual
theorem display_unbound : ∀ a : TypeExpr, a.unbound.display = a.display
  | ⟨_, [], _⟩ => rfl
  | ⟨n, t :: ts, _⟩ => by
    rw [unbound, unboundAll, display, display, display_unbound t, displayRest_unboundAll ts]

theorem displayRest_unboundAll : ∀ as : List TypeExpr, displayRest (unboundAll as) = displayRest as
  | [] => rfl
  | t :: ts => by
    rw [unboundAll, displayRest, displayRest, display_unbound t, displayRest_unboundAll ts]
end

/-- Types whose names hold no mark are shown alike exactly if they are the same. -/
theorem display_eq_iff_same {a b : TypeExpr} (ha : a.Unmarked) (hb : b.Unmarked) :
    a.display = b.display ↔ a.same b = true := by
  constructor
  · intro h
    exact (same_of_display a b ha hb .nil .nil (by rw [h])).1
  · intro h
    rw [← display_unbound a, (same_iff a b).mp h, display_unbound]

/-- A name with a mark can be taken for two arguments. -/
example : (generic "F" [plain "A, B"]).display = (generic "F" [plain "A", plain "B"]).display ∧
    (generic "F" [plain "A, B"]).same (generic "F" [plain "A", plain "B"]) = false := by decide

/-! ## Feeds -/

mutual
/-- The feed of a type says where it ends, so no name has to be free of anything. -/
theorem same_of_feed : ∀ (a b : TypeExpr) {r r' : List Feed}, a.feed ++ r = b.feed ++ r' →
    a.same b = true ∧ r = r'
  | ⟨n, as, _⟩, ⟨m, bs, _⟩, _, _, h => by
    simp only [feed, List.cons_append, List.cons.injEq, Feed.name.injEq, Feed.count.injEq] at h
    obtain ⟨hname, hlength, hargs⟩ := h
    obtain ⟨hall, hrest⟩ := sameAll_of_feedAll as bs hlength hargs
    exact ⟨by rw [same, hall, hname, beq_self_eq_true, Bool.and_true], hrest⟩

theorem sameAll_of_feedAll : ∀ (as bs : List TypeExpr) {r r' : List Feed},
    as.length = bs.length → feedAll as ++ r = feedAll bs ++ r' → sameAll as bs = true ∧ r = r'
  | [], [], _, _, _, h => ⟨rfl, h⟩
  | a :: as, b :: bs, _, _, hlength, h => by
    rw [feedAll, feedAll, List.append_assoc, List.append_assoc] at h
    obtain ⟨hsame, h⟩ := same_of_feed a b h
    obtain ⟨hall, hrest⟩ := sameAll_of_feedAll as bs (Nat.succ.inj hlength) h
    exact ⟨by rw [sameAll, hsame, hall, Bool.and_true], hrest⟩
end

theorem length_unboundAll (as : List TypeExpr) : (unboundAll as).length = as.length := by
  induction as with
  | nil => rfl
  | cons t ts ih => rw [unboundAll, List.length_cons, List.length_cons, ih]

mutual
theorem feed_unbound : ∀ a : TypeExpr, a.unbound.feed = a.feed
  | ⟨n, args, _⟩ => by rw [unbound, feed, feed, feedAll_unboundAll args, length_unboundAll]

theorem feedAll_unboundAll : ∀ as : List TypeExpr, feedAll (unboundAll as) = feedAll as
  | [] => rfl
  | t :: ts => by rw [unboundAll, feedAll, feedAll, feed_unbound t, feedAll_unboundAll ts]
end

theorem feed_eq_iff_same {a b : TypeExpr} : a.feed = b.feed ↔ a.same b = true := by
  constructor
  · intro h
    exact (same_of_feed a b (congrArg (· ++ []) h)).1
  · intro h
    rw [← feed_unbound a, (same_iff a b).mp h, feed_unbound]

/-! ## What a type is known by -/

/-- **A type is known by its text.** Two types of any size whose names hold none of the three marks
are shown alike exactly if they are the same, whatever they are bound to; the names may be empty or
blank. Two types feed the same to a hash function exactly if they are the same, and there the names
may be any. -/
theorem shown_alike_iff_same (a b : TypeExpr) :
    (a.Unmarked → b.Unmarked → (a.display = b.display ↔ a.same b = true)) ∧
      (a.feed = b.feed ↔ a.same b = true) :=
  ⟨display_eq_iff_same, feed_eq_iff_same⟩

/-- Empty and blank names are told apart by where the spaces are, and a binding does not show. -/
theorem shown_alike_iff_same_of_blanks :
    let a := generic "Map" [plain "", plain " b"]
    let b := generic "Map" [plain "", bound " b" .text]
    let c := generic "Map" [plain " ", plain "b"]
    (a.Unmarked ∧ b.Unmarked ∧ c.Unmarked) ∧ a.display = b.display ∧ a.feed = b.feed ∧
      a.display ≠ c.display := by
  intro a b c
  have hname {name : String} {args : List TypeExpr} {binding : Option Schema}
      (h : name.toList.all (fun c => !isMark c) = true) (hargs : ∀ t ∈ args, t.Unmarked) :
      Unmarked ⟨name, args, binding⟩ := .intro (by simpa using h) hargs
  have hpair {s t : TypeExpr} (hs : s.Unmarked) (ht : t.Unmarked) :
      (generic "Map" [s, t]).Unmarked :=
    hname (by decide) (by simp only [List.forall_mem_cons]; exact ⟨hs, ht, nofun⟩)
  have ha : a.Unmarked := hpair (hname (by decide) nofun) (hname (by decide) nofun)
  have hb : b.Unmarked := hpair (hname (by decide) nofun) (hname (by decide) nofun)
  have hc : c.Unmarked := hpair (hname (by decide) nofun) (hname (by decide) nofun)
  refine ⟨⟨ha, hb, hc⟩, ((shown_alike_iff_same a b).1 ha hb).mpr (by decide),
    (shown_alike_iff_same a b).2.mpr (by decide), fun h => ?_⟩
  exact absurd (((shown_alike_iff_same a c).1 ha hc).mp h) (by decide)

end Endpoint.TypeExpr
