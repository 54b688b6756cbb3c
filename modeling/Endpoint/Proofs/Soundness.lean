import Endpoint.Delivered
import Endpoint.Invoker
import Endpoint.Proofs.MediaType
import Endpoint.Proofs.Stack
import Endpoint.Proofs.Typing
import Mathlib.Data.List.Perm.Subperm

/-!
Type soundness: what an invocation delivers has the shape of its declared type.

What is proved:
  1. `makes_resolved`: by induction on the shape, the handler that a declared type is resolved to
     makes that shape of the call which is made for it, over any built-in converters;
  2. `drives`: taking a value to its end gives what its shape says at every level;
  3. `deliverOutcomes_sound`: so are the outcomes that callbacks got, each as the shape of a
     callback layer of its own;
  4. `invoke_sound`: so whatever a method delivers, to its caller or to callbacks, is sound, for all
     requests and arguments, all replies of the other side and every order of steps of the pool. An
     error that blames a type is one that the other side made up.
-/
namespace Endpoint

/-- What was delivered is of a shape: at every level a value of that level's shape, or an error that
is excused. A callback is announced by a unit, its outcome goes to it. -/
inductive Sound (excused : Error → Prop) : Shape → Except Error Delivered → Prop where
  | error {s : Shape} {e : Error} : excused e → Sound excused s (.error e)
  | value {s : Shape} {v : Value} : s.Holds v → Sound excused s (.ok (.value v))
  | future {s : Shape} {n : Nat} {r : Except Error Delivered} : Sound excused s r →
    Sound excused (.future s) (.ok (.future n r))
  | callback {s : Shape} : Sound excused (.callback s) (.ok (.value .unit))
  | single {s : Shape} {n : Nat} {r : Except Error Delivered} : Sound excused s r →
    Sound excused (.single s) (.ok (.single n r))
  | stream {s : Shape} {n : Nat} {items : List (Except Error Delivered)} :
    (∀ i ∈ items, (∃ e, i = .error e ∧ excused e) ∨ ∃ v, i = .ok (.value v) ∧ s.Holds v) →
    Sound excused (.stream s) (.ok (.stream n items))

/-- What callbacks got stems from different callback layers of a shape, and every outcome is sound
for its layer. -/
def SoundByLayer (excused : Error → Prop) (s : Shape) (ds : List (Except Error Delivered)) : Prop :=
  ∃ layers : List Shape, layers.Subperm s.handed ∧ List.Forall₂ (Sound excused) layers ds

/-! ## Taking values to their end -/

section Driving
variable {σ : Premises} {floor : Nat} {L : Ledger} {w w' : World} {s : Shape}

theorem drive_of_holds {v : Value} (h : s.Holds v) (fuel : Nat) (w : World) :
    drive fuel v w = (.ok (.value v), w) := by
  -- the shapes of values under way hold of nothing
  have hcomplete : (∀ t, v ≠ .future t) ∧ (∀ b, v ≠ .single b) ∧ ∀ b, v ≠ .stream b := by
    cases s with
    | void =>
      cases h
      simp
    | future | callback | single | stream => exact h.elim
    | list | response =>
      obtain ⟨_, rfl, -⟩ := h
      simp
    | _ =>
      obtain ⟨_, rfl⟩ := h
      simp
  obtain ⟨hfuture, hsingle, hstream⟩ := hcomplete
  cases fuel with
  | zero => rfl
  | succ fuel =>
    cases v with
    | future t => exact (hfuture t rfl).elim
    | single b => exact (hsingle b rfl).elim
    | stream b => exact (hstream b rfl).elim
    | _ => rfl

theorem driveAll_of_holds {excused : Error → Prop} {items : List (Except Error Value)}
    (h : ∀ i ∈ items, (∃ e, i = .error e ∧ excused e) ∨ ∃ v, i = .ok v ∧ s.Holds v) (fuel : Nat)
    (w : World) :
    ∃ ds, driveAll (driveResult (drive fuel)) items w = (.ok ds, w) ∧
      ∀ d ∈ ds, (∃ e, d = .error e ∧ excused e) ∨ ∃ v, d = .ok (.value v) ∧ s.Holds v := by
  induction items with
  | nil => exact ⟨[], rfl, by simp⟩
  | cons i items ih =>
    obtain ⟨ds, hds, hsound⟩ := ih fun i hi => h i (List.mem_cons_of_mem _ hi)
    rcases h i List.mem_cons_self with ⟨e, rfl, he⟩ | ⟨v, rfl, hv⟩
    · refine ⟨.error e :: ds, ?_, fun d hd => ?_⟩
      · simp only [driveAll, driveResult, hds]
      · rcases List.mem_cons.mp hd with rfl | hd
        · exact .inl ⟨e, rfl, he⟩
        · exact hsound d hd
    · refine ⟨.ok (.value v) :: ds, ?_, fun d hd => ?_⟩
      · simp only [driveAll, driveResult, drive_of_holds hv, hds]
      · rcases List.mem_cons.mp hd with rfl | hd
        · exact .inr ⟨v, rfl, hv⟩
        · exact hsound d hd

/-- What a stream yields of the result of a list: its elements, or one error. -/
theorem streamItems_of_makes {Γ : List Shape} {r : Except Error Value}
    (h : Makes σ Γ false (.list s) (.done r)) :
    ∀ i ∈ streamItems r, (∃ e, i = .error e ∧ σ.excused e) ∨ ∃ v, i = .ok v ∧ s.Holds v := by
  intro i hi
  cases h with
  | value hv =>
    obtain ⟨items, rfl, hitems⟩ := hv
    obtain ⟨v, hv, rfl⟩ := List.mem_map.mp hi
    exact .inr ⟨v, rfl, hitems v hv⟩
  | fail he =>
    rw [streamItems, List.mem_singleton] at hi
    exact .inl ⟨_, hi, he⟩

/-- A value of a shape is in hand: whatever still puts tasks on the pool lies below it, and where
taking it to its end asks a single, work has just come down to that one. -/
structure InHand (floor : Nat) (L : Ledger) (s : Shape) : Prop where
  above : L.mover ≠ none → ∃ x ∈ L.tasks, x.depth ≤ s.depth
  unasked : s.asks = true → floor = s.floor

theorem InHand.grows {M : Ledger} (h : InHand floor L s) (hM : L.Grows M) : InHand floor M s where
  above hmover := by
    obtain ⟨x, hx, hdepth⟩ := h.above (mt hM.still hmover)
    exact ⟨x, hM.tasks.subset hx, hdepth⟩
  unasked := h.unasked

theorem InHand.of_mem (hs : s ∈ L.tasks) (hunasked : s.asks = true → floor = s.floor) :
    InHand floor L s :=
  ⟨fun _ => ⟨s, hs, Nat.le_refl _⟩, hunasked⟩

theorem InHand.of_ran {busy : Option Nat} {b : Bool} {new : Option Shape}
    (hran : Ran σ s.floor L busy b s new w) (hstill : L.mover = none) :
    InHand s.floor (L.put new) s where
  above hmover := by
    cases new with
    | none => exact absurd hstill hmover
    | some u =>
      exact ⟨u, List.mem_append_right _ (List.mem_singleton_self u),
        Nat.le_of_lt (hran.below u rfl).2⟩
  unasked _ := rfl

/-- What taking a value of a shape to its end has led to: the pool fits, and work has got no deeper
than asking the singles of the shape lets it. -/
structure Reached (σ : Premises) (floor : Nat) (L : Ledger) (s : Shape) (w : World) (floor' : Nat)
    (M : Ledger) : Prop where
  extended : L.Extends M
  fits : Fits σ floor' M none w
  quiet : s.asks = false → floor' = floor
  reach : s.asks = true → s.reach ≤ floor'

theorem Reached.of_quiet {M : Ledger} (hs : s.asks = false) (hM : L.Extends M)
    (hw : Fits σ floor M none w) : Reached σ floor L s w floor M :=
  ⟨hM, hw, fun _ => rfl, fun hasks => by rw [hs] at hasks; cases hasks⟩

/-- Values of a shape are delivered soundly with so much fuel, and the pool keeps fitting. -/
def Drives (σ : Premises) (s : Shape) (fuel : Nat) : Prop :=
  ∀ floor L w v d w', Makes σ L.tasks false s (.done (.ok v)) → Fits σ floor L none w →
    InHand floor L s → drive fuel v w = (.ok d, w') →
    Sound σ.excused s (.ok d) ∧ ∃ floor' M, Reached σ floor L s w' floor' M

theorem Drives.result {fuel : Nat} (h : Drives σ s fuel) {r : Except Error Value}
    (hr : Makes σ L.tasks false s (.done r)) (hw : Fits σ floor L none w)
    (hhand : InHand floor L s) {d : Except Error Delivered}
    (hd : driveResult (drive fuel) r w = (.ok d, w')) :
    Sound σ.excused s d ∧ ∃ floor' M, Reached σ floor L s w' floor' M := by
  cases r with
  | error e =>
    cases hd
    cases hr with
    | fail he =>
      exact ⟨.error he, floor, L, .refl L, hw, fun _ => rfl, fun hasks =>
        hhand.unasked hasks ▸ s.reach_le_floor⟩
  | ok v =>
    simp only [driveResult] at hd
    split at hd
    · cases hd
    · rename_i hdrive
      cases hd
      exact h floor L w v _ _ hr hw hhand hdrive

theorem drives_future {fuel : Nat} (h : Drives σ s fuel) : Drives σ (.future s) (fuel + 1) := by
  intro floor L w v d w' hv hw hhand hd
  cases hv with
  | value hv => exact hv.elim
  | @future _ _ _ ticket ht =>
    simp only [drive] at hd
    split at hd
    · cases hd
    · rename_i hdrive
      cases hd
      obtain ⟨M, hM, hfits⟩ := hw.settle
      have ht := Makes.getElem?_mono hM.tasks ht
      obtain ⟨hsound, floor', N, hN⟩ :=
        h.result (hfits.await ht) hfits (.of_mem (List.mem_of_getElem? ht) hhand.unasked) hdrive
      exact ⟨.future hsound, floor', N, hM.toExtends.trans hN.extended, hN.fits, hN.quiet,
        hN.reach⟩

theorem drives_callback (fuel : Nat) : Drives σ (.callback s) fuel := by
  intro floor L w v d w' hv hw hhand hd
  cases hv with
  | value hv => exact hv.elim
  | callback =>
    obtain ⟨rfl, rfl⟩ : d = .value .unit ∧ w' = w := by
      cases fuel <;> (cases hd; exact ⟨rfl, rfl⟩)
    exact ⟨.callback, floor, L, .of_quiet rfl (.refl L) hw⟩

/-- When a single is asked, nothing else puts tasks on the pool: all that is there stems from layers
above the single, and these have been gone through. -/
theorem still_of_single (hw : Fits σ floor L none w) (hhand : InHand floor L (.single s)) :
    Fits σ s.floor { L with mover := none } none w ∧
      Ledger.Admits { L with mover := none } s.floor s := by
  have hfloor : floor = s.depth + 1 := hhand.unasked rfl
  have hdeep : ∀ x ∈ L.tasks, s.depth < x.depth := fun x hx =>
    calc s.depth < floor := hfloor ▸ Nat.lt_succ_self _
      _ ≤ x.floor := hw.inOrder.floor x hx
      _ ≤ x.depth := x.floor_le_depth
  refine ⟨(hw.still fun t u hmover hu => ?_).lower ?_,
    rfl, fun x hx => Nat.le_of_lt (hdeep x hx), Nat.le_refl _⟩
  · obtain ⟨x, hx, hx'⟩ := hhand.above (by rw [hmover]; nofun)
    by_contra hhot
    have hlt : u.floor < u.depth := Shape.floor_lt_depth (Bool.not_eq_false _ ▸ hhot)
    have hle : u.depth ≤ x.depth := hw.inOrder.depth_le hmover hu x hx
    have hge : floor ≤ u.floor := hw.inOrder.floor u (List.mem_of_getElem? hu)
    simp only [Shape.depth] at hx'
    omega
  · rw [hfloor]
    exact Nat.le_succ_of_le s.floor_le_depth

theorem drives_single {fuel : Nat} (h : Drives σ s fuel) : Drives σ (.single s) (fuel + 1) := by
  intro floor L w v d w' hv hw hhand hd
  cases hv with
  | value hv => exact hv.elim
  | single hbelow =>
    obtain ⟨M, hM, hfits⟩ := hw.settle
    obtain ⟨hfits, hadmits⟩ := still_of_single hfits (hhand.grows hM)
    obtain ⟨new, hran, hresult⟩ :=
      Makes.run (L := { M with mover := none }) (hbelow.mono hM.tasks) hfits fun _ => hadmits
    simp only [drive] at hd
    split at hd
    · cases hd
    · rename_i hrun
      rw [hrun] at hran hresult
      split at hd
      · cases hd
      · rename_i hdrive
        cases hd
        obtain ⟨hsound, floor', N, hN⟩ :=
          h.result (hresult _ rfl) hran.fits (.of_ran hran rfl) hdrive
        have hreach : s.reach ≤ floor' := by
          cases hasks : s.asks with
          | false => exact hN.quiet hasks ▸ s.reach_le_floor
          | true => exact hN.reach hasks
        have hput := (Ledger.extends_put { M with mover := none } new).trans hN.extended
        refine ⟨.single hsound, floor', N, hM.toExtends.trans ⟨hput.tasks, hput.outcomes⟩,
          hN.fits, fun hquiet => ?_, fun _ => hreach⟩
        cases hquiet

theorem drives_stream (fuel : Nat) : Drives σ (.stream s) (fuel + 1) := by
  intro floor L w v d w' hv hw hhand hd
  cases hv with
  | value hv => exact hv.elim
  | stream hbelow =>
    obtain ⟨M, hM, hfits⟩ := hw.settle
    obtain ⟨new, hran, hresult⟩ := (hbelow.mono hM.tasks).run hfits fun h => by cases h
    obtain rfl : new = none := by
      cases new with
      | none => rfl
      | some u => cases (hran.below u rfl).1
    simp only [drive] at hd
    split at hd
    · cases hd
    · rename_i hrun
      rw [hrun] at hran hresult
      -- items are complete values, so that taking them to their end changes nothing
      obtain ⟨items, hitems, hsound⟩ :=
        driveAll_of_holds (streamItems_of_makes (hresult _ rfl)) fuel (World.abandon _ _)
      rw [hitems] at hd
      cases hd
      exact ⟨.stream hsound, floor, M, .of_quiet rfl hM.toExtends (hran.fits.abandon _)⟩

/-- A value is taken to its end as its shape says: by induction on the shape, where a future is what
its task made and a single is what its work makes. -/
theorem drives (σ : Premises) (s : Shape) {fuel : Nat} (hfuel : s.depth ≤ fuel) :
    Drives σ s fuel := by
  induction s generalizing fuel with
  | future s ih =>
    obtain ⟨n, rfl⟩ : ∃ n, fuel = n + 1 := ⟨fuel - 1, by rw [Shape.depth] at hfuel; omega⟩
    exact drives_future (ih (Nat.le_of_succ_le_succ hfuel))
  | callback s ih => exact drives_callback fuel
  | single s ih =>
    obtain ⟨n, rfl⟩ : ∃ n, fuel = n + 1 := ⟨fuel - 1, by rw [Shape.depth] at hfuel; omega⟩
    exact drives_single (ih (Nat.le_of_succ_le_succ hfuel))
  | stream s ih =>
    obtain ⟨n, rfl⟩ : ∃ n, fuel = n + 1 := ⟨fuel - 1, by rw [Shape.depth] at hfuel; omega⟩
    exact drives_stream n
  | _ =>
    intro floor L w v d w' hv hw hhand hd
    cases hv with
    | value hv =>
      rw [drive_of_holds hv] at hd
      cases hd
      exact ⟨.value hv, floor, L, .of_quiet rfl (.refl L) hw⟩

theorem deliver_sound (hs : s.depth ≤ driveDepth) {r : Except Error Value}
    (hr : Makes σ L.tasks false s (.done r)) (hw : Fits σ floor L none w)
    (hhand : InHand floor L s) {d : Except Error Delivered} (hd : deliver r w = (.ok d, w')) :
    Sound σ.excused s d ∧ ∃ floor' M, Reached σ floor L s w' floor' M :=
  (drives σ s hs).result hr hw hhand hd

/-- Taking the value of a layer to its end passes none of the other layers by. -/
theorem Reached.waits {done : List Shape} {v : Shape} {floor' : Nat} {M : Ledger}
    (h : Reached σ floor L v w floor' M) (hhand : InHand floor L v)
    (hwaits : s.Waits done floor) (hv : v ∈ s :: s.handed) : s.Waits (v :: done) floor' :=
  hwaits.drive hv h.quiet fun hasks => ⟨hhand.unasked hasks, h.reach hasks⟩

/-- The shapes are those of what was taken to its end: the value, or outcomes before the given
one. -/
def Behind (σ : Premises) (L : Ledger) (start : Nat) (done : List Shape) : Prop :=
  ∀ x ∈ done, x = σ.declared ∨ ∃ j < start, L.outcomes[j]? = some x

namespace Behind
variable {start : Nat} {done : List Shape} {u : Shape}

theorem mono {M : Ledger} (h : Behind σ L start done) (hM : L.Extends M) :
    Behind σ M start done := by
  intro x hx
  refine (h x hx).imp_right fun ⟨j, hj, hold⟩ => ?_
  exact ⟨j, hj, Makes.getElem?_mono hM.outcomes hold⟩

theorem next (h : Behind σ L start done) (hu : L.outcomes[start]? = some u) :
    Behind σ L (start + 1) (u :: done) := by
  intro x hx
  rcases List.mem_cons.mp hx with rfl | hx
  · exact .inr ⟨start, Nat.lt_succ_self _, hu⟩
  · exact (h x hx).imp_right fun ⟨j, hj, hold⟩ => ⟨j, Nat.lt_succ_of_lt hj, hold⟩

theorem not_mem (h : Behind σ L start done) (hL : L.InOrder σ floor)
    (hu : L.outcomes[start]? = some u) : u ∉ done := by
  intro hmem
  rcases h u hmem with rfl | ⟨j, hj, hold⟩
  · have hhanded := (hL.outcomes _ (List.mem_of_getElem? hu)).2
    exact absurd (Shape.depth_lt_of_mem_handed hhanded) (Nat.lt_irrefl _)
  · have hsame : j = start := (List.getElem?_inj (List.getElem?_eq_some_iff.mp hold).1
      hL.nodup).mp (hold.trans hu.symm)
    omega

theorem inHand (h : Behind σ L start done) (hL : L.InOrder σ floor)
    (hwaits : σ.declared.Waits done floor) (hu : L.outcomes[start]? = some u) :
    InHand floor L u := by
  obtain ⟨htask, hhanded⟩ := hL.outcomes u (List.mem_of_getElem? hu)
  refine .of_mem htask fun hasks => Nat.le_antisymm (hL.floor u htask) ?_
  exact hwaits u (List.mem_cons_of_mem _ hhanded) (h.not_mem hL hu) hasks

end Behind

/-- Every outcome that a callback gets is delivered as the shape of a layer of its own: by induction
on the outcomes, where those of which the layers are done with are behind. -/
theorem deliverOutcomes_sound (hdepth : σ.declared.depth ≤ driveDepth) (fuel : Nat)
    {start : Nat} {done : List Shape} (hw : Fits σ floor L none w)
    (hwaits : σ.declared.Waits done floor) (hdone : Behind σ L start done)
    {ds : List (Except Error Delivered)} (hds : deliverOutcomes fuel start w = (.ok ds, w')) :
    ∃ us : List Shape, List.Forall₂ (Sound σ.excused) us ds ∧ us.Nodup ∧
      ∀ u ∈ us, u ∈ σ.declared.handed ∧ u ∉ done := by
  induction fuel generalizing start floor L w ds w' done with
  | zero =>
    cases hds
    exact ⟨[], .nil, List.nodup_nil, by simp⟩
  | succ fuel ih =>
    obtain ⟨M, hM, hfits⟩ := hw.settle
    have hdone := hdone.mono hM.toExtends
    simp only [deliverOutcomes] at hds
    split at hds
    · cases hds
      exact ⟨[], .nil, List.nodup_nil, by simp⟩
    · rename_i hgot
      obtain ⟨u, hu, hmakes⟩ := hfits.exists_outcome hgot
      have hhanded := (hfits.inOrder.outcomes u (List.mem_of_getElem? hu)).2
      have hlt := Shape.depth_lt_of_mem_handed hhanded
      have hnew := hdone.not_mem hfits.inOrder hu
      have hhand := hdone.inHand hfits.inOrder hwaits hu
      split at hds
      · cases hds
      · rename_i hdeliver
        obtain ⟨hsound, floor', N, hN⟩ := deliver_sound (by omega) hmakes hfits hhand hdeliver
        have hwaits' := hN.waits hhand hwaits (List.mem_cons_of_mem _ hhanded)
        split at hds
        · cases hds
        · rename_i hrest
          cases hds
          obtain ⟨us, hus, hnodup, hlayers⟩ :=
            ih hN.fits hwaits' ((hdone.next hu).mono hN.extended) hrest
          refine ⟨u :: us, .cons hsound hus, List.nodup_cons.mpr ⟨fun hmem => ?_, hnodup⟩, ?_⟩
          · exact (hlayers u hmem).2 List.mem_cons_self
          · intro x hx
            rcases List.mem_cons.mp hx with rfl | hx
            · exact ⟨hhanded, hnew⟩
            · exact (hlayers x hx).imp_right fun hx hmem => hx (List.mem_cons_of_mem _ hmem)

theorem soundByLayer_of_deliverOutcomes (hdepth : σ.declared.depth ≤ driveDepth) {fuel start : Nat}
    {done : List Shape} (hw : Fits σ floor L none w) (hwaits : σ.declared.Waits done floor)
    (hdone : ∀ x ∈ done, x = σ.declared) {ds : List (Except Error Delivered)}
    (hds : deliverOutcomes fuel start w = (.ok ds, w')) :
    SoundByLayer σ.excused σ.declared ds := by
  obtain ⟨us, hus, hnodup, hlayers⟩ :=
    deliverOutcomes_sound hdepth fuel hw hwaits (fun x hx => .inl (hdone x hx)) hds
  exact ⟨us, hnodup.subperm fun u hu => (hlayers u hu).1, hus⟩

/-- Work that was done on an empty pool leaves its result in hand, whatever the pool does then. -/
theorem inHand_of_run {t : Task} (ht : Makes σ [] true σ.declared t)
    (hw : Fits σ σ.declared.floor .empty none w) {r : Except Error Value}
    (hrun : t.run w = (.result r, w')) (moves : List World.Move) :
    ∃ L : Ledger, Makes σ L.tasks false σ.declared (.done r) ∧
      Fits σ σ.declared.floor L none (w'.moves moves) ∧
      InHand σ.declared.floor L σ.declared := by
  have hadmits : Ledger.empty.Admits σ.declared.floor σ.declared := ⟨rfl, nofun, Nat.le_refl _⟩
  obtain ⟨new, hran, hresult⟩ := Makes.run (L := .empty) ht hw fun _ => hadmits
  rw [hrun] at hran hresult
  obtain ⟨L, hL, hfits⟩ := hran.fits.moves moves
  exact ⟨L, (hresult r rfl).mono hL.tasks, hfits, (InHand.of_ran hran rfl).grows hL⟩

/-- The value that is in hand is delivered soundly, and so is what callbacks got or still get. -/
theorem deliver_session_sound (hdepth : σ.declared.depth ≤ driveDepth) {r : Except Error Value}
    (hr : Makes σ L.tasks false σ.declared (.done r))
    (hw : Fits σ σ.declared.floor L none w) (hhand : InHand σ.declared.floor L σ.declared)
    {d : Except Error Delivered} (hd : deliver r w = (.ok d, w')) :
    Sound σ.excused σ.declared d ∧ ∀ moves fuel start ds v,
      deliverOutcomes fuel start (w'.moves moves) = (.ok ds, v) →
        SoundByLayer σ.excused σ.declared ds := by
  obtain ⟨hsound, floor', M, hM⟩ := deliver_sound hdepth hr hw hhand hd
  refine ⟨hsound, fun moves fuel start ds v hds => ?_⟩
  obtain ⟨N, -, hfits⟩ := hM.fits.moves moves
  exact soundByLayer_of_deliverOutcomes hdepth hfits
    (hM.waits hhand σ.declared.waits_nil List.mem_cons_self)
    (fun x hx => List.mem_singleton.mp hx) hds

end Driving

/-! ## What handlers make -/

section Handlers
variable {σ : Premises} {Γ : List Shape} {b : Bool} {x : Exchange} {r : Request} {s : Shape}

/-- The failures by which the other side answers a request are excused. -/
def Premises.Covers (σ : Premises) (x : Exchange) (r : Request) : Prop :=
  ∀ wire, x.encode r = .ok wire → ∀ n e, σ.reply n wire = .fail e → σ.excused e

theorem makes_perform (hx : x.BuiltIn) (hσ : σ.Covers x r)
    {next : Except Error WireResponse → Task} (hok : ∀ a, Makes σ Γ b s (next (.ok a)))
    (herror : ∀ e, σ.excused e → Makes σ Γ b s (next (.error e))) :
    Makes σ Γ b s (x.perform r next) := by
  unfold Exchange.perform
  cases henc : x.encode r with
  | error e => exact herror e (σ.excuses e (Exchange.encode_not_mistyped hx henc))
  | ok wire =>
    refine Makes.reportAll (.send (fun a => Makes.reportAll ?_ _) fun n e he =>
      Makes.reportAll (herror e (hσ wire henc n e he)) _) _
    simp only
    split
    · exact hok a
    · exact .report _ (herror _ (σ.excuses _ rfl))

/-- A call for anything but a whole response makes the shape of its type. -/
theorem makes_value (hx : x.BuiltIn) (hσ : σ.Covers x r)
    (hs : s.expr.isNamed TypeExpr.responseName = false) : Makes σ Γ b s (x.work r s.expr) := by
  rw [Exchange.work, hs, if_neg Bool.false_ne_true]
  refine makes_perform hx hσ (fun a => ?_) fun e he => .fail he
  simp only [Exchange.intoValue]
  cases hdecode : x.decode s.expr a with
  | ok v => exact .value (Exchange.decode_holds hx hdecode)
  | error e => exact .fail (σ.excuses e (Exchange.decode_not_mistyped hx hdecode))

/-- A call for a whole response makes one whose body, if it is there, has the shape of its type. -/
theorem makes_envelope (hx : x.BuiltIn) (hσ : σ.Covers x r) :
    Makes σ Γ b (.response s) (x.work r (Shape.response s).expr) := by
  have hnamed : (Shape.response s).expr.isNamed TypeExpr.responseName = true := rfl
  have hbody : (Shape.response s).expr.firstArgOrAny = s.expr := rfl
  rw [Exchange.work, hnamed, if_pos rfl, hbody]
  refine makes_perform hx hσ (fun a => ?_) fun e he => ?_
  · simp only [Exchange.intoEnvelope, Exchange.envelopeBody]
    split
    · rename_i body henvelope
      refine .value ⟨_, rfl, fun v hv => ?_⟩
      obtain rfl : body = some v := hv
      split at henvelope
      · cases henvelope
      · obtain ⟨v', hv', hsome⟩ := eq_ok_of_map henvelope
        cases hsome
        exact Exchange.decode_holds hx hv'
    · rename_i e henvelope
      split at henvelope
      · cases henvelope
      · cases hdecode : x.decode s.expr a with
        | ok v =>
          rw [hdecode] at henvelope
          cases henvelope
        | error e' =>
          rw [hdecode] at henvelope
          cases henvelope
          exact .fail (σ.excuses _ (Exchange.decode_not_mistyped hx hdecode))
  · unfold Exchange.intoEnvelope
    split
    · rename_i heq
      cases heq
    · refine .report _ (.value ⟨_, rfl, fun v hv => ?_⟩)
      -- the text of an error status is a body only where a text is expected
      simp only [Exchange.recovered] at hv
      split at hv
      · rename_i hstring
        obtain rfl : s = .string := Shape.eq_of_isNamed (by simp) hstring
        cases hv
        exact ⟨_, rfl⟩
      · cases hv
    · rename_i heq
      cases heq
      exact .fail he

theorem makes_headersOf {u : Shape} {a : Except Error Value}
    (h : Makes σ Γ false (.response u) (.done a)) :
    Makes σ Γ false .headers (Handler.headersOf a) := by
  cases h with
  | value hv =>
    obtain ⟨response, rfl, -⟩ := hv
    exact .value ⟨_, rfl⟩
  | fail he => exact .fail he

theorem makes_documentOf {a : Except Error Value} (h : Makes σ Γ false .any (.done a)) :
    Makes σ Γ false .document (Handler.documentOf a) := by
  cases h with
  | value hv =>
    obtain ⟨j, rfl⟩ := hv
    exact .value ⟨j, rfl⟩
  | fail he => exact .fail he

theorem find?_bound {name : String} {schema : Schema} (fresh : name ∉ TypeExpr.vocabulary) :
    Adapter.standard.find? (·.supports (.bound name schema)) = none := by
  have hcore : Layer.IsCore (.bound name schema) := fun known hknown =>
    Shape.not_isNamed_bound fresh <| by
      revert known
      decide
  rw [Layer.find?_standard _ hcore, Shape.not_isNamed_bound fresh (by decide),
    Shape.not_isNamed_bound fresh (by decide)]
  rfl

/-- The handler of a declared type makes its shape of the call that is made for it: by induction on
the shape, one adapter a level. -/
theorem makes_resolved (hx : x.BuiltIn) (hσ : σ.Covers x r) {declared : TypeExpr} {left : Nat}
    {m : Resolved Handler}
    (h : Adapter.resolveFrom Adapter.standard Handler.terminal declared left s.expr = .ok m)
    (hhanded : ∀ u ∈ s.handed, u ∈ σ.declared.handed) (args : Arguments) :
    s.depth < left ∧ Makes σ Γ true s (m.handler (x.call r m.callType) args) := by
  induction s generalizing left m Γ with
  | any | void | string | bytes | list =>
    obtain ⟨hleft, rfl⟩ := Adapter.resolveFrom_of_unsupported rfl h
    exact ⟨hleft, makes_value hx hσ rfl⟩
  | bound name schema fresh =>
    obtain ⟨hleft, rfl⟩ := Adapter.resolveFrom_of_unsupported (find?_bound fresh) h
    exact ⟨hleft, makes_value hx hσ (Shape.not_isNamed_bound fresh (by decide))⟩
  | response s =>
    obtain ⟨hleft, rfl⟩ := Adapter.resolveFrom_of_unsupported rfl h
    exact ⟨hleft, makes_envelope hx hσ⟩
  | headers =>
    -- headers are taken of a response whose body is not read
    obtain ⟨left, m, rfl, hinner, rfl⟩ := Adapter.resolveFrom_of_find? (a := .headers) rfl rfl h
    obtain ⟨-, rfl⟩ := Adapter.resolveFrom_of_unsupported rfl hinner
    have hresponse : Makes σ Γ false (.response .void) (x.work r (Shape.response .void).expr) :=
      makes_envelope hx hσ
    exact ⟨Nat.succ_pos left, (hresponse.andThen nofun fun _ _ _ => makes_headersOf).of_still⟩
  | document =>
    obtain ⟨left, m, rfl, hinner, rfl⟩ := Adapter.resolveFrom_of_find? (a := .document) rfl rfl h
    obtain ⟨-, rfl⟩ := Adapter.resolveFrom_of_unsupported rfl hinner
    have hany : Makes σ Γ false .any (x.work r Shape.any.expr) := makes_value hx hσ rfl
    exact ⟨Nat.succ_pos left, (hany.andThen nofun fun _ _ _ => makes_documentOf).of_still⟩
  | future s ih =>
    obtain ⟨left, m, rfl, hinner, rfl⟩ := Adapter.resolveFrom_of_find? (a := .future) rfl rfl h
    obtain ⟨hdepth, hbelow⟩ := ih hinner hhanded
    refine ⟨Nat.succ_lt_succ hdepth, .spawn (.future s) hbelow (fun id hid => by cases hid) ?_⟩
    exact fun Δ ticket _ ht => .future ht
  | callback s ih =>
    obtain ⟨left, m, rfl, hinner, rfl⟩ := Adapter.resolveFrom_of_find? (a := .callback) rfl rfl h
    obtain ⟨hdepth, hbelow⟩ := ih hinner fun u hu => hhanded u (List.mem_cons_of_mem _ hu)
    refine ⟨Nat.succ_lt_succ hdepth, ?_⟩
    simp only [Adapter.callback, Adapter.named, Handler.callback]
    cases args.callback? with
    | none => exact .fail (σ.excuses _ rfl)
    | some id =>
      refine .spawn (.callback s id) hbelow (fun _ _ => hhanded s List.mem_cons_self) ?_
      exact fun Δ ticket _ _ => .callback
  | single s ih =>
    obtain ⟨left, m, rfl, hinner, rfl⟩ := Adapter.resolveFrom_of_find? (a := .single) rfl rfl h
    obtain ⟨hdepth, hbelow⟩ := ih hinner hhanded
    exact ⟨Nat.succ_lt_succ hdepth, .single hbelow⟩
  | stream s =>
    obtain ⟨left, m, rfl, hinner, rfl⟩ := Adapter.resolveFrom_of_find? (a := .stream) rfl rfl h
    obtain ⟨hleft, rfl⟩ := Adapter.resolveFrom_of_unsupported rfl hinner
    have hlist : Makes σ Γ false (.list s) (x.work r (Shape.list s).expr) := makes_value hx hσ rfl
    exact ⟨Nat.succ_lt_succ hleft, .stream hlist⟩

end Handlers
/-! ## Invocations -/

/-- An error that an invocation may end in: it blames no type, or the other side answered the
request with it. -/
def Method.Excused (m : Method) (r : Request) (reply : Nat → WireRequest → Reply) (e : Error) :
    Prop :=
  e.isMistyped = true →
    ∃ wire n, m.exchange.encode (m.prepare r) = .ok wire ∧ reply n wire = .fail e

/-- What an invocation of a method for a shape rests on. -/
def Method.premises (m : Method) (r : Request) (reply : Nat → WireRequest → Reply) (s : Shape) :
    Premises where
  reply := reply
  excused := m.Excused r reply
  declared := s
  excuses e he hmistyped := by
    rw [he] at hmistyped
    cases hmistyped

/-- A method that comes of the standard adapters and of built-in converters has a handler that was
resolved with them. -/
theorem Invoker.resolved_of_method {p : Invoker.Parts} {i : Invoker} {m : Method} {t : TypeExpr}
    (hbuild : Invoker.build p = .ok i) (hadapters : p.adapters = [])
    (hbuiltin : ∀ c ∈ p.registry.converters, c.BuiltIn) (hmethod : i.method t = .ok m) :
    m.exchange.BuiltIn ∧ Handler.resolve Adapter.standard t = .ok m.resolved := by
  obtain ⟨defaultType, defaults, -, -, -, rfl⟩ := build_eq_ok_iff.mp hbuild
  obtain ⟨resolved, hresolve, hmethod⟩ := eq_ok_of_bind hmethod
  cases hmethod
  rw [hadapters] at hresolve
  exact ⟨hbuiltin, hresolve⟩

theorem makes_invoke {m : Method} {s : Shape} (hx : m.exchange.BuiltIn)
    (hresolve : Handler.resolve Adapter.standard s.expr = .ok m.resolved) (r : Request)
    (args : Arguments) (reply : Nat → WireRequest → Reply) :
    s.depth ≤ driveDepth ∧ Makes (m.premises r reply s) [] true s (m.invoke r args) := by
  have hcovers : (m.premises r reply s).Covers m.exchange (m.prepare r) :=
    fun wire henc n _ he _ => ⟨wire, n, henc, he⟩
  have hhandler : s.depth < Adapter.maxNesting + 1 ∧ Makes (m.premises r reply s) [] true s
      (m.resolved.handler (m.call r) args) :=
    makes_resolved hx hcovers hresolve (fun _ hu => hu) args
  refine ⟨Nat.le_trans (Nat.le_of_lt hhandler.1) (by decide), ?_⟩
  refine .report _ (Makes.reportAll (.report _ ?_) _)
  refine hhandler.2.andThen (fun _ => rfl) fun Δ a _ ha => ?_
  cases a with
  | ok v => exact ha
  | error e => exact .report _ ha

/-- **Declared types are honoured.** Take an invoker of the standard adapters and of built-in
converters in any order and number, a method of it for a declared type, any request and arguments,
any behaviour of the other side, and a pool on which there is nothing yet. Whatever the pool does
between running the invocation and asking for what it came to, what is delivered has the shape of
the declared type, and each outcome that a callback gets has the shape of a `Callback` layer of its
own. An error that blames a type is among them only if the other side answered the request with
it. -/
theorem invoke_sound {p : Invoker.Parts} {i : Invoker} {m : Method} {s : Shape}
    (hbuild : Invoker.build p = .ok i) (hadapters : p.adapters = [])
    (hbuiltin : ∀ c ∈ p.registry.converters, c.BuiltIn) (hmethod : i.method s.expr = .ok m)
    (r : Request) (args : Arguments) {w w' : World} (hentries : w.entries = [])
    (hdelivered : w.delivered = []) {o : Except Error Value}
    (hrun : (m.invoke r args).run w = (.result o, w')) (moves : List World.Move) :
    (∀ d w'', deliver o (w'.moves moves) = (.ok d, w'') →
      Sound (m.Excused r w.reply) s d ∧
        ∀ moves' fuel start ds u, deliverOutcomes fuel start (w''.moves moves') = (.ok ds, u) →
          SoundByLayer (m.Excused r w.reply) s ds) ∧
    ∀ fuel start ds u, deliverOutcomes fuel start (w'.moves moves) = (.ok ds, u) →
      SoundByLayer (m.Excused r w.reply) s ds := by
  obtain ⟨hx, hresolve⟩ := Invoker.resolved_of_method hbuild hadapters hbuiltin hmethod
  obtain ⟨hdepth, hmakes⟩ := makes_invoke hx hresolve r args w.reply
  have hempty : Fits (m.premises r w.reply s) s.floor .empty none w :=
    .empty rfl hentries hdelivered
  obtain ⟨L, hresult, hfits, hhand⟩ := inHand_of_run hmakes hempty hrun moves
  refine ⟨fun d w'' hd => deliver_session_sound hdepth hresult hfits hhand hd,
    fun fuel start ds u hds => ?_⟩
  exact soundByLayer_of_deliverOutcomes hdepth hfits s.waits_nil (by simp) hds

/-- A future of octets: what is delivered is the body of the answer, and it is sound. -/
theorem invoke_sound_of_octets :
    let p : Invoker.Parts :=
      ⟨⟨none, none, [], none, none, "application/json", false⟩, .own, ⟨[.octets]⟩, [], []⟩
    let i : Invoker := ⟨p.config, [], Adapter.standard, ⟨p.transport, p.registry, .json⟩⟩
    let s := Shape.future .bytes
    let m : Method := ⟨⟨Handler.future Handler.terminal, s.expr, .bytes⟩, [], i.exchange⟩
    let r := Request.plain ⟨"http", some ⟨"", none, .name "api.example", none⟩, "/greeting", none,
      none⟩ "GET" .any
    let w := World.initial (Reply.inOrder [fun _ => .answer ⟨200, .empty, Text.utf8 "hi"⟩])
    let d : Except Error Delivered := .ok (.future 1 (.ok (.value (.octets (Text.utf8 "hi")))))
    Invoker.build p = .ok i ∧ p.adapters = [] ∧ (∀ c ∈ p.registry.converters, c.BuiltIn) ∧
      i.method s.expr = .ok m ∧ w.entries = [] ∧ w.delivered = [] ∧
      ((m.invoke r .empty).run w).1 = .result (.ok (.future 0)) ∧
      (deliver (.ok (.future 0)) (((m.invoke r .empty).run w).2.moves [.advance 0])).1 = .ok d ∧
      Sound (m.Excused r w.reply) s d := by
  intro p i s m r w d
  have hbuild : Invoker.build p = .ok i := by
    rw [Invoker.build, Config.contentType, MediaType.ofText_json]
    rfl
  have hbuiltin : ∀ c ∈ p.registry.converters, c.BuiltIn := by
    intro c hc
    rw [List.mem_singleton.mp hc]
    exact .octets
  have hmethod : i.method s.expr = .ok m := rfl
  have hrun : (m.invoke r .empty).run w =
      (.result (.ok (.future 0)), ((m.invoke r .empty).run w).2) := rfl
  have hdeliver : deliver (.ok (.future 0)) (((m.invoke r .empty).run w).2.moves [.advance 0]) =
      (.ok d, (deliver (.ok (.future 0)) (((m.invoke r .empty).run w).2.moves [.advance 0])).2) :=
    rfl
  have hsound :=
    (invoke_sound hbuild rfl hbuiltin hmethod r .empty rfl rfl hrun [.advance 0]).1 d _ hdeliver
  exact ⟨hbuild, rfl, hbuiltin, hmethod, rfl, rfl, rfl, rfl, hsound.1⟩

end Endpoint
