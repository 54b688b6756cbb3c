import Endpoint.Delivered
import Endpoint.Proofs.Pool
import Endpoint.Request
import Mathlib.Data.List.Forall2

/-!
Two runs that differ in nothing but credentials. Twins are headers, requests, works, values and
worlds that are the same but for the values under the name of the header that carries credentials.

What is proved:
  1. `Work.Twin.run` and `Work.Twin.step`: twin works in twin worlds end, or go on, as twins, as
     long as the other side does not look at credentials (`Blind`);
  2. `World.Twin.moves`: so do twin pools in every order of steps;
  3. `deliver_twin` and `deliverOutcomes_twin`: whatever is taken to its end comes out as twins;
  4. `Delivered.Inert.eq_of_twin`: where no work is left unstarted, twins are equal.

A twin of a value is no other value unless work that nobody has started yet stands inside: such work
holds the request that it is going to send.
-/
namespace Endpoint

/-! ## Twins -/

/-- Lines of one name, with one value unless it carries credentials. -/
def HeaderLine.Twin (l l' : HeaderLine) : Prop :=
  l.name = l'.name ∧ (l.name ≠ authorizationName → l.value = l'.value)

def Headers.Twin (h h' : Headers) : Prop := List.Forall₂ HeaderLine.Twin h.lines h'.lines

structure WireRequest.Twin (q q' : WireRequest) : Prop where
  method : q.method = q'.method
  url : q.url = q'.url
  headers : q.headers.Twin q'.headers
  body : q.body = q'.body

/-- Both fail with one error, or what they give is related. -/
inductive Alike {α β : Type} (R : α → β → Prop) : Except Error α → Except Error β → Prop where
  | ok {a : α} {b : β} : R a b → Alike R (.ok a) (.ok b)
  | error (e : Error) : Alike R (.error e) (.error e)

mutual
/-- The works do the same step by step, but for the credentials in what they send. -/
inductive Work.Twin : Task → Task → Prop where
  | done {r r' : Except Error Value} : Alike Value.Twin r r' → Work.Twin (.done r) (.done r')
  | panic (p : Payload) : Work.Twin (.panic p) (.panic p)
  | count {next next' : Task} : Work.Twin next next' → Work.Twin (.count next) (.count next')
  | report {next next' : Task} (event : Event) : Work.Twin next next' →
    Work.Twin (.report event next) (.report event next')
  | log {next next' : Task} (line : String) : Work.Twin next next' →
    Work.Twin (.log line next) (.log line next')
  | send {q q' : WireRequest} {next next' : Except Error WireResponse → Task} : q.Twin q' →
    (∀ answer, Work.Twin (next answer) (next' answer)) →
    Work.Twin (.send q next) (.send q' next')
  | spawn {work work' : Task} {next next' : Nat → Task} (d : Delivery) : Work.Twin work work' →
    (∀ ticket, Work.Twin (next ticket) (next' ticket)) →
    Work.Twin (.spawn work d next) (.spawn work' d next')
  | release {v v' : Value} {next next' : Task} : Value.Twin v v' → Work.Twin next next' →
    Work.Twin (.release v next) (.release v' next')

/-- The values are the same, but for work inside them that nobody has started. -/
inductive Value.Twin : Value → Value → Prop where
  | same (v : Value) : Value.Twin v v
  | list {vs vs' : List Value} : List.Forall₂ Value.Twin vs vs' →
    Value.Twin (.list vs) (.list vs')
  | envelope {v v' : Value} (status : Nat) (headers : Headers) (text : Option String) :
    Value.Twin v v' → Value.Twin (.envelope ⟨status, headers, some v, text⟩)
      (.envelope ⟨status, headers, some v', text⟩)
  | single {t t' : Task} : Work.Twin t t' → Value.Twin (.single t) (.single t')
  | stream {t t' : Task} : Work.Twin t t' → Value.Twin (.stream t) (.stream t')
end

theorem Alike.refl {α : Type} {R : α → α → Prop} (hR : ∀ a, R a a) (r : Except Error α) :
    Alike R r r := by
  cases r with
  | ok a => exact .ok (hR a)
  | error e => exact .error e

namespace Work

theorem Twin.refl (t : Task) : Twin t t := by
  induction t with
  | done r => exact .done (.refl .same r)
  | panic p => exact .panic p
  | count _ ih => exact .count ih
  | report event _ ih => exact .report event ih
  | log line _ ih => exact .log line ih
  | send q _ ih =>
    have hq : q.Twin q := ⟨rfl, rfl, List.forall₂_same.mpr fun l _ => ⟨rfl, fun _ => rfl⟩, rfl⟩
    exact .send hq ih
  | spawn _ d _ ihwork ihnext => exact .spawn d ihwork ihnext
  | release v _ ih => exact .release (.same v) ih

theorem Twin.andThen {f f' : Except Error Value → Task}
    (hf : ∀ r r', Alike Value.Twin r r' → Twin (f r) (f' r')) {t t' : Task} (h : Twin t t') :
    Twin (t.andThen f) (t'.andThen f') := by
  induction t generalizing t' with
  | done r =>
    cases h with
    | done hr => exact hf _ _ hr
  | panic p =>
    cases h
    exact .panic p
  | count _ ih =>
    cases h with
    | count hnext => exact .count (ih hnext)
  | report event _ ih =>
    cases h with
    | report _ hnext => exact .report event (ih hnext)
  | log line _ ih =>
    cases h with
    | log _ hnext => exact .log line (ih hnext)
  | send q _ ih =>
    cases h with
    | send hq hnext => exact .send hq fun answer => ih answer (hnext answer)
  | spawn work d _ _ ih =>
    cases h with
    | spawn _ hwork hnext => exact .spawn d hwork fun ticket => ih ticket (hnext ticket)
  | release v _ ih =>
    cases h with
    | release hv hnext => exact .release hv (ih hnext)

theorem Twin.reportAll {t t' : Task} (h : Twin t t') (events : List Event) :
    Twin (reportAll events t) (reportAll events t') := by
  induction events with
  | nil => exact h
  | cons e _ ih => exact .report e ih

end Work

/-! ## Twin worlds -/

inductive Outcome.Twin : Outcome → Outcome → Prop where
  | result {r r' : Except Error Value} : Alike Value.Twin r r' →
    Outcome.Twin (.result r) (.result r')
  | panic (p : Payload) : Outcome.Twin (.panic p) (.panic p)

theorem Outcome.Twin.guarded {o o' : Outcome} (h : o.Twin o') :
    Alike Value.Twin o.guarded o'.guarded := by
  cases h with
  | result hr => exact hr
  | panic p => exact .error _

inductive Progress.Twin : Progress → Progress → Prop where
  | pending {t t' : Task} : Work.Twin t t' → Progress.Twin (.pending t) (.pending t')
  | finished {r r' : Except Error Value} : Alike Value.Twin r r' →
    Progress.Twin (.finished r) (.finished r')
  | discarded : Progress.Twin .discarded .discarded

structure Entry.Twin (e e' : Entry) : Prop where
  delivery : e.delivery = e'.delivery
  held : e.held = e'.held
  progress : e.progress.Twin e'.progress

/-- The other side does not look at credentials. -/
def Blind (reply : Nat → WireRequest → Reply) : Prop :=
  ∀ n q q', q.Twin q' → reply n q = reply n q'

/-- The worlds look the same: what was reported, logged and counted is equal, and what was sent is
but for the credentials. -/
structure World.Twin (w w' : World) : Prop where
  entries : List.Forall₂ Entry.Twin w.entries w'.entries
  shut : w.shut = w'.shut
  executions : w.executions = w'.executions
  log : w.log = w'.log
  trace : w.trace = w'.trace
  sent : List.Forall₂ WireRequest.Twin w.sent w'.sent
  delivered : List.Forall₂ (fun x x' => x.1 = x'.1 ∧ Alike Value.Twin x.2 x'.2) w.delivered
    w'.delivered
  reply : w.reply = w'.reply
  blind : Blind w.reply

theorem forall₂_concat {α β : Type} {R : α → β → Prop} {xs : List α} {ys : List β} {x : α} {y : β}
    (h : List.Forall₂ R xs ys) (hxy : R x y) : List.Forall₂ R (xs ++ [x]) (ys ++ [y]) :=
  List.rel_append h (.cons hxy .nil)

theorem forall₂_modify {α β : Type} {R : α → β → Prop} {f : α → α} {g : β → β}
    (hfg : ∀ x y, R x y → R (f x) (g y)) {xs : List α} {ys : List β} (h : List.Forall₂ R xs ys)
    (i : Nat) : List.Forall₂ R (xs.modify i f) (ys.modify i g) := by
  induction h generalizing i with
  | nil => simp
  | cons hxy hrest ih =>
    cases i with
    | zero =>
      rw [List.modify_zero_cons, List.modify_zero_cons]
      exact .cons (hfg _ _ hxy) hrest
    | succ i =>
      rw [List.modify_succ_cons, List.modify_succ_cons]
      exact .cons hxy (ih i)

/-- Lists that are related one by one have related elements in every place, or none in either. -/
theorem forall₂_getElem? {α β : Type} {R : α → β → Prop} {xs : List α} {ys : List β}
    (h : List.Forall₂ R xs ys) (i : Nat) :
    (xs[i]? = none ∧ ys[i]? = none) ∨ ∃ x y, xs[i]? = some x ∧ ys[i]? = some y ∧ R x y := by
  induction h generalizing i with
  | nil => exact .inl ⟨rfl, rfl⟩
  | cons hxy _ ih =>
    cases i with
    | zero => exact .inr ⟨_, _, rfl, rfl, hxy⟩
    | succ i =>
      rw [List.getElem?_cons_succ, List.getElem?_cons_succ]
      exact ih i

theorem eq_of_forall₂ {α : Type} {R : α → α → Prop} {xs ys : List α} (h : List.Forall₂ R xs ys)
    (heq : ∀ x ∈ xs, ∀ y, R x y → x = y) : xs = ys := by
  induction h with
  | nil => rfl
  | cons hxy _ ih =>
    have hrest := ih fun x hx => heq x (List.mem_cons_of_mem _ hx)
    rw [heq _ List.mem_cons_self _ hxy, hrest]

theorem map_eq_of_forall₂ {α β : Type} {R : α → α → Prop} {f : α → β} {xs ys : List α}
    (h : List.Forall₂ R xs ys) (hf : ∀ x y, R x y → f x = f y) : xs.map f = ys.map f := by
  induction h with
  | nil => rfl
  | cons hxy _ ih => rw [List.map_cons, List.map_cons, hf _ _ hxy, ih]

namespace World.Twin
variable {w w' : World}

theorem refl {w : World} (hblind : Blind w.reply) : w.Twin w where
  entries := List.forall₂_same.mpr fun e _ => by
    refine ⟨rfl, rfl, ?_⟩
    cases e.progress with
    | pending t => exact .pending (.refl t)
    | finished r => exact .finished (.refl .same r)
    | discarded => exact .discarded
  shut := rfl
  executions := rfl
  log := rfl
  trace := rfl
  sent := List.forall₂_same.mpr fun q _ =>
    ⟨rfl, rfl, List.forall₂_same.mpr fun l _ => ⟨rfl, fun _ => rfl⟩, rfl⟩
  delivered := List.forall₂_same.mpr fun x _ => ⟨rfl, .refl .same x.2⟩
  reply := rfl
  blind := hblind

theorem count (h : w.Twin w') : w.count.Twin w'.count where
  __ := h
  executions := congrArg (· + 1) h.executions

theorem report (h : w.Twin w') (e : Event) : (w.report e).Twin (w'.report e) where
  __ := h
  trace := congrArg (· ++ [e]) h.trace

theorem write (h : w.Twin w') (line : String) : (w.write line).Twin (w'.write line) where
  __ := h
  log := congrArg (· ++ [line]) h.log

theorem post (h : w.Twin w') {q q' : WireRequest} (hq : q.Twin q') :
    (w.post q).Twin (w'.post q') where
  __ := h
  executions := congrArg (· + 1) h.executions
  sent := forall₂_concat h.sent hq

theorem spawn (h : w.Twin w') {t t' : Task} (ht : Work.Twin t t') (d : Delivery) :
    (w.spawn t d).Twin (w'.spawn t' d) where
  __ := h
  entries := by
    refine forall₂_concat h.entries ⟨rfl, rfl, ?_⟩
    rw [h.shut]
    split
    · exact .discarded
    · exact .pending ht

theorem update (h : w.Twin w') (ticket : Nat) {f f' : Entry → Entry}
    (hf : ∀ e e', e.Twin e' → (f e).Twin (f' e')) :
    (w.update ticket f).Twin (w'.update ticket f') where
  __ := h
  entries := forall₂_modify hf h.entries ticket

theorem release (h : w.Twin w') (ticket : Nat) : (w.release ticket).Twin (w'.release ticket) :=
  h.update ticket fun _ _ he => ⟨he.delivery, rfl, he.progress⟩

theorem abandon (h : w.Twin w') {r r' : Except Error Value} (hr : Alike Value.Twin r r') :
    (w.abandon r).Twin (w'.abandon r') := by
  cases hr with
  | error e => exact h
  | ok hv =>
    cases hv with
    | same =>
      rename_i v
      cases v with
      | future ticket => exact h.release ticket
      | _ => exact h
    | _ => exact h

theorem nextTicket (h : w.Twin w') : w.nextTicket = w'.nextTicket := h.entries.length_eq

theorem reply_eq (h : w.Twin w') {q q' : WireRequest} (hq : q.Twin q') :
    w.reply w.sent.length q = w'.reply w'.sent.length q' := by
  calc w.reply w.sent.length q = w.reply w.sent.length q' := h.blind _ q q' hq
    _ = w'.reply w'.sent.length q' := by rw [h.reply, h.sent.length_eq]

theorem conclude (h : w.Twin w') (ticket : Nat) {o o' : Outcome} (ho : o.Twin o') :
    (w.conclude ticket o).Twin (w'.conclude ticket o') := by
  cases ho with
  | result hr => exact h.update ticket fun _ _ he => ⟨he.delivery, he.held, .finished hr⟩
  | panic p =>
    exact (h.report _).update ticket fun _ _ he =>
      ⟨he.delivery, he.held, .finished (.error (.execution (.panicked p)))⟩

theorem finish (h : w.Twin w') (ticket : Nat) {e e' : Entry} (he : e.Twin e') {o o' : Outcome}
    (ho : o.Twin o') : (w.finish ticket e o).Twin (w'.finish ticket e' o') := by
  obtain ⟨delivery, held, progress⟩ := e
  obtain ⟨delivery', held', progress'⟩ := e'
  obtain ⟨hdelivery, hheld, -⟩ := he
  simp only at hdelivery hheld
  subst hdelivery hheld
  have hconclude := h.conclude ticket ho
  cases delivery with
  | callback id =>
    exact { hconclude with delivered := forall₂_concat hconclude.delivered ⟨rfl, ho.guarded⟩ }
  | future =>
    cases held with
    | true => exact hconclude
    | false => exact (hconclude.abandon ho.guarded).report .resultDropped

end World.Twin

/-! ## Running twins -/

namespace Work
variable {t t' : Task} {w w' : World}

/-- Twin works do twin steps: both go on, or both end. -/
theorem Twin.step (h : Twin t t') (hw : w.Twin w') :
    (t.step w).2.Twin (t'.step w').2 ∧
      ((∃ rest rest', (t.step w).1 = .inl rest ∧ (t'.step w').1 = .inl rest' ∧ Twin rest rest') ∨
        ∃ o o', (t.step w).1 = .inr o ∧ (t'.step w').1 = .inr o' ∧ o.Twin o') := by
  cases h with
  | done hr => exact ⟨hw, .inr ⟨_, _, rfl, rfl, .result hr⟩⟩
  | panic p => exact ⟨hw, .inr ⟨_, _, rfl, rfl, .panic p⟩⟩
  | count hnext => exact ⟨hw.count, .inl ⟨_, _, rfl, rfl, hnext⟩⟩
  | report e hnext => exact ⟨hw.report e, .inl ⟨_, _, rfl, rfl, hnext⟩⟩
  | log line hnext => exact ⟨hw.write line, .inl ⟨_, _, rfl, rfl, hnext⟩⟩
  | @send q q' _ _ hq hnext =>
    have hposted := hw.post hq
    simp only [Work.step, hw.reply_eq hq]
    cases w'.reply w'.sent.length q' with
    | answer a => exact ⟨hposted, .inl ⟨_, _, rfl, rfl, hnext _⟩⟩
    | fail e => exact ⟨hposted, .inl ⟨_, _, rfl, rfl, hnext _⟩⟩
    | panic p => exact ⟨hposted, .inr ⟨_, _, rfl, rfl, .panic p⟩⟩
  | spawn d hwork hnext =>
    refine ⟨hw.spawn hwork d, .inl ⟨_, _, rfl, rfl, ?_⟩⟩
    rw [hw.nextTicket]
    exact hnext _
  | release hv hnext => exact ⟨hw.abandon (.ok hv), .inl ⟨_, _, rfl, rfl, hnext⟩⟩

/-- Twin works end as twins and leave twin worlds. -/
theorem Twin.run (h : Twin t t') (hw : w.Twin w') :
    (t.run w).1.Twin (t'.run w').1 ∧ (t.run w).2.Twin (t'.run w').2 := by
  -- by induction on the work, not on how it is a twin, which says nothing of work that is spawned
  induction t generalizing t' w w' with
  | done r =>
    cases h with
    | done hr => exact ⟨.result hr, hw⟩
  | panic p =>
    cases h
    exact ⟨.panic p, hw⟩
  | count _ ih =>
    cases h with
    | count hnext =>
      simp only [Work.run]
      exact ih hnext hw.count
  | report e _ ih =>
    cases h with
    | report _ hnext =>
      simp only [Work.run]
      exact ih hnext (hw.report e)
  | log line _ ih =>
    cases h with
    | log _ hnext =>
      simp only [Work.run]
      exact ih hnext (hw.write line)
  | send q next ih =>
    cases h with
    | @send _ q' _ _ hq hnext =>
      have hposted := hw.post hq
      simp only [Work.run, hw.reply_eq hq]
      cases w'.reply w'.sent.length q' with
      | answer a => exact ih _ (hnext _) hposted
      | fail e => exact ih _ (hnext _) hposted
      | panic p => exact ⟨.panic p, hposted⟩
  | spawn work d next _ ih =>
    cases h with
    | spawn _ hwork hnext =>
      simp only [Work.run]
      rw [hw.nextTicket]
      exact ih _ (hnext _) (hw.spawn hwork d)
  | release v _ ih =>
    cases h with
    | release hv hnext =>
      simp only [Work.run]
      exact ih hnext (hw.abandon (.ok hv))

end Work

namespace World.Twin
variable {w w' : World}

/-- What is done with the task of a ticket leaves twin worlds if it does with twin tasks. -/
theorem at_ticket (h : w.Twin w') {f f' : Entry → World} (ticket : Nat)
    (hf : ∀ e e', w.entries[ticket]? = some e → w'.entries[ticket]? = some e' → e.Twin e' →
      (f e).Twin (f' e')) :
    World.Twin (match w.entries[ticket]? with | some e => f e | none => w)
      (match w'.entries[ticket]? with | some e' => f' e' | none => w') := by
  obtain ⟨hnone, hnone'⟩ | ⟨e, e', he, he', htwin⟩ := forall₂_getElem? h.entries ticket
  · rw [hnone, hnone']
    exact h
  · rw [he, he']
    exact hf e e' he he' htwin

theorem advance (h : w.Twin w') (ticket : Nat) : (w.advance ticket).Twin (w'.advance ticket) := by
  unfold World.advance
  refine h.at_ticket ticket fun e e' _ _ he => ?_
  have hprogress := he.progress
  generalize e.progress = p at hprogress
  generalize e'.progress = p' at hprogress
  cases hprogress with
  | @pending t t' ht =>
    obtain ⟨hworld, hstep⟩ := ht.step h
    simp only
    generalize t.step w = x at hworld hstep
    generalize t'.step w' = x' at hworld hstep
    obtain ⟨left, v⟩ := x
    obtain ⟨left', v'⟩ := x'
    obtain ⟨rest, rest', rfl, rfl, htwin⟩ | ⟨o, o', rfl, rfl, htwin⟩ := hstep
    · exact hworld.update ticket fun _ _ he => ⟨he.delivery, he.held, .pending htwin⟩
    · exact hworld.finish ticket he htwin
  | finished | discarded => exact h

theorem complete (h : w.Twin w') (ticket : Nat) :
    (w.complete ticket).Twin (w'.complete ticket) := by
  unfold World.complete
  refine h.at_ticket ticket fun e e' _ _ he => ?_
  have hprogress := he.progress
  generalize e.progress = p at hprogress
  generalize e'.progress = p' at hprogress
  cases hprogress with
  | pending ht =>
    obtain ⟨ho, hworld⟩ := ht.run h
    exact hworld.finish ticket he ho
  | finished | discarded => exact h

theorem discard (h : w.Twin w') (ticket : Nat) :
    (w.discard ticket).Twin (w'.discard ticket) := by
  refine h.update ticket fun e e' he => ?_
  have hprogress := he.progress
  generalize hp : e.progress = p at hprogress
  generalize hp' : e'.progress = p' at hprogress
  cases hprogress with
  | pending ht => exact ⟨he.delivery, he.held, .discarded⟩
  | finished | discarded => exact he

theorem moves (h : w.Twin w') (ms : List Move) : (w.moves ms).Twin (w'.moves ms) := by
  induction ms generalizing w w' with
  | nil => exact h
  | cons m ms ih =>
    have hmove : (w.move m).Twin (w'.move m) := by
      cases m with
      | advance ticket => exact h.advance ticket
      | complete ticket => exact h.complete ticket
      | discard ticket => exact h.discard ticket
    exact ih hmove

theorem settleFrom (h : w.Twin w') (fuel ticket : Nat) :
    (World.settleFrom fuel ticket w).Twin (World.settleFrom fuel ticket w') := by
  induction fuel generalizing ticket w w' with
  | zero => exact h
  | succ fuel ih =>
    rw [World.settleFrom, World.settleFrom, h.entries.length_eq]
    split
    · exact ih (h.complete ticket) (ticket + 1)
    · exact h

theorem settle (h : w.Twin w') : w.settle.Twin w'.settle := by
  rw [World.settle, World.settle, h.entries.length_eq]
  exact h.settleFrom _ 0

theorem await (h : w.Twin w') (ticket : Nat) :
    Alike Value.Twin (w.await ticket) (w'.await ticket) := by
  have hlost : Alike Value.Twin (.error (.execution .lost)) (.error (.execution .lost)) := .error _
  unfold World.await World.result?
  obtain ⟨hnone, hnone'⟩ | ⟨e, e', he, he', htwin⟩ := forall₂_getElem? h.entries ticket
  · rw [hnone, hnone']
    exact hlost
  · rw [he, he']
    simp only
    have hprogress := htwin.progress
    generalize e.progress = p at hprogress
    generalize e'.progress = p' at hprogress
    cases hprogress with
    | pending _ => exact hlost
    | finished hr => exact hr
    | discarded => exact hlost

end World.Twin

/-! ## Driving twins -/

/-- What was delivered is the same, but for work that nobody has started. -/
inductive Delivered.Twin : Delivered → Delivered → Prop where
  | value {v v' : Value} : v.Twin v' → Delivered.Twin (.value v) (.value v')
  | future {r r' : Except Error Delivered} (executions : Nat) : Alike Delivered.Twin r r' →
    Delivered.Twin (.future executions r) (.future executions r')
  | single {r r' : Except Error Delivered} (executions : Nat) : Alike Delivered.Twin r r' →
    Delivered.Twin (.single executions r) (.single executions r')
  | stream {rs rs' : List (Except Error Delivered)} (executions : Nat) :
    List.Forall₂ (Alike Delivered.Twin) rs rs' →
    Delivered.Twin (.stream executions rs) (.stream executions rs')

/-- Two drives end alike: with related results in twin worlds, or with one panic. -/
inductive DrivenTwin {α : Type} (R : α → α → Prop) :
    Except Payload α × World → Except Payload α × World → Prop where
  | ok {a a' : α} {w w' : World} : R a a' → w.Twin w' → DrivenTwin R (.ok a, w) (.ok a', w')
  | panic {w w' : World} (p : Payload) : w.Twin w' → DrivenTwin R (.error p, w) (.error p, w')

theorem DrivenTwin.world {α : Type} {R : α → α → Prop} {x x' : Except Payload α × World}
    (h : DrivenTwin R x x') : x.2.Twin x'.2 := by
  cases h with
  | ok _ hw => exact hw
  | panic _ hw => exact hw

theorem driveAll_twin {α β : Type} {R : α → α → Prop} {S : β → β → Prop} {f : α → Driven β}
    (hf : ∀ a a' w w', R a a' → w.Twin w' → DrivenTwin S (f a w) (f a' w')) {xs xs' : List α}
    (h : List.Forall₂ R xs xs') {w w' : World} (hw : w.Twin w') :
    DrivenTwin (List.Forall₂ S) (driveAll f xs w) (driveAll f xs' w') := by
  induction h generalizing w w' with
  | nil => exact .ok .nil hw
  | cons hxy _ ih =>
    simp only [driveAll]
    have hfirst := hf _ _ w w' hxy hw
    generalize f _ w = x at hfirst
    generalize f _ w' = x' at hfirst
    cases hfirst with
    | panic p hv => exact .panic p hv
    | ok hy hv =>
      have hrest := ih hv
      simp only
      generalize driveAll f _ _ = ys at hrest
      generalize driveAll f _ _ = ys' at hrest
      cases hrest with
      | panic p hu => exact .panic p hu
      | ok hys hu => exact .ok (.cons hy hys) hu

def DrivesTwins (f : Value → Driven Delivered) : Prop :=
  ∀ v v' w w', v.Twin v' → w.Twin w' → DrivenTwin Delivered.Twin (f v w) (f v' w')

theorem driveResult_twin {f : Value → Driven Delivered} (hf : DrivesTwins f)
    {r r' : Except Error Value} (h : Alike Value.Twin r r') {w w' : World} (hw : w.Twin w') :
    DrivenTwin (Alike Delivered.Twin) (driveResult f r w) (driveResult f r' w') := by
  cases h with
  | error e => exact .ok (.error e) hw
  | @ok v v' hv =>
    have hdriven := hf v v' w w' hv hw
    simp only [driveResult]
    generalize f v w = x at hdriven
    generalize f v' w' = x' at hdriven
    cases hdriven with
    | panic p hu => exact .panic p hu
    | ok hd hu => exact .ok (.ok hd) hu

theorem streamItems_twin {r r' : Except Error Value} (h : Alike Value.Twin r r') :
    List.Forall₂ (Alike Value.Twin) (streamItems r) (streamItems r') := by
  have hsame (rs : List (Except Error Value)) : List.Forall₂ (Alike Value.Twin) rs rs :=
    List.forall₂_same.mpr fun r _ => .refl .same r
  cases h with
  | error e => exact hsame _
  | ok hv =>
    cases hv with
    | same v => exact hsame _
    | list hvs =>
      have hitems := hvs.imp fun _ _ hv => Alike.ok hv
      exact List.forall₂_map_left_iff.mpr (List.forall₂_map_right_iff.mpr hitems)
    | envelope | single | stream => exact hsame _

section Drive
variable {fuel : Nat} {w w' : World}

theorem drive_future_twin (hf : DrivesTwins (drive fuel)) (ticket : Nat) (hw : w.Twin w') :
    DrivenTwin Delivered.Twin (drive (fuel + 1) (.future ticket) w)
      (drive (fuel + 1) (.future ticket) w') := by
  have hsettled := hw.settle
  have hdriven := driveResult_twin hf (hsettled.await ticket) hsettled
  simp only [drive, hsettled.executions]
  generalize driveResult _ _ w.settle = x at hdriven
  generalize driveResult _ _ w'.settle = x' at hdriven
  cases hdriven with
  | panic p hu => exact .panic p hu
  | ok hr hu => exact .ok (.future _ hr) hu

theorem drive_single_twin (hf : DrivesTwins (drive fuel)) {t t' : Task} (ht : Work.Twin t t')
    (hw : w.Twin w') : DrivenTwin Delivered.Twin (drive (fuel + 1) (.single t) w)
      (drive (fuel + 1) (.single t') w') := by
  have hsettled := hw.settle
  obtain ⟨hend, hv⟩ := ht.run hsettled
  simp only [drive, hsettled.executions]
  generalize t.run w.settle = x at hend hv
  generalize t'.run w'.settle = x' at hend hv
  obtain ⟨o, v⟩ := x
  obtain ⟨o', v'⟩ := x'
  simp only at hend hv
  cases hend with
  | panic p => exact .panic p hv
  | result hr =>
    have hdriven := driveResult_twin hf hr hv
    simp only
    generalize driveResult _ _ v = y at hdriven
    generalize driveResult _ _ v' = y' at hdriven
    cases hdriven with
    | panic p hu => exact .panic p hu
    | ok hd hu => exact .ok (.single _ hd) hu

theorem drive_stream_twin (hf : DrivesTwins (drive fuel)) {t t' : Task} (ht : Work.Twin t t')
    (hw : w.Twin w') : DrivenTwin Delivered.Twin (drive (fuel + 1) (.stream t) w)
      (drive (fuel + 1) (.stream t') w') := by
  have hsettled := hw.settle
  obtain ⟨hend, hv⟩ := ht.run hsettled
  simp only [drive, hsettled.executions]
  generalize t.run w.settle = x at hend hv
  generalize t'.run w'.settle = x' at hend hv
  obtain ⟨o, v⟩ := x
  obtain ⟨o', v'⟩ := x'
  simp only at hend hv
  cases hend with
  | panic p => exact .panic p hv
  | @result r r' hr =>
    have hdriven := driveAll_twin (R := Alike Value.Twin)
      (fun _ _ _ _ hi hu => driveResult_twin hf hi hu) (streamItems_twin hr) (hv.abandon hr)
    simp only
    generalize driveAll _ _ (v.abandon r) = y at hdriven
    generalize driveAll _ _ (v'.abandon r') = y' at hdriven
    cases hdriven with
    | panic p hu => exact .panic p hu
    | ok hds hu => exact .ok (.stream _ hds) hu

end Drive

theorem drivesTwins (fuel : Nat) : DrivesTwins (drive fuel) := by
  induction fuel with
  | zero => exact fun _ _ _ _ hv hw => .ok (.value hv) hw
  | succ fuel ih =>
    intro v v' w w' hv hw
    -- a value that is the same on both sides may be under way too
    cases hv with
    | same =>
      cases v with
      | future ticket => exact drive_future_twin ih ticket hw
      | single t => exact drive_single_twin ih (.refl t) hw
      | stream t => exact drive_stream_twin ih (.refl t) hw
      | _ => exact .ok (.value (.same _)) hw
    | single ht => exact drive_single_twin ih ht hw
    | stream ht => exact drive_stream_twin ih ht hw
    | list hvs => exact .ok (.value (.list hvs)) hw
    | envelope status headers text hv => exact .ok (.value (.envelope status headers text hv)) hw

theorem deliver_twin {r r' : Except Error Value} (h : Alike Value.Twin r r') {w w' : World}
    (hw : w.Twin w') : DrivenTwin (Alike Delivered.Twin) (deliver r w) (deliver r' w') :=
  driveResult_twin (drivesTwins driveDepth) h hw

theorem deliverOutcomes_twin (fuel start : Nat) {w w' : World} (hw : w.Twin w') :
    DrivenTwin (List.Forall₂ (Alike Delivered.Twin)) (deliverOutcomes fuel start w)
      (deliverOutcomes fuel start w') := by
  induction fuel generalizing start w w' with
  | zero => exact .ok .nil hw
  | succ fuel ih =>
    have hsettled := hw.settle
    simp only [deliverOutcomes]
    obtain ⟨hnone, hnone'⟩ | ⟨⟨id, r⟩, ⟨id', r'⟩, hx, hx', -, hr⟩ :=
      forall₂_getElem? hsettled.delivered start
    · rw [hnone, hnone']
      exact .ok .nil hsettled
    · rw [hx, hx']
      have hfirst := deliver_twin hr hsettled
      simp only
      generalize deliver r w.settle = y at hfirst
      generalize deliver r' w'.settle = y' at hfirst
      cases hfirst with
      | panic p hu => exact .panic p hu
      | ok hd hu =>
        have hrest := ih (start + 1) hu
        simp only
        generalize deliverOutcomes fuel (start + 1) _ = z at hrest
        generalize deliverOutcomes fuel (start + 1) _ = z' at hrest
        cases hrest with
        | panic p hv => exact .panic p hv
        | ok hds hv => exact .ok (.cons hd hds) hv

/-! ## Twins without unstarted work -/

/-- No work that nobody has started stands inside the value. -/
inductive Value.Inert : Value → Prop where
  | unit : Value.Inert .unit
  | datum (d : Datum) : Value.Inert (.datum d)
  | headers (h : Headers) : Value.Inert (.headers h)
  | future (ticket : Nat) : Value.Inert (.future ticket)
  | list {vs : List Value} : (∀ v ∈ vs, v.Inert) → Value.Inert (.list vs)
  | envelope {r : Response Value} : (∀ v, r.body = some v → v.Inert) → Value.Inert (.envelope r)

/-- No such work stands inside anything that was delivered. -/
inductive Delivered.Inert : Delivered → Prop where
  | value {v : Value} : v.Inert → Delivered.Inert (.value v)
  | future {n : Nat} {r : Except Error Delivered} : (∀ d, r = .ok d → d.Inert) →
    Delivered.Inert (.future n r)
  | single {n : Nat} {r : Except Error Delivered} : (∀ d, r = .ok d → d.Inert) →
    Delivered.Inert (.single n r)
  | stream {n : Nat} {rs : List (Except Error Delivered)} : (∀ d, .ok d ∈ rs → d.Inert) →
    Delivered.Inert (.stream n rs)

theorem Value.Inert.eq_of_twin {v v' : Value} (hv : v.Inert) (h : v.Twin v') : v = v' := by
  induction hv generalizing v' with
  | unit | datum | headers | future =>
    cases h
    rfl
  | list _ ih =>
    cases h with
    | same => rfl
    | list hvs => rw [eq_of_forall₂ hvs fun v hv v' h => ih v hv h]
  | envelope _ ih =>
    cases h with
    | same => rfl
    | envelope status headers text hbody => rw [ih _ rfl hbody]

theorem Alike.eq_of_ok {α : Type} {R : α → α → Prop} {r r' : Except Error α} (h : Alike R r r')
    (heq : ∀ a, r = .ok a → ∀ b, R a b → a = b) : r = r' := by
  cases h with
  | error e => rfl
  | ok htwin => rw [heq _ rfl _ htwin]

theorem Delivered.Inert.eq_of_twin {d d' : Delivered} (hd : d.Inert) (h : d.Twin d') : d = d' := by
  induction hd generalizing d' with
  | value hv =>
    cases h with
    | value htwin => rw [hv.eq_of_twin htwin]
  | future _ ih =>
    cases h with
    | future n hr => rw [hr.eq_of_ok fun d hd d' h => ih d hd h]
  | single _ ih =>
    cases h with
    | single n hr => rw [hr.eq_of_ok fun d hd d' h => ih d hd h]
  | @stream _ rs _ ih =>
    cases h with
    | stream n hrs =>
      have heq (r) (hr : r ∈ rs) (r') (h : Alike Delivered.Twin r r') : r = r' := by
        refine h.eq_of_ok fun d hd d' h => ih d ?_ h
        rw [← hd]
        exact hr
      rw [eq_of_forall₂ hrs heq]

end Endpoint
