import Endpoint.Value

/-!
What becomes of work. A `World` holds the pool of tasks with their results, counts executions,
keeps the log, the reports, the requests that were sent and the outcomes that callbacks got, and
says how the other side answers. `Work.run` does work up to its end; `advance` does one step of one
task on the pool, so every order of steps is a list of tickets; `settle` lets every task finish in
the order of the tickets. A panic of a task ends that task alone and becomes its result.
-/
namespace Endpoint

/-- How a task on the pool stands. -/
inductive Progress where
  | pending (work : Task)
  | finished (result : Except Error Value)
  | discarded

/-- A task on the pool: where its result goes, whether anybody still waits for it, and how it
stands. -/
structure Entry where
  delivery : Delivery
  held : Bool
  progress : Progress

/-- How the other side takes a request. -/
inductive Reply where
  | answer (response : WireResponse)
  | fail (error : Error)
  | panic (payload : Payload)

/-- The replies of a list in their order, the last one again and again; an empty answer if there is
none. -/
def Reply.inOrder (replies : List (WireRequest → Reply)) (n : Nat) (r : WireRequest) : Reply :=
  match replies[min n (replies.length - 1)]? with
  | some reply => reply r
  | none => .answer ⟨200, .empty, []⟩

/-- The state that work acts on. The ticket of a task is its index in `entries`; a pool that is shut
discards every task it is given. `reply` answers the request of the given number. -/
structure World where
  entries : List Entry
  shut : Bool
  executions : Nat
  log : List String
  trace : List Event
  sent : List WireRequest
  delivered : List (Nat × Except Error Value)
  reply : Nat → WireRequest → Reply

/-- How work ends. -/
inductive Outcome where
  | result (r : Except Error Value)
  | panic (payload : Payload)

/-- What the pool makes of an end: a panic is an error. -/
def Outcome.guarded : Outcome → Except Error Value
  | result r => r
  | panic payload => .error (.execution (.panicked payload))

namespace World

/-- A world in which nothing has happened. -/
def initial (reply : Nat → WireRequest → Reply) : World :=
  ⟨[], false, 0, [], [], [], [], reply⟩

def count (w : World) : World := { w with executions := w.executions + 1 }

def report (w : World) (e : Event) : World := { w with trace := w.trace ++ [e] }

def reportAll (w : World) (es : List Event) : World := { w with trace := w.trace ++ es }

def write (w : World) (line : String) : World := { w with log := w.log ++ [line] }

def post (w : World) (r : WireRequest) : World :=
  { w with executions := w.executions + 1, sent := w.sent ++ [r] }

def nextTicket (w : World) : Nat := w.entries.length

def spawn (w : World) (work : Task) (delivery : Delivery) : World :=
  { w with entries := w.entries ++
      [⟨delivery, true, if w.shut then .discarded else .pending work⟩] }

/-- Changes the task of a ticket. -/
def update (w : World) (ticket : Nat) (f : Entry → Entry) : World :=
  { w with entries := w.entries.modify ticket f }

/-- Nobody waits for the result of a task any more. -/
def release (w : World) (ticket : Nat) : World := w.update ticket fun e => { e with held := false }

/-- Nobody takes a result; a future inside is not waited for. -/
def abandon (w : World) : Except Error Value → World
  | .ok (.future ticket) => w.release ticket
  | _ => w

/-- Hands the end of a task to its future or its callback. -/
def finish (w : World) (ticket : Nat) (e : Entry) (outcome : Outcome) : World :=
  let w := match outcome with
    | .result _ => w
    | .panic payload => w.report (.panicked payload.message)
  let r := outcome.guarded
  let w := w.update ticket fun e => { e with progress := .finished r }
  match e.delivery with
  | .callback id => { w with delivered := w.delivered ++ [(id, r)] }
  | .future => if e.held then w else (w.abandon r).report .resultDropped

/-- The pool drops a task before it has finished. -/
def discard (w : World) (ticket : Nat) : World :=
  w.update ticket fun e => match e.progress with
    | .pending _ => { e with progress := .discarded }
    | _ => e

end World

namespace Work

/-- Does one step: either work is left, or it has ended. -/
def step : Task → World → (Task ⊕ Outcome) × World
  | done r, w => (.inr (.result r), w)
  | panic payload, w => (.inr (.panic payload), w)
  | count next, w => (.inl next, w.count)
  | report event next, w => (.inl next, w.report event)
  | log line next, w => (.inl next, w.write line)
  | send request next, w =>
    match w.reply w.sent.length request with
    | .answer response => (.inl (next (.ok response)), w.post request)
    | .fail error => (.inl (next (.error error)), w.post request)
    | .panic payload => (.inr (.panic payload), w.post request)
  | spawn work delivery next, w => (.inl (next w.nextTicket), w.spawn work delivery)
  | release value next, w => (.inl next, w.abandon (.ok value))

/-- Does all steps. -/
def run : Task → World → Outcome × World
  | done r, w => (.result r, w)
  | panic payload, w => (.panic payload, w)
  | count next, w => run next w.count
  | report event next, w => run next (w.report event)
  | log line next, w => run next (w.write line)
  | send request next, w =>
    match w.reply w.sent.length request with
    | .answer response => run (next (.ok response)) (w.post request)
    | .fail error => run (next (.error error)) (w.post request)
    | .panic payload => (.panic payload, w.post request)
  | spawn work delivery next, w => run (next w.nextTicket) (w.spawn work delivery)
  | release value next, w => run next (w.abandon (.ok value))

theorem run_eq_step (t : Task) (w : World) :
    t.run w = match t.step w with
      | (.inl rest, w) => rest.run w
      | (.inr outcome, w) => (outcome, w) := by
  cases t with
  | send request _ =>
    simp only [step, run]
    cases w.reply w.sent.length request <;> rfl
  | _ => rfl

/-- Work that goes on is done by doing both parts, unless the first ends in a panic. -/
theorem run_andThen (f : Except Error Value → Task) (t : Task) (w : World) :
    (t.andThen f).run w = match t.run w with
      | (.result r, w) => (f r).run w
      | (.panic p, w) => (.panic p, w) := by
  induction t generalizing w with
  | done | panic => rfl
  | count _ ih | report _ _ ih | log _ _ ih | release _ _ ih => simp only [andThen, run, ih]
  | send request _ ih =>
    simp only [andThen, run]
    cases w.reply w.sent.length request <;> simp only [ih]
  | spawn _ _ _ _ ih => simp only [andThen, run, ih]

theorem run_reportAll (events : List Event) (t : Task) (w : World) :
    (reportAll events t).run w = t.run (w.reportAll events) := by
  induction events generalizing w with
  | nil => simp [reportAll, World.reportAll]
  | cons e es ih => simp [reportAll, run, ih, World.report, World.reportAll]

end Work

namespace World

/-- Does one step of the task of a ticket, if it has not ended. -/
def advance (w : World) (ticket : Nat) : World :=
  match w.entries[ticket]? with
  | some e => match e.progress with
    | .pending work => match work.step w with
      | (.inl rest, w) => w.update ticket fun e => { e with progress := .pending rest }
      | (.inr outcome, w) => w.finish ticket e outcome
    | _ => w
  | none => w

/-- Does the task of a ticket up to its end, if it has not ended. -/
def complete (w : World) (ticket : Nat) : World :=
  match w.entries[ticket]? with
  | some e => match e.progress with
    | .pending work =>
      let (outcome, w) := work.run w
      w.finish ticket e outcome
    | _ => w
  | none => w

/-- Lets the tasks from a ticket on finish one after another, those that they put on the pool too;
the fuel bounds the number of tasks. -/
def settleFrom : Nat → Nat → World → World
  | 0, _, w => w
  | fuel + 1, ticket, w =>
    if ticket < w.entries.length then settleFrom fuel (ticket + 1) (w.complete ticket) else w

/-- How many tasks can come of one: a handler has at most sixteen layers, and a layer puts at most
one task on the pool. -/
def layers : Nat := 18

/-- Lets every task finish. -/
def settle (w : World) : World := settleFrom (w.entries.length * layers) 0 w

/-- What waiting for a task gives once it has ended or was discarded. -/
def result? (w : World) (ticket : Nat) : Option (Except Error Value) :=
  match w.entries[ticket]? with
  | some e => match e.progress with
    | .finished r => some r
    | .discarded => some (.error (.execution .lost))
    | .pending _ => none
  | none => none

/-- What waiting for a task gives; a task that never ends is lost. -/
def await (w : World) (ticket : Nat) : Except Error Value :=
  (w.result? ticket).getD (.error (.execution .lost))

end World
end Endpoint
