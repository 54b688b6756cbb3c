import Endpoint.Error
import Endpoint.Event

/-!
What a call does, as data. A `Work` is a computation that ends in a result or a panic and, on the
way, counts an execution, reports an event, writes a line to a log, sends a request and waits for
the answer, or puts other work on the pool. A `Launch` is what starting a call does before there
is work to wait for. Nothing is done by either: `World` says what becomes of them.
-/
namespace Endpoint
open Text

/-- A request as it goes out. -/
structure WireRequest where
  method : String
  url : Url
  headers : Headers
  body : Option Octets
deriving DecidableEq, Repr, Inhabited

/-- A response as it comes in. -/
structure WireResponse where
  status : Nat
  headers : Headers
  body : Octets
deriving DecidableEq, Repr, Inhabited

def isSuccess (status : Nat) : Bool := 200 ≤ status && status < 300

/-- Where the result of work on the pool goes: to a future, or to a callback. -/
inductive Delivery where
  | future
  | callback (id : Nat)
deriving DecidableEq, Repr, Inhabited

/-- A computation whose result is a value of `V` or an error. `spawn` goes on with the ticket of the
work that it put on the pool; `release` lets go of a value that nobody is going to take. -/
inductive Work (V : Type) where
  | done (result : Except Error V)
  | panic (payload : Payload)
  | count (next : Work V)
  | report (event : Event) (next : Work V)
  | log (line : String) (next : Work V)
  | send (request : WireRequest) (next : Except Error WireResponse → Work V)
  | spawn (work : Work V) (delivery : Delivery) (next : Nat → Work V)
  | release (value : V) (next : Work V)

namespace Work
variable {V : Type}

def ok (v : V) : Work V := .done (.ok v)

def fail (e : Error) : Work V := .done (.error e)

/-- Does the first work and goes on with its result; a panic ends it all. -/
def andThen (f : Except Error V → Work V) : Work V → Work V
  | done result => f result
  | panic payload => .panic payload
  | count next => .count (andThen f next)
  | report event next => .report event (andThen f next)
  | log line next => .log line (andThen f next)
  | send request next => .send request fun answer => andThen f (next answer)
  | spawn work delivery next => .spawn work delivery fun ticket => andThen f (next ticket)
  | release value next => .release value (andThen f next)

/-- Reports events one after another. -/
def reportAll : List Event → Work V → Work V
  | [], w => w
  | e :: es, w => .report e (reportAll es w)

theorem andThen_done (w : Work V) : w.andThen done = w := by
  induction w with
  | done | panic => rfl
  | count _ ih | report _ _ ih | log _ _ ih | release _ _ ih => simp only [andThen, ih]
  | send _ _ ih => simp only [andThen, ih]
  | spawn _ _ _ _ ih => simp only [andThen, ih]

end Work

/-- What starting a call does: it may count an execution, report an event or panic before it hands
out the work. -/
inductive Launch (V : Type) where
  | ready (work : Work V)
  | panic (payload : Payload)
  | count (next : Launch V)
  | report (event : Event) (next : Launch V)

namespace Launch
variable {V : Type}

/-- Starts a call and goes on with its work. -/
def andThen (f : Work V → Work V) : Launch V → Work V
  | ready work => f work
  | panic payload => .panic payload
  | count next => .count (andThen f next)
  | report event next => .report event (andThen f next)

/-- Starts a call and does its work. -/
def perform (l : Launch V) : Work V := l.andThen id

end Launch
end Endpoint
