import Endpoint.World

/-!
Dispatching work onto the pool. The result of dispatched work comes back as a future, through a
callback, or to a caller that blocks; a panic in it comes back as an error. Starting a call happens
where it is dispatched, before the pool has anything to guard, so a panic in the start of a call
reaches the one who dispatches it.
-/
namespace Endpoint.Bridge

/-- Puts work on the pool and ends in its future. -/
def submit (work : Task) : Task := .spawn work .future fun ticket => .ok (.future ticket)

/-- Puts work on the pool, for a callback. -/
def enqueueTask (work : Task) (callback : Nat) : Task :=
  .spawn work (.callback callback) fun _ => .ok .unit

/-- Starts a call, puts it on the pool and ends in its future. -/
def execute (call : Call) : Task := .report .dispatching (call.andThen submit)

/-- Starts a call and puts it on the pool, for a callback. -/
def enqueue (call : Call) (callback : Nat) : Task :=
  .report .enqueueing (call.andThen fun work => enqueueTask work callback)

/-- Waits for a future. Inside an asynchronous context nothing may block, and the future is let
go. -/
def wait (inAsync : Bool) (ticket : Nat) (w : World) : Except Error Value × World :=
  if inAsync then (.error (.execution .wouldBlock), w.release ticket)
  else
    let w := w.settle
    (w.await ticket, w)

/-- Puts work on the pool and waits for it. Inside an asynchronous context the work is never
done. -/
def blockOn (inAsync : Bool) (work : Task) (w : World) : Except Error Value × World :=
  if inAsync then (.error (.execution .wouldBlock), w)
  else
    let (ticket, w) := (w.nextTicket, w.spawn work .future)
    wait false ticket w

/-- Starts a call, which happens before anything else, and blocks on its work. A panic in the start
reaches the caller. -/
def block (inAsync : Bool) : Call → World → Except Payload (Except Error Value) × World
  | .ready work, w =>
    let (r, w) := blockOn inAsync work w
    (.ok r, w)
  | .panic payload, w => (.error payload, w)
  | .count next, w => block inAsync next w.count
  | .report event next, w => block inAsync next (w.report event)

/-- The error of asking for the surrounding pool where there is none. -/
def noPool : Error := .configuration .noRuntime

end Endpoint.Bridge
