import Endpoint.World

/-!
Taking values to their end. A future, a single and a stream stand for work; `drive` waits for it or
does it, and goes on with what comes out, until there is nothing left to wait for. At each of them
it notes how many executions there had been after every task had finished and before this value was
asked for.
-/
namespace Endpoint

/-- A value with everything that was under way brought to its end. -/
inductive Delivered where
  | value (v : Value)
  | future (executions : Nat) (result : Except Error Delivered)
  | single (executions : Nat) (result : Except Error Delivered)
  | stream (executions : Nat) (items : List (Except Error Delivered))

/-- What a stream yields of the result of its work: the elements of a sequence, or one error. -/
def streamItems : Except Error Value → List (Except Error Value)
  | .ok (.list items) => items.map .ok
  | .ok _ => [.error (.mismatch "Vec<Value>")]
  | .error e => [.error e]

/-- A computation on the world that a panic can end. -/
abbrev Driven (α : Type) := World → Except Payload α × World

/-- Takes every element of a list to its end. -/
def driveAll {α β : Type} (f : α → Driven β) : List α → Driven (List β)
  | [], w => (.ok [], w)
  | x :: xs, w =>
    match f x w with
    | (.error p, w) => (.error p, w)
    | (.ok y, w) => match driveAll f xs w with
      | (.error p, w) => (.error p, w)
      | (.ok ys, w) => (.ok (y :: ys), w)

/-- Takes a result to its end, given how to take a value. -/
def driveResult (f : Value → Driven Delivered) (r : Except Error Value) :
    Driven (Except Error Delivered) := fun w =>
  match r with
  | .error e => (.ok (.error e), w)
  | .ok v => match f v w with
    | (.error p, w) => (.error p, w)
    | (.ok d, w) => (.ok (.ok d), w)

/-- Takes a value to its end; the fuel bounds how many values are under way inside one another. -/
def drive : Nat → Value → Driven Delivered
  | 0, v, w => (.ok (.value v), w)
  | fuel + 1, v, w =>
    match v with
    | .future ticket =>
      let w := w.settle
      match driveResult (drive fuel) (w.await ticket) w with
      | (.error p, w') => (.error p, w')
      | (.ok r, w') => (.ok (.future w.executions r), w')
    | .single work =>
      let w := w.settle
      match work.run w with
      | (.panic p, w') => (.error p, w')
      | (.result r, w') => match driveResult (drive fuel) r w' with
        | (.error p, w'') => (.error p, w'')
        | (.ok r, w'') => (.ok (.single w.executions r), w'')
    | .stream work =>
      let w := w.settle
      match work.run w with
      | (.panic p, w') => (.error p, w')
      | (.result r, w') =>
        match driveAll (driveResult (drive fuel)) (streamItems r) (w'.abandon r) with
        | (.error p, w'') => (.error p, w'')
        | (.ok items, w'') => (.ok (.stream w.executions items), w'')
    | v => (.ok (.value v), w)

/-- How deep values can be under way inside one another. -/
def driveDepth : Nat := World.layers

def deliver (r : Except Error Value) : Driven (Except Error Delivered) :=
  driveResult (drive driveDepth) r

/-- Takes the outcomes that callbacks got from the given one on to their ends, those that come up on
the way too; the fuel bounds their number. -/
def deliverOutcomes : Nat → Nat → Driven (List (Except Error Delivered))
  | 0, _, w => (.ok [], w)
  | fuel + 1, start, w =>
    let w := w.settle
    match w.delivered[start]? with
    | none => (.ok [], w)
    | some (_, r) => match deliver r w with
      | (.error p, w) => (.error p, w)
      | (.ok d, w) => match deliverOutcomes fuel (start + 1) w with
        | (.error p, w) => (.error p, w)
        | (.ok ds, w) => (.ok (d :: ds), w)

end Endpoint
