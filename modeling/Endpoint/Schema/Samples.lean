import Endpoint.Schema

/-!
Schemas of a small shop, for examples.
-/
namespace Endpoint.Schema.Samples

def user : Schema := .record "User" (.cons "id" .nat64 (.cons "name" .text .nil))

/-- What somebody orders. -/
def order : Schema :=
  .record "Order"
    (.cons "id" .nat64
      (.cons "sku" .text
        (.cons "quantity" .nat32
          (.cons "notes" (.option .text) (.cons "tags" (.list .text) .nil)))))

/-- Something that cannot be written. -/
def broken : Schema := .refusing "broken on purpose"

/-- How far an order has come: an enumeration, which the other schemas have no code for. -/
def stage : Codec where
  name := "Stage"
  read
    | .text "placed" => .ok [0]
    | .text "shipped" => .ok [1]
    | _ => .error "unknown variant, expected `placed` or `shipped`"
  write
    | [0] => .ok (.text "placed")
    | [1] => .ok (.text "shipped")
    | _ => .error "no stage"
  proper x j h := by
    split at h <;> cases h <;> exact .text _

/-- Schemas by their names. -/
def named : List (String × Schema) := [
  ("User", user),
  ("Order", order),
  ("Broken", broken),
  ("u8", .nat8),
  ("i64", .int64),
  ("u64", .nat64),
  ("f64", .double),
  ("bool", .flag),
  ("VecU8", .list .nat8),
  ("Strings", .list .text),
  ("OptString", .option .text),
  ("IntMap", .table .int64)]

end Endpoint.Schema.Samples
