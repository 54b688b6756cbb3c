/-!
Spans of time: a number of seconds that fits sixty-four bits, and a part of a second in
nanoseconds.
-/
namespace Endpoint

def nanosPerSecond : Nat := 1000000000

/-- A span of time in nanoseconds. -/
structure Duration where
  nanos : Nat
  bounded : nanos < UInt64.size * nanosPerSecond
deriving DecidableEq

namespace Duration

/-- So many seconds. -/
def ofSeconds (n : UInt64) : Duration :=
  ⟨n.toNat * nanosPerSecond, Nat.mul_lt_mul_of_pos_right n.toNat_lt_size (by decide)⟩

def ofMillis (n : UInt64) : Duration :=
  ⟨n.toNat * 1000000, by have := n.toNat_lt_size; unfold nanosPerSecond; omega⟩

def seconds (d : Duration) : UInt64 := UInt64.ofNat (d.nanos / nanosPerSecond)

def millis (d : Duration) : Nat := d.nanos / 1000000

end Duration
end Endpoint
