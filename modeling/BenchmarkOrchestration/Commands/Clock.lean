namespace BenchmarkOrchestration

/-!
# Clocks

A clock is the list of its next readings in milliseconds.  Every reading takes one of them; the
last one is repeated, and a clock without readings always shows zero.
-/

/-- The readings that a clock will give. -/
structure Clock where
  readings : List Int64
  deriving Repr, DecidableEq

namespace Clock

/-- Read the clock. -/
def read
    (clock : Clock) :
    Int64 × Clock :=
  match clock.readings with
  | [] => (0, clock)
  | [last] => (last, clock)
  | next :: rest => (next, ⟨rest⟩)

end Clock

end BenchmarkOrchestration
