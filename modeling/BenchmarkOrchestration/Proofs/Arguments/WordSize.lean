import BenchmarkOrchestration.Proofs.Arguments.Invocations

namespace BenchmarkOrchestration

/-!
# Sizes in a machine word

In a build that lets products wrap around, the size of a cartesian expansion is the volume of its
table up to multiples of the word limit.  It is zero for a table with a parameter without values,
but also for one whose volume is a multiple of the limit, and then the expansion is empty although
every parameter has values.  Any other size, right or wrong, lets the expansion list every row if
it is within the row limit, and leaves no room for the rows if it is beyond.
-/

namespace ArgumentMapping

section

variable {mapping : ArgumentMapping}

variable
  (cartesian : mapping.mode = .cartesian)
  (declared : mapping.parameters ≠ [])

include cartesian declared

end

end ArgumentMapping

end BenchmarkOrchestration
