namespace BenchmarkOrchestration

/-!
# Phases

A run is either a plain one or a run with instrumentation, and in the latter case may belong to an
iteration of the refinement.
-/

/-- Whether a run is instrumented, and in which iteration. -/
structure Phase where
  isInstrumented : Bool
  iteration : Option Nat
  deriving Repr, DecidableEq

namespace Phase

/-- A run without instrumentation. -/
def plain : Phase :=
  ⟨false, none⟩

/-- The instrumented run of an iteration. -/
def instrumented
    (iteration : Nat) :
    Phase :=
  ⟨true, some iteration⟩

/-- The iteration whose profile is analyzed: plain runs have none. -/
def profiledIteration
    (phase : Phase) :
    Option Nat :=
  if phase.isInstrumented then phase.iteration else none

end Phase

end BenchmarkOrchestration
