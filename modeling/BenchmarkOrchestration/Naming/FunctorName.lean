import BenchmarkOrchestration.Text.Affix

namespace BenchmarkOrchestration

/-!
# Functor names

A functor is a program that performs one step for one benchmark in one flavor.  Its file name is
put together from these.  Names of functors that a database addresses begin with a slash and join
benchmark and flavor directly.
-/

/-- The step that a functor performs. -/
inductive FunctorRole where
  | build
  | clean
  | analyze
  | run
  deriving Repr, DecidableEq

namespace FunctorRole

/-- The word for the role. -/
def name : FunctorRole → String
  | .build => "build"
  | .clean => "clean"
  | .analyze => "analyze"
  | .run => "run"

end FunctorRole

/-- What determines the file name of a functor. -/
structure FunctorName where
  role : FunctorRole
  forDatabase : Bool
  uninstrumented : Bool
  benchmark : String
  flavor : String
  deriving Repr, DecidableEq

namespace FunctorName

/-- The name of a functor in a directory, for the instrumented variant. -/
def plain
    (role : FunctorRole)
    (benchmark flavor : String) :
    FunctorName :=
  ⟨role, false, false, benchmark, flavor⟩

/-- Benchmark and flavor with an underscore between them. -/
def spaced
    (name : FunctorName) :
    String :=
  name.benchmark ++ "_" ++ name.flavor

/-- Benchmark and flavor with nothing between them. -/
def joined
    (name : FunctorName) :
    String :=
  name.benchmark ++ name.flavor

/--
The file name of a functor.  Only build functors have an uninstrumented variant, and only outside
a database; clean functors have one form for both uses.
-/
def fileName
    (name : FunctorName) :
    String :=
  match name.role with
  | .build =>
      if name.forDatabase then "/" ++ name.joined
      else if name.uninstrumented then "no_instr_" ++ name.spaced
      else name.spaced
  | .clean =>
      "clean_" ++ name.spaced
  | .analyze =>
      if name.forDatabase then "/analyse_" ++ name.joined
      else "analyse_" ++ name.spaced
  | .run =>
      if name.forDatabase then "/runner_" ++ name.joined
      else "runner_" ++ name.spaced

/-- The file name below a search directory: slashes at its start are dropped. -/
def relativeFileName
    (name : FunctorName) :
    String :=
  String.ofList (name.fileName.toList.dropWhile (· = '/'))

end FunctorName

/-- The benchmark that the key of an item names: the part after its last slash. -/
def benchmarkOfKey
    (key : String) :
    String :=
  (splitText '/' key).getLastD ""

end BenchmarkOrchestration
