import BenchmarkOrchestration.Model.Configuration

namespace BenchmarkOrchestration

/-!
# Asking a configuration

Builds are looked up by the text of their directory and items by name inside a build.  Whatever a
configuration does not hold is a fault and never a default.
-/

namespace Configuration

/-- The directories of the builds. -/
def directories
    (config : Configuration) :
    List String :=
  config.builds.map Build.directory

/-- The build of a directory. -/
def build
    (config : Configuration)
    (directory : String) :
    Except LookupFault Build :=
  match config.build? directory with
  | some build => .ok build
  | none => .error (.unknownBuild directory)

/-- The item of a name in the build of a directory. -/
def item
    (config : Configuration)
    (directory name : String) :
    Except LookupFault Item := do
  let build ← config.build directory
  match build.items.find? fun item => item.name = name with
  | some item => .ok item
  | none => .error (.unknownItem directory name)

/-- The names of the items of a build. -/
def itemNames
    (config : Configuration)
    (directory : String) :
    Except LookupFault (List String) := do
  return (← config.build directory).items.map Item.name

/-- The label of a build, which only the legacy schema gives. -/
def label
    (config : Configuration)
    (directory : String) :
    Except LookupFault (Option String) := do
  return (← config.build directory).label

/-- The flavors of the items of a build, each at its first place. -/
def buildFlavors
    (config : Configuration)
    (directory : String) :
    Except LookupFault (List String) := do
  return firstSeen ((← config.build directory).items.flatMap Item.flavors)

/-- The invocation arguments of an item. -/
def arguments
    (config : Configuration)
    (directory name : String) :
    Except LookupFault (List String) := do
  return (← config.item directory name).arguments.asList

/-- The invocation arguments of an item as a build of the program lists them. -/
def expandedArguments
    (overflow : Overflow)
    (config : Configuration)
    (directory name : String) :
    Except LookupFault (Except ExpansionPanic (List String)) := do
  return (← config.item directory name).arguments.expand overflow

/-- The submitter of a flavor for the whole document. -/
def globalSubmitter?
    (config : Configuration)
    (flavor : String) :
    Option String :=
  config.globalSubmitters.get? flavor

end Configuration

namespace Item

/-- Whether the item declares any flavor. -/
def hasLocalFlavors
    (item : Item) :
    Bool :=
  !item.flavors.isEmpty

/-- The analysis functor of the item; without one of its own, where its analyzers are found. -/
def analysisFunctorOrDirectory
    (item : Item) :
    String :=
  item.analysisFunctor.getD item.functors.analyze

/-- The functor that submits the analysis as a batch job. -/
def slurmAnalysis
    (item : Item) :
    Except LookupFault String :=
  match item.slurmFunctor with
  | some functor => .ok functor
  | none => .error (.missingEntry item.name "slurm analysis functor")

/-- Whether the item has a submitter with a name. -/
def isSubmitted
    (item : Item) :
    Bool :=
  match item.submitter with
  | some submitter => submitter ≠ ""
  | none => false

end Item

end BenchmarkOrchestration
