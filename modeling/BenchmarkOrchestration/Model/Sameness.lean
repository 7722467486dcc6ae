import BenchmarkOrchestration.Model.Configuration

namespace BenchmarkOrchestration

/-!
# Equal configurations

Two configurations are equal when they have the same builds, items and tables.  The values of
arguments are compared as data: numbers by value, and objects without regard to the order of their
fields.
-/

namespace ArgumentMapping

/-- Whether two mappings have the same mode, parameters and file names. -/
def sameMapping
    (first second : ArgumentMapping) :
    Bool :=
  let sameParameter := fun (p q : Parameter) =>
    p.name = q.name && Json.Value.sameElements p.values q.values
  first.mode = second.mode && first.fileNames = second.fileNames &&
    first.parameters.length = second.parameters.length &&
    (first.parameters.zip second.parameters).all fun (p, q) => sameParameter p q

end ArgumentMapping

namespace RunArguments

/-- Whether two arguments of runs are the same. -/
def sameArguments : RunArguments → RunArguments → Bool
  | .mapped first, .mapped second => first.sameMapping second
  | .listed first, .listed second => Json.Value.sameElements first second
  | _, _ => false

end RunArguments

namespace Item

/-- Whether two items are the same. -/
def sameItem
    (first second : Item) :
    Bool :=
  first.arguments.sameArguments second.arguments &&
    decide ({ first with arguments := .listed [] } = { second with arguments := .listed [] })

end Item

namespace Build

/-- Whether two builds have the same directory, label and items. -/
def sameBuild
    (first second : Build) :
    Bool :=
  first.directory = second.directory && first.label = second.label &&
    first.items.length = second.items.length &&
    (first.items.zip second.items).all fun (x, y) => x.sameItem y

end Build

namespace Configuration

/-- Whether two configurations are the same. -/
def sameModel
    (first second : Configuration) :
    Bool :=
  first.builds.length = second.builds.length &&
    (first.builds.zip second.builds).all (fun (x, y) => x.sameBuild y) &&
    decide ({ first with builds := [] } = { second with builds := [] })

end Configuration

end BenchmarkOrchestration
