import BenchmarkOrchestration.Orchestration.RunMatrix
import BenchmarkOrchestration.Proofs.Model.FirstSeen

namespace BenchmarkOrchestration

/-!
# Meetings of flavors and items

The same item may occur in several places, and a flavor may be declared there again and again.  The
cells of the run matrix are described by places instead of values: a flavor meets an occurrence of
an item if the item declares it, and the cells list every such meeting once, in the order of first
declarations and then of places.
-/

namespace Configuration

/-- The items of all builds in order, each with the directory of its build. -/
def placedItems
    (config : Configuration) :
    List (String × Item) :=
  config.builds.flatMap fun build => build.items.map fun item => (build.directory, item)

/-- An item is placed in the directory of every build that has it. -/
theorem mem_placedItems
    {config : Configuration}
    {directory : String}
    {item : Item} :
    (directory, item) ∈ config.placedItems ↔
      ∃ build ∈ config.builds, build.directory = directory ∧ item ∈ build.items := by
  simp only [placedItems, List.mem_flatMap, List.mem_map, Prod.mk.injEq]
  constructor
  · rintro ⟨build, buildMember, _, itemMember, sameDirectory, rfl⟩
    exact ⟨build, buildMember, sameDirectory, itemMember⟩
  · rintro ⟨build, buildMember, sameDirectory, itemMember⟩
    exact ⟨build, buildMember, item, itemMember, sameDirectory, rfl⟩

/-- All declarations of flavors in order, with repetitions. -/
def declaredFlavors
    (config : Configuration) :
    List String :=
  config.placedItems.flatMap fun occurrence => occurrence.2.flavors

/-- All flavors are the declared ones without repetitions. -/
theorem allFlavors_eq
    (config : Configuration) :
    config.allFlavors = firstSeen config.declaredFlavors := by
  simp [allFlavors, declaredFlavors, placedItems, List.flatMap_assoc, List.flatMap_map]

end Configuration

namespace RunMatrix

namespace Meeting

end Meeting

/-- The cells are those of the occurrences that declare a flavor, flavor after flavor. -/
theorem cells_eq
    (config : Configuration) :
    cells config =
      config.allFlavors.flatMap fun flavor =>
        (config.placedItems.filter fun occurrence => occurrence.2.declaresFlavor flavor).map
          (Prod.mk flavor) := by
  rw [cells]
  refine List.flatMap_congr fun flavor _ => ?_
  rw [Configuration.placedItems, List.filter_flatMap, List.map_flatMap]
  refine List.flatMap_congr fun build _ => ?_
  rw [List.filter_map, List.map_map]
  rfl

end RunMatrix

end BenchmarkOrchestration
