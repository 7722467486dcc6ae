import BenchmarkOrchestration.Proofs.Model.Builds
import BenchmarkOrchestration.Proofs.Model.FirstSeen

namespace BenchmarkOrchestration

/-!
# Summaries of flavors

A configuration summarizes its flavors as a whole and for every build.  A summary has every flavor
once, at the place of its first declaration, and the summary of the whole can be made from the
declarations of all items, from the targets, or from the summaries of the builds.
-/

namespace Build

/-- The flavors of a build are summarized: each that an item declares, once and in order. -/
structure SummarizedBy
    (build : Build)
    (flavors : List String) :
    Prop where
  once : flavors.Nodup
  listed_iff : ∀ flavor, flavor ∈ flavors ↔ ∃ item ∈ build.items, flavor ∈ item.flavors
  inOrder : flavors = (build.items.flatMap Item.flavors).eraseDups

/-- Leaving out repetitions in all declarations of a build summarizes its flavors. -/
theorem summarizedBy_firstSeen
    (build : Build) :
    build.SummarizedBy (firstSeen (build.items.flatMap Item.flavors)) where
  once := nodup_firstSeen _
  listed_iff flavor := by rw [mem_firstSeen, List.mem_flatMap]
  inOrder := firstSeen_eq_eraseDups _

end Build

namespace Configuration

/--
The flavors of a configuration are summarized: as a whole from the targets and from the builds, and
for every build from its items.
-/
structure SummarizesFlavors
    (config : Configuration) :
    Prop where
  once : config.allFlavors.Nodup
  listed_iff :
    ∀ flavor,
      flavor ∈ config.allFlavors ↔ ∃ target ∈ config.targets, target.flavor = flavor
  fromBuilds :
    ∃ summaries,
      List.Forall₂ (fun directory flavors => config.buildFlavors directory = .ok flavors)
          config.directories summaries ∧
        config.allFlavors = summaries.flatten.eraseDups
  ofBuild :
    ∀ build ∈ config.builds,
      ∃ flavors,
        config.buildFlavors build.directory = .ok flavors ∧ build.SummarizedBy flavors

/-- The flavors of the targets are those that the items declare, in the same order. -/
theorem map_flavor_targets
    (config : Configuration) :
    config.targets.map Target.flavor =
      config.builds.flatMap fun build => build.items.flatMap Item.flavors := by
  simp only [targets, List.map_flatMap, List.map_map]
  refine List.flatMap_congr fun build _ => List.flatMap_congr fun item _ => ?_
  exact List.map_id item.flavors

/-- With distinct directories, every build has the summary of its own flavors. -/
theorem buildFlavors_directory
    {config : Configuration}
    (distinct : config.directories.Nodup)
    {build : Build}
    (member : build ∈ config.builds) :
    config.buildFlavors build.directory = .ok (firstSeen (build.items.flatMap Item.flavors)) := by
  rw [buildFlavors, Configuration.build, build?_directory distinct member]
  rfl

/-- All flavors are what is seen first in the summaries of the builds. -/
theorem allFlavors_eq_eraseDups_summaries
    (config : Configuration) :
    config.allFlavors =
      (config.builds.flatMap fun build =>
        firstSeen (build.items.flatMap Item.flavors)).eraseDups := by
  rw [← firstSeen_eq_eraseDups]
  exact
    (firstSeen_append_flatMap_firstSeen (fun build => build.items.flatMap Item.flavors)
      config.builds []).symm

/--
With distinct build directories, all flavors and those of every build are summarized alike: leaving
out repetitions build by build, and then once more, is leaving them out once.
-/
theorem summarizesFlavors_of_nodup
    {config : Configuration}
    (distinct : config.directories.Nodup) :
    config.SummarizesFlavors where
  once := nodup_firstSeen _
  listed_iff flavor := by
    rw [allFlavors, mem_firstSeen, ← map_flavor_targets, List.mem_map]
  fromBuilds := by
    refine
      ⟨config.builds.map fun build => firstSeen (build.items.flatMap Item.flavors), ?_, ?_⟩
    · rw [directories, List.forall₂_map_left_iff, List.forall₂_map_right_iff, List.forall₂_same]
      intro build member
      exact buildFlavors_directory distinct member
    · rw [← List.flatMap_def]
      exact config.allFlavors_eq_eraseDups_summaries
  ofBuild build member :=
    ⟨_, buildFlavors_directory distinct member, build.summarizedBy_firstSeen⟩

/-- Two builds that share a flavor, which one of the items declares twice. -/
def sharedFlavorConfiguration : Configuration :=
  let item (name : String) (flavors : List String) : Item :=
    { Item.plain name (.uniform "/f") (.mapped (.empty .linear)) with flavors }
  let first : Build := ⟨"/a", none, [item "x" ["ct", "rt", "ct"], item "y" ["gcc", "rt"]]⟩
  let second : Build := ⟨"/b", none, [item "x" ["gcc", "clang", "ct"]]⟩
  ⟨.simplified, [first, second], [], .empty⟩

/-- The shared flavors stand at their places in the first build. -/
theorem summarizesFlavors_of_nodup_sharedFlavors :
    sharedFlavorConfiguration.directories.Nodup ∧
      sharedFlavorConfiguration.SummarizesFlavors ∧
      sharedFlavorConfiguration.buildFlavors "/a" = .ok ["ct", "rt", "gcc"] ∧
      sharedFlavorConfiguration.buildFlavors "/b" = .ok ["gcc", "clang", "ct"] ∧
      sharedFlavorConfiguration.allFlavors = ["ct", "rt", "gcc", "clang"] := by
  have distinct : sharedFlavorConfiguration.directories.Nodup := by decide
  exact
    ⟨distinct, summarizesFlavors_of_nodup distinct, by decide +kernel, by decide +kernel,
      by decide +kernel⟩

end Configuration

end BenchmarkOrchestration
