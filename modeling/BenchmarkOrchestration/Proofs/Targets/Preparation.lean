import BenchmarkOrchestration.Orchestration.Analysis
import BenchmarkOrchestration.Proofs.Document.Population
import BenchmarkOrchestration.Proofs.Orchestration.Meetings
import BenchmarkOrchestration.Proofs.Text.Separation
import BenchmarkOrchestration.Targets.ExecutionTarget

namespace BenchmarkOrchestration

/-!
# Preparing targets

Targets are prepared again for every phase, with identities from one source.  The numbers of a
source go on where the last preparation stopped, so that no identity is given twice.  What a target
carries is taken from its item directly; in a configuration that was read from a document this is
the item that a look-up by the names of the target finds.
-/

namespace Identity

/-- The identity of a number. -/
def ofNumber
    (number : Nat) :
    String :=
  s!"item-{number}"

/-- While the count does not overflow, the next number is the one after it. -/
theorem numbered_eq
    {drawn : UInt64}
    (fits : drawn.toNat + 1 < UInt64.size) :
    numbered drawn = (ofNumber (drawn.toNat + 1), drawn + 1) ∧
      (drawn + 1).toNat = drawn.toNat + 1 := by
  have counted : (drawn + 1).toNat = drawn.toNat + 1 := by
    rw [UInt64.toNat_add]
    exact Nat.mod_eq_of_lt fits
  constructor
  · have shown : toString (drawn + 1) = toString (drawn.toNat + 1) :=
      congrArg toString counted
    rw [numbered, ofNumber, shown]
  · exact counted

/-- Identities have the numbers that follow a count, and the count goes on behind the last one. -/
structure NumberedFrom
    (drawn : UInt64)
    (identities : List String)
    (after : UInt64) :
    Prop where
  consecutive :
    identities = (List.range' (drawn.toNat + 1) identities.length).map ofNumber
  counted : after.toNat = drawn.toNat + identities.length

namespace NumberedFrom

variable
  {drawn between after : UInt64}
  {identities others : List String}

theorem nil
    (drawn : UInt64) :
    NumberedFrom drawn [] drawn :=
  ⟨rfl, rfl⟩

/-- An identity that is drawn has the first number. -/
theorem singleton
    (fits : drawn.toNat + 1 < UInt64.size) :
    NumberedFrom drawn [(numbered drawn).1] (numbered drawn).2 := by
  obtain ⟨draws, counted⟩ := numbered_eq fits
  rw [draws]
  exact ⟨rfl, counted⟩

/-- Later identities have the numbers behind the earlier ones. -/
theorem append
    (earlier : NumberedFrom drawn identities between)
    (later : NumberedFrom between others after) :
    NumberedFrom drawn (identities ++ others) after := by
  have start : drawn.toNat + 1 + 1 * identities.length = between.toNat + 1 := by
    have counted := earlier.counted
    omega
  constructor
  · rw [List.length_append, ← List.range'_append, List.map_append, start,
      ← earlier.consecutive, ← later.consecutive]
  · rw [later.counted, earlier.counted, List.length_append, Nat.add_assoc]

end NumberedFrom

end Identity

namespace Configuration

/-- The target of an occurrence of an item in one of its flavors. -/
def occurrenceTarget :
    String × Item × String → Target
  | (directory, item, flavor) => ⟨directory, item.name, flavor⟩

/-- Targets and occurrences are listed in the same order. -/
theorem targets_eq
    (config : Configuration) :
    config.targets = config.occurrences.map occurrenceTarget := by
  simp only [targets, occurrences, List.map_flatMap, List.map_map]
  rfl

section

variable
  (draw : IdentitySource σ)
  (filtersAtCompileTime : Bool)

/-- Drawing identities keeps the targets in the order of their occurrences. -/
theorem map_target_drawTargets
    (occurrences : List (String × Item × String))
    (source : σ) :
    (drawTargets draw filtersAtCompileTime occurrences source).1.map ExecutionTarget.target =
      occurrences.map occurrenceTarget := by
  induction occurrences generalizing source with
  | nil =>
      rfl
  | cons first rest inductionHypothesis =>
      exact congrArg (List.cons _) (inductionHypothesis (draw source).2)

end

/-- One preparation lists the targets in the order of the configuration. -/
theorem map_target_executionTargets
    (draw : IdentitySource σ)
    (filtersAtCompileTime : Bool)
    (config : Configuration)
    (source : σ) :
    (config.executionTargets draw filtersAtCompileTime source).1.map ExecutionTarget.target =
      config.targets := by
  rw [executionTargets, map_target_drawTargets, targets_eq]

namespace Populated

variable
  {config : Configuration}
  (populated : config.Populated)

include populated

/-- A placed item is found again by its directory and its name. -/
theorem item_eq_ok_of_placed
    {directory : String}
    {item : Item}
    (member : (directory, item) ∈ config.placedItems) :
    config.item directory item.name = .ok item := by
  obtain ⟨build, buildMember, rfl, itemMember⟩ := mem_placedItems.mp member
  exact populated.item_eq_ok buildMember itemMember

end Populated

/-!
## Distinct identities
-/

/-- One item of two sizes, which declares one of its flavors twice. -/
def repeatingDocument : Json.Value :=
  .object
    [ ("directories", .object []),
      ("builds", .object
        [ ("/b", .object
            [("items", .object
              [("k", .object
                [ ("functors", .text "/f"),
                  ("argmap", .object
                    [("mapper", .text "Linear"), ("size", .array [.text "1", .text "2"])]),
                  ("analyzer", .text "/a"),
                  ("cubes", .text "/c"),
                  ("flavors", .array [.text "ct", .text "vanilla", .text "ct"]) ])])]) ]) ]

/-- The configuration of the document, where the flavors are listed as they were given. -/
def repeatingConfiguration : Configuration :=
  let sizes : ArgumentMapping :=
    ⟨.linear, [⟨"size", [.text "1", .text "2"]⟩], none, fun _ =>
      ArgumentMapping.rectangular_of_mismatch?_eq_none rfl⟩
  let item : Item :=
    { Item.plain "k" (.uniform "/f") (.mapped sizes) with
      analyzerDirectory := "/a"
      profileDirectory := "/c"
      flavors := ["ct", "vanilla", "ct"] }
  ⟨.simplified, [⟨"/b", none, [item]⟩], [], .empty⟩

end Configuration

end BenchmarkOrchestration
