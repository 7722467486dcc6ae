import BenchmarkOrchestration.Document.Reader
import BenchmarkOrchestration.Proofs.Document.LegacyReading
import BenchmarkOrchestration.Proofs.Document.SimplifiedReading

namespace BenchmarkOrchestration

/-!
# Documents populate configurations

A document is turned into a configuration by adding builds and items to an empty one.  Whatever is
read from a document therefore has a history, and with it distinct directories and, in every build,
distinct names of items.
-/

namespace Configuration

/-- The configuration is the result of a history that began with an empty one. -/
def Populated
    (config : Configuration) :
    Prop :=
  ∃ schema history, config = (empty schema).performAll history

namespace Populated

variable {config : Configuration}

/-- A populated configuration records some registrations and additions. -/
theorem exists_records
    (populated : config.Populated) :
    ∃ registered added, Records config registered added := by
  obtain ⟨schema, history, rfl⟩ := populated
  exact ⟨_, _, (records_empty schema).performAll history⟩

/-- No directory has two builds. -/
theorem directories_nodup
    (populated : config.Populated) :
    config.directories.Nodup := by
  obtain ⟨registered, added, records⟩ := populated.exists_records
  exact records.distinct

/-- No build has two items of one name. -/
theorem names_nodup
    (populated : config.Populated)
    {build : Build}
    (member : build ∈ config.builds) :
    (build.items.map Item.name).Nodup := by
  obtain ⟨registered, added, records⟩ := populated.exists_records
  exact records.mirrors.namesDistinct build member

/-- Looking up an item by its directory and its name finds this very item. -/
theorem item_eq_ok
    (populated : config.Populated)
    {build : Build}
    (buildMember : build ∈ config.builds)
    {item : Item}
    (itemMember : item ∈ build.items) :
    config.item build.directory item.name = .ok item := by
  obtain ⟨registered, added, records⟩ := populated.exists_records
  rw [records.item_eq_ok_iff]
  rw [records.items_of_mem buildMember] at itemMember
  exact ⟨mem_itemsIn.mp itemMember, rfl⟩

end Populated

end Configuration

namespace Document

/-- A document of the legacy schema populates its configuration. -/
theorem Legacy.populated_configuration
    {tree : Json.Value}
    {result : Configuration}
    (accepted : configuration tree = .ok result) :
    result.Populated := by
  obtain ⟨_, _, _, _, _, _, performed⟩ := configuration_eq_ok_iff.mp accepted
  exact ⟨_, _, Configuration.eq_performAll_of_performUntilRefused performed⟩

/-- A document of the simplified schema populates its configuration. -/
theorem Simplified.populated_configuration
    {home : String}
    {tree : Json.Value}
    {result : Configuration}
    (accepted : configuration home tree = .ok result) :
    result.Populated := by
  obtain ⟨_, _, _, _, performed⟩ := configuration_eq_ok_iff.mp accepted
  exact ⟨_, _, Configuration.eq_performAll_of_performUntilRefused performed⟩

/-- In whatever mode a document is accepted, the reader of some schema accepts it. -/
theorem exists_readAs_of_read
    {mode : ReadingMode}
    {home : String}
    {tree : Json.Value}
    {config : Configuration}
    (accepted : read mode home tree = .ok config) :
    ∃ schema, readAs schema home tree = .ok config := by
  cases mode with
  | fixed schema =>
      exact ⟨schema, accepted⟩
  | detect =>
      obtain ⟨schema, _, acceptedAs⟩ := bind_eq_ok_iff.mp accepted
      exact ⟨schema, acceptedAs⟩

/-- Every document that is accepted, in whatever mode, populates its configuration. -/
theorem populated_of_read
    {mode : ReadingMode}
    {home : String}
    {tree : Json.Value}
    {config : Configuration}
    (accepted : read mode home tree = .ok config) :
    config.Populated := by
  obtain ⟨schema, acceptedAs⟩ := exists_readAs_of_read accepted
  cases schema with
  | legacy =>
      exact Legacy.populated_configuration acceptedAs
  | simplified =>
      exact Simplified.populated_configuration acceptedAs

end Document

end BenchmarkOrchestration
