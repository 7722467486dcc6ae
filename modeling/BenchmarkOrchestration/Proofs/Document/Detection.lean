import BenchmarkOrchestration.Proofs.Arguments.Creation
import BenchmarkOrchestration.Proofs.Document.Population

namespace BenchmarkOrchestration.Document

/-!
# Reading by the schema that a document shows

Whoever reads by the schema that a document shows gets what the reader of that schema gives.  No
document that the legacy reader accepts is missed, and none that the simplified reader accepts
unless it has a description.  That the schema is unknown is never the complaint of either reader, so
it means that the document shows none, and then both of them reject it.
-/

/-- A step does not complain that the schema is unknown. -/
def KnowsSchema
    (step : Except DocumentFault α) :
    Prop :=
  step ≠ .error .unknownSchema

/-- A successful step has no complaint. -/
@[simp] theorem knowsSchema_ok
    (value : α) :
    KnowsSchema (.ok value) := by
  simp [KnowsSchema]

/-- A step that complains about something else does not complain about the schema. -/
@[simp] theorem knowsSchema_error_iff
    {fault : DocumentFault} :
    KnowsSchema (.error fault : Except DocumentFault α) ↔ fault ≠ .unknownSchema := by
  simp [KnowsSchema]

/-- Returning a value is no complaint. -/
@[simp] theorem knowsSchema_pure
    (value : α) :
    KnowsSchema (pure value : Except DocumentFault α) :=
  knowsSchema_ok value

/-- Changing the result changes no complaint. -/
@[simp] theorem knowsSchema_map_iff
    {step : Except DocumentFault α}
    {f : α → β} :
    KnowsSchema (f <$> step) ↔ KnowsSchema step := by
  cases step with
  | error fault =>
      exact knowsSchema_error_iff.trans knowsSchema_error_iff.symm
  | ok value =>
      exact iff_of_true (knowsSchema_ok (f value)) (knowsSchema_ok value)

/-- Steps in a row do not complain about the schema if none that is reached does. -/
@[simp] theorem knowsSchema_bind_iff
    {first : Except DocumentFault α}
    {next : α → Except DocumentFault β} :
    KnowsSchema (first >>= next) ↔
      KnowsSchema first ∧ ∀ value, first = .ok value → KnowsSchema (next value) := by
  cases first with
  | error fault =>
      simp [bind, Except.bind]
  | ok value =>
      simp [bind, Except.bind]

/-- A field is reported missing. -/
@[simp] theorem knowsSchema_field
    (tree : Json.Value)
    (key context : String) :
    KnowsSchema (field tree key context) := by
  rw [field]
  split <;> simp

/-- The text of a field is missing with the field. -/
@[simp] theorem knowsSchema_textField
    (tree : Json.Value)
    (key context : String) :
    KnowsSchema (textField tree key context) := by
  simp [textField]

/-- The texts of a field are missing with the field. -/
@[simp] theorem knowsSchema_textsField
    (tree : Json.Value)
    (key context : String) :
    KnowsSchema (textsField tree key context) := by
  simp [textsField]

/-- A value is reported to be no object. -/
@[simp] theorem knowsSchema_asObject
    (value : Json.Value)
    (key context : String) :
    KnowsSchema (asObject value key context) := by
  rw [asObject]
  split <;> simp

/-- A field that must be an object is missing or no object. -/
@[simp] theorem knowsSchema_objectField
    (tree : Json.Value)
    (key context : String) :
    KnowsSchema (objectField tree key context) := by
  simp [objectField]

/-- An item is refused because there is one of its name. -/
@[simp] theorem knowsSchema_addItem
    (config : Configuration)
    (directory : String)
    (item : Item) :
    KnowsSchema (config.addItem directory item) := by
  rw [Configuration.addItem, Configuration.putItem_eq]
  by_cases present : config.hasItem directory item.name = true
  · simp [present]
  · simp [present]

namespace Legacy

/-- An entry of an analysis record is reported missing. -/
@[simp] theorem knowsSchema_analysisEntry
    (record : List String)
    (key : String)
    (position : Nat) :
    KnowsSchema (analysisEntry record key position) := by
  rw [analysisEntry]
  split <;> simp

/-- An item misses a field or an entry. -/
@[simp] theorem knowsSchema_item
    (tables : Json.Value)
    (key : String) :
    KnowsSchema (item tables key) := by
  simp [item]

/-- Items are incomplete or refused. -/
@[simp] theorem knowsSchema_addItems
    (directory : String)
    (tables : Json.Value)
    (keys : List String)
    (config : Configuration) :
    KnowsSchema (addItems directory tables keys config) := by
  induction keys generalizing config with
  | nil =>
      simp [addItems]
  | cons key rest inductionHypothesis =>
      simp [addItems, inductionHypothesis]

/-- Builds are incomplete or have items that are refused. -/
@[simp] theorem knowsSchema_addBuilds
    (builds : List (String × Json.Value))
    (directories : List String)
    (config : Configuration) :
    KnowsSchema (addBuilds builds directories config) := by
  induction directories generalizing config with
  | nil =>
      simp [addBuilds]
  | cons directory rest inductionHypothesis =>
      simp [addBuilds, inductionHypothesis]

/-- Submitters are missing. -/
@[simp] theorem knowsSchema_addSubmitters
    (submitters : Json.Value)
    (flavors : List String)
    (config : Configuration) :
    KnowsSchema (addSubmitters submitters flavors config) := by
  induction flavors generalizing config with
  | nil =>
      simp [addSubmitters]
  | cons flavor rest inductionHypothesis =>
      simp [addSubmitters, inductionHypothesis]

/-- The reader of the legacy schema does not complain about the schema. -/
theorem knowsSchema_configuration
    (tree : Json.Value) :
    KnowsSchema (configuration tree) := by
  simp [configuration]

/-- A configuration of the legacy reader has the legacy schema, and its document a description. -/
theorem schema_and_description
    {tree : Json.Value}
    {config : Configuration}
    (accepted : configuration tree = .ok config) :
    config.schema = .legacy ∧ ∃ fields, tree.get? "description" = some (.object fields) := by
  obtain ⟨listing, settings, read, has, readSettings, readBuilds, performed⟩ :=
    configuration_eq_ok_iff.mp accepted
  refine ⟨(follows_of_performed performed readBuilds readSettings).schema, ?_⟩
  obtain ⟨description, gives, directories⟩ := map_valueAt?_cons_eq_some_iff.mp has.directories
  rw [valueAt?_singleton] at directories
  cases description with
  | object fields =>
      exact ⟨fields, gives⟩
  | null | boolean _ | number _ | text _ | array _ =>
      cases directories

end Legacy

/-- The parameters that a block lists are missing. -/
@[simp] theorem knowsSchema_listedParameters
    (block : List (String × Json.Value))
    (names : List String) :
    KnowsSchema (listedParameters block names) := by
  induction names with
  | nil =>
      simp [listedParameters]
  | cons name rest inductionHypothesis =>
      rw [listedParameters]
      split <;> simp [inductionHypothesis]

/-- The name of a mode is unknown. -/
@[simp] theorem knowsSchema_ofName?
    (text : String) :
    KnowsSchema (MapperMode.ofName? text) := by
  simp only [MapperMode.ofName?]
  split
  · simp
  · split <;> simp

/-- Parameters differ in length. -/
@[simp] theorem knowsSchema_create
    (mode : MapperMode)
    (parameters : List Parameter) :
    KnowsSchema (ArgumentMapping.create mode parameters) := by
  intro complains
  obtain ⟨_, _, _, _, _, _, _, isMismatch⟩ :=
    ArgumentMapping.namesFirstMismatch_of_create complains
  cases isMismatch

/-- An argument table is incomplete or does not fit its mode. -/
@[simp] theorem knowsSchema_argumentTable
    (table : Json.Value)
    (context : String) :
    KnowsSchema (argumentTable table context) := by
  simp only [argumentTable, knowsSchema_bind_iff, knowsSchema_textField, knowsSchema_ofName?,
    true_and]
  intro name _ mode _
  split <;> simp

namespace Simplified

/-- A build key refers to an unknown name. -/
@[simp] theorem knowsSchema_resolve
    (names : DirectoryNames)
    (key : String) :
    KnowsSchema (names.resolve key) := by
  rw [DirectoryNames.resolve]
  split
  · simp
  · split <;> simp

/-- An item misses a field or has an argument table that is none. -/
@[simp] theorem knowsSchema_item
    (key : String)
    (entry : Json.Value) :
    KnowsSchema (item key entry) := by
  simp [item]

/-- Items are incomplete or refused. -/
@[simp] theorem knowsSchema_addItems
    (directory : String)
    (entries : List (String × Json.Value))
    (config : Configuration) :
    KnowsSchema (addItems directory entries config) := by
  induction entries generalizing config with
  | nil =>
      simp [addItems]
  | cons first rest inductionHypothesis =>
      simp [addItems, inductionHypothesis]

/-- Builds are for unknown names, incomplete or have items that are refused. -/
@[simp] theorem knowsSchema_addBuilds
    (names : DirectoryNames)
    (builds : List (String × Json.Value))
    (config : Configuration) :
    KnowsSchema (addBuilds names builds config) := by
  induction builds generalizing config with
  | nil =>
      simp [addBuilds]
  | cons first rest inductionHypothesis =>
      simp [addBuilds, inductionHypothesis]

/-- The reader of the simplified schema does not complain about the schema. -/
theorem knowsSchema_configuration
    (home : String)
    (tree : Json.Value) :
    KnowsSchema (configuration home tree) := by
  simp [configuration]

/-- A configuration of the simplified reader has the simplified schema, and its document builds. -/
theorem schema_and_builds
    {home : String}
    {tree : Json.Value}
    {config : Configuration}
    (accepted : configuration home tree = .ok config) :
    config.schema = .simplified ∧ ∃ builds, tree.get? "builds" = some builds := by
  obtain ⟨sections, placed, has, read, performed⟩ := configuration_eq_ok_iff.mp accepted
  obtain ⟨builds, isObject, _⟩ := has
  exact ⟨(gathers_of_placed read performed).schema, _, isObject⟩

end Simplified

/-- The schema of a configuration is that of the reader that it comes from. -/
theorem schema_of_readAs
    {schema : Schema}
    {home : String}
    {tree : Json.Value}
    {config : Configuration}
    (accepted : readAs schema home tree = .ok config) :
    config.schema = schema := by
  cases schema with
  | legacy =>
      exact (Legacy.schema_and_description accepted).1
  | simplified =>
      exact (Simplified.schema_and_builds accepted).1

/-- In whatever mode a document is read, the reader of the schema of the result reads it so. -/
theorem readAs_schema_of_read
    {mode : ReadingMode}
    {home : String}
    {tree : Json.Value}
    {config : Configuration}
    (accepted : read mode home tree = .ok config) :
    readAs config.schema home tree = .ok config := by
  obtain ⟨schema, acceptedAs⟩ := exists_readAs_of_read accepted
  rw [schema_of_readAs acceptedAs]
  exact acceptedAs

/-- No reader complains that the schema is unknown. -/
theorem knowsSchema_readAs
    (schema : Schema)
    (home : String)
    (tree : Json.Value) :
    KnowsSchema (readAs schema home tree) := by
  cases schema with
  | legacy =>
      exact Legacy.knowsSchema_configuration tree
  | simplified =>
      exact Simplified.knowsSchema_configuration home tree

/-- A document with a description shows the legacy schema. -/
theorem detectSchema_of_description
    {tree : Json.Value}
    {fields : List (String × Json.Value)}
    (description : tree.get? "description" = some (.object fields)) :
    detectSchema tree = .ok .legacy := by
  rw [detectSchema, description]

/-- A document with builds but no description shows the simplified schema. -/
theorem detectSchema_of_builds
    {tree builds : Json.Value}
    (noDescription : ∀ fields, tree.get? "description" ≠ some (.object fields))
    (hasBuilds : tree.get? "builds" = some builds) :
    detectSchema tree = .ok .simplified := by
  rw [detectSchema]
  split
  · rename_i fields description
    exact absurd description (noDescription fields)
  · rfl
  · rename_i noBuilds _
    rw [hasBuilds] at noBuilds
    cases noBuilds

/-- A document that a reader accepts shows a schema. -/
theorem exists_detectSchema_of_readAs
    {schema : Schema}
    {home : String}
    {tree : Json.Value}
    {config : Configuration}
    (accepted : readAs schema home tree = .ok config) :
    ∃ shown, detectSchema tree = .ok shown := by
  by_cases described : ∃ fields, tree.get? "description" = some (.object fields)
  · obtain ⟨fields, description⟩ := described
    exact ⟨.legacy, detectSchema_of_description description⟩
  · cases schema with
    | legacy =>
        exact absurd (Legacy.schema_and_description accepted).2 described
    | simplified =>
        obtain ⟨builds, hasBuilds⟩ := (Simplified.schema_and_builds accepted).2
        rw [not_exists] at described
        exact ⟨.simplified, detectSchema_of_builds described hasBuilds⟩

/-- With a shown schema, reading by detection is reading by this schema. -/
theorem read_detect_of_detectSchema
    {schema : Schema}
    {tree : Json.Value}
    (shown : detectSchema tree = .ok schema)
    (home : String) :
    read .detect home tree = readAs schema home tree := by
  rw [read, shown]
  rfl

/-- The only complaint about a document that shows no schema is that its schema is unknown. -/
theorem eq_unknownSchema_of_detectSchema
    {tree : Json.Value}
    {fault : DocumentFault}
    (unshown : detectSchema tree = .error fault) :
    fault = .unknownSchema := by
  rw [detectSchema] at unshown
  split at unshown
  · cases unshown
  · cases unshown
  · exact (Except.error.inj unshown).symm

/-- How reading by the schema that a document shows relates to reading by a given one. -/
structure ReadsByDetection
    (home : String)
    (tree : Json.Value) :
    Prop where
  ofLegacy :
    ∀ config, readAs .legacy home tree = .ok config → read .detect home tree = .ok config
  ofSimplified :
    (∀ fields, tree.get? "description" ≠ some (.object fields)) →
      ∀ config, readAs .simplified home tree = .ok config → read .detect home tree = .ok config
  ofItsSchema :
    ∀ config, read .detect home tree = .ok config →
      readAs config.schema home tree = .ok config
  ofNoSchema :
    read .detect home tree = .error .unknownSchema →
      ∀ schema, ∃ fault, readAs schema home tree = .error fault
  sameFault :
    ∀ fault, read .detect home tree = .error fault → fault ≠ .unknownSchema →
      ∃ schema, detectSchema tree = .ok schema ∧ readAs schema home tree = .error fault

/-- Reading by the schema that a document shows is reading by the right one. -/
theorem readsByDetection
    (home : String)
    (tree : Json.Value) :
    ReadsByDetection home tree where
  ofLegacy := by
    intro config accepted
    obtain ⟨fields, description⟩ := (Legacy.schema_and_description accepted).2
    rw [read_detect_of_detectSchema (detectSchema_of_description description)]
    exact accepted
  ofSimplified := by
    intro noDescription config accepted
    obtain ⟨builds, hasBuilds⟩ := (Simplified.schema_and_builds accepted).2
    rw [read_detect_of_detectSchema (detectSchema_of_builds noDescription hasBuilds)]
    exact accepted
  ofItsSchema := by
    intro config accepted
    exact readAs_schema_of_read accepted
  ofNoSchema := by
    intro unknown schema
    cases outcome : readAs schema home tree with
    | error fault =>
        exact ⟨fault, rfl⟩
    | ok config =>
        obtain ⟨shown, isShown⟩ := exists_detectSchema_of_readAs outcome
        rw [read_detect_of_detectSchema isShown] at unknown
        exact absurd unknown (knowsSchema_readAs shown home tree)
  sameFault := by
    intro fault rejected known
    cases shown : detectSchema tree with
    | error unshown =>
        rw [read, shown] at rejected
        obtain rfl := Except.error.inj rejected
        exact absurd (eq_unknownSchema_of_detectSchema shown) known
    | ok schema =>
        rw [read_detect_of_detectSchema shown] at rejected
        exact ⟨schema, rfl, rejected⟩

end BenchmarkOrchestration.Document
