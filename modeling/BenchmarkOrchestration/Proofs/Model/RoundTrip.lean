import BenchmarkOrchestration.Model.Format
import BenchmarkOrchestration.Proofs.Arguments.Creation
import BenchmarkOrchestration.Proofs.Json.Fields

namespace BenchmarkOrchestration

/-!
# Reading back what was written

A configuration can be written as a document and read back from it without loss.  Each part is read
back from its own written form, so the parts are treated from the inside out: texts and lists,
parameters and mappings, items and builds, tables, and the configuration.
-/

/-- If every element is read back, so is their list. -/
theorem mapM_map_eq_some
    {write : α → β}
    {read? : β → Option α}
    (readsBack : ∀ value, read? (write value) = some value)
    (values : List α) :
    (values.map write).mapM read? = some values := by
  induction values with
  | nil =>
      rfl
  | cons value rest inductionHypothesis =>
      simp [readsBack, inductionHypothesis]

namespace Json.Value

@[simp] theorem text?_text
    (value : String) :
    text? (.text value) = some value :=
  rfl

@[simp] theorem elements?_array
    (elements : List Value) :
    elements? (.array elements) = some elements :=
  rfl

@[simp] theorem fields?_object
    (fields : List (String × Value)) :
    fields? (.object fields) = some fields :=
  rfl

/-- An array of texts is read back. -/
@[simp] theorem texts?_ofTexts
    (texts : List String) :
    texts? (ofTexts texts) = some texts :=
  mapM_map_eq_some text?_text texts

/-- What is written as null or in a form that is not null is read back. -/
theorem optional?_getD_null
    {write : α → Value}
    {read? : Value → Option α}
    (readsBack : ∀ value, read? (write value) = some value)
    (neverNull : ∀ value, write value ≠ .null)
    (entry : Option α) :
    optional? read? (some ((entry.map write).getD .null)) = some entry := by
  cases entry with
  | none =>
      rfl
  | some value =>
      rw [Option.map_some, Option.getD_some, optional?]
      · rw [readsBack, Option.map_some]
      · exact neverNull value

/-- A text that may be absent is read back. -/
@[simp] theorem optional?_ofOptionalText
    (entry : Option String) :
    optional? text? (some (ofOptionalText entry)) = some entry := by
  cases entry <;> rfl

/-- The entries of a record that is written in the order of their names are read in this order. -/
theorem entries?_object
    {fields : List (String × Value)}
    (distinct : (fields.map Prod.fst).Nodup)
    (omittable : Nat) :
    entries? (fields.map Prod.fst) omittable (.object fields) =
      some (fields.map fun field => some field.2) := by
  rw [entries?, map_lookup_keys distinct]

end Json.Value

namespace MapperMode

@[simp] theorem decode?_encode
    (mode : MapperMode) :
    decode? mode.encode = some mode := by
  cases mode <;> rfl

end MapperMode

namespace Parameter

@[simp] theorem decode?_encode
    (parameter : Parameter) :
    decode? parameter.encode = some parameter :=
  rfl

end Parameter

namespace ArgumentMapping

/-- The names of a file are read back, or that there are none. -/
theorem optional?_fileNames
    (fileNames : Option (List String)) :
    Json.Value.optional? Json.Value.texts?
        (some ((fileNames.map Json.Value.ofTexts).getD .null)) =
      some fileNames :=
  Json.Value.optional?_getD_null Json.Value.texts?_ofTexts (by simp [Json.Value.ofTexts]) fileNames

/-- The stored parts of a written mapping are its own. -/
theorem storedParts?_encode
    (mapping : ArgumentMapping) :
    storedParts? mapping.encode = some mapping.parts := by
  have entries : mapping.encode.entries? ["mode", "params", "file_names"] 1 = _ :=
    Json.Value.entries?_object (by simp) 1
  have parameters := mapM_map_eq_some Parameter.decode?_encode mapping.parameters
  have fileNames := optional?_fileNames mapping.fileNames
  simp [storedParts?, entries, parameters, fileNames, parts]

/-- A written mapping passes the comparison of its numbers of values again and is read back. -/
@[simp] theorem decode_encode
    (mapping : ArgumentMapping) :
    decode mapping.encode = .ok mapping := by
  rw [decode_eq_ok_iff]
  exact storedParts?_encode mapping

end ArgumentMapping

namespace FilterMode

@[simp] theorem decode?_encode
    (mode : FilterMode) :
    decode? mode.encode = some mode := by
  cases mode <;> rfl

/-- A mode that may be absent is read back; no mode is written as null. -/
theorem optional?_encode
    (mode : Option FilterMode) :
    Json.Value.optional? decode? (some ((mode.map encode).getD .null)) = some mode := by
  refine Json.Value.optional?_getD_null decode?_encode ?_ mode
  intro mode
  cases mode <;> simp [encode]

end FilterMode

namespace FunctorDirectories

@[simp] theorem decode?_encode
    (functors : FunctorDirectories) :
    decode? functors.encode = some functors :=
  rfl

end FunctorDirectories

namespace RunArguments

@[simp] theorem decode?_encode
    (arguments : RunArguments) :
    decode? arguments.encode = some arguments := by
  cases arguments with
  | mapped mapping =>
      simp [decode?, encode, Json.Value.alternative?, Except.toOption]
  | listed values =>
      rfl

end RunArguments

namespace Item

@[simp] theorem decode?_encode
    (item : Item) :
    decode? item.encode = some item := by
  have entries : item.encode.entries? entryNames 0 = _ :=
    Json.Value.entries?_object (by simp) 0
  have mode := FilterMode.optional?_encode item.mode
  simp [decode?, entries, mode]

end Item

namespace Build

@[simp] theorem decode?_encode
    (build : Build) :
    decode? build.encode = some build := by
  have entries : build.encode.entries? ["directory", "prefix", "items"] 0 = _ :=
    Json.Value.entries?_object (by simp) 0
  have items := mapM_map_eq_some Item.decode?_encode build.items
  simp [decode?, entries, items]

end Build

namespace SortedTable

/-- A table is known by its entries. -/
theorem entries_injective :
    Function.Injective entries := by
  rintro ⟨entries, ascending⟩ other same
  cases other
  cases same
  rfl

/-- An entry behind all others is put at the end. -/
theorem putEntry_of_forall_lt
    {key value : String}
    {entries : List (String × String)}
    (behind : ∀ entry ∈ entries, entry.1 < key) :
    putEntry key value entries = entries ++ [(key, value)] := by
  induction entries with
  | nil =>
      rfl
  | cons first rest inductionHypothesis =>
      obtain ⟨other, carried⟩ := first
      have before : other < key := behind _ List.mem_cons_self
      have notBehind : ¬ key < other := String.lt_asymm before
      have different : ¬ other = key := by
        rintro rfl
        exact notBehind before
      rw [putEntry, if_neg notBehind, if_neg different, inductionHypothesis, List.cons_append]
      intro entry member
      exact behind entry (List.mem_cons_of_mem _ member)

/-- Entries that come in ascending order behind a table are appended to it. -/
theorem entries_foldl_insert
    (table : SortedTable)
    {pairs : List (String × String)}
    (ascending : (table.entries ++ pairs).Pairwise fun a b => a.1 < b.1) :
    (pairs.foldl (fun table (key, value) => table.insert key value) table).entries =
      table.entries ++ pairs := by
  induction pairs generalizing table with
  | nil =>
      rw [List.foldl_nil, List.append_nil]
  | cons first rest inductionHypothesis =>
      obtain ⟨key, value⟩ := first
      have behind : ∀ entry ∈ table.entries, entry.1 < key := by
        intro entry member
        exact (List.pairwise_append.mp ascending).2.2 entry member _ List.mem_cons_self
      have inserted : (table.insert key value).entries = table.entries ++ [(key, value)] :=
        putEntry_of_forall_lt behind
      have later := inductionHypothesis (table.insert key value)
      rw [inserted, List.append_assoc, List.singleton_append] at later
      exact later ascending

/-- Setting the entries of a table one after the other gives the table. -/
theorem ofPairs_entries
    (table : SortedTable) :
    ofPairs table.entries = table := by
  apply entries_injective
  exact entries_foldl_insert empty table.ascending

/-- A table is read back from its object. -/
@[simp] theorem decode?_encode
    (table : SortedTable) :
    decode? table.encode = some table := by
  rw [decode?, encode, Json.Value.fields?_object, Option.bind_eq_bind, Option.bind_some,
    mapM_map_eq_some ?readsBack table.entries]
  · rw [Option.bind_eq_bind, Option.bind_some, ofPairs_entries]
  case readsBack =>
    rintro ⟨key, value⟩
    rfl

end SortedTable

namespace Schema

@[simp] theorem decode?_encode
    (schema : Schema) :
    decode? schema.encode = some schema := by
  cases schema <;> rfl

end Schema

namespace Configuration

/--
A configuration is read back from the document that it is written as.  Its mappings, which are
checked again when they are read, are all accepted with their whole tables.
-/
structure ReadsBack
    (config : Configuration) :
    Prop where
  model : decode? config.encode = some config
  mappings :
    ∀ build ∈ config.builds, ∀ item ∈ build.items, ∀ mapping : ArgumentMapping,
      item.arguments = .mapped mapping →
        ArgumentMapping.storedParts? mapping.encode =
            some (mapping.mode, mapping.parameters, mapping.fileNames) ∧
          ArgumentMapping.decode mapping.encode = .ok mapping

/-- Every configuration is read back from its document. -/
theorem decode?_encode
    (config : Configuration) :
    decode? config.encode = some config := by
  have entries :
      config.encode.entries? ["schema", "builds", "global_flavors", "global_submitters"] 0 = _ :=
    Json.Value.entries?_object (by simp) 0
  have builds := mapM_map_eq_some Build.decode?_encode config.builds
  simp [decode?, entries, builds]

/-- Writing a configuration and reading it again loses and rejects nothing. -/
theorem readsBack
    (config : Configuration) :
    ReadsBack config where
  model := decode?_encode config
  mappings := by
    intro build _ item _ mapping _
    exact ⟨ArgumentMapping.storedParts?_encode mapping, ArgumentMapping.decode_encode mapping⟩

end Configuration

end BenchmarkOrchestration
