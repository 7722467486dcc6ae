import BenchmarkOrchestration.Document.Reader
import BenchmarkOrchestration.Proofs.Document.AlikeTables
import BenchmarkOrchestration.Proofs.Model.ItemChanges

namespace BenchmarkOrchestration.Document

/-!
# Documents that differ in brackets

Arguments stand in a document at the ends of two paths: under `args` in the legacy schema and in the
argument tables of the simplified one.  Brackets that are put there, or taken away, change neither a
mapping nor an argument list, nor whether and why the document is refused.
-/

open ArgumentValue

namespace Simplified

/-- Items whose argument tables are alike are described alike. -/
theorem item_eq
    {tree other : Json.Value}
    (alike : Along TablesAlike [.into "argmap"] tree other)
    (key : String) :
    item key tree = item key other := by
  have tables : Option.Rel TablesAlike (tree.get? "argmap") (other.get? "argmap") :=
    alike.get?_rel tablesAlike_refl
  have sameFunctors : tree.get? "functors" = other.get? "functors" := alike.get?_eq (by decide)
  have sameAnalyzer : tree.get? "analyzer" = other.get? "analyzer" := alike.get?_eq (by decide)
  have sameProfiles : tree.get? "cubes" = other.get? "cubes" := alike.get?_eq (by decide)
  have sameFlavors : tree.get? "flavors" = other.get? "flavors" := alike.get?_eq (by decide)
  have sameMode : tree.get? "mode" = other.get? "mode" := alike.get?_eq (by decide)
  rw [item, item, textField_congr sameFunctors, textField_congr sameAnalyzer,
    textField_congr sameProfiles, textsField_congr sameFlavors, sameMode]
  refine bind_congr fun functors => ?_
  refine field_bind_congr tables fun table otherTable alikeTables => ?_
  rw [argumentTable_eq_of_tablesAlike alikeTables]

/-- Items whose argument tables are alike are added alike. -/
theorem addItems_eq
    {items others : List (String × Json.Value)}
    (alike : List.Forall₂ (FieldAlike fun _ => Along TablesAlike [.into "argmap"]) items others)
    (directory : String)
    (config : Configuration) :
    addItems directory items config = addItems directory others config := by
  induction alike generalizing config with
  | nil =>
      rfl
  | @cons field other rest otherRest here _ inductionHypothesis =>
      have sameItem : item field.1 field.2 = item other.1 other.2 := by
        rw [← here.key, item_eq here.value]
      rw [addItems, addItems, sameItem]
      refine bind_congr fun item => bind_congr fun added => ?_
      exact inductionHypothesis added

/-- Builds whose argument tables are alike are added alike. -/
theorem addBuilds_eq
    {builds others : List (String × Json.Value)}
    (alike :
      List.Forall₂
        (FieldAlike fun _ => Along TablesAlike [.into "items", .intoEach, .into "argmap"])
        builds others)
    (names : DirectoryNames)
    (config : Configuration) :
    addBuilds names builds config = addBuilds names others config := by
  induction alike generalizing config with
  | nil =>
      rfl
  | @cons field other rest otherRest here _ inductionHypothesis =>
      rw [addBuilds, addBuilds, ← here.key]
      refine bind_congr fun directory => ?_
      refine here.value.objectField_bind_eq tablesAlike_refl fun items otherItems alikeItems => ?_
      rw [addItems_eq (alikeItems.forall₂ tablesAlike_refl)]
      exact bind_congr fun added => inductionHypothesis added

/-- Documents whose argument tables are alike are read alike. -/
theorem configuration_eq
    {tree other : Json.Value}
    (alike :
      Along TablesAlike [.into "builds", .intoEach, .into "items", .intoEach, .into "argmap"]
        tree other)
    (home : String) :
    configuration home tree = configuration home other := by
  have sameNames : DirectoryNames.ofDocument home tree = DirectoryNames.ofDocument home other := by
    rw [DirectoryNames.ofDocument, DirectoryNames.ofDocument, alike.get?_eq (by decide)]
  rw [configuration, configuration, sameNames]
  exact alike.objectField_bind_eq tablesAlike_refl fun builds otherBuilds alikeBuilds =>
    addBuilds_eq (alikeBuilds.forall₂ tablesAlike_refl) _ _

end Simplified

namespace Legacy

/--
The item without its flavors if its name is `run`.  Tables of a build hold the flavors of an item
under its key, beside the table of all run settings, so the flavors of such an item are this table.
-/
def withoutRunFlavors
    (item : Item) :
    Item :=
  if item.name = "run" then { item with flavors := [] } else item

/-- Setting flavors aside keeps the name. -/
theorem name_withoutRunFlavors
    (item : Item) :
    (withoutRunFlavors item).name = item.name := by
  rw [withoutRunFlavors]
  split <;> rfl

/-- Setting flavors aside keeps the arguments. -/
theorem arguments_withoutRunFlavors
    (item : Item) :
    (withoutRunFlavors item).arguments = item.arguments := by
  rw [withoutRunFlavors]
  split <;> rfl

/-- Tables whose argument lists have the same leaves give the same items. -/
theorem item_alike
    {tables others : Json.Value}
    (alike : Along SameLeaves [.into "run", .intoEach, .into "args"] tables others)
    (key : String) :
    withoutRunFlavors <$> item tables key = withoutRunFlavors <$> item others key := by
  have sameAnalyses : tables.get? "instrument-analysis" = others.get? "instrument-analysis" :=
    alike.get?_eq (by decide)
  have sameBuilders : tables.get? "builders" = others.get? "builders" := alike.get?_eq (by decide)
  have runs := alike.get?_rel sameLeaves_refl
  simp only [item, map_bind, map_pure, field_congr sameAnalyses, field_congr sameBuilders]
  refine bind_congr fun analyses => bind_congr fun record => bind_congr fun analyze =>
    bind_congr fun profiles => bind_congr fun analyzers => bind_congr fun builders =>
    bind_congr fun build => ?_
  refine field_bind_congr runs fun run otherRun alikeRuns => ?_
  have settings := alikeRuns.get?_rel_each sameLeaves_refl key
  refine field_bind_congr settings fun settings otherSettings alikeSettings => ?_
  have arguments := alikeSettings.get?_rel sameLeaves_refl
  refine field_bind_congr arguments fun arguments otherArguments sameLeaves => ?_
  have sameRunner : settings.get? "runner" = otherSettings.get? "runner" :=
    alikeSettings.get?_eq (by decide)
  have sameSubmitter : settings.get? "submitter" = otherSettings.get? "submitter" :=
    alikeSettings.get?_eq (by decide)
  have sameScript : settings.get? "batch_script" = otherSettings.get? "batch_script" :=
    alikeSettings.get?_eq (by decide)
  rw [textField_congr sameRunner, textField_congr sameSubmitter, textField_congr sameScript,
    sameLeaves_iff.mp sameLeaves]
  refine bind_congr fun runner => bind_congr fun submitter => bind_congr fun script => ?_
  by_cases isRun : key = "run"
  · subst isRun
    rw [textsField, textsField, bind_assoc, bind_assoc]
    refine field_bind_congr runs fun flavors otherFlavors _ => ?_
    simp only [pure_bind, withoutRunFlavors, Item.plain, if_true]
  · rw [textsField_congr (alike.get?_eq isRun)]

/-- Tables whose argument lists have the same leaves give the same arguments. -/
theorem arguments_item_eq
    {tables others : Json.Value}
    (alike : Along SameLeaves [.into "run", .intoEach, .into "args"] tables others)
    (key : String) :
    Item.arguments <$> item tables key = Item.arguments <$> item others key := by
  have same := congrArg (Item.arguments <$> ·) (item_alike alike key)
  simpa only [← comp_map, Function.comp_def, arguments_withoutRunFlavors] using same

/-- Items are added alike if their argument lists have the same leaves. -/
theorem addItems_alike
    {tables others : Json.Value}
    (alike : Along SameLeaves [.into "run", .intoEach, .into "args"] tables others)
    (directory : String)
    (keys : List String)
    {config other : Configuration}
    (same : config.mapItems withoutRunFlavors = other.mapItems withoutRunFlavors) :
    Configuration.mapItems withoutRunFlavors <$> addItems directory tables keys config =
      Configuration.mapItems withoutRunFlavors <$> addItems directory others keys other := by
  induction keys generalizing config other with
  | nil =>
      exact congrArg Except.ok same
  | cons key rest inductionHypothesis =>
      rw [addItems, addItems]
      refine map_bind_congr (item_alike alike key) fun item otherItem sameItem => ?_
      refine map_bind_congr ?_ fun added otherAdded sameAdded => inductionHypothesis sameAdded
      rw [← Configuration.addItem_mapItems config directory name_withoutRunFlavors,
        ← Configuration.addItem_mapItems other directory name_withoutRunFlavors, same, sameItem]

/-- Builds are added alike if the argument lists of their items have the same leaves. -/
theorem addBuilds_alike
    {builds others : List (String × Json.Value)}
    (alike :
      Along SameLeaves [.intoEach, .into "flavors", .into "run", .intoEach, .into "args"]
        (.object builds) (.object others))
    (directories : List String)
    {config other : Configuration}
    (same : config.mapItems withoutRunFlavors = other.mapItems withoutRunFlavors) :
    Configuration.mapItems withoutRunFlavors <$> addBuilds builds directories config =
      Configuration.mapItems withoutRunFlavors <$> addBuilds others directories other := by
  induction directories generalizing config other with
  | nil =>
      exact congrArg Except.ok same
  | cons directory rest inductionHypothesis =>
      have trees := alike.get?_rel_each sameLeaves_refl directory
      rw [addBuilds, addBuilds, map_bind, map_bind]
      refine field_bind_congr trees fun tree otherTree alikeTrees => ?_
      have sameLabel : tree.get? "prefix" = otherTree.get? "prefix" :=
        alikeTrees.get?_eq (by decide)
      have sameKeys : tree.get? "items" = otherTree.get? "items" := alikeTrees.get?_eq (by decide)
      have tables := alikeTrees.get?_rel sameLeaves_refl
      rw [textField_congr sameLabel, map_bind, map_bind]
      refine bind_congr fun label => ?_
      rw [map_bind, map_bind]
      refine field_bind_congr tables fun tables otherTables alikeTables => ?_
      rw [textsField_congr sameKeys, map_bind, map_bind]
      refine bind_congr fun keys => ?_
      have sameEntered :
          (config.addLabelledBuild directory label).mapItems withoutRunFlavors =
            (other.addLabelledBuild directory label).mapItems withoutRunFlavors := by
        rw [← Configuration.addLabelledBuild_mapItems, ← Configuration.addLabelledBuild_mapItems,
          same]
      refine map_bind_congr (addItems_alike alikeTables directory keys sameEntered) ?_
      exact fun added otherAdded sameAdded => inductionHypothesis sameAdded

/-- Documents whose argument lists have the same leaves are read alike. -/
theorem configuration_alike
    {tree other : Json.Value}
    (alike :
      Along SameLeaves
        [.into "description", .into "builds", .intoEach, .into "flavors", .into "run", .intoEach,
          .into "args"]
        tree other) :
    Configuration.mapItems withoutRunFlavors <$> configuration tree =
      Configuration.mapItems withoutRunFlavors <$> configuration other := by
  have descriptions := alike.get?_rel sameLeaves_refl
  rw [configuration, configuration, map_bind, map_bind]
  refine field_bind_congr descriptions fun description otherDescription alikeDescriptions => ?_
  have sameDirectories : description.get? "directories" = otherDescription.get? "directories" :=
    alikeDescriptions.get?_eq (by decide)
  have sameFlavors : description.get? "glob-flavors" = otherDescription.get? "glob-flavors" :=
    alikeDescriptions.get?_eq (by decide)
  have sameSubmitters :
      description.get? "glob-submitter" = otherDescription.get? "glob-submitter" :=
    alikeDescriptions.get?_eq (by decide)
  rw [textsField_congr sameDirectories, textsField_congr sameFlavors, field_congr sameSubmitters]
  simp only [map_bind]
  refine bind_congr fun directories => bind_congr fun flavors => bind_congr fun submitters =>
    bind_congr fun config => ?_
  exact alikeDescriptions.objectField_bind_eq sameLeaves_refl fun builds otherBuilds alikeBuilds =>
    addBuilds_alike alikeBuilds directories rfl

end Legacy

/-- Documents with the same leaves in all argument lists of the legacy schema. -/
def ListsAlike : Json.Value → Json.Value → Prop :=
  Along SameLeaves
    [.into "description", .into "builds", .intoEach, .into "flavors", .into "run", .intoEach,
      .into "args"]

/-- Documents with argument tables of the simplified schema that are alike. -/
def MappingsAlike : Json.Value → Json.Value → Prop :=
  Along TablesAlike [.into "builds", .intoEach, .into "items", .intoEach, .into "argmap"]

/-- Documents that differ in the brackets around their argument values only. -/
def Rebracketed : Json.Value → Json.Value → Prop :=
  Relation.ReflTransGen fun document other =>
    ListsAlike document other ∨ MappingsAlike document other

/--
Documents of which the same is read.  Of the legacy schema this leaves out flavors that stand where
the table of all run settings does.
-/
structure ReadAlike
    (document other : Json.Value) :
    Prop where
  detected : detectSchema document = detectSchema other
  simplified : ∀ home, readAs .simplified home document = readAs .simplified home other
  legacy :
    ∀ home,
      Configuration.mapItems Legacy.withoutRunFlavors <$> readAs .legacy home document =
        Configuration.mapItems Legacy.withoutRunFlavors <$> readAs .legacy home other

/-- What is read of three documents is the same if it is of the first two and the last two. -/
theorem ReadAlike.trans
    {first second third : Json.Value}
    (firstAlike : ReadAlike first second)
    (secondAlike : ReadAlike second third) :
    ReadAlike first third where
  detected := firstAlike.detected.trans secondAlike.detected
  simplified home := (firstAlike.simplified home).trans (secondAlike.simplified home)
  legacy home := (firstAlike.legacy home).trans (secondAlike.legacy home)

/-- Documents with the same leaves in all argument lists are read alike. -/
theorem ListsAlike.readAlike
    {document other : Json.Value}
    (alike : ListsAlike document other) :
    ReadAlike document other := by
  have sameBuilds : document.get? "builds" = other.get? "builds" := alike.get?_eq (by decide)
  have sameNames : document.get? "directories" = other.get? "directories" :=
    alike.get?_eq (by decide)
  refine ⟨?_, fun home => ?_, fun home => Legacy.configuration_alike alike⟩
  · have descriptions := alike.get?_rel sameLeaves_refl
    rw [detectSchema, detectSchema, sameBuilds]
    generalize document.get? "description" = description,
      other.get? "description" = otherDescription at descriptions
    cases descriptions with
    | none =>
        rfl
    | some alikeDescriptions =>
        cases alikeDescriptions <;> rfl
  · rw [readAs, readAs, Simplified.configuration, Simplified.configuration, objectField,
      objectField, field_congr sameBuilds, DirectoryNames.ofDocument, DirectoryNames.ofDocument,
      sameNames]

/-- Documents whose argument tables are alike are read alike. -/
theorem MappingsAlike.readAlike
    {document other : Json.Value}
    (alike : MappingsAlike document other) :
    ReadAlike document other := by
  have sameDescription : document.get? "description" = other.get? "description" :=
    alike.get?_eq (by decide)
  refine ⟨?_, fun home => Simplified.configuration_eq alike home, fun home => ?_⟩
  · have builds := alike.get?_rel tablesAlike_refl
    rw [detectSchema, detectSchema, sameDescription]
    generalize document.get? "builds" = found, other.get? "builds" = otherFound at builds
    cases builds with
    | none =>
        rfl
    | some _ =>
        cases other.get? "description" with
        | none =>
            rfl
        | some description =>
            cases description <;> rfl
  · rw [readAs, readAs, Legacy.configuration, Legacy.configuration, field_congr sameDescription]

/-- Documents that differ in brackets only are read alike. -/
theorem Rebracketed.readAlike
    {document other : Json.Value}
    (rebracketed : Rebracketed document other) :
    ReadAlike document other := by
  induction rebracketed with
  | refl =>
      exact ⟨rfl, fun _ => rfl, fun _ => rfl⟩
  | tail _ step alikeBefore =>
      rcases step with lists | mappings
      · exact alikeBefore.trans lists.readAlike
      · exact alikeBefore.trans mappings.readAlike

/-- The arguments of all items are the same in documents that are read alike. -/
theorem ReadAlike.itemArguments_eq
    {document other : Json.Value}
    (alike : ReadAlike document other)
    (mode : ReadingMode)
    (home : String) :
    Configuration.itemArguments <$> read mode home document =
      Configuration.itemArguments <$> read mode home other := by
  have bySchema : ∀ schema,
      Configuration.itemArguments <$> readAs schema home document =
        Configuration.itemArguments <$> readAs schema home other := by
    intro schema
    cases schema with
    | simplified =>
        rw [alike.simplified home]
    | legacy =>
        have same := congrArg (Configuration.itemArguments <$> ·) (alike.legacy home)
        simpa only [← comp_map, Function.comp_def,
          Configuration.itemArguments_mapItems Legacy.name_withoutRunFlavors
            Legacy.arguments_withoutRunFlavors] using same
  cases mode with
  | fixed schema =>
      exact bySchema schema
  | detect =>
      rw [read, read, alike.detected, map_bind, map_bind]
      exact bind_congr bySchema

/-- Only the leaves of argument values count, on their own and in a document. -/
structure BracketsDoNotMatter : Prop where
  values : ∀ value, FlattensToLeaves value
  table :
    ∀ table other,
      TablesAlike table other →
        ∀ context, argumentTable table context = argumentTable other context
  list :
    ∀ tables others,
      Along SameLeaves [.into "run", .intoEach, .into "args"] tables others →
        ∀ key, Item.arguments <$> Legacy.item tables key = Item.arguments <$> Legacy.item others key
  document :
    ∀ document other,
      Rebracketed document other →
        ReadAlike document other ∧
          ∀ mode home,
            Configuration.itemArguments <$> read mode home document =
              Configuration.itemArguments <$> read mode home other

/--
A sequence is the list of the leaves of a value from left to right, whatever the brackets are, and
so the mappings and argument lists that are read from a document do not depend on its brackets.
-/
theorem bracketsDoNotMatter :
    BracketsDoNotMatter where
  values := flattensToLeaves
  table _ _ alike context := argumentTable_eq_of_tablesAlike alike context
  list _ _ alike key := Legacy.arguments_item_eq alike key
  document _ _ rebracketed :=
    ⟨rebracketed.readAlike, rebracketed.readAlike.itemArguments_eq⟩

/-- A document of both schemas with given argument values. -/
def documentWith
    (args sizes : Json.Value) :
    Json.Value :=
  let settings : Json.Value :=
    .object
      [("args", args), ("runner", .text "/f"), ("submitter", .text ""), ("batch_script", .text "j")]
  let tables : Json.Value :=
    .object
      [("instrument-analysis", .object [("x", .array [.text "/f", .text "/e", .text "/a"])]),
        ("builders", .object [("x", .text "/f")]), ("run", .object [("x", settings)]),
        ("x", .text "ct")]
  let build : Json.Value :=
    .object [("prefix", .text "b"), ("items", .text "x"), ("flavors", tables)]
  let description : Json.Value :=
    .object
      [("directories", .text "/b"), ("glob-flavors", .array []), ("glob-submitter", .object []),
        ("builds", .object [("/b", build)])]
  let item : Json.Value :=
    .object
      [("functors", .text "/f"), ("analyzer", .text "/a"), ("cubes", .text "/e"),
        ("flavors", .text "ct"),
        ("argmap", .object [("mapper", .text "linear"), ("size", sizes)])]
  .object
    [("description", description),
      ("builds", .object [("/b", .object [("items", .object [("x", item)])])])]

/-- Brackets around arguments of both schemas are taken away. -/
theorem bracketsDoNotMatter_documentWith :
    let one : Json.Value := .number (.integer 1)
    let two : Json.Value := .number (.integer 2)
    let nested : Json.Value := .array [.array [], .array [one, .array [two]]]
    let flat : Json.Value := .array [one, two]
    Rebracketed (documentWith nested nested) (documentWith flat flat) ∧
      Configuration.itemArguments <$> read .detect "" (documentWith nested nested) =
        .ok [("/b", "x", .listed [one, two])] ∧
      Configuration.itemArguments <$> read (.fixed .simplified) "" (documentWith nested nested) =
        (fun mapping => [("/b", "x", .mapped mapping)]) <$>
          ArgumentMapping.create .linear [⟨"size", [one, two]⟩] := by
  intro one two nested flat
  have sameLeaves : SameLeaves nested flat := sameLeaves_iff.mpr rfl
  have sameSizes : TableEntryAlike "size" nested flat := by
    rwa [TableEntryAlike, if_neg (by decide), if_neg (by decide)]
  have lists : ListsAlike (documentWith nested nested) (documentWith flat nested) :=
    .of_field sameLeaves_refl [] [_] "description" <|
      .of_field sameLeaves_refl [_, _, _] [] "builds" <|
      .of_each sameLeaves_refl [] [] "/b" <|
      .of_field sameLeaves_refl [_, _] [] "flavors" <|
      .of_field sameLeaves_refl [_, _] [_] "run" <|
      .of_each sameLeaves_refl [] [] "x" <|
      .of_field sameLeaves_refl [] [_, _, _] "args" sameLeaves
  have mappings : MappingsAlike (documentWith flat nested) (documentWith flat flat) :=
    .of_field tablesAlike_refl [_] [] "builds" <|
      .of_each tablesAlike_refl [] [] "/b" <|
      .of_field tablesAlike_refl [] [] "items" <|
      .of_each tablesAlike_refl [] [] "x" <|
      .of_field tablesAlike_refl [_, _, _, _] [] "argmap" <|
      Fieldwise.of_field tableEntryAlike_refl [_] [] sameSizes
  have rebracketed : Rebracketed (documentWith nested nested) (documentWith flat flat) :=
    .tail (.single (.inl lists)) (.inr mappings)
  have same := (bracketsDoNotMatter.document _ _ rebracketed).2
  exact
    ⟨rebracketed, (same _ _).trans (by decide +kernel), (same _ _).trans (by decide +kernel)⟩

end BenchmarkOrchestration.Document
