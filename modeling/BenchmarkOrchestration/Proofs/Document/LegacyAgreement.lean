import BenchmarkOrchestration.Document.Legacy
import BenchmarkOrchestration.Proofs.Document.Results

namespace BenchmarkOrchestration.Document.Legacy

/-!
# What documents of the legacy schema do not say

A document may hold entries for directories, items and flavors that it does not list.  Documents
that agree on what they list are read alike, whatever else they hold: they lead to the same
configuration or to the same fault.
-/

/-- The texts that a document lists under a name. -/
def listed
    (tree : Json.Value)
    (name : String) :
    List String :=
  ((tree.get? name).map textsOf).getD []

/-- Tables agree on a key if its flavors and its entries in the three other tables are alike. -/
structure AgreeOnItem
    (tables others : Json.Value)
    (key : String) :
    Prop where
  flavors : tables.get? key = others.get? key
  entries :
    ∀ table ∈ ["instrument-analysis", "builders", "run"],
      Option.Rel (fun entries otherEntries => entries.get? key = otherEntries.get? key)
        (tables.get? table) (others.get? table)

/-- Descriptions of a build agree if they list the same items and their tables agree on these. -/
structure AgreeOnBuild
    (tree other : Json.Value) :
    Prop where
  label : tree.get? "prefix" = other.get? "prefix"
  keys : tree.get? "items" = other.get? "items"
  tables :
    Option.Rel (fun tables others => ∀ key ∈ listed tree "items", AgreeOnItem tables others key)
      (tree.get? "flavors") (other.get? "flavors")

/--
Descriptions agree if they list the same directories and flavors, and agree on the submitters of
these flavors and on the builds of these directories.
-/
structure AgreeOnListed
    (description other : Json.Value) :
    Prop where
  directories : description.get? "directories" = other.get? "directories"
  flavors : description.get? "glob-flavors" = other.get? "glob-flavors"
  submitters :
    Option.Rel
      (fun submitters others =>
        ∀ flavor ∈ listed description "glob-flavors", submitters.get? flavor = others.get? flavor)
      (description.get? "glob-submitter") (other.get? "glob-submitter")
  builds :
    Option.Rel
      (fun builds others =>
        builds.fields?.isSome = others.fields?.isSome ∧
          ∀ directory ∈ listed description "directories",
            Option.Rel AgreeOnBuild (builds.get? directory) (others.get? directory))
      (description.get? "builds") (other.get? "builds")

/-- Going on from a list that is alike in two values only matters for this one list. -/
theorem textsField_bind_congr
    {tree other : Json.Value}
    {key context : String}
    {next otherNext : List String → Except DocumentFault α}
    (same : tree.get? key = other.get? key)
    (alike : next (listed tree key) = otherNext (listed tree key)) :
    (textsField tree key context >>= next) = (textsField other key context >>= otherNext) := by
  rw [textsField_congr same.symm, textsField, field]
  rw [listed] at alike
  cases has : tree.get? key with
  | none =>
      rfl
  | some value =>
      rw [has] at alike
      exact alike

/-- Tables that agree on a key give it the same item. -/
theorem item_congr
    {tables others : Json.Value}
    {key : String}
    (agree : AgreeOnItem tables others key) :
    item tables key = item others key := by
  rw [item, item, textsField_congr agree.flavors]
  refine field_bind_congr (agree.entries _ (by simp)) fun analyses otherAnalyses sameAnalysis => ?_
  rw [textsField_congr sameAnalysis]
  refine bind_congr fun record => bind_congr fun analyze => bind_congr fun profiles =>
    bind_congr fun analyzers => ?_
  refine field_bind_congr (agree.entries _ (by simp)) fun builders otherBuilders sameBuilder => ?_
  rw [textField_congr sameBuilder]
  refine bind_congr fun build => ?_
  refine field_bind_congr (agree.entries _ (by simp)) fun runs otherRuns sameSettings => ?_
  rw [field_congr sameSettings]

/-- Tables that agree on all keys of a list give the same items. -/
theorem addItems_congr
    {tables others : Json.Value}
    {keys : List String}
    (agree : ∀ key ∈ keys, AgreeOnItem tables others key)
    (directory : String)
    (config : Configuration) :
    addItems directory tables keys config = addItems directory others keys config := by
  induction keys generalizing config with
  | nil =>
      rfl
  | cons key rest inductionHypothesis =>
      rw [List.forall_mem_cons] at agree
      rw [addItems, addItems, item_congr agree.1]
      refine bind_congr fun item => bind_congr fun added => ?_
      exact inductionHypothesis agree.2 added

/-- Builds that agree on all directories of a list are added alike. -/
theorem addBuilds_congr
    {builds others : List (String × Json.Value)}
    {directories : List String}
    (agree :
      ∀ directory ∈ directories,
        Option.Rel AgreeOnBuild (builds.lookup directory) (others.lookup directory))
    (config : Configuration) :
    addBuilds builds directories config = addBuilds others directories config := by
  induction directories generalizing config with
  | nil =>
      rfl
  | cons directory rest inductionHypothesis =>
      rw [List.forall_mem_cons] at agree
      rw [addBuilds, addBuilds]
      refine field_bind_congr agree.1 fun tree other agreeHere => ?_
      rw [textField_congr agreeHere.label]
      refine bind_congr fun label => ?_
      refine field_bind_congr agreeHere.tables fun tables otherTables agreeOnItems => ?_
      refine textsField_bind_congr agreeHere.keys ?_
      rw [addItems_congr agreeOnItems]
      exact bind_congr fun added => inductionHypothesis agree.2 added

/-- Submitters that agree on all flavors of a list are set alike. -/
theorem addSubmitters_congr
    {submitters others : Json.Value}
    {flavors : List String}
    (agree : ∀ flavor ∈ flavors, submitters.get? flavor = others.get? flavor)
    (config : Configuration) :
    addSubmitters submitters flavors config = addSubmitters others flavors config := by
  induction flavors generalizing config with
  | nil =>
      rfl
  | cons flavor rest inductionHypothesis =>
      rw [List.forall_mem_cons] at agree
      rw [addSubmitters, addSubmitters, textField_congr agree.1]
      refine bind_congr fun submitter => ?_
      exact inductionHypothesis agree.2 _

/-- Documents with descriptions that agree on what they list are read alike. -/
theorem configuration_congr
    {tree other : Json.Value}
    (agree : Option.Rel AgreeOnListed (tree.get? "description") (other.get? "description")) :
    configuration tree = configuration other := by
  rw [configuration, configuration]
  refine field_bind_congr agree fun description otherDescription agreeHere => ?_
  refine textsField_bind_congr agreeHere.directories ?_
  refine textsField_bind_congr agreeHere.flavors ?_
  refine field_bind_congr agreeHere.submitters fun submitters others agreeOnFlavors => ?_
  rw [addSubmitters_congr agreeOnFlavors]
  refine bind_congr fun config => ?_
  exact objectField_bind_congr agreeHere.builds fun builds otherBuilds agreeOnBuilds =>
    addBuilds_congr agreeOnBuilds _

end BenchmarkOrchestration.Document.Legacy
