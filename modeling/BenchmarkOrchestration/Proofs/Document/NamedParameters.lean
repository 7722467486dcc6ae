import BenchmarkOrchestration.Proofs.Arguments.Creation
import BenchmarkOrchestration.Proofs.Json.Fields

namespace BenchmarkOrchestration

/-!
# Parameters in the order of their names

The block of a file-backed table lists the names of its parameters.  Listed parameters come in the
order of the list, and the other ones behind them in the order of the document.  If everything is
listed, the order of the document makes no difference, neither to a mapping nor to a refusal.  A
missing parameter is the first listed name without an entry, and nothing else is reported as one.
-/

namespace Document

/-- The names that a block lists. -/
def listedNames?
    (block : List (String × Json.Value)) :
    Option (List String) :=
  (block.lookup "names").map textsOf

/-- The keys of a block that its list of names does not mention. -/
def unlistedNames
    (block : List (String × Json.Value))
    (names : List String) :
    List String :=
  (block.map Prod.fst).filter fun key => key ≠ "names" && !names.contains key

/--
Two tables with one mode whose blocks hold the same entries in different orders.  The block lists
everything that it holds, apart from the list itself.
-/
structure Reordered
    (table other : Json.Value)
    (block otherBlock : List (String × Json.Value)) :
    Prop where
  mode : table.get? "mapper" = other.get? "mapper"
  file : table.get? "pira-file" = some (.object block)
  otherFile : other.get? "pira-file" = some (.object otherBlock)
  permuted : block.Perm otherBlock
  distinct : (block.map Prod.fst).Nodup
  listed :
    ∀ names,
      listedNames? block = some names →
        ∀ key ∈ block.map Prod.fst, key ≠ "names" → key ∈ names

/-- How the list of names decides about the parameters of a table. -/
structure FollowsNames
    (table : Json.Value)
    (context : String) :
    Prop where
  reordered :
    ∀ other block otherBlock,
      Reordered table other block otherBlock →
        argumentTable table context = argumentTable other context ∧
          ∀ mapping,
            argumentTable table context = .ok mapping →
              listedNames? block = some mapping.names
  ordered :
    ∀ block mapping,
      table.get? "pira-file" = some (.object block) →
        argumentTable table context = .ok mapping →
          ∃ names,
            listedNames? block = some names ∧
              mapping.fileNames = some names ∧
              mapping.names = names ++ unlistedNames block names ∧
              ∀ p ∈ mapping.parameters,
                ∃ values, (p.name, values) ∈ block ∧ p.values = ArgumentValue.sequence values
  missing :
    ∀ name,
      argumentTable table context = .error (.missingParameter name) ↔
        (∃ modeName mode,
          (table.get? "mapper").map textOf = some modeName ∧
            MapperMode.ofName? modeName = .ok mode) ∧
          ∃ block names,
            table.get? "pira-file" = some (.object block) ∧
              listedNames? block = some names ∧
              names.find? (fun listed => (block.lookup listed).isNone) = some name

/-- Unlisted parameters are named by the keys that are not mentioned. -/
theorem map_name_unlistedParameters
    (block : List (String × Json.Value))
    (names : List String) :
    (unlistedParameters block names).map Parameter.name = unlistedNames block names := by
  rw [unlistedParameters, unlistedNames, List.map_map, List.filter_map]
  rfl

/-- Listed parameters depend only on the sequences of the values that are found in the block. -/
theorem listedParameters_congr
    {block other : List (String × Json.Value)}
    (alike :
      ∀ key,
        (block.lookup key).map ArgumentValue.sequence =
          (other.lookup key).map ArgumentValue.sequence)
    (names : List String) :
    listedParameters block names = listedParameters other names := by
  induction names with
  | nil =>
      rfl
  | cons name rest inductionHypothesis =>
      have here := alike name
      rw [listedParameters, listedParameters, inductionHypothesis]
      cases found : block.lookup name with
      | none =>
          have otherFound : other.lookup name = none := by
            rw [found] at here
            exact Option.map_eq_none_iff.mp here.symm
          rw [otherFound]
      | some values =>
          obtain ⟨otherValues, otherFound, same⟩ : ∃ otherValues,
              other.lookup name = some otherValues ∧
                ArgumentValue.sequence otherValues = ArgumentValue.sequence values := by
            rw [found] at here
            exact Option.map_eq_some_iff.mp here.symm
          rw [otherFound]
          simp only [parameter, same]

/-- Listed parameters are found one by one in the order of the names. -/
theorem listedParameters_eq_ok_iff
    {block : List (String × Json.Value)}
    {names : List String}
    {listed : List Parameter} :
    listedParameters block names = .ok listed ↔
      List.Forall₂
        (fun name read =>
          ∃ values, block.lookup name = some values ∧ parameter name values = read)
        names listed := by
  induction names generalizing listed with
  | nil =>
      rw [listedParameters, Except.ok.injEq, List.forall₂_nil_left_iff, eq_comm]
  | cons name rest inductionHypothesis =>
      rw [listedParameters, List.forall₂_cons_left_iff]
      cases block.lookup name with
      | none =>
          simp
      | some values =>
          simp only [bind_eq_ok_iff, pure_eq_ok_iff, inductionHypothesis, Option.some.injEq]
          constructor
          · rintro ⟨others, later, rfl⟩
            exact ⟨_, others, ⟨values, rfl, rfl⟩, later, rfl⟩
          · rintro ⟨_, others, ⟨_, rfl, rfl⟩, later, rfl⟩
            exact ⟨others, later, rfl⟩

/-- The first listed name without an entry is the parameter that is missing. -/
theorem listedParameters_eq_error_iff
    {block : List (String × Json.Value)}
    {names : List String}
    {fault : DocumentFault} :
    listedParameters block names = .error fault ↔
      ∃ name,
        names.find? (fun listed => (block.lookup listed).isNone) = some name ∧
          fault = .missingParameter name := by
  induction names with
  | nil =>
      simp [listedParameters]
  | cons name rest inductionHypothesis =>
      rw [listedParameters, List.find?_cons]
      cases block.lookup name with
      | none =>
          simp [eq_comm]
      | some values =>
          simp only [bind_eq_error_iff, pure_ne_error, inductionHypothesis, and_false, exists_false,
            or_false, Option.isNone_some]

/-- A creation compares lengths and does not look for parameters. -/
theorem create_ne_missingParameter
    {mode : MapperMode}
    {parameters : List Parameter}
    {name : String} :
    ArgumentMapping.create mode parameters ≠ .error (.missingParameter name) := by
  intro refused
  obtain ⟨_, _, _, _, _, _, _, isMismatch⟩ := ArgumentMapping.namesFirstMismatch_of_create refused
  cases isMismatch

/-- A mode that is not known is reported by its name. -/
theorem ofName?_ne_missingParameter
    {text name : String} :
    MapperMode.ofName? text ≠ .error (.missingParameter name) := by
  simp only [MapperMode.ofName?]
  split
  · simp
  · split <;> simp

/-- A missing parameter is reported exactly if the mode is known and a listed name has no entry. -/
theorem argumentTable_eq_missingParameter_iff
    {table : Json.Value}
    {context name : String} :
    argumentTable table context = .error (.missingParameter name) ↔
      (∃ modeName mode,
        (table.get? "mapper").map textOf = some modeName ∧
          MapperMode.ofName? modeName = .ok mode) ∧
        ∃ block names,
          table.get? "pira-file" = some (.object block) ∧
            listedNames? block = some names ∧
            names.find? (fun listed => (block.lookup listed).isNone) = some name := by
  rw [argumentTable]
  simp only [bind_eq_error_iff, textField_eq_error_iff, textField_eq_ok_iff,
    ofName?_ne_missingParameter, reduceCtorEq, and_false, false_or, exists_and_left]
  cases table.get? "pira-file" with
  | none =>
      simp only [bind_eq_error_iff, asObject_eq_error_iff, create_ne_missingParameter,
        reduceCtorEq, and_false, exists_false, or_false, false_and]
  | some file =>
      simp only [bind_eq_error_iff, textsField_eq_error_iff, textsField_eq_ok_iff,
        asObject_eq_error_iff, asObject_eq_ok_iff, fields?_eq_some_iff,
        listedParameters_eq_error_iff,
        create_ne_missingParameter, pure_ne_error,
        reduceCtorEq, and_false, exists_false, or_false, false_or]
      constructor
      · rintro ⟨modeName, named, mode, known, names, lists, block, rfl, _, found, same⟩
        obtain rfl := DocumentFault.missingParameter.inj same
        exact ⟨⟨modeName, named, mode, known⟩, block, rfl, names, lists, found⟩
      · rintro ⟨⟨modeName, named, mode, known⟩, block, isBlock, names, lists, found⟩
        obtain rfl := Option.some.inj isBlock
        exact ⟨modeName, named, mode, known, names, lists, block, rfl, name, found, rfl⟩

/-- The table of a file-backed mapping: listed parameters by their names, and then the others. -/
theorem argumentTable_ordered
    {table : Json.Value}
    {context : String}
    {block : List (String × Json.Value)}
    {mapping : ArgumentMapping}
    (file : table.get? "pira-file" = some (.object block))
    (read : argumentTable table context = .ok mapping) :
    ∃ names,
      listedNames? block = some names ∧
        mapping.fileNames = some names ∧
        mapping.names = names ++ unlistedNames block names ∧
        ∀ p ∈ mapping.parameters,
          ∃ values, (p.name, values) ∈ block ∧ p.values = ArgumentValue.sequence values := by
  rw [argumentTable] at read
  simp only [file, bind_eq_ok_iff, pure_eq_ok_iff, textsField_eq_ok_iff, asObject_eq_ok_iff,
    fields?_eq_some_iff, Json.Value.object.injEq] at read
  obtain ⟨_, _, mode, _, names, lists, _, rfl, listed, found, bare, created, rfl⟩ := read
  have table := ArgumentMapping.create_eq_ok_iff.mp created
  have parameters : bare.parameters = listed ++ unlistedParameters block names :=
    congrArg (fun parts => parts.2.1) table
  have related := listedParameters_eq_ok_iff.mp found
  refine ⟨names, lists, rfl, ?_, ?_⟩
  · have listedInOrder : names.map id = listed.map Parameter.name := by
      refine map_eq_map_of_forall₂ related ?_
      rintro name _ ⟨values, _, rfl⟩
      rfl
    rw [ArgumentMapping.names, ArgumentMapping.withFileNames, parameters, List.map_append,
      ← listedInOrder, List.map_id, map_name_unlistedParameters]
  · intro p declared
    rw [ArgumentMapping.withFileNames, parameters, List.mem_append] at declared
    rcases declared with isListed | isUnlisted
    -- What is found under a listed name is an entry of the block.
    · obtain ⟨name, _, values, found, rfl⟩ := exists_of_mem_read related isListed
      obtain ⟨before, after, rfl, _⟩ := List.lookup_eq_some_iff.mp found
      exact ⟨values, List.mem_append_right before List.mem_cons_self, rfl⟩
    · obtain ⟨entry, kept, rfl⟩ := List.mem_map.mp isUnlisted
      exact ⟨entry.2, (List.mem_filter.mp kept).1, rfl⟩

/-- A block that lists everything has no other parameters. -/
theorem unlistedNames_eq_nil
    {block : List (String × Json.Value)}
    {names : List String}
    (listed : ∀ key ∈ block.map Prod.fst, key ≠ "names" → key ∈ names) :
    unlistedNames block names = [] := by
  rw [unlistedNames, List.filter_eq_nil_iff]
  intro key present kept
  have notListed : key ≠ "names" ∧ key ∉ names := by simpa using kept
  exact notListed.2 (listed key present notListed.1)

/-- With the other order of a block that lists everything, a table is read alike. -/
theorem argumentTable_of_reordered
    {table other : Json.Value}
    {block otherBlock : List (String × Json.Value)}
    (reordered : Reordered table other block otherBlock)
    (context : String) :
    argumentTable table context = argumentTable other context := by
  obtain ⟨sameMode, file, otherFile, permuted, distinct, listed⟩ := reordered
  have alike := lookup_eq_of_perm permuted distinct
  have sameField :
      (Json.Value.object block).get? "names" = (Json.Value.object otherBlock).get? "names" :=
    alike "names"
  have sameNames := textsField_congr sameField "pira-file"
  rw [argumentTable, argumentTable, textField_congr sameMode, file, otherFile]
  refine bind_congr fun modeName => bind_congr fun mode => ?_
  dsimp only
  rw [sameNames]
  -- Only the names that were read tell that nothing is unlisted; without names both are refused.
  cases lists : textsField (.object otherBlock) "names" "pira-file" with
  | error fault =>
      rfl
  | ok names =>
      have lists := textsField_eq_ok_iff.mp (sameNames.trans lists)
      have unlisted := unlistedNames_eq_nil (listed names lists)
      have otherUnlisted : unlistedNames otherBlock names = [] := by
        refine unlistedNames_eq_nil ?_
        intro key present
        exact listed names lists key ((permuted.map Prod.fst).mem_iff.mpr present)
      rw [← map_name_unlistedParameters, List.map_eq_nil_iff] at unlisted otherUnlisted
      change
        (listedParameters block names >>= _) =
          (listedParameters otherBlock names >>= _)
      have sameListed := listedParameters_congr
        (fun key => congrArg (Option.map ArgumentValue.sequence) (alike key)) names
      rw [sameListed, unlisted, otherUnlisted]

/--
The parameters of a file-backed table follow its list of names.  The order of its block makes no
difference if everything is listed, unlisted parameters come behind the listed ones, and a missing
parameter is the first listed name without an entry.
-/
theorem argumentTable_followsNames
    (table : Json.Value)
    (context : String) :
    FollowsNames table context := by
  constructor
  · intro other block otherBlock reordered
    refine ⟨argumentTable_of_reordered reordered context, ?_⟩
    intro mapping read
    obtain ⟨names, lists, _, inOrder, _⟩ := argumentTable_ordered reordered.file read
    rw [inOrder, unlistedNames_eq_nil (reordered.listed names lists), List.append_nil, lists]
  · intro block mapping file read
    exact argumentTable_ordered file read
  · intro name
    exact argumentTable_eq_missingParameter_iff

/-- A table in linear mode that is backed by a file. -/
def fileTable
    (block : List (String × Json.Value)) :
    Json.Value :=
  .object [("mapper", .text "linear"), ("pira-file", .object block)]

/-- Two orders of one block give one table, and a name without an entry is reported. -/
theorem argumentTable_followsNames_twoOrders :
    let sizes : String × Json.Value := ("size", .array [.text "1", .text "2"])
    let modes : String × Json.Value := ("mode", .array [.text "a", .text "b"])
    let listing : String × Json.Value := ("names", .array [.text "size", .text "mode"])
    Reordered (fileTable [modes, listing, sizes]) (fileTable [listing, sizes, modes])
        [modes, listing, sizes] [listing, sizes, modes] ∧
      argumentTable (fileTable [modes, listing, sizes]) "k" =
        argumentTable (fileTable [listing, sizes, modes]) "k" ∧
      ((argumentTable (fileTable [modes, listing, sizes]) "k").map ArgumentMapping.names).toOption =
        some ["size", "mode"] ∧
      argumentTable (fileTable [sizes, listing]) "k" = .error (.missingParameter "mode") := by
  intro sizes modes listing
  have reordered :
      Reordered (fileTable [modes, listing, sizes]) (fileTable [listing, sizes, modes])
        [modes, listing, sizes] [listing, sizes, modes] := by
    refine ⟨rfl, rfl, rfl, ?_, ?_, ?_⟩
    · exact (List.perm_append_singleton modes [listing, sizes]).symm
    · decide
    · intro names lists
      cases lists
      decide
  have followsNames := argumentTable_followsNames (fileTable [modes, listing, sizes]) "k"
  refine ⟨reordered, (followsNames.reordered _ _ _ reordered).1, by decide +kernel, ?_⟩
  refine ((argumentTable_followsNames (fileTable [sizes, listing]) "k").missing "mode").mpr ?_
  exact ⟨⟨"linear", .linear, rfl, by decide +kernel⟩, _, _, rfl, rfl, rfl⟩

end Document

end BenchmarkOrchestration
