import BenchmarkOrchestration.Arguments.Expansion
import BenchmarkOrchestration.Proofs.Document.DistinctKeys
import BenchmarkOrchestration.Proofs.Document.NamedParameters

namespace BenchmarkOrchestration

/-!
# Keys and their parameters

Parameters come from the keys of one object: the table itself, or the block of a file-backed table.
In the table every key but the one of the mode becomes one parameter, and nothing else does.  In a
block the list of names is followed as it stands.  A key becomes as many parameters as it is listed,
and one if it is not listed; the key of the list itself becomes none unless it is listed.
-/

namespace Document

/-- The parameters that the keys of an object stand for, without the one that is reserved. -/
def declaredParameters
    (reserved : String)
    (fields : List (String × Json.Value)) :
    List Parameter :=
  (fields.filter fun (key, _) => key ≠ reserved).map fun (key, values) => parameter key values

/-- Every key but the reserved one is exactly one parameter, no two of which share a name. -/
structure TakesEachOnce
    (reserved : String)
    (fields : List (String × Json.Value))
    (mapping : ArgumentMapping) :
    Prop where
  distinct : mapping.names.Nodup
  once : mapping.parameters.Perm (declaredParameters reserved fields)

/-- How many parameters a key of a block becomes. -/
def timesTaken
    (names : List String)
    (key : String) :
    Nat :=
  if key ∈ names then names.count key
  else if key = "names" then 0
  else 1

/-- The keys of a block become parameters as often as its list of names says. -/
structure TakesAsListed
    (block : List (String × Json.Value))
    (names : List String)
    (mapping : ArgumentMapping) :
    Prop where
  taken :
    ∀ key values,
      (key, values) ∈ block →
        mapping.parameters.filter (fun p => p.name = key) =
          List.replicate (timesTaken names key) (parameter key values)
  only : ∀ p ∈ mapping.parameters, ∃ values, (p.name, values) ∈ block
  once_iff : TakesEachOnce "names" block mapping ↔ names.Nodup ∧ "names" ∉ names

/-- How the keys of an argument table become parameters, when they are distinct. -/
structure GathersKeys
    (table : Json.Value)
    (context : String) :
    Prop where
  distinct :
    ∀ text tree path,
      Json.read? text = some tree →
        valueAt? tree path = some table →
          (∀ fields, table = .object fields → (fields.map Prod.fst).Nodup) ∧
            ∀ block,
              table.get? "pira-file" = some (.object block) → (block.map Prod.fst).Nodup
  supplied :
    ∀ mapping,
      argumentTable table context = .ok mapping →
        (∃ fields, table.get? "pira-file" = none ∧ table = .object fields) ∨
          ∃ block, table.get? "pira-file" = some (.object block)
  inline :
    ∀ fields mapping,
      table.get? "pira-file" = none →
        table = .object fields →
          (fields.map Prod.fst).Nodup →
            argumentTable table context = .ok mapping →
              TakesEachOnce "mapper" fields mapping
  fileBacked :
    ∀ block mapping,
      table.get? "pira-file" = some (.object block) →
        (block.map Prod.fst).Nodup →
          argumentTable table context = .ok mapping →
            ∃ names, listedNames? block = some names ∧ TakesAsListed block names mapping

/-- Declared parameters are named by the keys that are not reserved. -/
theorem map_name_declaredParameters
    (reserved : String)
    (fields : List (String × Json.Value)) :
    (declaredParameters reserved fields).map Parameter.name =
      (fields.map Prod.fst).filter fun key => key ≠ reserved := by
  rw [declaredParameters, List.map_map, List.filter_map]
  rfl

/-- A declared parameter is that of an entry whose key is not reserved. -/
theorem mem_declaredParameters
    {reserved : String}
    {fields : List (String × Json.Value)}
    {p : Parameter} :
    p ∈ declaredParameters reserved fields ↔
      ∃ key values, (key, values) ∈ fields ∧ key ≠ reserved ∧ parameter key values = p := by
  simp only [declaredParameters, List.mem_map, List.mem_filter, Prod.exists, decide_eq_true_eq,
    and_assoc]

/-- A file-backed table has its listed parameters and then the others. -/
theorem parameters_of_fileBacked
    {table : Json.Value}
    {context : String}
    {block : List (String × Json.Value)}
    {mapping : ArgumentMapping}
    (file : table.get? "pira-file" = some (.object block))
    (read : argumentTable table context = .ok mapping) :
    ∃ names listed,
      listedNames? block = some names ∧
        listedParameters block names = .ok listed ∧
          mapping.parameters = listed ++ unlistedParameters block names := by
  rw [argumentTable_eq_ok_iff, describedParts?] at read
  simp only [file, Option.bind_eq_bind, Option.bind_eq_some_iff, toOption_eq_some_iff,
    textsField_eq_ok_iff, fields?_eq_some_iff, Json.Value.object.injEq, Option.some.injEq,
    ArgumentMapping.parts, Prod.mk.injEq] at read
  obtain ⟨_, _, _, _, names, lists, _, rfl, listed, found, _, shape, _⟩ := read
  exact ⟨names, listed, lists, found, shape.symm⟩

/-- A key becomes no parameter exactly if it is that of the list and the list does not mention it. -/
theorem timesTaken_eq_zero_iff
    {names : List String}
    {key : String} :
    timesTaken names key = 0 ↔ key = "names" ∧ key ∉ names := by
  rw [timesTaken]
  by_cases isListed : key ∈ names
  · have counted : names.count key ≠ 0 := Nat.ne_of_gt (List.count_pos_iff.mpr isListed)
    rw [if_pos isListed]
    exact iff_of_false counted fun both => both.2 isListed
  · by_cases isList : key = "names"
    · rw [if_neg isListed, if_pos isList]
      exact iff_of_true rfl ⟨isList, isListed⟩
    · rw [if_neg isListed, if_neg isList]
      exact iff_of_false Nat.one_ne_zero fun both => isList both.1

/-- As many listed parameters have a name as the list repeats it. -/
theorem filter_name_listedParameters
    {block : List (String × Json.Value)}
    {names : List String}
    {listed : List Parameter}
    {key : String}
    {values : Json.Value}
    (found : listedParameters block names = .ok listed)
    (here : block.lookup key = some values) :
    listed.filter (fun p => p.name = key) =
      List.replicate (names.count key) (parameter key values) := by
  have related := listedParameters_eq_ok_iff.mp found
  clear found
  induction related with
  | nil =>
      rfl
  | @cons name p names listed read _ inductionHypothesis =>
      obtain ⟨given, there, rfl⟩ := read
      by_cases atKey : name = key
      · obtain rfl := atKey
        obtain rfl := Option.some.inj (there.symm.trans here)
        have sameName : decide ((parameter name given).name = name) = true := decide_eq_true rfl
        rw [List.filter_cons, if_pos sameName, inductionHypothesis, List.count_cons_self,
          List.replicate_succ]
      · have otherName : ¬ decide ((parameter name given).name = key) = true := by
          rwa [decide_eq_true_iff]
        rw [List.filter_cons, if_neg otherName, inductionHypothesis, List.count_cons_of_ne atKey]

/-- An entry is an unlisted parameter once, unless it is listed or the list itself. -/
theorem filter_name_unlistedParameters
    {block : List (String × Json.Value)}
    {names : List String}
    {key : String}
    {values : Json.Value}
    (distinct : (block.map Prod.fst).Nodup)
    (entry : (key, values) ∈ block) :
    (unlistedParameters block names).filter (fun p => p.name = key) =
      if key ∈ names ∨ key = "names" then [] else [parameter key values] := by
  have swapped :
      (unlistedParameters block names).filter (fun p => p.name = key) =
        ((block.filter fun field => field.1 = key).filter fun field =>
          field.1 ≠ "names" && !names.contains field.1).map fun field =>
            parameter field.1 field.2 := by
    rw [unlistedParameters, List.filter_map, List.filter_comm]
    rfl
  rw [swapped, filter_key_eq_singleton distinct entry]
  by_cases listed : key ∈ names
  · simp [listed]
  · by_cases isList : key = "names"
    · simp [isList]
    · simp [listed, isList]

section FileBacked

variable
  {table : Json.Value}
  {context key : String}
  {block : List (String × Json.Value)}
  {names : List String}
  {values : Json.Value}
  {mapping : ArgumentMapping}

/-- Of a file-backed table, an entry becomes as many parameters as the list of names says. -/
theorem filter_name_of_fileBacked
    (file : table.get? "pira-file" = some (.object block))
    (lists : listedNames? block = some names)
    (distinct : (block.map Prod.fst).Nodup)
    (read : argumentTable table context = .ok mapping)
    (entry : (key, values) ∈ block) :
    mapping.parameters.filter (fun p => p.name = key) =
      List.replicate (timesTaken names key) (parameter key values) := by
  obtain ⟨_, listed, sameLists, found, shape⟩ := parameters_of_fileBacked file read
  obtain rfl := Option.some.inj (lists.symm.trans sameLists)
  rw [shape, List.filter_append,
    filter_name_listedParameters found ((lookup_eq_some_iff_mem distinct).mpr entry),
    filter_name_unlistedParameters distinct entry, timesTaken]
  by_cases isListed : key ∈ names
  · rw [if_pos (.inl isListed), if_pos isListed, List.append_nil]
  · rw [List.count_eq_zero_of_not_mem isListed, if_neg isListed]
    by_cases isList : key = "names"
    · rw [if_pos (.inr isList), if_pos isList]
      rfl
    · rw [if_neg (not_or.mpr ⟨isListed, isList⟩), if_neg isList]
      rfl

/-- The parameters have distinct names exactly if the list has. -/
theorem nodup_names_iff_of_fileBacked
    (file : table.get? "pira-file" = some (.object block))
    (lists : listedNames? block = some names)
    (distinct : (block.map Prod.fst).Nodup)
    (read : argumentTable table context = .ok mapping) :
    mapping.names.Nodup ↔ names.Nodup := by
  obtain ⟨_, sameLists, _, inOrder, _⟩ := argumentTable_ordered file read
  obtain rfl := Option.some.inj (lists.symm.trans sameLists)
  rw [inOrder, List.nodup_append]
  constructor
  · exact fun parts => parts.1
  · intro listDistinct
    refine ⟨listDistinct, distinct.filter _, ?_⟩
    rintro name isListed _ isUnlisted rfl
    have unlisted : name ≠ "names" ∧ name ∉ names := by
      simpa using (List.mem_filter.mp isUnlisted).2
    exact unlisted.2 isListed

/-- The parameters are those of the entries that are taken. -/
theorem mem_parameters_iff_of_fileBacked
    {p : Parameter}
    (file : table.get? "pira-file" = some (.object block))
    (lists : listedNames? block = some names)
    (distinct : (block.map Prod.fst).Nodup)
    (read : argumentTable table context = .ok mapping) :
    p ∈ mapping.parameters ↔
      ∃ key values,
        (key, values) ∈ block ∧ timesTaken names key ≠ 0 ∧ parameter key values = p := by
  constructor
  · intro isParameter
    obtain ⟨_, _, _, _, fromBlock⟩ := argumentTable_ordered file read
    obtain ⟨values, entry, _⟩ := fromBlock p isParameter
    have member : p ∈ mapping.parameters.filter fun other => other.name = p.name :=
      List.mem_filter.mpr ⟨isParameter, decide_eq_true rfl⟩
    rw [filter_name_of_fileBacked file lists distinct read entry, List.mem_replicate] at member
    exact ⟨p.name, values, entry, member.1, member.2.symm⟩
  · rintro ⟨key, values, entry, isTaken, rfl⟩
    have member : parameter key values ∈ mapping.parameters.filter fun p => p.name = key := by
      rw [filter_name_of_fileBacked file lists distinct read entry]
      exact List.mem_replicate.mpr ⟨isTaken, rfl⟩
    exact (List.mem_filter.mp member).1

/-- Each key is one parameter exactly if the list mentions no key twice and not itself. -/
theorem takesEachOnce_iff_of_fileBacked
    (file : table.get? "pira-file" = some (.object block))
    (lists : listedNames? block = some names)
    (distinct : (block.map Prod.fst).Nodup)
    (read : argumentTable table context = .ok mapping) :
    TakesEachOnce "names" block mapping ↔ names.Nodup ∧ "names" ∉ names := by
  have namesDistinct_iff := nodup_names_iff_of_fileBacked file lists distinct read
  constructor
  · rintro ⟨namesDistinct, once⟩
    refine ⟨namesDistinct_iff.mp namesDistinct, ?_⟩
    intro listsItself
    obtain ⟨_, sameLists, _, inOrder, _⟩ := argumentTable_ordered file read
    obtain rfl := Option.some.inj (lists.symm.trans sameLists)
    have isName : "names" ∈ mapping.parameters.map Parameter.name := by
      rw [← ArgumentMapping.names, inOrder]
      exact List.mem_append_left _ listsItself
    rw [(once.map Parameter.name).mem_iff, map_name_declaredParameters, List.mem_filter] at isName
    exact of_decide_eq_true isName.2 rfl
  · rintro ⟨listDistinct, notItself⟩
    have namesDistinct := namesDistinct_iff.mpr listDistinct
    have declaredDistinct : ((declaredParameters "names" block).map Parameter.name).Nodup := by
      rw [map_name_declaredParameters]
      exact distinct.filter _
    -- Without a name twice, it is enough that the same entries are taken.
    refine ⟨namesDistinct, (List.perm_ext_iff_of_nodup (.of_map _ namesDistinct)
      (.of_map _ declaredDistinct)).mpr fun p => ?_⟩
    have isTaken_iff : ∀ key, timesTaken names key ≠ 0 ↔ key ≠ "names" := by
      intro key
      rw [Ne, timesTaken_eq_zero_iff, and_iff_left_of_imp]
      rintro rfl
      exact notItself
    rw [mem_declaredParameters, mem_parameters_iff_of_fileBacked file lists distinct read]
    simp only [isTaken_iff]

end FileBacked

/--
Every key of the object that supplies the parameters becomes exactly one of them, and nothing else
does, in a table without a block.  In a block this holds exactly if the list of names mentions no
name twice and not the key of the list itself; otherwise keys are repeated as they are listed.
-/
theorem argumentTable_gathersKeys
    (table : Json.Value)
    (context : String) :
    GathersKeys table context := by
  constructor
  · intro text tree path document reached
    have resolved := isResolved_of_read? document reached
    constructor
    · rintro fields rfl
      exact resolved.fieldsResolved.distinct
    · intro block file
      exact (resolved.of_get? file).fieldsResolved.distinct
  · intro mapping read
    rw [argumentTable_eq_ok_iff, describedParts?] at read
    cases file : table.get? "pira-file" with
    | none =>
        simp only [file, Option.bind_eq_bind, Option.bind_eq_some_iff, fields?_eq_some_iff] at read
        obtain ⟨_, _, _, _, fields, isObject, _⟩ := read
        exact .inl ⟨fields, rfl, isObject⟩
    | some value =>
        simp only [file, Option.bind_eq_bind, Option.bind_eq_some_iff, fields?_eq_some_iff] at read
        obtain ⟨_, _, _, _, _, _, block, isObject, _⟩ := read
        exact .inr ⟨block, congrArg some isObject⟩
  · rintro fields mapping inline rfl distinct read
    rw [argumentTable_eq_ok_iff, describedParts?] at read
    simp only [inline, Option.bind_eq_bind, Option.bind_eq_some_iff, fields?_eq_some_iff,
      Json.Value.object.injEq, Option.some.injEq, ArgumentMapping.parts, Prod.mk.injEq] at read
    obtain ⟨_, _, _, _, _, rfl, _, shape, _⟩ := read
    have declared : mapping.parameters = declaredParameters "mapper" fields := shape.symm
    constructor
    · rw [ArgumentMapping.names, declared, map_name_declaredParameters]
      exact distinct.filter _
    · rw [declared]
  · intro block mapping file distinct read
    obtain ⟨names, lists, _, _, fromBlock⟩ := argumentTable_ordered file read
    refine ⟨names, lists, ?_, ?_, takesEachOnce_iff_of_fileBacked file lists distinct read⟩
    · intro key values entry
      exact filter_name_of_fileBacked file lists distinct read entry
    · intro p isParameter
      obtain ⟨values, entry, _⟩ := fromBlock p isParameter
      exact ⟨values, entry⟩

/-- The values of a parameter. -/
def sizes : Json.Value :=
  .array [.number (.integer 1), .number (.integer 2)]

/-- A block that lists its one parameter twice. -/
def repeatingBlock : List (String × Json.Value) :=
  [("names", .array [.text "size", .text "size"]), ("size", sizes)]

/-- A table in cartesian mode with the block. -/
def repeatingTable : Json.Value :=
  .object [("mapper", .text "cartesian"), ("pira-file", .object repeatingBlock)]

/-- The mapping of the table, with the parameter and its values twice. -/
def repeatingMapping : ArgumentMapping where
  mode := .cartesian
  parameters := [parameter "size" sizes, parameter "size" sizes]
  fileNames := some ["size", "size"]
  rectangular := by simp

/-- What is listed twice is taken twice. -/
theorem argumentTable_gathersKeys_repeating :
    argumentTable repeatingTable "k" = .ok repeatingMapping ∧
      (repeatingBlock.map Prod.fst).Nodup ∧
      repeatingMapping.parameters.filter (fun p => p.name = "size") =
        List.replicate 2 (parameter "size" sizes) ∧
      ¬ TakesEachOnce "names" repeatingBlock repeatingMapping := by
  have read : argumentTable repeatingTable "k" = .ok repeatingMapping := by decide +kernel
  have distinct : (repeatingBlock.map Prod.fst).Nodup := by decide
  have file : repeatingTable.get? "pira-file" = some (.object repeatingBlock) := by decide +kernel
  obtain ⟨names, lists, asListed⟩ :=
    (argumentTable_gathersKeys repeatingTable "k").fileBacked _ _ file distinct read
  obtain rfl : names = ["size", "size"] := by
    have readList : listedNames? repeatingBlock = some ["size", "size"] := by decide +kernel
    exact Option.some.inj (lists.symm.trans readList)
  refine ⟨read, distinct, asListed.taken _ _ (by simp [repeatingBlock]), ?_⟩
  rw [asListed.once_iff]
  decide

/-- A table whose block lists the key of the list itself. -/
def selfListingTable : Json.Value :=
  .object
    [ ("mapper", .text "cartesian"),
      ("pira-file", .object
        [ ("names", .array [.text "size", .text "names"]),
          ("size", .array [.number (.integer 1)]) ]) ]

/-- The mapping of the table, with the list of names as a parameter. -/
def selfListingMapping : ArgumentMapping where
  mode := .cartesian
  parameters :=
    [⟨"size", [.number (.integer 1)]⟩, ⟨"names", [.text "size", .text "names"]⟩]
  fileNames := some ["size", "names"]
  rectangular := by simp

/-- One key can become two parameters, and the list of names can become one of its own. -/
theorem not_nodup_names_repeatingTable :
    argumentTable repeatingTable "k" = .ok repeatingMapping ∧
      ¬ repeatingMapping.names.Nodup ∧
      repeatingMapping.asList = ["1 1", "1 2", "2 1", "2 2"] ∧
      argumentTable selfListingTable "k" = .ok selfListingMapping ∧
      "names" ∈ selfListingMapping.names ∧
      selfListingMapping.asList = ["1 size", "1 names"] := by
  decide +kernel

end Document

end BenchmarkOrchestration
