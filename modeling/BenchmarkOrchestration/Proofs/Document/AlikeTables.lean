import BenchmarkOrchestration.Document.ArgumentTable
import BenchmarkOrchestration.Proofs.Arguments.Leaves
import BenchmarkOrchestration.Proofs.Document.Fieldwise
import BenchmarkOrchestration.Proofs.Document.NamedParameters

namespace BenchmarkOrchestration.Document

/-!
# Argument tables that differ in brackets

The values of a parameter may be bracketed in any way.  What decides about the mapping is the mode,
the list of names of a block, the keys and their order, and the leaves of the values: tables that
are alike in these describe the same mapping or are refused with the same fault.
-/

open ArgumentValue

/-- The list of names must be the same; the values of any other key must have the same leaves. -/
def BlockEntryAlike
    (key : String)
    (values others : Json.Value) :
    Prop :=
  if key = "names" then values = others else SameLeaves values others

/-- Blocks of parameters that are alike entry by entry. -/
def BlocksAlike : Json.Value → Json.Value → Prop :=
  Fieldwise BlockEntryAlike

/-- The mode must be the same, blocks alike, and values of any other key have the same leaves. -/
def TableEntryAlike
    (key : String)
    (values others : Json.Value) :
    Prop :=
  if key = "mapper" then values = others
  else if key = "pira-file" then BlocksAlike values others
  else SameLeaves values others

/-- Argument tables that are alike entry by entry. -/
def TablesAlike : Json.Value → Json.Value → Prop :=
  Fieldwise TableEntryAlike

/-- Entries of blocks are alike to themselves. -/
theorem blockEntryAlike_refl
    (key : String)
    (values : Json.Value) :
    BlockEntryAlike key values values := by
  rw [BlockEntryAlike]
  split
  · rfl
  · exact sameLeaves_refl values

/-- Entries of tables are alike to themselves. -/
theorem tableEntryAlike_refl
    (key : String)
    (values : Json.Value) :
    TableEntryAlike key values values := by
  rw [TableEntryAlike]
  split
  · rfl
  · split
    · exact .same values
    · exact sameLeaves_refl values

/-- A table is alike to itself. -/
theorem tablesAlike_refl
    (table : Json.Value) :
    TablesAlike table table :=
  .same table

section Parameters

variable {alike : String → Json.Value → Json.Value → Prop}

/-- Selected fields whose values have the same leaves give the same parameters. -/
theorem map_parameter_filter_eq
    {fields others : List (String × Json.Value)}
    (related : List.Forall₂ (FieldAlike alike) fields others)
    (select : String → Bool)
    (sameLeaves :
      ∀ field ∈ fields, select field.1 →
        ∀ values, alike field.1 field.2 values → SameLeaves field.2 values) :
    (fields.filter fun field => select field.1).map (fun field => parameter field.1 field.2) =
      (others.filter fun field => select field.1).map fun field =>
        parameter field.1 field.2 := by
  have selected :
      List.Forall₂ (FieldAlike alike)
        (fields.filter fun field => select field.1) (others.filter fun field => select field.1) :=
    List.rel_filter (fun _ _ here => by simp only [here.key]) related
  have within : ∀ field ∈ fields.filter fun field => select field.1,
      field ∈ fields ∧ select field.1 = true :=
    fun field => List.mem_filter.mp
  refine map_eq_map_of_forall₂ ((List.forall₂_and_left _ _).mpr ⟨within, selected⟩) ?_
  rintro field other ⟨⟨member, isSelected⟩, here⟩
  have sameValues := sameLeaves_iff.mp (sameLeaves field member isSelected _ here.value)
  rw [parameter, parameter, here.key, sameValues]

end Parameters

/-- Entries of blocks that are alike have the same leaves. -/
theorem BlockEntryAlike.sameLeaves
    {key : String}
    {values others : Json.Value}
    (alike : BlockEntryAlike key values others) :
    SameLeaves values others := by
  rw [BlockEntryAlike] at alike
  split at alike
  · rw [alike]
    exact sameLeaves_refl others
  · exact alike

section Blocks

variable
  {block others : List (String × Json.Value)}
  (alike : BlocksAlike (.object block) (.object others))
  (names : List String)

include alike

/-- Listed parameters are the same in blocks that are alike. -/
theorem listedParameters_eq :
    listedParameters block names = listedParameters others names := by
  refine listedParameters_congr (fun key => ?_) names
  have found : Option.Rel (BlockEntryAlike key) (block.lookup key) (others.lookup key) :=
    Fieldwise.get?_rel alike key (blockEntryAlike_refl key)
  generalize block.lookup key = values, others.lookup key = otherValues at found
  cases found with
  | none =>
      rfl
  | some alikeHere =>
      rw [Option.map_some, Option.map_some, sameLeaves_iff.mp alikeHere.sameLeaves]

/-- Parameters that are not listed are the same in blocks that are alike. -/
theorem unlistedParameters_eq :
    unlistedParameters block names = unlistedParameters others names := by
  cases alike with
  | same =>
      rfl
  | fields related =>
      exact map_parameter_filter_eq related (fun key => key ≠ "names" && !names.contains key)
        fun _ _ _ _ alikeHere => alikeHere.sameLeaves

end Blocks

/-- The parameters of tables without a block are the same if the tables are alike. -/
theorem inlineParameters_eq
    {entries others : List (String × Json.Value)}
    (alike : TablesAlike (.object entries) (.object others))
    (noBlock : entries.lookup "pira-file" = none) :
    inlineParameters entries = inlineParameters others := by
  cases alike with
  | same =>
      rfl
  | fields related =>
      refine map_parameter_filter_eq related (fun key => key ≠ "mapper")
        fun field member selected values alikeHere => ?_
      have noMode : field.1 ≠ "mapper" := of_decide_eq_true selected
      have notTheBlock : field.1 ≠ "pira-file" := by
        intro isBlock
        have differs := List.lookup_eq_none_iff.mp noBlock field member
        simp [isBlock] at differs
      rwa [TableEntryAlike, if_neg noMode, if_neg notTheBlock] at alikeHere

/-- Argument tables that are alike describe the same mapping, or are refused alike. -/
theorem argumentTable_eq_of_tablesAlike
    {table other : Json.Value}
    (alike : TablesAlike table other)
    (context : String) :
    argumentTable table context = argumentTable other context := by
  have sameMode : table.get? "mapper" = other.get? "mapper" :=
    eq_of_rel (Fieldwise.get?_rel alike "mapper" (tableEntryAlike_refl _)) fun _ _ same => same
  have files : Option.Rel BlocksAlike (table.get? "pira-file") (other.get? "pira-file") :=
    Fieldwise.get?_rel alike "pira-file" (tableEntryAlike_refl _)
  rw [argumentTable, argumentTable, textField_congr sameMode]
  refine bind_congr fun modeName => bind_congr fun mode => ?_
  generalize hasFile : table.get? "pira-file" = file, other.get? "pira-file" = otherFile at files
  cases files with
  | none =>
      cases alike with
      | same =>
          rfl
      | fields related =>
          have sameParameters := inlineParameters_eq (.fields related) hasFile
          exact congrArg (ArgumentMapping.create mode) sameParameters
  | @some file otherFile alikeFiles =>
      have sameNames : file.get? "names" = otherFile.get? "names" :=
        eq_of_rel (Fieldwise.get?_rel alikeFiles "names" (blockEntryAlike_refl _))
          fun _ _ same => same
      simp only [textsField_congr sameNames]
      refine bind_congr fun names => ?_
      cases alikeFiles with
      | same =>
          rfl
      | fields related =>
          have sameListed := listedParameters_eq (.fields related) names
          have sameUnlisted := unlistedParameters_eq (.fields related) names
          show (listedParameters _ names >>= _) = (listedParameters _ names >>= _)
          rw [sameListed, sameUnlisted]

end BenchmarkOrchestration.Document
