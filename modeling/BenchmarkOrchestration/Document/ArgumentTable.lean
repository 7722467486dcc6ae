import BenchmarkOrchestration.Arguments.Mapping
import BenchmarkOrchestration.Document.Field

namespace BenchmarkOrchestration

/-!
# Argument tables of a document

A table names its mode and then its parameters.  The parameters may instead stand in a block of
their own, whose list of names gives their order; parameters of the block that the list does not
mention follow in the order of the document.
-/

namespace Document

/-- The parameter of a key with the sequence of its values. -/
def parameter
    (key : String)
    (values : Json.Value) :
    Parameter :=
  ⟨key, ArgumentValue.sequence values⟩

/-- The parameters that a block lists, in the order of the names. -/
def listedParameters
    (block : List (String × Json.Value)) :
    (names : List String) → Except DocumentFault (List Parameter)
  | [] => .ok []
  | name :: names =>
      match block.lookup name with
      | none => .error (.missingParameter name)
      | some values => do
          return parameter name values :: (← listedParameters block names)

/-- The parameters of a block that its list of names does not mention. -/
def unlistedParameters
    (block : List (String × Json.Value))
    (names : List String) :
    List Parameter :=
  (block.filter fun (key, _) => key ≠ "names" && !names.contains key).map fun (key, values) =>
    parameter key values

/-- The parameters of a table without a block: all its keys but the one of the mode. -/
def inlineParameters
    (table : List (String × Json.Value)) :
    List Parameter :=
  (table.filter fun (key, _) => key ≠ "mapper").map fun (key, values) => parameter key values

/-- The mapping that an argument table describes. -/
def argumentTable
    (table : Json.Value)
    (context : String) :
    Except DocumentFault ArgumentMapping := do
  let mode ← MapperMode.ofName? (← textField table "mapper" context)
  match table.get? "pira-file" with
  | some file =>
      let names ← textsField file "names" "pira-file"
      let block ← asObject file "pira-file" context
      let listed ← listedParameters block names
      let mapping ← ArgumentMapping.create mode (listed ++ unlistedParameters block names)
      return mapping.withFileNames names
  | none =>
      let entries ← asObject table "argmap" context
      ArgumentMapping.create mode (inlineParameters entries)

end Document

end BenchmarkOrchestration
