import BenchmarkOrchestration.Arguments.Mapping
import BenchmarkOrchestration.Json.Record

namespace BenchmarkOrchestration

/-!
# Argument mappings in documents

A mapping is written as a record with its mode, its parameters and the names of a file-backed
table.  Reading a mapping creates it anew from its parts, so that an unequal table is refused.
-/

/-- Why a document does not hold a stored value. -/
inductive StoredFault where
  | shape
  | mapping (fault : DocumentFault)
  deriving Repr, DecidableEq

namespace StoredFault

/-- The result of reading a part, as a result with a fault. -/
def ofShape : Option α → Except StoredFault α
  | some value => .ok value
  | none => .error .shape

end StoredFault

namespace MapperMode

/-- The mode as a value of a document. -/
def encode
    (mode : MapperMode) :
    Json.Value :=
  .text mode.name

/-- The mode that a value of a document names; names are exact here. -/
def decode?
    (value : Json.Value) :
    Option MapperMode := do
  let name ← value.bareAlternative?
  if name = MapperMode.linear.name then some .linear
  else if name = MapperMode.cartesian.name then some .cartesian
  else none

end MapperMode

namespace Parameter

/-- The parameter as a value of a document. -/
def encode
    (parameter : Parameter) :
    Json.Value :=
  .object [("name", .text parameter.name), ("values", .array parameter.values)]

/-- The parameter that a value of a document holds; its values are taken as they are. -/
def decode?
    (value : Json.Value) :
    Option Parameter :=
  match value.entries? ["name", "values"] 0 with
  | some [some name, some values] => do
      some ⟨← name.text?, ← values.elements?⟩
  | _ => none

end Parameter

namespace ArgumentMapping

/-- The mapping as a value of a document. -/
def encode
    (mapping : ArgumentMapping) :
    Json.Value :=
  .object
    [ ("mode", mapping.mode.encode),
      ("params", .array (mapping.parameters.map Parameter.encode)),
      ("file_names", (mapping.fileNames.map Json.Value.ofTexts).getD .null) ]

/-- The parts of a stored mapping before they are checked against each other. -/
def storedParts?
    (value : Json.Value) :
    Option (MapperMode × List Parameter × Option (List String)) :=
  match value.entries? ["mode", "params", "file_names"] 1 with
  | some [some mode, some parameters, fileNames] => do
      let mode ← MapperMode.decode? mode
      let parameters ← (← parameters.elements?).mapM Parameter.decode?
      let fileNames ← Json.Value.optional? Json.Value.texts? fileNames
      some (mode, parameters, fileNames)
  | _ => none

/-- The mapping that a value of a document holds. -/
def decode
    (value : Json.Value) :
    Except StoredFault ArgumentMapping := do
  let (mode, parameters, fileNames) ← StoredFault.ofShape (storedParts? value)
  match create mode parameters with
  | .error fault => .error (.mapping fault)
  | .ok mapping =>
      match fileNames with
      | some names => .ok (mapping.withFileNames names)
      | none => .ok mapping

end ArgumentMapping

end BenchmarkOrchestration
