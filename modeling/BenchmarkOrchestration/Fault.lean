namespace BenchmarkOrchestration

/-!
# What can go wrong with a configuration

A fault is the cause of a refusal, with the names that the message needs.  Faults of documents
arise while a document is turned into a configuration, faults of look-ups when a loaded
configuration is asked for something that it does not hold.
-/

/-- Why a document is no configuration, or why a part of one cannot be used. -/
inductive DocumentFault where
  | missingField (field context : String)
  | notAnObject (field context : String)
  | unknownAlias (name : String)
  | unknownMapper (name : String)
  | lengthMismatch (parameter : String) (expected found : Nat)
  | missingParameter (name : String)
  | duplicateItem (build item : String)
  | invalidPath (path : String)
  | unknownSchema
  | unreadable (path reason : String)
  deriving Repr, DecidableEq

/-- Why a configuration cannot answer a question. -/
inductive LookupFault where
  | unknownBuild (build : String)
  | unknownItem (build item : String)
  | unknownFlavor (item flavor : String)
  | missingEntry (item entry : String)
  deriving Repr, DecidableEq

namespace DocumentFault

/-- The text shown to the user. -/
def message : DocumentFault → String
  | .missingField field context =>
      s!"Missing field '{field}' in {context}"
  | .notAnObject field context =>
      s!"Field '{field}' in {context} has wrong type, expected object"
  | .unknownAlias name =>
      s!"Unknown directory alias: {name}"
  | .unknownMapper name =>
      s!"Unknown argument mapper mode: {name}"
  | .lengthMismatch parameter expected found =>
      s!"Linear argument mapping needs equal lengths: '{parameter}' has {found} values, " ++
        s!"expected {expected}"
  | .missingParameter name =>
      s!"Parameter '{name}' is named in 'pira-file' but has no values"
  | .duplicateItem build item =>
      s!"Item '{item}' declared twice in build '{build}'"
  | .invalidPath path =>
      s!"Invalid file path: {path}"
  | .unknownSchema =>
      "Cannot determine configuration schema: " ++
        "neither 'description' nor 'builds' at top level"
  | .unreadable path reason =>
      s!"Cannot read configuration {path}: {reason}"

end DocumentFault

namespace LookupFault

/-- The text shown to the user. -/
def message : LookupFault → String
  | .unknownBuild build =>
      s!"Unknown build: {build}"
  | .unknownItem build item =>
      s!"Unknown item '{item}' in build '{build}'"
  | .unknownFlavor item flavor =>
      s!"Flavor '{flavor}' not declared for item '{item}'"
  | .missingEntry item entry =>
      s!"Item '{item}' has no {entry}"

end LookupFault

end BenchmarkOrchestration
