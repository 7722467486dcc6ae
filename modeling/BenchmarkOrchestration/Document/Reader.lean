import BenchmarkOrchestration.Document.Legacy
import BenchmarkOrchestration.Document.Simplified

namespace BenchmarkOrchestration

/-!
# Choosing how to read a document

A document is read by the schema that is asked for, or by the schema that it shows: an object under
`description` marks the legacy schema, and otherwise anything under `builds` the simplified one.
-/

/-- By which schema a document is read. -/
inductive ReadingMode where
  | detect
  | fixed (schema : Schema)
  deriving Repr, DecidableEq

namespace Document

/-- The schema that a document shows. -/
def detectSchema
    (tree : Json.Value) :
    Except DocumentFault Schema :=
  match tree.get? "description", tree.get? "builds" with
  | some (.object _), _ => .ok .legacy
  | _, some _ => .ok .simplified
  | _, none => .error .unknownSchema

/-- The configuration that a document of a schema describes. -/
def readAs
    (schema : Schema)
    (home : String)
    (tree : Json.Value) :
    Except DocumentFault Configuration :=
  match schema with
  | .legacy => Legacy.configuration tree
  | .simplified => Simplified.configuration home tree

/-- The configuration that a document describes. -/
def read
    (mode : ReadingMode)
    (home : String)
    (tree : Json.Value) :
    Except DocumentFault Configuration :=
  match mode with
  | .fixed schema => readAs schema home tree
  | .detect => do
      readAs (← detectSchema tree) home tree

end Document

end BenchmarkOrchestration
