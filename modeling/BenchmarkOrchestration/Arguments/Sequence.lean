import BenchmarkOrchestration.Json.Writer

namespace BenchmarkOrchestration

/-!
# Argument values

A configured value keeps its type and becomes text only when an invocation is written.  A sequence
of values may be bracketed in any way: only the leaves count, from left to right.
-/

namespace ArgumentValue

/-- The text of a value inside an invocation: texts stand for themselves, null for nothing. -/
def render : Json.Value → String
  | .text value => value
  | .null => ""
  | other => other.render

mutual

/-- The values of a sequence; a value that is no array is a sequence of one. -/
def sequence : Json.Value → List Json.Value
  | .array elements => sequences elements
  | .null => [.null]
  | .boolean value => [.boolean value]
  | .number value => [.number value]
  | .text value => [.text value]
  | .object fields => [.object fields]

/-- The values of several sequences, one after the other. -/
def sequences : List Json.Value → List Json.Value
  | [] => []
  | value :: rest => sequence value ++ sequences rest

end

end ArgumentValue

end BenchmarkOrchestration
