import BenchmarkOrchestration.Interpreter.Tool.Condition
import BenchmarkOrchestration.Interpreter.Tool.Editing
import BenchmarkOrchestration.Interpreter.Tool.Entries
import BenchmarkOrchestration.Interpreter.Tool.Lines
import BenchmarkOrchestration.Interpreter.Tool.Printing
import BenchmarkOrchestration.Interpreter.Tool.Search

namespace BenchmarkOrchestration.Interpreter

/-!
# The tools by name

Some tools are part of the interpreter, so that their messages begin with the place in the script;
the others are programs in the directories of the system.
-/

namespace Tool

/-- Print the variables of the environment. -/
def env
    (call : ToolCall) :
    ToolResult :=
  call.prints (Octets.unlines (call.environment.map fun (name, value) => name ++ '=' :: value))

/-- Print chosen variables of the environment. -/
def printenv
    (call : ToolCall) :
    ToolResult :=
  if call.arguments.isEmpty then
    env call
  else
    let values := call.arguments.filterMap fun name => call.environment.lookup name
    { call.prints (Octets.unlines values) with
      status := if values.length = call.arguments.length then 0 else 1 }

/-- Wait; time does not pass here. -/
def sleep
    (call : ToolCall) :
    ToolResult :=
  if call.arguments.isEmpty then missingOperand call else call.exits 0

/-- Print the directory in use. -/
def pwd
    (call : ToolCall) :
    ToolResult :=
  call.prints (Octets.ofText ("/" ++ "/".intercalate call.here) ++ ['\n'])

/-- The tools that are part of the interpreter. -/
def inner : List (String × (ToolCall → ToolResult)) :=
  [ (":", fun call => call.exits 0),
    ("true", fun call => call.exits 0),
    ("false", fun call => call.exits 1),
    ("echo", echo),
    ("printf", printf),
    ("pwd", pwd),
    ("test", test),
    ("[", test) ]

/-- The tools that are programs of the system. -/
def programs : List (String × (ToolCall → ToolResult)) :=
  [ ("basename", basename),
    ("cat", cat),
    ("chmod", chmod),
    ("cp", transfer false),
    ("cut", cut),
    ("dirname", dirname),
    ("env", env),
    ("egrep", fun call => grep { call with arguments := ['-', 'E'] :: call.arguments }),
    ("fgrep", fun call => grep { call with arguments := ['-', 'F'] :: call.arguments }),
    ("grep", grep),
    ("head", head),
    ("ls", ls),
    ("mkdir", mkdir),
    ("mv", transfer true),
    ("printenv", printenv),
    ("rm", rm),
    ("rmdir", rmdir),
    ("sed", sed),
    ("seq", seq),
    ("sleep", sleep),
    ("sort", sort),
    ("tail", tail),
    ("tee", tee),
    ("touch", touch),
    ("tr", tr),
    ("uniq", uniq),
    ("wc", wc),
    ("yes", yes) ]

end Tool

end BenchmarkOrchestration.Interpreter
