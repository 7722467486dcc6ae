import BenchmarkOrchestration.Fault

namespace BenchmarkOrchestration

/-!
# Names of produced files

Selection files, call graphs and profiles have fixed names below the analyzer and profile
directories.  The directory of a profile ends up on a command line, so only letters, digits and a
few marks of ASCII are accepted in it.
-/

namespace Artifact

/-- The selection file that an analysis writes. -/
def selectionFile
    (analyzerDirectory flavor benchmark : String) :
    String :=
  s!"{analyzerDirectory}/out/instrumented-{flavor}-{benchmark}.txt"

/-- The selection file of the iteration before. -/
def previousSelectionFile
    (analyzerDirectory flavor benchmark : String) :
    String :=
  s!"{analyzerDirectory}/out/instrumented-{flavor}-{benchmark}previous.txt"

/-- The call graph that the analyzer reads. -/
def callGraphFile
    (directory benchmark flavor : String) :
    String :=
  s!"{directory}/{flavor}-{benchmark}.ipcg"

/-- The directory of the profile of one iteration. -/
def profileDirectory
    (experimentDirectory flavor : String)
    (iteration : Nat) :
    String :=
  s!"{experimentDirectory}-{flavor}-{iteration}"

/-- Whether a character may stand in a path on a command line. -/
def isPlainChar
    (c : Char) :
    Bool :=
  c.isAlphanum || c = '/' || c = '.' || c = '_' || c = '-'

/-- Whether a path may stand on a command line. -/
def isPlainPath
    (path : String) :
    Bool :=
  path.toList.all isPlainChar

/-- The directory of the profile of one iteration, when it may stand on a command line. -/
def checkedProfileDirectory
    (experimentDirectory flavor : String)
    (iteration : Nat) :
    Except DocumentFault String :=
  let path := profileDirectory experimentDirectory flavor iteration
  if isPlainPath path then .ok path else .error (.invalidPath path)

/-- The profile of one iteration; its directory must pass the check. -/
def profileFile
    (experimentDirectory flavor benchmark : String)
    (iteration : Nat) :
    Except DocumentFault String := do
  let directory ← checkedProfileDirectory experimentDirectory flavor iteration
  return s!"{directory}/{flavor}-{benchmark}.cubex"

end Artifact

end BenchmarkOrchestration
