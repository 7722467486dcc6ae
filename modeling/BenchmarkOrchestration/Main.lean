import BenchmarkOrchestration.CommandLine.Program

namespace BenchmarkOrchestration.Main

/-!
# The program as a process

The process reads the files below the directory in which it is started, runs the program on them,
and writes back what has changed.  Everything that is decided is decided by the program.
-/

/-- The variables that the program gets from the environment of the process. -/
def variableNames : List String :=
  ["HOME", "PATH", "LC_ALL", "PIRA_CONFIG", "PIRA_DRY_RUN"]

/-- The entry of a file; a file that names its interpreter counts as executable. -/
def fileEntry
    (content : ByteArray) :
    Entry :=
  let start := String.toUTF8 "#!"
  .file content ((content.extract 0 start.size).data = start.data)

/-- Read entries of a directory, with everything below them, into a tree. -/
partial def readEntries
    (entries : List IO.FS.DirEntry)
    (location : Location)
    (tree : FileTree) :
    IO FileTree :=
  match entries with
  | [] => return tree
  | entry :: rest => do
      let next := location ++ [entry.fileName]
      let tree ←
        if ← entry.path.isDir then
          let inner ← entry.path.readDir
          readEntries inner.toList next (tree.put next .directory)
        else
          let content ← IO.FS.readBinFile entry.path
          pure (tree.put next (fileEntry content))
      readEntries rest location tree

/-- Write the entries of a tree that another tree does not have. -/
def writeChanges
    (before after : FileTree) :
    IO Unit := do
  for (location, entry) in after.entries do
    if !(before.entry? location).any entry.isSame then
      let path := FunctorScript.pathOf location
      match entry with
      | .directory => IO.FS.createDirAll path
      | .file content _ => IO.FS.writeBinFile path content
      | .sink => pure ()

/-- Remove the files that a later tree has no more. -/
def removeFiles
    (before after : FileTree) :
    IO Unit := do
  for (location, entry) in before.entries do
    match entry, after.entry? location with
    | .file .., none => IO.FS.removeFile (FunctorScript.pathOf location)
    | _, _ => pure ()

/-- The machine below the directory of the process. -/
def machine : IO Machine := do
  let directory ← IO.currentDir
  let here := Path.names directory.toString
  let bare := FileTree.bare.makePath [] directory.toString
  let tree ← readEntries (← directory.readDir).toList here bare
  let environment ← variableNames.filterMapM fun name => do
    return (← IO.getEnv name).map fun value => (name, value)
  return ⟨tree, here, environment, ⟨[]⟩⟩

end BenchmarkOrchestration.Main

/-- Run the program on the words of the command line. -/
def main
    (words : List String) :
    IO UInt32 := do
  let before ← BenchmarkOrchestration.Main.machine
  let (outcome, after) := BenchmarkOrchestration.CommandLine.run .wraps words before
  BenchmarkOrchestration.Main.removeFiles before.tree after.tree
  BenchmarkOrchestration.Main.writeChanges before.tree after.tree
  IO.print outcome.stdout
  IO.eprint outcome.stderr
  return UInt32.ofNat outcome.exitCode
