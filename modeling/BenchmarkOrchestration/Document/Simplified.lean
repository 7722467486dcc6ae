import BenchmarkOrchestration.Document.ArgumentTable
import BenchmarkOrchestration.Document.DirectoryNames
import BenchmarkOrchestration.Model.Configuration

namespace BenchmarkOrchestration

/-!
# Documents of the simplified schema

Builds are objects under their directory or the name of one, and items are objects inside a build.
One directory holds all functors of an item.  Several keys may stand for one directory; their items
then belong to one build.
-/

namespace Document.Simplified

/-- The item that a field of a build describes. -/
def item
    (key : String)
    (tree : Json.Value) :
    Except DocumentFault Item := do
  let functors ← textField tree "functors" key
  let mapping ← argumentTable (← field tree "argmap" key) key
  let analyzerDirectory ← textField tree "analyzer" key
  let profileDirectory ← textField tree "cubes" key
  let flavors ← textsField tree "flavors" key
  return { Item.plain key (.uniform functors) (.mapped mapping) with
    analyzerDirectory
    profileDirectory
    flavors
    mode := (tree.get? "mode").map fun mode => .ofText (textOf mode) }

/-- Add the items of one build key to the build of a directory. -/
def addItems
    (directory : String) :
    List (String × Json.Value) → Configuration → Except DocumentFault Configuration
  | [], config => .ok config
  | (key, tree) :: rest, config => do
      let config ← config.addItem directory (← item key tree)
      addItems directory rest config

/-- Add the builds of the document one after the other. -/
def addBuilds
    (names : DirectoryNames) :
    List (String × Json.Value) → Configuration → Except DocumentFault Configuration
  | [], config => .ok config
  | (key, tree) :: rest, config => do
      let directory ← names.resolve key
      let items ← objectField tree "items" key
      let config ← addItems directory items config
      addBuilds names rest config

/-- The configuration that a document of the simplified schema describes. -/
def configuration
    (home : String)
    (tree : Json.Value) :
    Except DocumentFault Configuration := do
  let builds ← objectField tree "builds" "root"
  addBuilds (.ofDocument home tree) builds (.empty .simplified)

end Document.Simplified

end BenchmarkOrchestration
