import BenchmarkOrchestration.Model.Item
import BenchmarkOrchestration.Model.SortedTable

namespace BenchmarkOrchestration

/-!
# Configurations

A configuration lists builds in the order of their first mention, and in every build its items in
the order in which they were added.  Adding an item whose name the build already has is refused;
the other operations always succeed.
-/

/-- A build directory with its items. -/
structure Build where
  directory : String
  label : Option String
  items : List Item
  deriving DecidableEq

/-- One item of one build in one flavor. -/
structure Target where
  build : String
  item : String
  flavor : String
  deriving Repr, DecidableEq

/-- Builds with their items, and the settings that are global to the document. -/
structure Configuration where
  schema : Schema
  builds : List Build
  globalFlavors : List String
  globalSubmitters : SortedTable
  deriving DecidableEq

/-- The texts of a list without repetitions, each at its first place. -/
def firstSeen
    (texts : List String) :
    List String :=
  texts.foldl (fun seen text => if seen.contains text then seen else seen ++ [text]) []

namespace Configuration

/-- The configuration without builds. -/
def empty
    (schema : Schema) :
    Configuration :=
  ⟨schema, [], [], .empty⟩

/-- Apply a change to the build of a directory, which is added at the end if it is new. -/
def updateBuild
    (change : Build → Build)
    (directory : String) :
    List Build → List Build
  | [] => [change ⟨directory, none, []⟩]
  | build :: rest =>
      if build.directory = directory then
        change build :: rest
      else
        build :: updateBuild change directory rest

/-- Add a build directory; a known one stays as it is. -/
def addBuild
    (config : Configuration)
    (directory : String) :
    Configuration :=
  { config with builds := updateBuild id directory config.builds }

/-- Add a build directory and set its label. -/
def addLabelledBuild
    (config : Configuration)
    (directory label : String) :
    Configuration :=
  { config with
    builds :=
      updateBuild (fun build => { build with label := some label }) directory config.builds }

/-- The build of a directory. -/
def build?
    (config : Configuration)
    (directory : String) :
    Option Build :=
  config.builds.find? fun build => build.directory = directory

/-- Whether a build directory already has an item of a name. -/
def hasItem
    (config : Configuration)
    (directory name : String) :
    Bool :=
  match config.build? directory with
  | some build => build.items.any fun item => item.name = name
  | none => false

/--
Put an item at the end of a build, which is added first if it is new.  An item is refused if the
build has one of its name; beside the answer stands the configuration as it is afterwards.
-/
def putItem
    (config : Configuration)
    (directory : String)
    (item : Item) :
    Except DocumentFault Unit × Configuration :=
  let config := config.addBuild directory
  if config.hasItem directory item.name then
    (.error (.duplicateItem directory item.name), config)
  else
    (.ok (), { config with
      builds :=
        updateBuild (fun build => { build with items := build.items ++ [item] }) directory
          config.builds })

/-- The configuration with another item, if it is not refused. -/
def addItem
    (config : Configuration)
    (directory : String)
    (item : Item) :
    Except DocumentFault Configuration :=
  match config.putItem directory item with
  | (.ok (), config) => .ok config
  | (.error fault, _) => .error fault

/-- Replace the global flavors. -/
def setGlobalFlavors
    (config : Configuration)
    (flavors : List String) :
    Configuration :=
  { config with globalFlavors := flavors }

/-- Set the global submitter of a flavor. -/
def setGlobalSubmitter
    (config : Configuration)
    (flavor submitter : String) :
    Configuration :=
  { config with globalSubmitters := config.globalSubmitters.insert flavor submitter }

/-- Every item in every flavor that it declares, build after build. -/
def targets
    (config : Configuration) :
    List Target :=
  config.builds.flatMap fun build =>
    build.items.flatMap fun item =>
      item.flavors.map fun flavor => ⟨build.directory, item.name, flavor⟩

/-- Every declared flavor, at its first place. -/
def allFlavors
    (config : Configuration) :
    List String :=
  firstSeen (config.builds.flatMap fun build => build.items.flatMap Item.flavors)

end Configuration

end BenchmarkOrchestration
