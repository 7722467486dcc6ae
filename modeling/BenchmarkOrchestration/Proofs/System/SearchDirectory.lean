import BenchmarkOrchestration.Proofs.Files.Route
import BenchmarkOrchestration.Proofs.Naming.Identification
import BenchmarkOrchestration.System.FunctorScript

namespace BenchmarkOrchestration

/-!
# Functors and their search directory

The file name of a functor is put behind its search directory and is never a path from the root.
It may still have pieces of two dots, which come from a benchmark or a flavor.  A file that is found
is therefore where the route of its name leads to: it is below the search directory exactly if the
route goes down again along the names that it went up, and always if there are no two dots.
-/

namespace FunctorName

/-- The file name in a search directory is no path from the root. -/
theorem isRooted_relativeFileName
    (name : FunctorName) :
    Path.isRooted name.relativeFileName = false := by
  rw [Path.isRooted, relativeFileName, String.toList_ofList, decide_eq_false_iff_not]
  intro rooted
  have unmarked := List.head?_dropWhile_not (fun c => decide (c = '/')) name.fileName.toList
  rw [rooted] at unmarked
  cases unmarked

/-- A piece of two dots in the file name outside a database is one of the benchmark or the flavor. -/
theorem dots_mem_of_outside
    {name : FunctorName}
    (outside : name.forDatabase = false)
    (dots : ".." ∈ splitText '/' name.relativeFileName) :
    ".." ∈ splitText '/' name.benchmark ∨ ".." ∈ splitText '/' name.flavor := by
  rw [mem_splitText, relativeFileName, String.toList_ofList] at dots
  have inName := mem_splitAt_of_mem_dropWhile dots
  rw [fileName_of_outside outside, String.toList_append, String.toList_append, List.append_assoc]
    at inName
  rw [mem_splitText, mem_splitText]
  rcases mem_splitAt_append_cons_of_ne (by decide) inName with inFront | underscore | inFlavor
  · left
    rw [String.toList_append] at inFront
    rcases name.opening_eq_empty_or_mem with unopened | opens
    · rwa [unopened] at inFront
    · -- The opening word would be the beginning of the two dots.
      have slashless : ∀ word ∈ openings, '/' ∉ word.toList := by decide
      have notDots : ∀ word ∈ openings, ¬ word.toList <+: "..".toList := by decide
      exact (mem_splitAt_append_of_front_notMem (slashless _ opens) inFront).resolve_right
        (notDots _ opens)
  · exact absurd underscore (by decide)
  · exact .inr inFlavor

end FunctorName

namespace FunctorScript

/-- The search directory is at `root`, and a file of the functor is found from it at `path`. -/
structure Locates
    (machine : Machine)
    (directory : String)
    (name : FunctorName)
    (root : Location)
    (path : String) :
    Prop where
  isDirectory : machine.tree.find machine.here directory = .ok (root, .directory)
  located : locate machine.tree root name.relativeFileName = some path

/-- The files that are tried for a functor: the one of its name and its script. -/
def IsFileOf
    (name : FunctorName)
    (file : String) :
    Prop :=
  file = name.relativeFileName ∨ file = name.relativeFileName ++ ".sh"

/-- A path leads from a search directory to a file, along the route of the name of the file. -/
structure LeadsToFile
    (tree : FileTree)
    (root : Location)
    (file path : String) :
    Prop where
  joined : path = Path.join (pathOf root) file
  found :
    ∃ content isExecutable, tree.find [] path = .ok (Path.resolved path, .file content isExecutable)
  goal : Path.resolved path = (Route.ofNames (splitText '/' file)).goal root
  below_iff :
    (Path.resolved path).IsBelow root ↔
      root.drop (root.length - (Route.ofNames (splitText '/' file)).climbs) <+:
        (Route.ofNames (splitText '/' file)).names

/-- How functors are found from a search directory, in whatever way they are asked for a method. -/
structure SearchesByRoute
    (machine : Machine)
    (directory : String)
    (name : FunctorName) :
    Prop where
  relative : Path.isRooted name.relativeFileName = false
  resolves :
    ∀ ask functor after,
      resolveBy ask directory name machine = (.ok functor, after) →
        ∃ root, Locates machine directory name root functor.handle.path
  leads :
    ∀ root path,
      Locates machine directory name root path →
        ∃ file, IsFileOf name file ∧ LeadsToFile machine.tree root file path
  below :
    ∀ root path,
      Locates machine directory name root path →
        ".." ∉ splitText '/' name.relativeFileName → (Path.resolved path).IsBelow root
  below_of_parts :
    ∀ root path,
      Locates machine directory name root path →
        name.forDatabase = false →
          ".." ∉ splitText '/' name.benchmark →
            ".." ∉ splitText '/' name.flavor → (Path.resolved path).IsBelow root

/-- The path of a proper location leads back to it. -/
theorem resolved_pathOf
    {root : Location}
    (proper : root.IsProper) :
    Path.resolved (pathOf root) = root := by
  have slash : "/".toList = ['/'] := by decide
  have fromRoot : pathOf root = "" ++ "/" ++ "/".intercalate root := by
    rw [pathOf, String.empty_append]
  rw [Path.resolved, fromRoot, splitText_append_sign slash, Location.along_append]
  change Location.along [] (splitText '/' ("/".intercalate root)) = root
  cases root with
  | nil =>
      rfl
  | cons first others =>
      rw [splitText_intercalate slash fun name member => (proper name member).2.2.2,
        Location.along_of_isProper proper, List.nil_append]

/-- A path in a proper location leads along the pieces of its last part. -/
theorem resolved_join
    {root : Location}
    {file : String}
    (proper : root.IsProper)
    (relative : Path.isRooted file = false) :
    Path.resolved (Path.join (pathOf root) file) = root.along (splitText '/' file) := by
  rw [Path.resolved, Path.along_join relative]
  change (Path.resolved (pathOf root)).along _ = _
  rw [resolved_pathOf proper]

/-- A file that is found leads from the search directory along the route of its name. -/
theorem leadsToFile_of_isFile
    {tree : FileTree}
    {root : Location}
    {file : String}
    (proper : root.IsProper)
    (isDirectory : tree.entry? root = some .directory)
    (relative : Path.isRooted file = false)
    (isFile : tree.isFile [] (Path.join (pathOf root) file) = true) :
    LeadsToFile tree root file (Path.join (pathOf root) file) := by
  obtain ⟨location, content, isExecutable, found⟩ := FileTree.isFile_eq_true_iff.mp isFile
  have rooted : Path.isRooted (Path.join (pathOf root) file) = true := by
    refine Path.isRooted_join ?_
    rw [pathOf, Path.isRooted, String.toList_append]
    rfl
  obtain ⟨atGoal, present⟩ := FileTree.along_of_find found
  rw [if_pos rooted] at atGoal
  obtain rfl : location = Path.resolved (Path.join (pathOf root) file) := atGoal
  have goal :
      Path.resolved (Path.join (pathOf root) file) =
        (Route.ofNames (splitText '/' file)).goal root := by
    rw [resolved_join proper relative, Route.goal_ofNames]
  -- The search directory itself is no file.
  have notRoot : Path.resolved (Path.join (pathOf root) file) ≠ root := by
    intro same
    rw [same, isDirectory] at present
    cases present
  refine ⟨rfl, ⟨content, isExecutable, found⟩, goal, ?_⟩
  rw [Location.IsBelow, and_iff_left notRoot, goal, Route.prefix_goal_iff]

/-- What is located is the file of the name, or else its script. -/
theorem exists_file_of_locate
    {tree : FileTree}
    {root : Location}
    {name : FunctorName}
    {path : String}
    (located : locate tree root name.relativeFileName = some path) :
    ∃ file,
      IsFileOf name file ∧
        path = Path.join (pathOf root) file ∧ tree.isFile [] path = true := by
  rw [locate] at located
  split at located
  · rename_i isFile
    cases located
    exact ⟨_, .inl rfl, rfl, isFile⟩
  · split at located
    · rename_i isFile
      cases located
      exact ⟨_, .inr (String.append_assoc), rfl, isFile⟩
    · cases located

/-- No file that is tried is a path from the root. -/
theorem IsFileOf.isRooted
    {name : FunctorName}
    {file : String}
    (tried : IsFileOf name file) :
    Path.isRooted file = false := by
  have relative := name.isRooted_relativeFileName
  rcases tried with rfl | rfl
  · exact relative
  · rw [Path.isRooted, decide_eq_false_iff_not] at relative ⊢
    rw [String.toList_append, List.head?_append]
    cases start : name.relativeFileName.toList.head? with
    | none =>
        decide
    | some c =>
        rwa [start] at relative

/-- The script of a functor has two dots for a piece only if its name has. -/
theorem IsFileOf.dots_notMem
    {name : FunctorName}
    {file : String}
    (tried : IsFileOf name file)
    (level : ".." ∉ splitText '/' name.relativeFileName) :
    ".." ∉ splitText '/' file := by
  rcases tried with rfl | rfl
  · exact level
  · intro dots
    rw [mem_splitText, String.toList_append] at dots
    rw [mem_splitText] at level
    have notEnding : ¬ ".sh".toList <:+ "..".toList := by decide
    rcases mem_splitAt_append_of_notMem (by decide) dots with inName | ending
    · exact level inName
    · exact notEnding ending

/-- From a proper location, a search directory is found at a proper location. -/
theorem isProper_of_find
    {tree : FileTree}
    {here root : Location}
    {directory : String}
    {entry : Entry}
    (proper : here.IsProper)
    (found : tree.find here directory = .ok (root, entry)) :
    root.IsProper := by
  obtain ⟨atGoal, _⟩ := FileTree.along_of_find found
  have startProper : Location.IsProper (if Path.isRooted directory then [] else here) := by
    split
    · exact fun _ none => absurd none List.not_mem_nil
    · exact proper
  rw [atGoal]
  refine Location.isProper_along startProper ?_
  intro name member
  exact notMem_of_mem_splitAt (mem_splitText.mp member)

/-- A functor that was resolved is one that is located, in whatever way it was asked. -/
theorem exists_locates_of_resolveBy
    {ask : FunctorScript → Location → Machine → Except FunctorFault Bool × Machine}
    {machine after : Machine}
    {directory : String}
    {name : FunctorName}
    {functor : ResolvedFunctor FunctorScript}
    (resolved : resolveBy ask directory name machine = (.ok functor, after)) :
    ∃ root, Locates machine directory name root functor.handle.path := by
  rw [resolveBy] at resolved
  split at resolved
  · rename_i root isDirectory
    dsimp only at resolved
    split at resolved
    · cases resolved
    · rename_i path located
      cases method : ask ⟨name.relativeFileName, path⟩ root machine with
      | mk answer machine =>
          rw [method] at resolved
          cases answer with
          | error fault =>
              cases resolved
          | ok isActive =>
              cases resolved
              exact ⟨root, isDirectory, located⟩
  · cases resolved

/--
From a proper directory in use, functors are located along the routes of their file names, which
never begin at the root.  What is located is below its search directory exactly if the route goes
down again along the names that it went up; so it is if the file name has no piece of two dots, and
outside a database if neither the benchmark nor the flavor has one.
-/
theorem locate_searchesByRoute
    {machine : Machine}
    (proper : machine.here.IsProper)
    (directory : String)
    (name : FunctorName) :
    SearchesByRoute machine directory name := by
  have leads :
      ∀ root path,
        Locates machine directory name root path →
          ∃ file, IsFileOf name file ∧ LeadsToFile machine.tree root file path := by
    rintro root path ⟨isDirectory, located⟩
    obtain ⟨file, tried, rfl, isFile⟩ := exists_file_of_locate located
    have rootProper := isProper_of_find proper isDirectory
    have present := (FileTree.along_of_find isDirectory).2
    exact ⟨file, tried, leadsToFile_of_isFile rootProper present tried.isRooted isFile⟩
  have below :
      ∀ root path,
        Locates machine directory name root path →
          ".." ∉ splitText '/' name.relativeFileName → (Path.resolved path).IsBelow root := by
    intro root path locates level
    obtain ⟨file, tried, leadsTo⟩ := leads root path locates
    rw [leadsTo.below_iff, Route.climbs_ofNames_eq_zero (tried.dots_notMem level), Nat.sub_zero,
      List.drop_length]
    exact List.nil_prefix
  refine ⟨name.isRooted_relativeFileName, ?_, leads, below, ?_⟩
  · intro ask functor after resolved
    exact exists_locates_of_resolveBy resolved
  · intro root path locates outside benchmark flavor
    refine below root path locates fun dots => ?_
    rcases FunctorName.dots_mem_of_outside outside dots with inBenchmark | inFlavor
    · exact benchmark inBenchmark
    · exact flavor inFlavor

/-- A machine with one script in a search directory and one beside it. -/
def twoScriptsMachine : Machine where
  tree :=
    ⟨[ (["w"], .directory), (["w", "f"], .directory),
      (["w", "f", "x_ct.sh"], .file ByteArray.empty false),
      (["w", "x_ct.sh"], .file ByteArray.empty false) ]⟩
  here := ["w"]
  environment := []
  clock := ⟨[]⟩

/-- A name without two dots is located below the search directory. -/
theorem locate_searchesByRoute_inside :
    twoScriptsMachine.here.IsProper ∧
      Locates twoScriptsMachine "f" (.plain .build "x" "ct") ["w", "f"] "/w/f/x_ct.sh" ∧
      (Path.resolved "/w/f/x_ct.sh").IsBelow ["w", "f"] := by
  have proper : twoScriptsMachine.here.IsProper := by
    intro name member
    obtain rfl := List.mem_singleton.mp member
    decide
  have locates :
      Locates twoScriptsMachine "f" (.plain .build "x" "ct") ["w", "f"] "/w/f/x_ct.sh" :=
    ⟨by rfl, by rfl⟩
  have searches := locate_searchesByRoute proper "f" (.plain .build "x" "ct")
  exact ⟨proper, locates, searches.below _ _ locates (by decide)⟩

/-- A benchmark with two dots is located beside the search directory. -/
theorem not_isBelow_resolved_dottedBenchmark :
    Locates twoScriptsMachine "f" (.plain .build "../x" "ct") ["w", "f"] "/w/f/../x_ct.sh" ∧
      Path.resolved "/w/f/../x_ct.sh" = ["w", "x_ct.sh"] ∧
      ¬ (Path.resolved "/w/f/../x_ct.sh").IsBelow ["w", "f"] := by
  have beside : Path.resolved "/w/f/../x_ct.sh" = ["w", "x_ct.sh"] := by decide +kernel
  refine ⟨⟨by rfl, by rfl⟩, beside, ?_⟩
  rw [beside, Location.IsBelow]
  decide

end FunctorScript

end BenchmarkOrchestration
