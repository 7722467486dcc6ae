import BenchmarkOrchestration.Files.Tree
import BenchmarkOrchestration.Proofs.Document.Results
import BenchmarkOrchestration.Proofs.Text.Pieces
import Mathlib.Data.List.TakeDrop

namespace BenchmarkOrchestration

/-!
# Routes

Names lead from one location to another, whatever entries there are: an empty name and a dot stay
where they are, two dots go up, and any other name goes down.  In the end they go up a number of
times and then down along other names, which is their route.  A tree has the entry to which a path
leads at the location of its names.
-/

namespace Location

/-- The location that is one name further. -/
def step
    (location : Location)
    (name : String) :
    Location :=
  if name = "" ∨ name = "." then location
  else if name = ".." then location.dropLast
  else location ++ [name]

/-- The location to which names lead. -/
def along
    (location : Location)
    (names : List String) :
    Location :=
  names.foldl step location

/-- A location in which every name goes down and is one piece of a path. -/
def IsProper
    (location : Location) :
    Prop :=
  ∀ name ∈ location, name ≠ "" ∧ name ≠ "." ∧ name ≠ ".." ∧ '/' ∉ name.toList

/-- A location in a directory or in one below it. -/
def IsBelow
    (location directory : Location) :
    Prop :=
  directory <+: location ∧ location ≠ directory

/-- Going along names in two parts is going along one part after the other. -/
theorem along_append
    (location : Location)
    (first second : List String) :
    location.along (first ++ second) = (location.along first).along second :=
  List.foldl_append

/-- Proper names only go down. -/
theorem along_of_isProper
    {names : Location}
    (proper : IsProper names)
    (start : Location) :
    start.along names = start ++ names := by
  induction names generalizing start with
  | nil =>
      exact (List.append_nil start).symm
  | cons name names inductionHypothesis =>
      obtain ⟨notEmpty, notDot, notDots, _⟩ := proper name List.mem_cons_self
      have onwards : start.step name = start ++ [name] := by
        rw [step, if_neg (not_or.mpr ⟨notEmpty, notDot⟩), if_neg notDots]
      have later : IsProper names := fun other member =>
        proper other (List.mem_cons_of_mem _ member)
      change (start.step name).along names = _
      rw [onwards, inductionHypothesis later, List.append_assoc, List.singleton_append]

/-- From a proper location, the pieces of a path lead to a proper one. -/
theorem isProper_along
    {start : Location}
    (proper : start.IsProper)
    {names : List String}
    (pieces : ∀ name ∈ names, '/' ∉ name.toList) :
    (start.along names).IsProper := by
  induction names generalizing start with
  | nil =>
      exact proper
  | cons name names inductionHypothesis =>
      have onwards : (start.step name).IsProper := by
        rw [step]
        split
        · exact proper
        · rename_i notStaying
          rw [not_or] at notStaying
          split
          · exact fun other member => proper other ((List.dropLast_sublist start).subset member)
          · rename_i notUp
            intro other member
            rcases List.mem_append.mp member with old | new
            · exact proper other old
            · obtain rfl := List.mem_singleton.mp new
              exact ⟨notStaying.1, notStaying.2, notUp, pieces _ List.mem_cons_self⟩
      exact inductionHypothesis onwards fun other member =>
        pieces other (List.mem_cons_of_mem _ member)

end Location

/-- How names lead away from a location: up a number of times, and then down along other names. -/
structure Route where
  climbs : Nat
  names : List String
  deriving Repr, DecidableEq

namespace Route

/-- The route with one name more at its end. -/
def step
    (route : Route)
    (name : String) :
    Route :=
  if name = "" ∨ name = "." then route
  else if name = ".." then
    if route.names = [] then { route with climbs := route.climbs + 1 }
    else { route with names := route.names.dropLast }
  else { route with names := route.names ++ [name] }

/-- The route of names. -/
def ofNames
    (names : List String) :
    Route :=
  names.foldl step ⟨0, []⟩

/-- Where a route ends. -/
def goal
    (route : Route)
    (start : Location) :
    Location :=
  start.take (start.length - route.climbs) ++ route.names

/-- One name more leads one name further. -/
theorem goal_step
    (route : Route)
    (name : String)
    (start : Location) :
    (route.step name).goal start = (route.goal start).step name := by
  rw [step, Location.step]
  by_cases staying : name = "" ∨ name = "."
  · rw [if_pos staying, if_pos staying]
  · rw [if_neg staying, if_neg staying]
    by_cases up : name = ".."
    · rw [if_pos up, if_pos up]
      by_cases atTop : route.names = []
      · rw [if_pos atTop]
        simp only [goal, atTop, List.append_nil]
        rw [List.dropLast_eq_take, List.take_take, List.length_take]
        congr 1
        omega
      · rw [if_neg atTop]
        exact (List.dropLast_append_of_ne_nil atTop).symm
    · rw [if_neg up, if_neg up]
      exact (List.append_assoc _ _ _).symm

/-- The route of names ends where the names lead to. -/
theorem goal_ofNames
    (names : List String)
    (start : Location) :
    (ofNames names).goal start = start.along names := by
  have onwards :
      ∀ route : Route, (names.foldl step route).goal start = (route.goal start).along names := by
    induction names with
    | nil =>
        exact fun _ => rfl
    | cons name names inductionHypothesis =>
        intro route
        change (names.foldl step (route.step name)).goal start = _
        rw [inductionHypothesis, goal_step]
        rfl
  have atStart : (⟨0, []⟩ : Route).goal start = start := by
    rw [goal, Nat.sub_zero, List.take_length, List.append_nil]
  rw [ofNames, onwards, atStart]

/-- A route goes up only over names that go up. -/
theorem climbs_ofNames_eq_zero
    {names : List String}
    (level : ".." ∉ names) :
    (ofNames names).climbs = 0 := by
  have onwards :
      ∀ route : Route, route.climbs = 0 → (names.foldl step route).climbs = 0 := by
    induction names with
    | nil =>
        exact fun _ none => none
    | cons name names inductionHypothesis =>
        intro route none
        rw [List.mem_cons, not_or] at level
        refine inductionHypothesis level.2 (route.step name) ?_
        rw [step, if_neg (Ne.symm level.1)]
        split <;> exact none
  exact onwards ⟨0, []⟩ rfl

/-- A route stays below its start exactly if it goes down again along the names that it went up. -/
theorem prefix_goal_iff
    (route : Route)
    (start : Location) :
    start <+: route.goal start ↔
      start.drop (start.length - route.climbs) <+: route.names := by
  rw [goal]
  generalize start.length - route.climbs = kept
  have parts : start = start.take kept ++ start.drop kept := (List.take_append_drop kept start).symm
  nth_rewrite 1 [parts]
  exact List.prefix_append_right_inj _

end Route

namespace Path

/-- The location of a path from the root, with its dots resolved. -/
def resolved
    (path : String) :
    Location :=
  Location.along [] (splitText '/' path)

/-- Of a path below another one, the pieces come behind those of the other one. -/
theorem along_join
    {part : String}
    (relative : isRooted part = false)
    (start : Location)
    (base : String) :
    start.along (splitText '/' (join base part)) =
      (start.along (splitText '/' base)).along (splitText '/' part) := by
  have slash : "/".toList = ['/'] := by decide
  have unrooted : part.toList.head? ≠ some '/' := of_decide_eq_false relative
  rw [join, if_neg unrooted]
  split
  · rename_i ended
    rcases ended with rfl | ended
    · rw [String.empty_append]
      rfl
    · -- The slash at the end leaves an empty piece behind it, which stays where it is.
      obtain ⟨front, shape⟩ := List.getLast?_eq_some_iff.mp ended
      obtain rfl : base = String.ofList front ++ "/" := by
        rw [← String.toList_inj, shape, String.toList_append, String.toList_ofList, slash]
      have whole : String.ofList front ++ "/" = String.ofList front ++ "/" ++ "" :=
        (String.append_empty).symm
      rw [splitText_append_sign slash, whole, splitText_append_sign slash, Location.along_append,
        Location.along_append]
      rfl
  · rw [splitText_append_sign slash, Location.along_append]

/-- A path below one from the root is one from the root. -/
theorem isRooted_join
    {base part : String}
    (rooted : isRooted base = true) :
    isRooted (join base part) = true := by
  have starts : base.toList.head? = some '/' := of_decide_eq_true rooted
  have lengthened : ∀ rest : String, isRooted (base ++ rest) = true := by
    intro rest
    rw [isRooted, String.toList_append, List.head?_append, starts]
    rfl
  rw [join]
  split
  · rename_i partRooted
    exact decide_eq_true partRooted
  · split
    · exact lengthened part
    · rw [String.append_assoc]
      exact lengthened _

end Path

namespace FileTree

/-- Following names leads to the location of the names, and finds what stands there. -/
theorem along_of_follow
    {tree : FileTree}
    {names : List String}
    {start location : Location}
    {entry : Entry}
    (followed : tree.follow names start = .ok (.occupied location entry)) :
    location = start.along names ∧ tree.entry? location = some entry := by
  fun_induction FileTree.follow tree names start with
  | case1 start found present =>
      cases followed
      exact ⟨rfl, present⟩
  | case3 name names start staying inductionHypothesis =>
      have stays : start.step name = start := if_pos staying
      change location = (start.step name).along names ∧ _
      rw [stays]
      exact inductionHypothesis followed
  | case4 names start _ inductionHypothesis =>
      exact inductionHypothesis followed
  | case8 name names start notStaying notUp _ next _ inductionHypothesis =>
      have goesDown : start.step name = next := by
        rw [Location.step, if_neg notStaying, if_neg notUp]
      change location = (start.step name).along names ∧ _
      rw [goesDown]
      exact inductionHypothesis followed
  | case9 name start notStaying notUp _ next found _ present =>
      obtain ⟨rfl, rfl⟩ := Place.occupied.inj (Except.ok.inj followed)
      have goesDown : start.step name = start ++ [name] := by
        rw [Location.step, if_neg notStaying, if_neg notUp]
      exact ⟨goesDown.symm, present⟩
  -- In the other cases the names lead to no entry.
  | case2 | case5 | case6 | case7 | case10 =>
      cases followed

/-- What a path finds is what it leads to. -/
theorem locate_of_find
    {tree : FileTree}
    {here location : Location}
    {path : String}
    {entry : Entry}
    (found : tree.find here path = .ok (location, entry)) :
    tree.locate here path = .ok (.occupied location entry) := by
  obtain ⟨place, located, isEntry⟩ := Document.bind_eq_ok_iff.mp found
  cases place with
  | free other =>
      cases isEntry
  | occupied other entry =>
      cases isEntry
      exact located

/-- A path leads to the location of its pieces, from the root or from the directory in use. -/
theorem along_of_find
    {tree : FileTree}
    {here location : Location}
    {path : String}
    {entry : Entry}
    (found : tree.find here path = .ok (location, entry)) :
    location = Location.along (if Path.isRooted path then [] else here) (splitText '/' path) ∧
      tree.entry? location = some entry := by
  have located := locate_of_find found
  rw [locate] at located
  split at located
  · cases located
  · split at located
    · cases located
    · simp only at located
      split at located
      · exact along_of_follow located
      · cases located

/-- A path leads to a file exactly if a file is found there. -/
theorem isFile_eq_true_iff
    {tree : FileTree}
    {here : Location}
    {path : String} :
    tree.isFile here path = true ↔
      ∃ location content isExecutable,
        tree.find here path = .ok (location, .file content isExecutable) := by
  rw [isFile]
  split
  · rename_i location content isExecutable found
    exact iff_of_true rfl ⟨location, content, isExecutable, found⟩
  · rename_i noFile
    refine iff_of_false Bool.false_ne_true ?_
    rintro ⟨location, content, isExecutable, found⟩
    exact noFile location content isExecutable found

end FileTree

end BenchmarkOrchestration
