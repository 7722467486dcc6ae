import BenchmarkOrchestration.Files.Tree
import BenchmarkOrchestration.Proofs.Document.Results
import BenchmarkOrchestration.Proofs.Files.Route

namespace BenchmarkOrchestration

/-!
# Writing a file anew

A file that exists is written anew by putting another file at its location.  Every path leads where
it led before, and finds the new file there and the old entry at every other location.  So what is
written to a path is read from it, and nothing else changes.
-/

/-- A place with another entry at one location. -/
def Place.rewritten
    (location : Location)
    (entry : Entry) :
    Place → Place
  | .occupied other before => .occupied other (if other = location then entry else before)
  | .free other => .free other

namespace FileTree

/-- Looking up in a list after one location of it was given another entry. -/
theorem lookup_map_entry
    (entries : List (Location × Entry))
    (location other : Location)
    (entry : Entry) :
    (entries.map fun (l, e) => if l = location then (l, entry) else (l, e)).lookup other =
      (entries.lookup other).map fun before => if other = location then entry else before := by
  induction entries with
  | nil =>
      rfl
  | cons first rest inductionHypothesis =>
      obtain ⟨l, e⟩ := first
      rw [List.map_cons, List.lookup_cons]
      by_cases here : other = l
      · subst here
        by_cases atLocation : other = location
        · simp [atLocation]
        · simp [atLocation]
      · by_cases atLocation : l = location
        · simp [atLocation, List.lookup_cons, beq_eq_false_iff_ne.mpr (atLocation ▸ here),
            inductionHypothesis]
        · simp [atLocation, List.lookup_cons, beq_eq_false_iff_ne.mpr here, inductionHypothesis]

section

variable
  {tree : FileTree}
  {here location : Location}
  {path : String}
  {before after : ByteArray}
  {isExecutable : Bool}

/-- At the root there is a directory, so a file stands at a location of the list. -/
theorem lookup_of_file
    (present : tree.entry? location = some (.file before isExecutable)) :
    tree.entries.lookup location = some (.file before isExecutable) := by
  cases location with
  | nil =>
      cases present
  | cons name names =>
      exact present

/-- What is put in the place of a file takes its place in the list. -/
theorem put_of_file
    (present : tree.entry? location = some (.file before isExecutable))
    (entry : Entry) :
    tree.put location entry =
      ⟨tree.entries.map fun (l, e) => if l = location then (l, entry) else (l, e)⟩ := by
  have listed : (tree.entries.any fun (l, _) => l = location) = true := by
    obtain ⟨earlier, later, split, _⟩ := List.lookup_eq_some_iff.mp (lookup_of_file present)
    rw [split]
    simp
  rw [put, if_pos listed]

/-- What is put in the place of a file stands there, and any other location has what it had. -/
theorem entry_put
    (present : tree.entry? location = some (.file before isExecutable))
    (entry : Entry)
    (other : Location) :
    FileTree.entry? (tree.put location entry) other =
      (tree.entry? other).map fun found => if other = location then entry else found := by
  rw [put_of_file present]
  cases other with
  | nil =>
      have atRoot : [] ≠ location := by
        rintro rfl
        cases present
      change some Entry.directory = some (if [] = location then entry else .directory)
      rw [if_neg atRoot]
  | cons name names =>
      exact lookup_map_entry tree.entries location (name :: names) entry

/-- What is put in the place of a file replaces what was put there before. -/
theorem put_put
    (present : tree.entry? location = some (.file before isExecutable))
    (entry : Entry) :
    (tree.put location (.file after isExecutable)).put location entry =
      tree.put location entry := by
  have presentStill :
      FileTree.entry? (tree.put location (.file after isExecutable)) location =
        some (.file after isExecutable) := by
    rw [entry_put present, present, Option.map_some, if_pos rfl]
  rw [put_of_file presentStill, put_of_file present, put_of_file present, List.map_map]
  congr 2
  funext ⟨l, e⟩
  by_cases atLocation : l = location
  · simp [atLocation]
  · simp [atLocation]

/-- Names lead where they led, since a file gives way to a file. -/
theorem follow_put
    (present : tree.entry? location = some (.file before isExecutable))
    (names : List String)
    (start : Location) :
    (tree.put location (.file after isExecutable)).follow names start =
      (tree.follow names start).map (Place.rewritten location (.file after isExecutable)) := by
  have found := entry_put present (.file after isExecutable)
  induction names generalizing start with
  | nil =>
      rw [follow, follow, found]
      cases tree.entry? start <;> rfl
  | cons name names inductionHypothesis =>
      rw [follow, follow]
      by_cases staying : name = "" ∨ name = "."
      · rw [if_pos staying, if_pos staying, inductionHypothesis]
      rw [if_neg staying, if_neg staying]
      by_cases up : name = ".."
      · rw [if_pos up, if_pos up, inductionHypothesis]
      rw [if_neg up, if_neg up]
      by_cases tooLong : maxNameLength < name.utf8ByteSize
      · rw [if_pos tooLong, if_pos tooLong]
        rfl
      rw [if_neg tooLong, if_neg tooLong]
      dsimp only
      rw [found]
      cases held : tree.entry? (start ++ [name]) with
      | none =>
          cases names <;> rfl
      | some entry =>
          rw [Option.map_some]
          by_cases here : start ++ [name] = location
          · rw [here, present, Option.some.injEq] at held
            subst held
            rw [if_pos here]
            cases names with
            | nil => simp [Except.map, Place.rewritten, here]
            | cons second names => rfl
          · rw [if_neg here]
            cases entry with
            | directory =>
                exact inductionHypothesis (start ++ [name])
            | file | sink =>
                cases names with
                | nil => simp [Except.map, Place.rewritten, here]
                | cons second names => rfl

/-- A path leads where it led. -/
theorem locate_put
    (present : tree.entry? location = some (.file before isExecutable))
    (here : Location)
    (path : String) :
    (tree.put location (.file after isExecutable)).locate here path =
      (tree.locate here path).map (Place.rewritten location (.file after isExecutable)) := by
  rw [locate, locate]
  by_cases hasNul : path.toList.contains '\x00' = true
  · rw [if_pos hasNul, if_pos hasNul]
    rfl
  rw [if_neg hasNul, if_neg hasNul]
  by_cases empty : path = ""
  · rw [if_pos empty, if_pos empty]
    rfl
  rw [if_neg empty, if_neg empty]
  dsimp only
  rw [entry_put present]
  generalize (if Path.isRooted path = true then [] else here) = start
  cases held : tree.entry? start with
  | none =>
      rfl
  | some entry =>
      rw [Option.map_some]
      by_cases atLocation : start = location
      · rw [atLocation, present, Option.some.injEq] at held
        subst held
        rw [if_pos atLocation]
        rfl
      · rw [if_neg atLocation]
        cases entry with
        | directory =>
            exact follow_put present (splitText '/' path) start
        | file | sink =>
            rfl

/-- A path finds the new file at its location, and what it found at any other. -/
theorem find_put
    (present : tree.entry? location = some (.file before isExecutable))
    (here : Location)
    (path : String) :
    (tree.put location (.file after isExecutable)).find here path =
      (tree.find here path).map fun (other, found) =>
        (other, if other = location then .file after isExecutable else found) := by
  rw [find, find, locate_put present]
  cases tree.locate here path with
  | error fault =>
      rfl
  | ok place =>
      cases place <;> rfl

/-- A file that is found is read. -/
theorem read_of_find
    (found : tree.find here path = .ok (location, .file before isExecutable)) :
    tree.read here path = .ok before := by
  rw [read, found]
  rfl

/-- A file that is found is written in its place. -/
theorem write_of_find
    (found : tree.find here path = .ok (location, .file before isExecutable)) :
    tree.write here path after = .ok (tree.put location (.file after isExecutable)) := by
  rw [write, locate_of_find found]
  rfl

/-- A file that is found is lengthened in its place. -/
theorem append_of_find
    (found : tree.find here path = .ok (location, .file before isExecutable)) :
    tree.append here path after =
      .ok (tree.put location (.file (before ++ after) isExecutable)) := by
  rw [append, found]
  rfl

end

end FileTree

end BenchmarkOrchestration
