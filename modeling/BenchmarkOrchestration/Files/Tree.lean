import BenchmarkOrchestration.Files.Path
import BenchmarkOrchestration.Text.Utf8

namespace BenchmarkOrchestration

/-!
# Files and directories

A tree assigns an entry to locations, which are lists of names from the root.  A path is followed
name by name, from the root or from a directory in use; every name but the last must lead to a
directory.  Whatever cannot be followed, read or written has a fault with the message of the
operating system.
-/

/-- Why a path cannot be used. -/
inductive FileFault where
  | notFound
  | notPermitted
  | notExecutable
  | isPresent
  | notDirectory
  | isDirectory
  | nameTooLong
  | notEmpty
  | notText
  | nulInPath
  deriving Repr, DecidableEq

namespace FileFault

/-- The short text of a fault, as programs of the system print it. -/
def shortText : FileFault → String
  | .notFound => "No such file or directory"
  | .notPermitted => "Permission denied"
  | .notExecutable => "Exec format error"
  | .isPresent => "File exists"
  | .notDirectory => "Not a directory"
  | .isDirectory => "Is a directory"
  | .nameTooLong => "File name too long"
  | .notEmpty => "Directory not empty"
  | .notText => "stream did not contain valid UTF-8"
  | .nulInPath => "file name contained an unexpected NUL byte"

/-- The number that the operating system gives a fault. -/
def number? : FileFault → Option Nat
  | .notFound => some 2
  | .notExecutable => some 8
  | .notPermitted => some 13
  | .isPresent => some 17
  | .notDirectory => some 20
  | .isDirectory => some 21
  | .nameTooLong => some 36
  | .notEmpty => some 39
  | .notText => none
  | .nulInPath => none

/-- The text of a fault in messages, with its number. -/
def message
    (fault : FileFault) :
    String :=
  match fault.number? with
  | some number => s!"{fault.shortText} (os error {number})"
  | none => fault.shortText

end FileFault

/-- What stands at a location.  A sink takes everything that is written and holds nothing. -/
inductive Entry where
  | directory
  | file (content : ByteArray) (isExecutable : Bool)
  | sink

namespace Entry

/-- Whether an entry is a directory. -/
def isDirectory : Entry → Bool
  | .directory => true
  | _ => false

/-- Whether two entries are of one kind, with the same bytes and permission. -/
def isSame : Entry → Entry → Bool
  | .directory, .directory => true
  | .file first canRunFirst, .file second canRunSecond =>
      first.data = second.data && canRunFirst = canRunSecond
  | .sink, .sink => true
  | _, _ => false

end Entry

/-- The names from the root to an entry. -/
abbrev Location := List String

/-- The entries below the root, which itself is a directory. -/
structure FileTree where
  entries : List (Location × Entry)

/-- Where a path leads: to an entry, or to a free name in a directory. -/
inductive Place where
  | occupied (location : Location) (entry : Entry)
  | free (location : Location)

namespace FileTree

/-- The tree with nothing but the entries that every system has. -/
def bare : FileTree where
  entries :=
    [ (["dev"], .directory),
      (["dev", "null"], .sink),
      (["tmp"], .directory),
      (["bin"], .directory),
      (["bin", "sh"], .file ByteArray.empty true),
      (["usr"], .directory),
      (["usr", "bin"], .directory),
      (["usr", "bin", "env"], .file ByteArray.empty true) ]

/-- The entry at a location. -/
def entry?
    (tree : FileTree)
    (location : Location) :
    Option Entry :=
  match location with
  | [] => some .directory
  | _ => tree.entries.lookup location

/-- Put an entry at a location. -/
def put
    (tree : FileTree)
    (location : Location)
    (entry : Entry) :
    FileTree where
  entries :=
    if tree.entries.any fun (l, _) => l = location then
      tree.entries.map fun (l, e) => if l = location then (l, entry) else (l, e)
    else
      tree.entries ++ [(location, entry)]

/-- Remove the entry at a location and everything below it. -/
def remove
    (tree : FileTree)
    (location : Location) :
    FileTree where
  entries := tree.entries.filter fun (l, _) => !location.isPrefixOf l

/-- The names in a directory. -/
def namesIn
    (tree : FileTree)
    (location : Location) :
    List String :=
  tree.entries.filterMap fun (l, _) =>
    match Affix.dropStart? location l with
    | some [name] => some name
    | _ => none

/-- The longest name that an entry may have, in bytes. -/
def maxNameLength : Nat := 255

/-- Follow names from a location that holds a directory. -/
def follow
    (tree : FileTree) :
    (names : List String) → (location : Location) → Except FileFault Place
  | [], location =>
      match tree.entry? location with
      | some entry => .ok (.occupied location entry)
      | none => .error .notFound
  | name :: names, location =>
      if name = "" ∨ name = "." then
        follow tree names location
      else if name = ".." then
        follow tree names location.dropLast
      else if maxNameLength < name.utf8ByteSize then
        .error .nameTooLong
      else
        let next := location ++ [name]
        match tree.entry? next, names with
        | none, [] => .ok (.free next)
        | none, _ :: _ => .error .notFound
        | some .directory, _ => follow tree names next
        | some entry, [] => .ok (.occupied next entry)
        | some _, _ :: _ => .error .notDirectory

/-- Where a path leads, from a directory in use. -/
def locate
    (tree : FileTree)
    (here : Location)
    (path : String) :
    Except FileFault Place :=
  if path.toList.contains '\x00' then
    .error .nulInPath
  else if path = "" then
    .error .notFound
  else
    let start := if Path.isRooted path then [] else here
    match tree.entry? start with
    | some .directory => follow tree (splitText '/' path) start
    | _ => .error .notFound

/-- The entry to which a path leads. -/
def find
    (tree : FileTree)
    (here : Location)
    (path : String) :
    Except FileFault (Location × Entry) := do
  match ← tree.locate here path with
  | .occupied location entry => .ok (location, entry)
  | .free _ => .error .notFound

/-- Whether a path leads to a directory. -/
def isDirectory
    (tree : FileTree)
    (here : Location)
    (path : String) :
    Bool :=
  match tree.find here path with
  | .ok (_, .directory) => true
  | _ => false

/-- Whether a path leads to a file. -/
def isFile
    (tree : FileTree)
    (here : Location)
    (path : String) :
    Bool :=
  match tree.find here path with
  | .ok (_, .file ..) => true
  | _ => false

/-- The content of the file to which a path leads. -/
def read
    (tree : FileTree)
    (here : Location)
    (path : String) :
    Except FileFault ByteArray := do
  match (← tree.find here path).2 with
  | .file content _ => .ok content
  | .sink => .ok ByteArray.empty
  | .directory => .error .isDirectory

/-- The content of a file that must be text. -/
def readText
    (tree : FileTree)
    (here : Location)
    (path : String) :
    Except FileFault String := do
  match Utf8.decode? (← tree.read here path) with
  | some text => .ok text
  | none => .error .notText

/-- Write a file, which is made if it is new and keeps its permission if not. -/
def write
    (tree : FileTree)
    (here : Location)
    (path : String)
    (content : ByteArray) :
    Except FileFault FileTree := do
  match ← tree.locate here path with
  | .free location => .ok (tree.put location (.file content false))
  | .occupied location (.file _ isExecutable) =>
      .ok (tree.put location (.file content isExecutable))
  | .occupied _ .sink => .ok tree
  | .occupied _ .directory => .error .isDirectory

/-- Add content at the end of a file that exists. -/
def append
    (tree : FileTree)
    (here : Location)
    (path : String)
    (content : ByteArray) :
    Except FileFault FileTree := do
  match ← tree.find here path with
  | (location, .file before isExecutable) =>
      .ok (tree.put location (.file (before ++ content) isExecutable))
  | (_, .sink) => .ok tree
  | (_, .directory) => .error .isDirectory

/-- Make the directories of a list of names that do not exist yet. -/
def makeDirectories
    (tree : FileTree) :
    (names : List String) → (location : Location) → FileTree
  | [], _ => tree
  | name :: names, location =>
      if name = "" ∨ name = "." then
        makeDirectories tree names location
      else if name = ".." then
        makeDirectories tree names location.dropLast
      else
        let next := location ++ [name]
        match tree.entry? next with
        | none => makeDirectories (tree.put next .directory) names next
        | some _ => makeDirectories tree names next

/-- Make the directory of a path and all directories above it. -/
def makePath
    (tree : FileTree)
    (here : Location)
    (path : String) :
    FileTree :=
  tree.makeDirectories (splitText '/' path) (if Path.isRooted path then [] else here)

/-- Remove what a path leads to, with everything below it. -/
def removePath
    (tree : FileTree)
    (here : Location)
    (path : String) :
    FileTree :=
  match tree.find here path with
  | .ok (location, _) => tree.remove location
  | .error _ => tree

end FileTree

end BenchmarkOrchestration
