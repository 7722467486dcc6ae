import BenchmarkOrchestration.Interpreter.Pattern
import BenchmarkOrchestration.Interpreter.Tool.Call

namespace BenchmarkOrchestration.Interpreter

/-!
# Fields

A word becomes a list of fields.  Its parameters and outputs are put in first; where these are not
quoted, the separators among them divide fields.  A field with wildcards then stands for the paths
that it matches, if there are any.
-/

/-- One mark of a word after its parts were put in. -/
inductive Mark where
  | char (c : Char) (isQuoted canSplit : Bool)
  | present
  | absent
  | separate
  deriving Repr, DecidableEq

namespace Mark

/-- The marks of a text that is neither split nor read as a pattern. -/
def quoted
    (text : Octets) :
    List Mark :=
  .present :: text.map fun c => .char c true false

/-- The marks of a text that is split and read as a pattern. -/
def bare
    (text : Octets) :
    List Mark :=
  text.map fun c => .char c false true

/-- The same mark, which can split if it is not quoted. -/
def splitting : Mark → Mark
  | .char c false _ => .char c false true
  | mark => mark

/-- The characters of marks with their quotation, where fields are not divided. -/
def characters
    (marks : List Mark) :
    List (Char × Bool) :=
  marks.filterMap fun
    | .char c isQuoted _ => some (c, isQuoted)
    | .separate => some (' ', true)
    | .present => none
    | .absent => none

/-- The text of marks, where fields are not divided. -/
def text
    (marks : List Mark) :
    Octets :=
  (characters marks).map Prod.fst

/-- The pattern of marks. -/
def pattern
    (marks : List Mark) :
    List Symbol :=
  let marked := characters marks
  Pattern.ofMarked (marked.length + 1) marked

end Mark

namespace Fields

/-- The separators of fields when none are set. -/
def defaultSeparators : Octets :=
  [' ', '\t', '\n']

/-- Whether a separator is a blank, which never makes empty fields. -/
def isBlankSeparator
    (c : Char) :
    Bool :=
  c = ' ' || c = '\t' || c = '\n'

/-- A field with the quotation of its characters. -/
abbrev Field := List (Char × Bool)

/--
Divide marks into fields.  `current` is the field that has begun, in reverse, and `afterBlank`
tells whether the last field was ended by a blank, which then belongs to a separator behind it.
-/
def divide
    (separators : Octets) :
    (current : Option Field) → (afterBlank : Bool) → List Mark → List Field
  | none, _, [] => []
  | some field, _, [] => [field.reverse]
  | current, afterBlank, .present :: rest =>
      divide separators (some (current.getD [])) afterBlank rest
  | some [], afterBlank, .absent :: rest => divide separators none afterBlank rest
  | current, afterBlank, .absent :: rest => divide separators current afterBlank rest
  | none, _, .separate :: rest => divide separators none false rest
  | some field, _, .separate :: rest => field.reverse :: divide separators none false rest
  | current, afterBlank, .char c isQuoted canSplit :: rest =>
      if canSplit ∧ !isQuoted ∧ separators.contains c then
        match current with
        | some field => field.reverse :: divide separators none (isBlankSeparator c) rest
        | none =>
            if isBlankSeparator c then divide separators none afterBlank rest
            else if afterBlank then divide separators none false rest
            else [] :: divide separators none false rest
      else
        divide separators (some ((c, isQuoted) :: current.getD [])) false rest

/-- Take a number of fields for variables; the last one takes all that is left. -/
def assignable
    (separators : Octets) :
    (count : Nat) → List (Char × Bool) → List Octets
  | 0, _ => []
  | count + 1, text =>
      let isSeparator := fun (c : Char × Bool) => !c.2 && separators.contains c.1
      let isBlank := fun (c : Char × Bool) => isSeparator c && isBlankSeparator c.1
      let text := text.dropWhile isBlank
      if count = 0 then
        [((text.reverse.dropWhile isBlank).reverse).map Prod.fst]
      else
        let field := text.takeWhile fun c => !isSeparator c
        let rest := (text.drop field.length).dropWhile isBlank
        let rest :=
          match rest with
          | c :: others => if isSeparator c then others else rest
          | [] => []
        field.map Prod.fst :: assignable separators count rest

/-- A text in the order of its bytes. -/
def inOrder
    (paths : List Octets) :
    List Octets :=
  paths.mergeSort fun a b => decide (String.ofList a ≤ String.ofList b)

/-- The names in a directory that a pattern matches; hidden ones only if it names their dot. -/
def namesMatching
    (tree : FileTree)
    (location : Location)
    (pattern : List Symbol) :
    List String :=
  (tree.namesIn location).filter fun name =>
    let text := Octets.ofText name
    Pattern.accepts pattern text && (text.head? ≠ some '.' || pattern.head? = some (.exact '.'))

/-- The components of a field between its slashes. -/
def components :
    Field → List Field
  | [] => [[]]
  | (c, isQuoted) :: rest =>
      match components rest with
      | first :: others =>
          if c = '/' then [] :: first :: others else ((c, isQuoted) :: first) :: others
      | [] => [[(c, isQuoted)]]

/-- The paths below a written start that match components. -/
def pathsMatching
    (tree : FileTree)
    (here : Location) :
    (components : List Field) → (start : Octets) → List Octets
  | [], _ => []
  | component :: rest, start =>
      let pattern := Pattern.ofMarked (component.length + 1) component
      let path := if start.isEmpty then ['.'] else start
      let names :=
        if Pattern.hasWildcard pattern then
          match tree.find here (Octets.toText path) with
          | .ok (location, .directory) =>
              inOrder ((namesMatching tree location pattern).map Octets.ofText)
          | _ => []
        else
          [component.map Prod.fst]
      names.flatMap fun name =>
        let reached := start ++ name
        match rest with
        | [] =>
            if (tree.find here (Octets.toText reached)).toOption.isSome then [reached] else []
        | _ => pathsMatching tree here rest (reached ++ ['/'])

/-- The texts for which a field stands. -/
def expandPaths
    (tree : FileTree)
    (here : Location)
    (field : Field) :
    List Octets :=
  let plain := field.map Prod.fst
  if Pattern.hasWildcard (Pattern.ofMarked (field.length + 1) field) then
    match pathsMatching tree here (components field) [] with
    | [] => [plain]
    | paths => paths
  else
    [plain]

end Fields

end BenchmarkOrchestration.Interpreter
