import BenchmarkOrchestration.Text.Octets

namespace BenchmarkOrchestration.Interpreter

/-!
# Patterns

A pattern is a list of symbols: a fixed character, any one character, a character of a set, or any
text.  Patterns select the arm of a case, name files, and say what is cut from a parameter.
-/

/-- A set of characters by ranges. -/
structure CharSet where
  negated : Bool
  ranges : List (Char × Char)
  deriving Repr, DecidableEq

namespace CharSet

/-- Whether a character belongs to the set. -/
def contains
    (set : CharSet)
    (c : Char) :
    Bool :=
  (set.ranges.any fun (low, high) => low ≤ c && c ≤ high) != set.negated

end CharSet

/-- One symbol of a pattern. -/
inductive Symbol where
  | exact (c : Char)
  | any
  | oneOf (set : CharSet)
  | many
  deriving Repr, DecidableEq

namespace Pattern

/-- The ranges of a named class of characters. -/
def classRanges? : List Char → Option (List (Char × Char))
  | ['a', 'l', 'p', 'h', 'a'] => some [('a', 'z'), ('A', 'Z')]
  | ['d', 'i', 'g', 'i', 't'] => some [('0', '9')]
  | ['a', 'l', 'n', 'u', 'm'] => some [('a', 'z'), ('A', 'Z'), ('0', '9')]
  | ['u', 'p', 'p', 'e', 'r'] => some [('A', 'Z')]
  | ['l', 'o', 'w', 'e', 'r'] => some [('a', 'z')]
  | ['s', 'p', 'a', 'c', 'e'] => some [('\t', '\r'), (' ', ' ')]
  | ['b', 'l', 'a', 'n', 'k'] => some [('\t', '\t'), (' ', ' ')]
  | ['p', 'u', 'n', 'c', 't'] => some [('!', '/'), (':', '@'), ('[', '\x60'), ('\x7b', '~')]
  | ['x', 'd', 'i', 'g', 'i', 't'] => some [('0', '9'), ('a', 'f'), ('A', 'F')]
  | ['p', 'r', 'i', 'n', 't'] => some [(' ', '~')]
  | ['g', 'r', 'a', 'p', 'h'] => some [('!', '~')]
  | ['c', 'n', 't', 'r', 'l'] => some [('\x00', '\x1f'), ('\x7f', '\x7f')]
  | _ => none

/-- The ranges of a bracket expression up to its closing bracket, and the text after it. -/
def bracketRanges : (fuel : Nat) → (isFirst : Bool) → List Char →
    Option (List (Char × Char) × List Char)
  | 0, _, _ => none
  | _ + 1, _, [] => none
  | fuel + 1, isFirst, c :: rest =>
      if c = ']' ∧ !isFirst then
        some ([], rest)
      else
        match c, rest with
        | '[', ':' :: named =>
            let name := named.takeWhile (· ≠ ':')
            match classRanges? name, named.drop name.length with
            | some ranges, ':' :: ']' :: rest => do
                let (others, rest) ← bracketRanges fuel false rest
                some (ranges ++ others, rest)
            | _, _ => none
        | low, '-' :: high :: after =>
            if high = ']' then do
              let (others, rest) ← bracketRanges fuel false rest
              some ((low, low) :: others, rest)
            else do
              let (others, rest) ← bracketRanges fuel false after
              some ((low, high) :: others, rest)
        | c, rest => do
            let (others, rest) ← bracketRanges fuel false rest
            some ((c, c) :: others, rest)

/-- The set of a bracket expression that begins after its opening bracket. -/
def bracket?
    (text : List Char) :
    Option (CharSet × List Char) := do
  let (negated, text) :=
    match text with
    | '!' :: rest => (true, rest)
    | '^' :: rest => (true, rest)
    | _ => (false, text)
  let (ranges, rest) ← bracketRanges (text.length + 1) true text
  some (⟨negated, ranges⟩, rest)

/-- The pattern of characters that are marked as quoted or not; quoted ones stand for themselves. -/
def ofMarked : (fuel : Nat) → List (Char × Bool) → List Symbol
  | 0, _ => []
  | _ + 1, [] => []
  | fuel + 1, (c, isQuoted) :: rest =>
      if isQuoted then
        .exact c :: ofMarked fuel rest
      else if c = '*' then
        .many :: ofMarked fuel rest
      else if c = '?' then
        .any :: ofMarked fuel rest
      else if c = '[' then
        match bracket? (rest.map Prod.fst) with
        | some (set, after) =>
            .oneOf set :: ofMarked fuel (rest.drop (rest.length - after.length))
        | none => .exact c :: ofMarked fuel rest
      else
        .exact c :: ofMarked fuel rest

/-- The text and what is left of it after any number of its first characters. -/
def remainders : List Char → List (List Char)
  | [] => [[]]
  | c :: text => (c :: text) :: remainders text

/-- Whether a pattern matches the whole of a text. -/
def accepts : List Symbol → List Char → Bool
  | [], text => text.isEmpty
  | .exact c :: pattern, text =>
      match text with
      | d :: text => c = d && accepts pattern text
      | [] => false
  | .any :: pattern, text =>
      match text with
      | _ :: text => accepts pattern text
      | [] => false
  | .oneOf set :: pattern, text =>
      match text with
      | d :: text => set.contains d && accepts pattern text
      | [] => false
  | .many :: pattern, text => (remainders text).any (accepts pattern)

/-- Whether a pattern has a symbol that is no fixed character. -/
def hasWildcard
    (pattern : List Symbol) :
    Bool :=
  pattern.any fun
    | .exact _ => false
    | _ => true

/-- The lengths of the initial parts of a text that a pattern matches, in ascending order. -/
def initialLengths
    (pattern : List Symbol)
    (text : List Char) :
    List Nat :=
  (List.range (text.length + 1)).filter fun n => accepts pattern (text.take n)

/-- The lengths of the final parts of a text that a pattern matches, in ascending order. -/
def finalLengths
    (pattern : List Symbol)
    (text : List Char) :
    List Nat :=
  (List.range (text.length + 1)).filter fun n => accepts pattern (text.drop (text.length - n))

end Pattern

end BenchmarkOrchestration.Interpreter
