import BenchmarkOrchestration.Interpreter.Pattern

namespace BenchmarkOrchestration.Interpreter

/-!
# Regular expressions

A regular expression is matched at every place of a line; from each place it leads to the places at
which a match can end, and to the parts that its groups take on the way.  Repetition stops when it
reaches no new place.
-/

/-- A regular expression over characters. -/
inductive Regex where
  | nothing
  | oneOf (set : CharSet)
  | lineStart
  | lineEnd
  | sequence (first second : Regex)
  | either (first second : Regex)
  | repeated (body : Regex) (least : Nat) (most : Option Nat)
  | group (index : Nat) (body : Regex)
  deriving Repr

namespace Regex

/-- A fixed character. -/
def char
    (c : Char) :
    Regex :=
  .oneOf ⟨false, [(c, c)]⟩

/-- A match that has come to a place, and the groups that it has gone through, latest first. -/
structure Match where
  stop : Nat
  groups : List (Nat × Nat × Nat)
  deriving Repr, DecidableEq

/-- Of the matches that end at the same place only the first. -/
def distinct
    (found : List Match) :
    List Match :=
  found.foldl
    (fun kept one => if kept.any fun other => other.stop = one.stop then kept else kept ++ [one]) []

/-- The matches that a step reaches from some matches, applied again and again. -/
def closure
    (step : Match → List Match) :
    (fuel : Nat) → (reached new : List Match) → List Match
  | 0, reached, _ => reached
  | fuel + 1, reached, new =>
      let next := (distinct (new.flatMap step)).filter fun one =>
        !reached.any fun other => other.stop = one.stop
      if next.isEmpty then
        reached
      else
        closure step fuel (reached ++ next) next

/-- The matches that a step reaches when it is applied a number of times. -/
def iterate
    (step : Match → List Match) :
    (count : Nat) → List Match → List Match
  | 0, found => found
  | count + 1, found => iterate step count (distinct (found.flatMap step))

/-- The matches that a step reaches when it is applied at most a number of times. -/
def iterateUpTo
    (step : Match → List Match) :
    (count : Nat) → List Match → List Match
  | 0, found => found
  | count + 1, found => distinct (found ++ iterateUpTo step count (found.flatMap step))

/-- The ways in which a match can go on through a regular expression. -/
def continuations
    (chars : Array Char) :
    Regex → Match → List Match
  | .nothing, before => [before]
  | .oneOf set, before =>
      match chars[before.stop]? with
      | some c => if set.contains c then [{ before with stop := before.stop + 1 }] else []
      | none => []
  | .lineStart, before => if before.stop = 0 then [before] else []
  | .lineEnd, before => if before.stop = chars.size then [before] else []
  | .sequence first second, before =>
      distinct ((continuations chars first before).flatMap (continuations chars second))
  | .either first second, before =>
      distinct (continuations chars first before ++ continuations chars second before)
  | .repeated body least most, before =>
      let step := continuations chars body
      let reached := iterate step least [before]
      match most with
      | none => closure step (chars.size + 1) reached reached
      | some most => iterateUpTo step (most - least) reached
  | .group index body, before =>
      (continuations chars body before).map fun after =>
        { after with groups := (index, before.stop, after.stop) :: after.groups }

/-- The places at which a match can end that begins at a place of a line. -/
def ends
    (chars : Array Char)
    (regex : Regex)
    (start : Nat) :
    List Nat :=
  (continuations chars regex ⟨start, []⟩).map Match.stop

/-- The longest match that begins at a place. -/
def longest?
    (regex : Regex)
    (line : Array Char)
    (start : Nat) :
    Option Match :=
  (continuations line regex ⟨start, []⟩).foldl
    (fun best one =>
      match best with
      | some other => if other.stop < one.stop then some one else best
      | none => some one)
    none

/-- Whether a line has a match anywhere. -/
def matchesIn
    (regex : Regex)
    (line : Array Char) :
    Bool :=
  (List.range (line.size + 1)).any fun start => !(regex.ends line start).isEmpty

/-- The regular expression of fixed characters. -/
def literal : List Char → Regex
  | [] => .nothing
  | c :: rest => .sequence (char c) (literal rest)

/-- A token of a regular expression: a character with or without special meaning, or a set. -/
inductive Token where
  | plain (c : Char)
  | special (c : Char)
  | set (set : CharSet)
  deriving Repr, DecidableEq

/--
The tokens of a regular expression.  In the extended form some characters are special by
themselves, in the basic form behind a backslash.
-/
def tokens : (fuel : Nat) → (isExtended : Bool) → List Char → List Token
  | 0, _, _ => []
  | _ + 1, _, [] => []
  | fuel + 1, isExtended, '\\' :: c :: rest =>
      let special := !isExtended && c ∈ ['(', ')', '|', '+', '?', '\x7b', '\x7d']
      (if special then .special c else .plain c) :: tokens fuel isExtended rest
  | fuel + 1, isExtended, '[' :: rest =>
      match Pattern.bracket? rest with
      | some (set, rest) => .set set :: tokens fuel isExtended rest
      | none => .plain '[' :: tokens fuel isExtended rest
  | fuel + 1, isExtended, c :: rest =>
      let special :=
        c ∈ ['.', '*', '^', '$'] ||
          (isExtended && c ∈ ['(', ')', '|', '+', '?', '\x7b', '\x7d'])
      (if special then .special c else .plain c) :: tokens fuel isExtended rest

/-- The bounds of a repetition up to its closing brace. -/
def bounds?
    (text : List Token) :
    Option ((Nat × Option Nat) × List Token) :=
  let inner := text.takeWhile (· ≠ .special '\x7d')
  match text.drop inner.length with
  | [] => none
  | _ :: rest =>
      let chars := inner.filterMap fun
        | .plain c => some c
        | _ => none
      let least := chars.takeWhile (· ≠ ',')
      match chars.drop least.length with
      | [] => (Octets.nat? least).map fun n => ((n, some n), rest)
      | _ :: most =>
          let least := (Octets.nat? least).getD 0
          if most.isEmpty then some ((least, none), rest)
          else (Octets.nat? most).map fun n => ((least, some n), rest)

mutual

/-- Alternatives up to a closing parenthesis or the end. -/
def alternatives : (fuel : Nat) → List Token → Regex × List Token
  | 0, rest => (.nothing, rest)
  | fuel + 1, text =>
      let (first, rest) := branch fuel true text
      match rest with
      | .special '|' :: rest =>
          let (others, rest) := alternatives fuel rest
          (.either first others, rest)
      | _ => (first, rest)

/-- One alternative; at its start a star is a plain character and a caret begins the line. -/
def branch : (fuel : Nat) → (isFirst : Bool) → List Token → Regex × List Token
  | 0, _, rest => (.nothing, rest)
  | fuel + 1, isFirst, text =>
      match text with
      | [] => (.nothing, [])
      | .special ')' :: _ => (.nothing, text)
      | .special '|' :: _ => (.nothing, text)
      | token :: rest =>
          let (atom, rest) :=
            match token with
            | .plain c => (char c, rest)
            | .set set => (.oneOf set, rest)
            | .special '.' => (.oneOf ⟨true, []⟩, rest)
            | .special '^' => (if isFirst then .lineStart else char '^', rest)
            | .special '$' =>
                match rest with
                | [] => (.lineEnd, rest)
                | .special ')' :: _ => (.lineEnd, rest)
                | .special '|' :: _ => (.lineEnd, rest)
                | _ => (char '$', rest)
            | .special '(' =>
                let (inner, rest) := alternatives fuel rest
                (.group 0 inner, rest.drop 1)
            | .special c => (char c, rest)
          let canRepeat := !(token = .special '^' && isFirst)
          let (atom, rest) :=
            if canRepeat then repetitions fuel atom rest else (atom, rest)
          let (others, rest) := branch fuel (!canRepeat) rest
          (.sequence atom others, rest)

/-- The repetition marks that follow an atom. -/
def repetitions : (fuel : Nat) → Regex → List Token → Regex × List Token
  | 0, atom, rest => (atom, rest)
  | fuel + 1, atom, text =>
      match text with
      | .special '*' :: rest => repetitions fuel (.repeated atom 0 none) rest
      | .special '+' :: rest => repetitions fuel (.repeated atom 1 none) rest
      | .special '?' :: rest => repetitions fuel (.repeated atom 0 (some 1)) rest
      | .special '\x7b' :: rest =>
          match bounds? rest with
          | some ((least, most), rest) => repetitions fuel (.repeated atom least most) rest
          | none => (atom, text)
      | _ => (atom, text)

end

/-- The same expression with its groups numbered from left to right, and the next number. -/
def numbered : (next : Nat) → Regex → Regex × Nat
  | next, .sequence first second =>
      let (first, next) := numbered next first
      let (second, next) := numbered next second
      (.sequence first second, next)
  | next, .either first second =>
      let (first, next) := numbered next first
      let (second, next) := numbered next second
      (.either first second, next)
  | next, .repeated body least most =>
      let (body, next) := numbered next body
      (.repeated body least most, next)
  | next, .group _ body =>
      let (body, after) := numbered (next + 1) body
      (.group next body, after)
  | next, other => (other, next)

/-- The regular expression that a text writes. -/
def ofText
    (isExtended : Bool)
    (text : List Char) :
    Regex :=
  let found := tokens (text.length + 1) isExtended text
  (numbered 1 (alternatives (4 * found.length + 4) found).1).1

end Regex

end BenchmarkOrchestration.Interpreter
