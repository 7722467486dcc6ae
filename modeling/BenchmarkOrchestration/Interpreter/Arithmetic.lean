import BenchmarkOrchestration.Text.Octets

namespace BenchmarkOrchestration.Interpreter

/-!
# Arithmetic

Expressions are computed in signed words of 64 bits.  Names stand for the numbers of variables, and
variables can be assigned.  An operand that does not decide the result is read without effect.
-/

namespace Arithmetic

/-- The signed word of 64 bits that is congruent to an integer. -/
def wrap
    (value : Int) :
    Int :=
  Int.bmod value (Nat.pow 2 64)

/-- An operator between two operands. -/
inductive Operator where
  | or
  | and
  | bitOr
  | bitXor
  | bitAnd
  | equal
  | unequal
  | lessEqual
  | greaterEqual
  | less
  | greater
  | shiftLeft
  | shiftRight
  | add
  | subtract
  | multiply
  | divide
  | remainder
  deriving Repr, DecidableEq

/-- The operators of each level, the weakest level first; longer spellings come before shorter. -/
def levels : List (List (String × Operator)) :=
  [ [("||", .or)],
    [("&&", .and)],
    [("|", .bitOr)],
    [("^", .bitXor)],
    [("&", .bitAnd)],
    [("==", .equal), ("!=", .unequal)],
    [("<=", .lessEqual), (">=", .greaterEqual), ("<", .less), (">", .greater)],
    [("<<", .shiftLeft), (">>", .shiftRight)],
    [("+", .add), ("-", .subtract)],
    [("*", .multiply), ("/", .divide), ("%", .remainder)] ]

/-- Skip white space. -/
def skip
    (text : List Char) :
    List Char :=
  text.dropWhile fun c => c = ' ' || c = '\t' || c = '\n'

/-- Longer operators that begin with the spelling of a shorter one. -/
def isPartOfLonger
    (spelling : String)
    (after : List Char) :
    Bool :=
  match spelling, after with
  | "|", '|' :: _ => true
  | "&", '&' :: _ => true
  | "<", '<' :: _ => true
  | ">", '>' :: _ => true
  | "==", _ => false
  | "!=", _ => false
  | "<=", _ => false
  | ">=", _ => false
  | "||", _ => false
  | "&&", _ => false
  | _, '=' :: _ => true
  | _, _ => false

/-- The operator of a level that stands next. -/
def operator? :
    List (String × Operator) → List Char → Option (Operator × List Char)
  | [], _ => none
  | (spelling, operator) :: others, text =>
      let after := text.drop spelling.length
      if spelling.toList.isPrefixOf text && !isPartOfLonger spelling after then
        some (operator, after)
      else
        operator? others text

/-- The number one for true and zero for false. -/
def ofBool
    (condition : Bool) :
    Int :=
  if condition then 1 else 0

/-- The unsigned word of 64 bits of a signed one. -/
def word
    (value : Int) :
    Nat :=
  (value % (Nat.pow 2 64 : Nat)).toNat

/-- The result of an operator. -/
def apply
    (operator : Operator)
    (x y : Int) :
    Except String Int :=
  match operator with
  | .or => .ok (ofBool (x ≠ 0 || y ≠ 0))
  | .and => .ok (ofBool (x ≠ 0 && y ≠ 0))
  | .bitOr => .ok (wrap (word x ||| word y : Nat))
  | .bitXor => .ok (wrap (word x ^^^ word y : Nat))
  | .bitAnd => .ok (wrap (word x &&& word y : Nat))
  | .equal => .ok (ofBool (x = y))
  | .unequal => .ok (ofBool (x ≠ y))
  | .lessEqual => .ok (ofBool (x ≤ y))
  | .greaterEqual => .ok (ofBool (y ≤ x))
  | .less => .ok (ofBool (x < y))
  | .greater => .ok (ofBool (y < x))
  | .shiftLeft => .ok (wrap (x * (Nat.pow 2 (word y % 64) : Nat)))
  | .shiftRight => .ok (Int.fdiv x (Nat.pow 2 (word y % 64) : Nat))
  | .add => .ok (wrap (x + y))
  | .subtract => .ok (wrap (x - y))
  | .multiply => .ok (wrap (x * y))
  | .divide => if y = 0 then .error "division by zero" else .ok (wrap (Int.tdiv x y))
  | .remainder => if y = 0 then .error "division by zero" else .ok (Int.tmod x y)

/-- What is still to be read, and the variables that were assigned. -/
structure State where
  rest : List Char
  assigned : List (Octets × Int)

/-- A step of reading and computing. -/
abbrev Compute := StateT State (Except String)

/-- The number that digits write, in octal after a zero and in hexadecimal after `0x`. -/
def numberOf
    (digits : List Char) :
    Option Int :=
  let value := fun (base : Nat) (ds : List Char) =>
    ds.foldl
      (fun (total : Option Nat) c =>
        let digit :=
          if c.isDigit then c.toNat - '0'.toNat
          else if 'a' ≤ c ∧ c ≤ 'f' then c.toNat - 'a'.toNat + 10
          else if 'A' ≤ c ∧ c ≤ 'F' then c.toNat - 'A'.toNat + 10
          else 99
        if digit < base then total.map (· * base + digit) else none)
      (some 0)
  match digits with
  | '0' :: x :: hex =>
      if x = 'x' ∨ x = 'X' then (value 16 hex).map fun n => wrap n
      else (value 8 (x :: hex)).map fun n => wrap n
  | ds => (value 10 ds).map fun n => wrap n

/-- The number that the text of a variable writes; an empty one counts as zero. -/
def numberOfText
    (text : Octets) :
    Except String Int :=
  let trimmed := (skip ((skip text).reverse)).reverse
  let (negative, digits) :=
    match trimmed with
    | '-' :: digits => (true, digits)
    | '+' :: digits => (false, digits)
    | digits => (false, digits)
  if trimmed.isEmpty then
    .ok 0
  else
    match if digits.isEmpty then none else numberOf digits with
    | some value => .ok (if negative then wrap (-value) else value)
    | none => .error s!"Illegal number: {String.ofList text}"

/-- The spellings of assignments, with the operator that each applies first. -/
def assignments : List (String × Option Operator) :=
  [ ("<<=", some .shiftLeft), (">>=", some .shiftRight), ("+=", some .add), ("-=", some .subtract),
    ("*=", some .multiply), ("/=", some .divide), ("%=", some .remainder), ("&=", some .bitAnd),
    ("|=", some .bitOr), ("^=", some .bitXor) ]

/-- The assignment that stands next. -/
def assignment?
    (text : List Char) :
    Option (Option Operator × List Char) :=
  match text with
  | '=' :: '=' :: _ => none
  | '=' :: rest => some (none, rest)
  | _ =>
      (assignments.find? fun (spelling, _) => spelling.toList.isPrefixOf text).map
        fun (spelling, operator) => (operator, text.drop spelling.length)

mutual

/-- An expression with all operators; `isActive` tells whether it has an effect. -/
def expression : (fuel : Nat) → (valueOf : Octets → Octets) → (isActive : Bool) → Compute Int
  | 0, _, _ => throw "expecting primary"
  | fuel + 1, valueOf, isActive => do
      let condition ← binary fuel valueOf isActive levels
      let text := skip (← get).rest
      match text with
      | '?' :: rest => do
          modify fun state => { state with rest }
          let first ← expression fuel valueOf (isActive && condition ≠ 0)
          match skip (← get).rest with
          | ':' :: rest => do
              modify fun state => { state with rest }
              let second ← expression fuel valueOf (isActive && condition = 0)
              return if condition ≠ 0 then first else second
          | _ => throw "expecting ':'"
      | _ => return condition

/-- Operands joined by the operators of a level, which bind stronger at later levels. -/
def binary : (fuel : Nat) → (valueOf : Octets → Octets) → (isActive : Bool) →
    List (List (String × Operator)) → Compute Int
  | 0, _, _, _ => throw "expecting primary"
  | fuel + 1, valueOf, isActive, [] => operand fuel valueOf isActive
  | fuel + 1, valueOf, isActive, level :: stronger => do
      let first ← binary fuel valueOf isActive stronger
      binaryRest fuel valueOf isActive level stronger first

/-- The operators of a level that follow an operand. -/
def binaryRest : (fuel : Nat) → (valueOf : Octets → Octets) → (isActive : Bool) →
    (level : List (String × Operator)) → (stronger : List (List (String × Operator))) → Int →
    Compute Int
  | 0, _, _, _, _, _ => throw "expecting primary"
  | fuel + 1, valueOf, isActive, level, stronger, first => do
      match operator? level (skip (← get).rest) with
      | none => return first
      | some (operator, rest) => do
          modify fun state => { state with rest }
          let decided := (operator = .or && first ≠ 0) || (operator = .and && first = 0)
          let second ← binary fuel valueOf (isActive && !decided) stronger
          if isActive then
            match apply operator first second with
            | .ok value => binaryRest fuel valueOf isActive level stronger value
            | .error fault => throw fault
          else
            binaryRest fuel valueOf isActive level stronger 0

/-- A number, a variable, an assignment, or an operand behind a sign. -/
def operand : (fuel : Nat) → (valueOf : Octets → Octets) → (isActive : Bool) → Compute Int
  | 0, _, _ => throw "expecting primary"
  | fuel + 1, valueOf, isActive => do
      let text := skip (← get).rest
      match text with
      | '(' :: rest => do
          modify fun state => { state with rest }
          let value ← expression fuel valueOf isActive
          match skip (← get).rest with
          | ')' :: rest =>
              modify fun state => { state with rest }
              return value
          | _ => throw "expecting ')'"
      | '-' :: rest => do
          modify fun state => { state with rest }
          return wrap (-(← operand fuel valueOf isActive))
      | '+' :: rest => do
          modify fun state => { state with rest }
          operand fuel valueOf isActive
      | '!' :: rest => do
          modify fun state => { state with rest }
          return ofBool ((← operand fuel valueOf isActive) = 0)
      | '~' :: rest => do
          modify fun state => { state with rest }
          return -(← operand fuel valueOf isActive) - 1
      | c :: _ =>
          let name := text.takeWhile fun c => c.isAlphanum || c = '_'
          let rest := text.drop name.length
          if c.isDigit then
            match numberOf name with
            | some value =>
                modify fun state => { state with rest }
                return value
            | none => throw "expecting EOF"
          else if name.isEmpty then
            throw "expecting primary"
          else
            let current : Compute Int := do
              match (← get).assigned.lookup name with
              | some value => return value
              | none =>
                  match numberOfText (valueOf name) with
                  | .ok value => return value
                  | .error fault => throw fault
            match assignment? (skip rest) with
            | none =>
                modify fun state => { state with rest }
                if isActive then current else return 0
            | some (operator, rest) => do
                modify fun state => { state with rest }
                let right ← expression fuel valueOf isActive
                if !isActive then
                  return 0
                let value ←
                  match operator with
                  | none => pure right
                  | some operator =>
                      match apply operator (← current) right with
                      | .ok value => pure value
                      | .error fault => throw fault
                modify fun state => { state with assigned := (name, value) :: state.assigned }
                return value
      | [] => throw "expecting primary"

end

/-- The number of an expression and the variables that it assigns, the latest first. -/
def evaluate
    (valueOf : Octets → Octets)
    (text : Octets) :
    Except String (Int × List (Octets × Int)) := do
  if (skip text).isEmpty then
    return (0, [])
  let (value, state) ← (expression (40 * text.length + 40) valueOf true).run ⟨text, []⟩
  if (skip state.rest).isEmpty then
    return (value, state.assigned)
  else
    throw "expecting EOF"

end Arithmetic

end BenchmarkOrchestration.Interpreter
