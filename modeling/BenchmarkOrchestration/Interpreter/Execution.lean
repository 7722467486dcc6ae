import BenchmarkOrchestration.Interpreter.Arithmetic
import BenchmarkOrchestration.Interpreter.Builtin

namespace BenchmarkOrchestration.Interpreter

/-!
# Running scripts

Sentences, commands and words are run by functions that call each other; each call takes one unit
of fuel, so that every run ends.  A command is a function of the script, a command of the
interpreter, a program of the system or an executable file, in this order.
-/

namespace Execution

/-- The marks of a value. -/
def valueMarks
    (isQuoted : Bool)
    (text : Octets) :
    List Mark :=
  if isQuoted then Mark.quoted text else Mark.bare text

/-- The value of a parameter. -/
def parameter?
    (state : State)
    (name : Octets) :
    Option Octets :=
  match name with
  | ['#'] => some (Octets.ofNat state.positional.length)
  | ['?'] => some (Octets.ofNat state.status)
  | ['-'] => some state.flags
  | ['$'] => some processNumber
  | ['!'] => none
  | ['0'] => some state.speaker
  | ['@'] => if state.positional.isEmpty then none else some (Octets.join [' '] state.positional)
  | ['*'] => if state.positional.isEmpty then none else some (Octets.join [' '] state.positional)
  | name =>
      match Octets.nat? name with
      | some place => state.positional[place - 1]?
      | none => state.value? name

/-- The marks of all arguments of the script. -/
def argumentMarks
    (state : State)
    (isJoined isQuoted : Bool) :
    List Mark :=
  if isJoined ∧ isQuoted then
    let separators := (state.value? "IFS".toList).getD Fields.defaultSeparators
    Mark.quoted (Octets.join (separators.take 1) state.positional)
  else if state.positional.isEmpty then
    [.absent]
  else
    ((state.positional.map (valueMarks isQuoted)).intersperse [.separate]).flatten

/-- The marks of a parameter; it may be required that it is set. -/
def parameterMarks
    (name : Octets)
    (isQuoted : Bool) :
    Run (List Mark) := do
  let state ← get
  if name = ['@'] ∨ name = ['*'] then
    return argumentMarks state (name = ['*']) isQuoted
  else
    match parameter? state name with
    | some value => return valueMarks isQuoted value
    | none =>
        if state.flags.contains 'u' then
          Run.fail s!"{Octets.toText name}: parameter not set"
        else
          return valueMarks isQuoted []

/-- A value without what a pattern matches at its start or end. -/
def cutValue
    (atStart longest : Bool)
    (pattern : List Symbol)
    (value : Octets) :
    Octets :=
  let lengths :=
    if atStart then Pattern.initialLengths pattern value else Pattern.finalLengths pattern value
  match if longest then lengths.getLast? else lengths.head? with
  | none => value
  | some n => if atStart then value.drop n else value.take (value.length - n)

/-- The marks at the start of a word, where a tilde stands for the home directory. -/
def homeMarks
    (state : State) :
    List Part → Option (List Mark × List Part)
  | .literal ('~' :: rest) false :: parts =>
      let isHome :=
        match rest with
        | [] => parts.isEmpty
        | c :: _ => c = '/'
      match state.value? "HOME".toList with
      | some home =>
          if isHome then some (Mark.quoted home, .literal rest false :: parts) else none
      | none => none
  | _ => none

/-- Whether redirections change the input. -/
def changesInput
    (changes : List Redirection) :
    Bool :=
  changes.any fun
    | .file 0 _ _ => true
    | .copy 0 _ => true
    | .text 0 _ => true
    | _ => false

/-- Why a file cannot be opened, in the words for reading. -/
def openingText : FileFault → String
  | .notFound => "No such file"
  | .notDirectory => "No such file"
  | fault => fault.shortText

/-- Why a file cannot be opened, in the words for writing. -/
def creatingText : FileFault → String
  | .notFound => "Directory nonexistent"
  | .notDirectory => "Directory nonexistent"
  | fault => fault.shortText

/-- Make a file the input, if it can be read. -/
def openInput
    (descriptor : Nat)
    (path : String) :
    Run Bool := do
  let state ← get
  match state.tree.read state.here path with
  | .ok content =>
      if descriptor = 0 then
        set { state with input := ⟨Octets.ofBytes content, []⟩ }
      return true
  | .error .isDirectory =>
      set { state with input := .empty }
      return true
  | .error fault =>
      Run.complain s!"cannot open {path}: {openingText fault}"
      return false

/-- Make a file the sink of a descriptor, if it can be written. -/
def openSink
    (descriptor : Nat)
    (keepsContent : Bool)
    (path : String) :
    Run Bool := do
  let state ← get
  let opened :=
    if keepsContent && state.tree.isFile state.here path then .ok state.tree
    else state.tree.write state.here path ByteArray.empty
  match opened, opened.bind (·.find state.here path) with
  | .ok tree, .ok (location, .file ..) =>
      set ({ state with tree }.connect descriptor (.file location))
      return true
  | .ok _, .ok _ =>
      set (state.connect descriptor .nothing)
      return true
  | .error fault, _ =>
      Run.complain s!"cannot create {path}: {creatingText fault}"
      return false
  | _, .error fault =>
      Run.complain s!"cannot create {path}: {creatingText fault}"
      return false

/-- Make the sink of one descriptor that of another. -/
def copySink
    (descriptor : Nat)
    (source : Octets) :
    Run Bool := do
  let state ← get
  if source = ['-'] then
    set { state with sinks := state.sinks.filter fun (d, _) => d ≠ descriptor }
    return true
  else if source = ['0'] then
    return true
  else
    match (Octets.nat? source).bind fun n => state.sinks.lookup n with
    | some sink =>
        if descriptor ≠ 0 then
          set (state.connect descriptor sink)
        return true
    | none =>
        Run.complain s!"{Octets.toText source}: Bad file descriptor"
        return false

/-- Whether a loop goes on after its body ended with a jump. -/
def goesOn : Option Jump → Run Bool
  | none => return true
  | some (.continueLoop levels) =>
      if levels ≤ 1 then return true else throw (.continueLoop (levels - 1))
  | some (.breakLoop levels) => do
      if levels ≤ 1 then
        Run.finish 0
        return false
      else
        throw (.breakLoop (levels - 1))
  | some jump => throw jump

/-- Run steps while variables have other values, which programs see. -/
def withVariables
    (values : List (Octets × Octets))
    (body : Run Unit) :
    Run Unit := do
  let before ← get
  for (name, value) in values do
    modify fun state => (state.assign name value).exportName name
  let jump ← Run.attempt body
  for (name, _) in values do
    modify fun state =>
      let state := state.restore name (before.value? name)
      { state with
        exported :=
          if before.exported.contains name then state.exported
          else state.exported.filter (· ≠ name) }
  Run.resume jump

/-- The directories in which the system keeps its programs. -/
def systemDirectories : List String :=
  ["/usr/bin", "/bin"]

/-- What a command name without a slash stands for. -/
inductive Executable where
  | tool (run : ToolCall → ToolResult)
  | file (path : Octets)

/-- The program of the system with a name. -/
def systemProgram?
    (name : String) :
    Option (ToolCall → ToolResult) :=
  (Tool.programs.lookup name).or (Tool.inner.lookup name)

/-- Look for a program in the directories of the search path. -/
def findProgram?
    (state : State)
    (name : Octets) :
    Option Executable :=
  let path := (state.value? "PATH".toList).getD []
  (splitAt ':' path).findSome? fun directory =>
    let file := Octets.ofText (Path.join (Octets.toText directory) (Octets.toText name))
    if systemDirectories.contains (Octets.toText directory) then
      (systemProgram? (Octets.toText name)).map .tool
    else
      match state.tree.find state.here (Octets.toText file) with
      | .ok (_, .file _ true) => some (.file file)
      | _ => none

/-- The file that a name without a slash stands for when it is read into the script. -/
def findSource?
    (state : State)
    (name : Octets) :
    Option Octets :=
  let path := (state.value? "PATH".toList).getD []
  (splitAt ':' path).findSome? fun directory =>
    let file := Path.join (Octets.toText directory) (Octets.toText name)
    if state.tree.isFile state.here file then some (Octets.ofText file) else none

/-- The directories in which programs are looked for when the environment names none. -/
def defaultPath : Octets :=
  "/usr/local/sbin:/usr/local/bin:/usr/sbin:/usr/bin:/sbin:/bin".toList

/-- The names under which the interpreter is started as a program. -/
def interpreterNames : List String :=
  ["sh", "dash", "bash"]

/-- The path of the program that is to run a file, if its first line names one. -/
def interpreterOf? : Octets → Option Octets
  | '#' :: '!' :: rest =>
      let isBlank := fun (c : Char) => c = ' ' || c = '\t'
      let line := (rest.takeWhile (· ≠ '\n')).dropWhile isBlank
      some (line.takeWhile fun c => !isBlank c)
  | _ => none

/-- The state in which a process of its own starts. -/
def processState
    (speaker : Octets)
    (arguments : List Octets)
    (flags : List Char)
    (state : State) :
    State :=
  let bindings := state.environment
  { state with
    bindings :=
      if (bindings.lookup "PATH".toList).isSome then bindings
      else bindings ++ [("PATH".toList, defaultPath)]
    fixed := []
    functions := []
    isInFunction := false
    saved := []
    positional := arguments
    speaker, flags
    line := 1
    status := 0
    isTested := false }

/-- Describe what a command name stands for. -/
def describe
    (isVerbose : Bool)
    (name : Octets) :
    Run Unit := do
  let state ← get
  let word := Octets.toText name
  let say := fun (plain verbose : Octets) =>
    Run.print (if isVerbose then name ++ verbose ++ ['\n'] else plain ++ ['\n'])
  if (state.functions.lookup name).isSome then
    say name " is a shell function".toList
    Run.finish 0
  else if Builtin.isKnown word then
    say name " is a shell builtin".toList
    Run.finish 0
  else
    let path? :=
      if interpreterNames.contains word then some ("/usr/bin/".toList ++ name)
      else
        match findProgram? state name with
        | some (.tool _) => some ("/usr/bin/".toList ++ name)
        | some (.file path) => some path
        | none => none
    match path? with
    | some path =>
        say path (" is ".toList ++ path)
        Run.finish 0
    | none =>
        if isVerbose then
          Run.print (name ++ ": not found\n".toList)
        Run.finish 127

mutual

/-- The marks of a word. -/
def marks : (fuel : Nat) → List Part → Run (List Mark)
  | 0, _ => throw (.exit 2)
  | _ + 1, [] => return []
  | fuel + 1, part :: parts => do
      let first ← partMarks fuel part
      return first ++ (← marks fuel parts)

/-- The marks of one part of a word. -/
def partMarks : (fuel : Nat) → Part → Run (List Mark)
  | 0, _ => throw (.exit 2)
  | _ + 1, .literal text true => return Mark.quoted text
  | _ + 1, .literal text false => return text.map fun c => .char c false false
  | fuel + 1, .output body isQuoted => do
      return valueMarks isQuoted (← captured fuel body)
  | fuel + 1, .arithmetic expression isQuoted => do
      let text := Mark.text (← marks fuel expression)
      let state ← get
      match Arithmetic.evaluate (fun name => (parameter? state name).getD []) text with
      | .ok (value, assigned) =>
          for (name, number) in assigned.reverse do
            modify fun state => state.assign name (Octets.ofInt number)
          return valueMarks isQuoted (Octets.ofInt value)
      | .error fault =>
          if fault.startsWith "Illegal number" then
            Run.fail fault
          else
            Run.fail s!"arithmetic expression: {fault}: \"{Octets.toText text}\""
  | fuel + 1, .parameter name use isQuoted => do
      let current := parameter? (← get) name
      match use with
      | .meaningless => Run.fail "Bad substitution"
      | .value => parameterMarks name isQuoted
      | .length =>
          if name = ['@'] ∨ name = ['*'] then
            return valueMarks isQuoted (Octets.ofNat (← get).positional.length)
          else
            return valueMarks isQuoted (Octets.ofNat (current.getD []).length)
      | .cut atStart longest pattern =>
          let pattern := Mark.pattern (← marks fuel pattern)
          return valueMarks isQuoted (cutValue atStart longest pattern (current.getD []))
      | .otherwise action alsoEmpty word =>
          let isGiven := current.any fun value => !(alsoEmpty && value.isEmpty)
          let wordMarks : Run (List Mark) := do
            return (← fromHome fuel word).map Mark.splitting
          match action, isGiven with
          | .replaceSet, true => wordMarks
          | .replaceSet, false => return if isQuoted then [.present] else []
          | _, true => parameterMarks name isQuoted
          | .useWord, false => wordMarks
          | .assignWord, false =>
              let value := Mark.text (← wordMarks)
              modify fun state => state.assign name value
              return valueMarks isQuoted value
          | .fail, false =>
              let given := Mark.text (← wordMarks)
              let reason :=
                if !given.isEmpty then Octets.toText given
                else if alsoEmpty then "parameter not set or null"
                else "parameter not set"
              Run.fail s!"{Octets.toText name}: {reason}"

/-- The marks of a word that may begin with the home directory. -/
def fromHome : (fuel : Nat) → List Part → Run (List Mark)
  | 0, _ => throw (.exit 2)
  | fuel + 1, parts => do
      match homeMarks (← get) parts with
      | some (first, parts) => return first ++ (← marks fuel parts)
      | none => marks fuel parts

/-- What a script prints, without the line ends at its end. -/
def captured : (fuel : Nat) → List Sentence → Run Octets
  | 0, _ => throw (.exit 2)
  | fuel + 1, body => do
      let before ← get
      Run.inSubshell State.connectNew (sentences fuel body)
      let after ← get
      let printed := (after.kept[before.kept.length]?.getD .empty).text.filter (· ≠ '\x00')
      set { after with
        kept := after.kept.take before.kept.length
        status := before.status
        substituted := some after.status }
      return (printed.reverse.dropWhile (· = '\n')).reverse

/-- The text of a word that is not divided into fields. -/
def text : (fuel : Nat) → List Part → Run Octets
  | 0, _ => throw (.exit 2)
  | fuel + 1, parts => return Mark.text (← fromHome fuel parts)

/-- The fields of words. -/
def fields : (fuel : Nat) → List (List Part) → Run (List Octets)
  | 0, _ => throw (.exit 2)
  | _ + 1, [] => return []
  | fuel + 1, word :: words => do
      let found ← fromHome fuel word
      let state ← get
      let separators := (state.value? "IFS".toList).getD Fields.defaultSeparators
      let divided := Fields.divide separators none false found
      let first :=
        if state.flags.contains 'f' then divided.map fun field => field.map Prod.fst
        else divided.flatMap (Fields.expandPaths state.tree state.here)
      return first ++ (← fields fuel words)

/-- Change streams; an answer of false means that a message was printed. -/
def redirect : (fuel : Nat) → List Redirection → Run Bool
  | 0, _ => throw (.exit 2)
  | _ + 1, [] => return true
  | fuel + 1, change :: changes => do
      let isDone ←
        match change with
        | .file descriptor mode path => do
            let path := Octets.toText (← text fuel path)
            match mode with
            | .reading => openInput descriptor path
            | .writing => openSink descriptor false path
            | .appending => openSink descriptor true path
            | .readingWriting => openSink descriptor true path
        | .copy descriptor source => do copySink descriptor (← text fuel source)
        | .text _ content => do
            let input := Mark.text (← marks fuel content)
            modify fun state => { state with input := ⟨input, []⟩ }
            pure true
      if isDone then redirect fuel changes else return false

/-- Run steps with changed streams. -/
def withStreams : (fuel : Nat) → List Redirection → Run Unit → Run Unit
  | 0, _, _ => throw (.exit 2)
  | fuel + 1, changes, body =>
      Run.keepingStreams (changesInput changes) do
        if ← redirect fuel changes then body else Run.finish 2

/-- Run sentences one after the other. -/
def sentences : (fuel : Nat) → List Sentence → Run Unit
  | 0, _ => throw (.exit 2)
  | _ + 1, [] => pure ()
  | fuel + 1, .mk first others isBackground :: rest => do
      if (← get).flags.contains 'n' then
        pure ()
      else if isBackground then
        Run.inSubshell (fun state => { state with input := .empty })
          (joined fuel first others)
        Run.finish 0
      else
        joined fuel first others
      sentences fuel rest

/-- Run a pipeline, and those joined to it as far as their conditions hold. -/
def joined : (fuel : Nat) → Pipeline → List (Joint × Pipeline) → Run Unit
  | 0, _, _ => throw (.exit 2)
  | fuel + 1, first, others => do
      if others.isEmpty then
        pipeline fuel first
      else
        Run.tested (pipeline fuel first)
        following fuel others

/-- Run the pipelines that are joined to an earlier one. -/
def following : (fuel : Nat) → List (Joint × Pipeline) → Run Unit
  | 0, _ => throw (.exit 2)
  | _ + 1, [] => pure ()
  | fuel + 1, (joint, next) :: rest => do
      let hasSucceeded : Bool := (← get).status = 0
      let isWanted :=
        match joint with
        | .afterSuccess => hasSucceeded
        | .afterFailure => !hasSucceeded
      if isWanted then
        if rest.isEmpty then pipeline fuel next else Run.tested (pipeline fuel next)
      following fuel rest

/-- Run commands joined by pipes. -/
def pipeline : (fuel : Nat) → Pipeline → Run Unit
  | 0, _ => throw (.exit 2)
  | fuel + 1, .mk isNegated commands => do
      let run : Run Unit :=
        match commands with
        | [only] => command fuel only
        | several => stages fuel several
      if isNegated then
        Run.tested run
        modify fun state => { state with status := if state.status = 0 then 1 else 0 }
      else
        run
        match commands with
        | [.simple ..] => Run.checkFailure
        | [.subshell ..] => Run.checkFailure
        | [_] => pure ()
        | _ => Run.checkFailure

/-- Run the commands of a pipeline, each with the output of the one before as its input. -/
def stages : (fuel : Nat) → List Node → Run Unit
  | 0, _ => throw (.exit 2)
  | _ + 1, [] => pure ()
  | fuel + 1, [last] => Run.inSubshell id (command fuel last)
  | fuel + 1, first :: rest => do
      let before ← get
      Run.inSubshell State.connectNew (command fuel first)
      let between ← get
      set { between with
        input := between.kept[before.kept.length]?.getD .empty
        kept := between.kept.take before.kept.length }
      stages fuel rest
      modify fun after => { after with input := between.input }

/-- Run a command. -/
def command : (fuel : Nat) → Node → Run Unit
  | 0, _ => throw (.exit 2)
  | fuel + 1, .simple line assignments words changes => do
      modify fun state => { state with line, substituted := none }
      match ← fields fuel words with
      | [] =>
          withStreams fuel changes do
            for (name, value) in ← values fuel assignments do
              Run.assign name value
            modify fun state => { state with status := state.substituted.getD 0 }
      | name :: arguments => simple fuel assignments changes name arguments
  | fuel + 1, .group body changes => withStreams fuel changes (sentences fuel body)
  | fuel + 1, .subshell body changes =>
      withStreams fuel changes (Run.inSubshell id (sentences fuel body))
  | fuel + 1, .branches arms otherwise changes =>
      withStreams fuel changes (branches fuel arms otherwise)
  | fuel + 1, .loop whileTrue condition body changes =>
      withStreams fuel changes (loop fuel whileTrue condition body 0)
  | fuel + 1, .each name words body changes => do
      let items ←
        match words with
        | some words => fields fuel words
        | none => do pure (← get).positional
      withStreams fuel changes do
        Run.finish 0
        each fuel name items body
  | fuel + 1, .select subject arms changes => do
      let subject ← text fuel subject
      withStreams fuel changes do
        Run.finish 0
        select fuel subject arms
  | _ + 1, .define name body =>
      modify fun state =>
        { state with
          functions := (name, body) :: state.functions.filter fun (n, _) => n ≠ name
          status := 0 }

/-- The values of assignments; later ones see the earlier. -/
def values : (fuel : Nat) → List (Octets × List Part) → Run (List (Octets × Octets))
  | 0, _ => throw (.exit 2)
  | _ + 1, [] => return []
  | fuel + 1, (name, parts) :: rest => do
      let before ← get
      let value ← text fuel parts
      modify fun state => state.assign name value
      let others ← values fuel rest
      modify fun state => state.restore name (before.value? name)
      return (name, value) :: others

/-- Run a simple command with its assignments and redirections. -/
def simple : (fuel : Nat) → List (Octets × List Part) → List Redirection → Octets →
    List Octets → Run Unit
  | 0, _, _, _, _ => throw (.exit 2)
  | fuel + 1, assignments, changes, name, arguments => do
      if (← get).flags.contains 'x' then
        let shown := Octets.join [' '] (name :: arguments)
        modify fun state => state.write 2 ⟨"+ ".toList ++ shown ++ ['\n'], []⟩
      let isSpecial := Builtin.specialNames.contains (Octets.toText name)
      let changed : Run Unit := do
        let values ← values fuel assignments
        if isSpecial then
          for (name, value) in values do
            Run.assign name value
          named fuel true name arguments
        else
          withVariables values (named fuel true name arguments)
      if isSpecial ∧ arguments.isEmpty ∧ name = "exec".toList then
        if ← redirect fuel changes then changed else throw (.exit 2)
      else
        Run.keepingStreams (changesInput changes) do
          if ← redirect fuel changes then changed
          else if isSpecial then throw (.exit 2)
          else Run.finish 2

/-- Run a command by its name. -/
def named : (fuel : Nat) → (findsFunctions : Bool) → Octets → List Octets → Run Unit
  | 0, _, _, _ => throw (.exit 2)
  | fuel + 1, findsFunctions, name, arguments => do
      let word := Octets.toText name
      let state ← get
      let function :=
        if findsFunctions ∧ !Builtin.specialNames.contains word then
          state.functions.lookup name
        else
          none
      match function, word with
      | some body, _ => call fuel body arguments
      | none, "eval" => script fuel (Octets.join [' '] arguments)
      | none, "." =>
          match arguments with
          | [] => Run.finish 0
          | path :: _ => sourced fuel path
      | none, "exec" =>
          match arguments with
          | [] => Run.finish 0
          | name :: arguments => do
              external fuel "exec: " name arguments
              throw (.exit (← get).status)
      | none, "command" =>
          match arguments with
          | ['-', 'v'] :: name :: _ => describe false name
          | ['-', 'V'] :: name :: _ => describe true name
          | name :: arguments => named fuel false name arguments
          | [] => Run.finish 0
      | none, "type" =>
          for name in arguments do
            describe true name
      | none, word =>
          match Builtin.table.lookup word, Tool.inner.lookup word with
          | some action, _ => action arguments
          | none, some tool => Run.callTool true name tool arguments
          | none, none => external fuel "" name arguments

/-- Call a function of the script. -/
def call : (fuel : Nat) → Node → List Octets → Run Unit
  | 0, _, _ => throw (.exit 2)
  | fuel + 1, body, arguments => do
      let before ← get
      set { before with positional := arguments, saved := [], isInFunction := true }
      let jump ← Run.attempt (command fuel body)
      modify fun after =>
        let restored :=
          after.saved.foldl (fun state (name, value) => state.restore name value) after
        { restored with
          positional := before.positional
          saved := before.saved
          isInFunction := before.isInFunction }
      match jump with
      | some (.leave status) => Run.finish status
      | jump => Run.resume jump

/-- Run the text of another file as a part of the script. -/
def sourced : (fuel : Nat) → Octets → Run Unit
  | 0, _ => throw (.exit 2)
  | fuel + 1, path => do
      let state ← get
      let shown := Octets.toText path
      match if path.contains '/' then some path else findSource? state path with
      | none => Run.fail s!".: {shown}: not found"
      | some file =>
          match state.tree.read state.here (Octets.toText file) with
          | .error fault => Run.fail s!".: cannot open {shown}: {openingText fault}"
          | .ok content =>
              match ← Run.attempt (script fuel (Octets.ofBytes content)) with
              | some (.leave status) => Run.finish status
              | jump => Run.resume jump

/-- Run a program or an executable file; a refusal names the command that it is run by. -/
def external : (fuel : Nat) → (runner : String) → Octets → List Octets → Run Unit
  | 0, _, _, _ => throw (.exit 2)
  | fuel + 1, runner, name, arguments => do
      let isInSystem := systemDirectories.contains (Octets.toText (Tool.directoryPart name))
      let program := Octets.toText (if isInSystem then Tool.lastComponent name else name)
      if interpreterNames.contains program then
        interpreter fuel name arguments []
      else if program = "env" ∧ !arguments.isEmpty then
        inEnvironment fuel name arguments
      else if name.contains '/' then
        match if isInSystem then systemProgram? program else none with
        | some tool => Run.callTool false name tool arguments
        | none => file fuel runner name arguments
      else
        match findProgram? (← get) name with
        | some (.tool tool) => Run.callTool false name tool arguments
        | some (.file path) => file fuel runner path arguments
        | none =>
            Run.complain s!"{runner}{program}: not found"
            Run.finish 127

/-- Run a program in a changed environment, or print that environment. -/
def inEnvironment : (fuel : Nat) → Octets → List Octets → Run Unit
  | 0, _, _ => throw (.exit 2)
  | fuel + 1, name, arguments => do
      let startsEmpty := arguments.head?.any fun first => first = ['-', 'i'] ∨ first = ['-']
      let arguments := if startsEmpty then arguments.drop 1 else arguments
      let given := arguments.takeWhile (·.contains '=')
      let values := given.map fun text =>
        ((Builtin.assignment text).1, (Builtin.assignment text).2.getD [])
      let before ← get
      if startsEmpty then
        set { before with exported := [] }
      let jump ← Run.attempt <| withVariables values <|
        match arguments.drop given.length with
        | [] => Run.callTool false name Tool.env []
        | program :: arguments => external fuel "" program arguments
      modify fun after => { after with exported := before.exported }
      Run.resume jump

/-- Run the interpreter as a program: on a text, on a file or on its input. -/
def interpreter : (fuel : Nat) → Octets → List Octets → (flags : List Char) → Run Unit
  | 0, _, _, _ => throw (.exit 2)
  | fuel + 1, name, arguments, flags => do
      let state ← get
      match arguments with
      | ['-', 'c'] :: body :: rest =>
          process fuel (rest.headD name) (rest.drop 1) flags body
      | ('-' :: c :: more) :: rest => interpreter fuel name rest (flags ++ c :: more)
      | path :: rest =>
          match state.tree.read state.here (Octets.toText path) with
          | .ok content => process fuel path rest flags (Octets.ofBytes content)
          | .error fault =>
              let start := name ++ ": 0: cannot open ".toList ++ path
              let message := start ++ Octets.ofText s!": {openingText fault}\n"
              modify fun state => state.write 2 ⟨message, []⟩
              Run.finish 2
      | [] =>
          modify fun state => { state with input := .empty }
          process fuel name [] flags state.input.text

/-- Run an executable file. -/
def file : (fuel : Nat) → (runner : String) → Octets → List Octets → Run Unit
  | 0, _, _, _ => throw (.exit 2)
  | fuel + 1, runner, path, arguments => do
      let state ← get
      let shown := Octets.toText path
      let refuse := fun (status : Nat) (reason : String) => do
        Run.complain s!"{runner}{shown}: {reason}"
        Run.finish status
      match state.tree.find state.here shown with
      | .error .notFound => refuse 127 "not found"
      | .error .notDirectory => refuse 127 "not found"
      | .error fault => refuse 126 fault.shortText
      | .ok (_, .file content true) =>
          let body := Octets.ofBytes content
          let isRunnable :=
            match interpreterOf? body with
            | some path => state.tree.isFile state.here (Octets.toText path)
            | none => true
          if isRunnable then process fuel path arguments [] body else refuse 127 "not found"
      | .ok _ => refuse 126 "Permission denied"

/-- Run a script as a process of its own. -/
def process : (fuel : Nat) → Octets → List Octets → (flags : List Char) → Octets → Run Unit
  | 0, _, _, _, _ => throw (.exit 2)
  | fuel + 1, speaker, arguments, flags, body => do
      let _ ← Run.inCopy (processState speaker arguments flags) (whole fuel body)

/-- Run a script, and at its end what it has asked for. -/
def whole : (fuel : Nat) → Octets → Run Unit
  | 0, _ => throw (.exit 2)
  | fuel + 1, body => do
      let jump ← Run.attempt (script fuel body)
      let state ← get
      match jump with
      | some (.kill signal) => throw (.kill signal)
      | jump =>
          if state.farewell.isEmpty then
            Run.resume jump
          else
            let status := Run.statusOf state jump
            set { state with farewell := [], status }
            script fuel state.farewell
            throw (.exit status)

/-- Run a text in the script, line by line. -/
def script : (fuel : Nat) → Octets → Run Unit
  | 0, _ => throw (.exit 2)
  | fuel + 1, body => do
      let program := Program.ofText body
      if program.lines.isEmpty ∧ program.complaint.isNone then
        Run.finish 0
      lines fuel program.lines
      match program.complaint with
      | none => pure ()
      | some complaint => do
          Run.complainAt complaint.line complaint.text
          throw (.exit 2)

/-- Run the lines of a script. -/
def lines : (fuel : Nat) → List (List Sentence) → Run Unit
  | 0, _ => throw (.exit 2)
  | _ + 1, [] => pure ()
  | fuel + 1, line :: rest => do
      sentences fuel line
      lines fuel rest

/-- Run the first branch whose condition succeeds. -/
def branches : (fuel : Nat) → List (List Sentence × List Sentence) → List Sentence → Run Unit
  | 0, _, _ => throw (.exit 2)
  | fuel + 1, [], otherwise => do
      Run.finish 0
      sentences fuel otherwise
  | fuel + 1, (condition, body) :: arms, otherwise => do
      Run.tested (sentences fuel condition)
      if (← get).status = 0 then sentences fuel body else branches fuel arms otherwise

/-- Run a body again and again while its condition succeeds, or fails. -/
def loop : (fuel : Nat) → (whileTrue : Bool) → (condition body : List Sentence) →
    (status : Nat) → Run Unit
  | 0, _, _, _, _ => throw (.exit 2)
  | fuel + 1, whileTrue, condition, body, status => do
      Run.tested (sentences fuel condition)
      if ((← get).status = 0) = (whileTrue = true) then
        if ← goesOn (← Run.attempt (sentences fuel body)) then
          loop fuel whileTrue condition body (← get).status
      else
        Run.finish status

/-- Run a body for each of some texts. -/
def each : (fuel : Nat) → Octets → List Octets → List Sentence → Run Unit
  | 0, _, _, _ => throw (.exit 2)
  | _ + 1, _, [], _ => pure ()
  | fuel + 1, name, item :: items, body => do
      Run.assign name item
      if ← goesOn (← Run.attempt (sentences fuel body)) then
        each fuel name items body

/-- Run the first arm with a pattern that matches a text. -/
def select : (fuel : Nat) → Octets → List (List (List Part) × List Sentence) → Run Unit
  | 0, _, _ => throw (.exit 2)
  | _ + 1, _, [] => pure ()
  | fuel + 1, subject, (patterns, body) :: arms => do
      if ← isSelected fuel subject patterns then
        sentences fuel body
      else
        select fuel subject arms

/-- Whether one of some patterns matches a text. -/
def isSelected : (fuel : Nat) → Octets → List (List Part) → Run Bool
  | 0, _, _ => throw (.exit 2)
  | _ + 1, _, [] => return false
  | fuel + 1, subject, pattern :: patterns => do
      if Pattern.accepts (Mark.pattern (← fromHome fuel pattern)) subject then
        return true
      else
        isSelected fuel subject patterns

end

end Execution

end BenchmarkOrchestration.Interpreter
