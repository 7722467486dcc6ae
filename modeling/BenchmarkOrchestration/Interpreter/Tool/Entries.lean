import BenchmarkOrchestration.Interpreter.Tool.Call

namespace BenchmarkOrchestration.Interpreter

/-!
# Tools for files and directories

These tools take paths apart, and make, copy, move, list and remove what paths lead to.
-/

namespace Tool

/-- The last component of a path without slashes behind it. -/
def lastComponent
    (path : Octets) :
    Octets :=
  let core := (path.reverse.dropWhile (· = '/')).reverse
  if core.isEmpty ∧ !path.isEmpty then ['/']
  else (core.reverse.takeWhile (· ≠ '/')).reverse

/-- Print the last component of a path, without an ending if one is given. -/
def basename
    (call : ToolCall) :
    ToolResult :=
  match (options call "a" "s").operands with
  | [] => missingOperand call
  | [path] => call.prints (lastComponent path ++ ['\n'])
  | path :: ending :: _ =>
      let name := lastComponent path
      let name :=
        if name = ending then name
        else (Affix.dropEnd? ending name).getD name
      call.prints (name ++ ['\n'])

/-- A path without its last component. -/
def directoryPart
    (path : Octets) :
    Octets :=
  let core := (path.reverse.dropWhile (· = '/')).dropWhile (· ≠ '/')
  let directory := (core.dropWhile (· = '/')).reverse
  if !directory.isEmpty then directory
  else if path.head? = some '/' then ['/']
  else ['.']

/-- Print paths without their last components. -/
def dirname
    (call : ToolCall) :
    ToolResult :=
  match (options call "z" "").operands with
  | [] => missingOperand call
  | paths => call.prints (Octets.unlines (paths.map directoryPart))

/-- Remove files, and directories if asked to. -/
def rm
    (call : ToolCall) :
    ToolResult :=
  let options := options call "rRfvd" ""
  let recursive := options.has 'r' || options.has 'R'
  let remove := fun (call : ToolCall) (file : Octets) =>
    match call.tree.find call.here (Octets.toText file) with
    | .ok (location, .directory) =>
        if recursive then .ok (call.tree.remove location)
        else .error s!"cannot remove {quoted file}: Is a directory"
    | .ok (location, _) => .ok (call.tree.remove location)
    | .error fault =>
        if options.has 'f' ∧ (fault = .notFound ∨ fault = .notDirectory) then .ok call.tree
        else .error s!"cannot remove {quoted file}: {fault.shortText}"
  match options.unknown with
  | some c => invalidOption call 1 c
  | none =>
      if options.operands.isEmpty ∧ !options.has 'f' then missingOperand call
      else eachChange 1 remove options.operands call

/-- Remove empty directories. -/
def rmdir
    (call : ToolCall) :
    ToolResult :=
  let remove := fun (call : ToolCall) (file : Octets) =>
    let refused := fun (fault : FileFault) =>
      Except.error s!"failed to remove {quoted file}: {fault.shortText}"
    match call.tree.find call.here (Octets.toText file) with
    | .ok (location, .directory) =>
        if (call.tree.namesIn location).isEmpty then .ok (call.tree.remove location)
        else refused .notEmpty
    | .ok _ => refused .notDirectory
    | .error fault => refused fault
  let options := options call "p" ""
  if options.operands.isEmpty then missingOperand call
  else eachChange 1 remove options.operands call

/-- Make directories, and those above them if asked to. -/
def mkdir
    (call : ToolCall) :
    ToolResult :=
  let options := options call "pv" "m"
  let make := fun (call : ToolCall) (file : Octets) =>
    let path := Octets.toText file
    let refused := fun (fault : FileFault) =>
      Except.error s!"cannot create directory {quoted file}: {fault.shortText}"
    if options.has 'p' then
      let tree := call.tree.makePath call.here path
      if tree.isDirectory call.here path then .ok tree else refused .isPresent
    else
      let trimmed := String.ofList (path.toList.reverse.dropWhile (· = '/')).reverse
      match call.tree.locate call.here trimmed with
      | .ok (.free location) => .ok (call.tree.put location .directory)
      | .ok (.occupied ..) => refused .isPresent
      | .error fault => refused fault
  match options.unknown with
  | some c => invalidOption call 1 c
  | none =>
      if options.operands.isEmpty then missingOperand call
      else eachChange 1 make options.operands call

/-- Make files that do not exist. -/
def touch
    (call : ToolCall) :
    ToolResult :=
  let options := options call "acm" "drt"
  let make := fun (call : ToolCall) (file : Octets) =>
    match call.tree.locate call.here (Octets.toText file) with
    | .ok (.free location) =>
        if options.has 'c' then .ok call.tree
        else .ok (call.tree.put location (.file ByteArray.empty false))
    | .ok (.occupied ..) => .ok call.tree
    | .error fault => .error s!"cannot touch {quoted file}: {fault.shortText}"
  match options.unknown with
  | some c => invalidOption call 1 c
  | none =>
      if options.operands.isEmpty then
        let name := Octets.toText call.name
        call.complains 1
          s!"missing file operand\nTry '{name} --help' for more information."
      else
        eachChange 1 make options.operands call

/-- Where a copy of a file goes: into a directory under the same name, or to the path itself. -/
def destination
    (call : ToolCall)
    (file target : Octets) :
    Octets :=
  if call.tree.isDirectory call.here (Octets.toText target) then
    Octets.ofText
      (Path.join (Octets.toText target) (Octets.toText (lastComponent file)))
  else
    target

/-- Copy the entries at and below a location to another. -/
def copyTree
    (tree : FileTree)
    (source target : Location) :
    FileTree :=
  tree.entries.foldl
    (fun copied (location, entry) =>
      match Affix.dropStart? source location with
      | some names => copied.put (target ++ names) entry
      | none => copied)
    tree

/-- Copy or move files. -/
def transfer
    (isMove : Bool)
    (call : ToolCall) :
    ToolResult :=
  let options := options call "rRafpnuv" "t"
  let recursive := isMove || options.has 'r' || options.has 'R' || options.has 'a'
  match options.unknown, options.operands.reverse with
  | some c, _ => invalidOption call 1 c
  | none, [] => call.complains 1 "missing file operand"
  | none, [file] => call.complains 1 s!"missing destination file operand after {quoted file}"
  | none, target :: files =>
      let change := fun (call : ToolCall) (file : Octets) =>
        match call.tree.find call.here (Octets.toText file) with
        | .error fault => .error s!"cannot stat {quoted file}: {fault.shortText}"
        | .ok (source, entry) =>
            if entry.isDirectory ∧ !recursive then
              .error s!"-r not specified; omitting directory {quoted file}"
            else
              let path := destination call file target
              match call.tree.locate call.here (Octets.toText path) with
              | .error fault =>
                  .error s!"cannot create regular file {quoted path}: {fault.shortText}"
              | .ok place =>
                  let location :=
                    match place with
                    | .free location => location
                    | .occupied location _ => location
                  let copied := copyTree call.tree source location
                  .ok (if isMove ∧ source ≠ location then copied.remove source else copied)
      eachChange 1 change files.reverse call

/-- Print the names in directories, sorted. -/
def ls
    (call : ToolCall) :
    ToolResult :=
  let options := options call "1aAdlhFptrRS" ""
  let targets := if options.operands.isEmpty then [['.']] else options.operands
  let found := targets.map fun file =>
    (file, call.tree.find call.here (Octets.toText file))
  let isVisible := fun (name : String) =>
    options.has 'a' || options.has 'A' || name.toList.head? ≠ some '.'
  let namesIn := fun (location : Location) =>
    let names := (call.tree.namesIn location).filter isVisible
    let names := if options.has 'a' then "." :: ".." :: names else names
    (names.mergeSort fun a b => decide (a ≤ b)).map Octets.ofText
  let plain := found.filterMap fun (file, answer) =>
    match answer with
    | .ok (_, .directory) => if options.has 'd' then some file else none
    | .ok _ => some file
    | .error _ => none
  let directories := found.filterMap fun (file, answer) =>
    match answer with
    | .ok (location, .directory) => if options.has 'd' then none else some (file, location)
    | _ => none
  let blocks := directories.map fun (file, location) =>
    let title := if 1 < targets.length then file ++ ":\n".toList else []
    title ++ Octets.unlines (namesIn location)
  let first := if plain.isEmpty then [] else [Octets.unlines plain]
  let complaints := found.flatMap fun (file, answer) =>
    match answer with
    | .error fault => call.complaint s!"cannot access {quoted file}: {fault.shortText}"
    | .ok _ => []
  { call.prints (Octets.join ['\n'] (first ++ blocks)) with
    stderr := complaints
    status := if complaints.isEmpty then 0 else 2 }

/-- Copy the input to the output and to files. -/
def tee
    (call : ToolCall) :
    ToolResult :=
  let options := options call "ai" ""
  let bytes := Octets.toBytes call.input.text
  let store := fun (call : ToolCall) (file : Octets) =>
    let path := Octets.toText file
    let written :=
      if options.has 'a' ∧ call.tree.isFile call.here path then
        call.tree.append call.here path bytes
      else
        call.tree.write call.here path bytes
    written.mapError fun fault => s!"{shown file}: {fault.shortText}"
  { eachChange 1 store options.operands call with output := call.input, input := .empty }

/-- Make files executable, or take that permission away. -/
def chmod
    (call : ToolCall) :
    ToolResult :=
  match call.arguments with
  | mode :: files =>
      let isExecutable :=
        mode.contains 'x' && !mode.contains '-' ||
          (mode.all Char.isDigit && mode.any fun c => c.toNat % 2 = 1)
      let change := fun (call : ToolCall) (file : Octets) =>
        match call.tree.find call.here (Octets.toText file) with
        | .ok (location, .file content _) =>
            .ok (call.tree.put location (.file content isExecutable))
        | .ok _ => .ok call.tree
        | .error fault => .error s!"cannot access {quoted file}: {fault.shortText}"
      if files.isEmpty then missingOperand call else eachChange 1 change files call
  | [] => missingOperand call

end Tool

end BenchmarkOrchestration.Interpreter
