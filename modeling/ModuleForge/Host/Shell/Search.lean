import ModuleForge.Host.Shell.Builtin
import ModuleForge.Host.Shell.Parser

/-!
# What a name stands for as a command

The words that a simple command calls, the search for programs in directories, and the descriptions
of names.
-/
namespace ModuleForge.Host.Shell

open Step

structure Mode where
  last : Bool := false
  tested : Bool := false
  /-- Whether lines come from a file, so that they may be shown as they are read. -/
  fromFile : Bool := false

/-! ## Programs -/

/-- Where programs are looked for if no variable says so. -/
def usualPath : ByteString := "/usr/local/sbin:/usr/local/bin:/usr/sbin:/usr/bin:/sbin:/bin"

/-- The directories in which programs are looked for. -/
def searchPath (environment : Variables) : List ByteString :=
  let name : ByteString := "PATH"
  FileTree.searchDirs ((environment.lookup name).getD usualPath)

/-- The paths at which a file of some name may be found. -/
def candidates (name : ByteString) (environment : Variables) (t : FileTree) (here : Nat) :
    List ByteString :=
  if name.contains Path.separator then [name]
  else ((searchPath environment).map fun dir =>
    if dir.isEmpty then name else dir ++ Path.separator :: name).filter
      (FileTest.plain.holds · t here)

/-- Variables that let programs be looked for in the usual directories only. -/
def usualVariables : Variables :=
  let name : ByteString := "PATH"
  [(name, usualPath)]

/-- The paths at which a program may be found; the shell remembers the first one. -/
def locate (name : ByteString) (environment : Variables) : Step (List ByteString) := do
  let paths ← task (Task.look (candidates name environment))
  if !name.contains Path.separator then
    if let some path := paths.head? then
      if ((← get).located.lookup name).isNone then
        modify fun s => { s with located := s.located ++ [(name, path)] }
  return paths

/-- Becomes a program, or ends with the reason why not. -/
def becomeProgram (name : ByteString) (arguments : List ByteString) (environment : Variables)
    (fault : Errno) : List ByteString → Step Nat
  | [] => do
    let missing := fault = .noEntry || fault = .notDirectory
    let text := if missing then "not found" else fault.message
    warn (Text.lossy name ++ ": " ++ text)
    exit (if missing || fault = .linkLoop || fault = .nameTooLong then 127 else 126)
  | path :: paths => do
    let e ← task (Task.execute path (name :: arguments) environment)
    if e = .notExecutable then
      let sh : ByteString := "/bin/sh"
      let e ← task (Task.execute sh (sh :: path :: arguments) environment)
      becomeProgram name arguments environment e paths
    else if e = .noEntry || e = .notDirectory then
      becomeProgram name arguments environment fault paths
    else becomeProgram name arguments environment e paths

/-- Runs an external program in the variables that are exported. -/
def runProgram (mode : Mode) (name : ByteString) (arguments : List ByteString) (usual : Bool) :
    Step Unit := do
  let environment := exported (← get)
  let paths ← if usual then task (Task.look (candidates name usualVariables))
    else locate name environment
  if name.isEmpty then
    warn ": Permission denied"
    setStatus 127
  else if paths.isEmpty then
    warn (Text.lossy name ++ ": not found")
    setStatus 127
  else if mode.last && (← get).traps.isEmpty then
    let _ ← becomeProgram name arguments environment .noEntry paths
  else
    let child ← forkStep (becomeProgram name arguments environment .noEntry paths)
    setStatus (← awaitForeground child)

/-! ## Calls -/

/-- What a simple command calls. -/
structure Called where
  name : ByteString
  arguments : List ByteString
  /-- Whether it is called as nothing but a command: no function, and no builtin whose mistakes end
  the shell. -/
  plainly : Bool := false
  /-- Whether programs are looked for in the usual directories only. -/
  usual : Bool := false

/-- The words behind options that only say how to call, and whether the usual directories are asked
for; none if there are other options or nothing is left. -/
def behindOptions? (usual : Bool) : List ByteString → Option (Bool × List ByteString)
  | [] => none
  | [45, 45] :: rest => if rest.isEmpty then none else some (usual, rest)
  | (45 :: c :: letters) :: rest =>
    if (c :: letters).all (· == 112) then behindOptions? true rest else none
  | words => some (usual, words)

/-- What words call, with each `command` in front followed. -/
def Called.follow (c : Called) : Nat → Called
  | 0 => c
  | fuel + 1 =>
    if c.name = ByteString.ofText "command" then
      match behindOptions? c.usual c.arguments with
      | some (usual, name :: arguments) =>
        ({ name, arguments, plainly := true, usual } : Called).follow fuel
      | _ => { c with plainly := true }
    else c

/-- What the words of a simple command call. -/
def Called.ofWords (name : ByteString) (arguments : List ByteString) : Called :=
  ({ name, arguments } : Called).follow (arguments.length + 1)

/-- Whether a builtin reads its words as assignments. -/
def readsAssignments (name : ByteString) : Bool :=
  ["export", "readonly", "local", "alias"].contains (Text.lossy name)

/-! ## Descriptions -/

/-- Describes what a name stands for as a command: in words, or as what would be called. -/
def describe (inWords : Bool) (environment : Variables) (name : ByteString) : Step Nat := do
  let s ← get
  let text := Text.lossy name
  let answer (words : String) (plain : ByteString) : Step Nat := do
    put 0 ((if inWords then name ++ ByteString.ofText words else plain) ++ [10])
  if Parse.keywords.contains text then answer " is a shell keyword" name
  else if let some value := s.aliases.lookup name then
    answer (" is an alias for " ++ Text.lossy value) (ByteString.ofText "alias " ++ aliasText name value)
  else if (s.functions.lookup name).isSome then answer " is a shell function" name
  else if isBuiltin text then
    answer (" is a " ++ (if special.contains text then "special " else "") ++ "shell builtin") name
  else match s.located.lookup name with
    | some path => answer (" is a tracked alias for " ++ Text.lossy path) path
    | none =>
      match ← locate name environment with
      | path :: _ =>
        if name.contains Path.separator && !(← task (Task.look (FileTest.present.holds path))) then
          put 127 (if inWords then name ++ ByteString.ofText ": not found\n" else [])
        else answer (" is " ++ Text.lossy path) path
      | [] => put 127 (if inWords then name ++ ByteString.ofText ": not found\n" else [])

/-- Describes each of some names. -/
def describeAll (names : List ByteString) : Step Nat := do
  let mut code := 0
  for name in names do
    code := code ||| (← describe true (exported (← get)) name)
  return code

/-- Describes the name that the options of a call ask about. -/
def runDescribe (words : List ByteString) : Step Nat := do
  let o ← options "pvV" "" words
  match o.operands with
  | name :: _ =>
    if o.has 'v' || o.has 'V' then
      let environment ← if o.has 'p' then pure usualVariables else do pure (exported (← get))
      describe (o.has 'V') environment name
    else return 0
  | [] => return 0

/-- Looks for programs and remembers where they are, or lists those that are remembered. -/
def runHash (words : List ByteString) : Step Nat := do
  let o ← options "r" "" words
  if o.has 'r' then
    modify fun s => { s with located := [] }
    return 0
  match o.operands with
  | [] => put 0 ((inRows 31 (← get).located).flatMap fun (_, path) => path ++ [10])
  | names =>
    let mut code := 0
    for name in names do
      let s ← get
      if !isBuiltin (Text.lossy name) && (s.functions.lookup name).isNone then
        if (← locate name (exported s)).isEmpty then
          warn (Text.lossy name ++ ": not found")
          code := 1
    return code

end ModuleForge.Host.Shell
