import ModuleForge.Host.Shell.Arithmetic
import ModuleForge.Host.Shell.Expansion
import ModuleForge.Host.Shell.Search

/-!
# Running scripts

The shell: expansion of words, redirections, and the commands themselves. `Mode.last` tells that
nothing is left to do after a command, so that a program can take the place of the shell;
`Mode.tested` that somebody looks at its exit code.

All functions take a bound on the depth and the length of what they run; `shell` starts with one
that no run of bounded time reaches.
-/
namespace ModuleForge.Host.Shell

open Step

/-- A descriptor before a redirection: the copy that was kept, unless it was closed. -/
structure Saved where
  fd : Nat
  copy : Option Nat

/-- How long the shell takes over a simple command, in nanoseconds. -/
def commandTime : Nat := 10000

/-- What a failed opening of a file is called: a missing file or directory has its own words. -/
def openFault (e : Errno) (missing : String) : String :=
  if e = .noEntry || e = .notDirectory then missing else e.message

/-- Undoes redirections. -/
def restore (saved : List Saved) : Step Unit := do
  for s in saved do
    match s.copy with
    | some copy =>
      let _ ← task (Task.duplicate copy s.fd)
      let _ ← task (Task.close copy)
    | none =>
      let _ ← task (Task.close s.fd)

/-- Makes `fd` stand for what `source` stands for, and closes `source`. -/
def moveTo (source fd : Nat) : Step Unit := do
  if source != fd then
    let _ ← task (Task.duplicate source fd)
    let _ ← task (Task.close source)

def keep (fd : Nat) : Step Saved := do
  match ← task (Task.duplicateAbove fd 10) with
  | .ok copy => return ⟨fd, some copy⟩
  | .error _ => return ⟨fd, none⟩

mutual

/-- What a piece of a word stands for. -/
def expandPiece : Nat → Piece → Step (List Atom)
  | 0, _ => exit 2
  | fuel + 1, piece => do
    match piece with
    | .text bytes quoted =>
      let as := bytes.map fun b => Atom.byte b (!quoted) false
      return if quoted then .present :: as else as
    | .output body quoted =>
      let data ← outputOf fuel body
      return atoms quoted (withoutLastLines (data.filter (· ≠ 0)))
    | .arithmetic expression quoted =>
      let text ← single fuel expression
      let s ← get
      let values (name : List Char) : Int :=
        ((valueOf? (Parse.toBytes name) s).bind integer?).getD 0
      match Arithmetic.evaluate values (Parse.ofBytes text) with
      | .ok (n, after) =>
        for (name, n) in after.changed.reverse do
          assign (Parse.toBytes name) (ByteString.ofText (toString n))
        return atoms quoted (ByteString.ofText (toString n))
      | .error message =>
        fail ("arithmetic expression: " ++ message ++ ": " ++ Text.quote (Text.lossy text))
    | .parameter name use quoted =>
      let s ← get
      let isAll := name = [64] || name = [42]
      let value := if isAll then none else parameter? name s
      let plain : List Atom :=
        if name = [42] && quoted then
          let seps := (separators s).take 1
          atoms true ((List.intersperse seps s.parameters).flatten)
        else if isAll then parameterAtoms quoted s.parameters
        else match value with
          | some v => atoms quoted v
          | none => if quoted then [.present] else []
      let isSet (orEmpty : Bool) : Bool :=
        if isAll then !s.parameters.isEmpty
        else match value with
          | none => false
          | some v => !(orEmpty && v.isEmpty)
      let refuseUnset : Step Unit := do
        if value.isNone && !isAll && s.has .nounset then fail (Text.lossy name ++ ": parameter not set")
      match use with
      | .unknown =>
        fail "Bad substitution"
      | .plain =>
        refuseUnset
        return plain
      | .length =>
        refuseUnset
        let n := if isAll then s.parameters.length else (value.getD []).length
        return atoms quoted (ByteString.ofText (toString n))
      | .fallback word orEmpty =>
        if isSet orEmpty then return plain
        return splitting quoted (← expand fuel word)
      | .replace word orEmpty =>
        if isSet orEmpty then return splitting quoted (← expand fuel word)
        return if quoted then [.present] else []
      | .assign word orEmpty =>
        if isSet orEmpty then return plain
        let v ← single fuel word
        assign name v
        return atoms quoted v
      | .require word orEmpty =>
        if isSet orEmpty then return plain
        let message ← single fuel word
        let text := if message.isEmpty then
          if orEmpty then "parameter not set or null" else "parameter not set"
          else Text.lossy message
        fail (Text.lossy name ++ ": " ++ text)
      | .remove side longest pattern =>
        refuseUnset
        let pattern := whole (← expand fuel pattern)
        return atoms quoted (removePart side longest pattern (value.getD []))
  termination_by structural fuel => fuel

def expand : Nat → List Piece → Step (List Atom)
  | 0, _ => exit 2
  | _ + 1, [] => return []
  | fuel + 1, p :: ps => do
    let as ← expandPiece fuel p
    return as ++ (← expand fuel ps)
  termination_by structural fuel => fuel

/-- A word that is not split. -/
def single : Nat → List Piece → Step ByteString
  | 0, _ => exit 2
  | fuel + 1, word => do
    return (whole (← expand fuel (fromHome (← get) word))).bytes
  termination_by structural fuel => fuel

/-- The value of an assignment. -/
def valueOf : Nat → List Piece → Step ByteString
  | 0, _ => exit 2
  | fuel + 1, word => do
    let word := valueFromHome (← get) (valueParts word) true word
    return (whole (← expand fuel word)).bytes
  termination_by structural fuel => fuel

/-- The fields of a word, with the files that they describe. -/
def fieldsOf : Nat → List Piece → Step (List ByteString)
  | 0, _ => exit 2
  | fuel + 1, w => do
    let as ← expand fuel (fromHome (← get) w)
    let fields := split (separators (← get)) as
    if fields.any Field.isPattern && !(← get).has .noglob then
      task (Task.look fun t here => fields.flatMap fun f => f.words t here)
    else return fields.map Field.bytes
  termination_by structural fuel => fuel

/-- The fields of words. With `assigning`, words that are written as assignments are not split. -/
def wordsOf : Nat → Bool → List (List Piece) → Step (List ByteString)
  | 0, _, _ => exit 2
  | _ + 1, _, [] => return []
  | fuel + 1, assigning, w :: ws => do
    let names ← match if assigning then assignmentWord? w else none with
      | some (start, value) => do pure [start ++ (← valueOf fuel value)]
      | none => fieldsOf fuel w
    return names ++ (← wordsOf fuel assigning ws)
  termination_by structural fuel => fuel

/-- The fields of the words of a command. The first of them say whether the others may be
assignments. -/
def commandWords : Nat → List ByteString → List (List Piece) → Step (List ByteString)
  | 0, _, _ => exit 2
  | _ + 1, first, [] => return first
  | fuel + 1, first, w :: ws => do
    match first with
    | [] => commandWords fuel (← fieldsOf fuel w) ws
    | name :: arguments =>
      let c := Called.ofWords name arguments
      if c.name = ByteString.ofText "command" then commandWords fuel (first ++ (← fieldsOf fuel w)) ws
      else
        let isFunction := ((← get).functions.lookup name).isSome
        return first ++ (← wordsOf fuel (readsAssignments c.name && !isFunction) (w :: ws))
  termination_by structural fuel => fuel

/-- What a command writes to its standard output. -/
def outputOf : Nat → Command → Step ByteString
  | 0, _ => exit 2
  | fuel + 1, body => do
    let (reader, writer) ← task Task.pipe
    let child ← forkStep do
      let _ ← task (Task.close reader)
      moveTo writer 1
      finish fuel (run fuel { last := true } body)
    let _ ← task (Task.close writer)
    let data := match ← task (Task.readAll reader) with
      | .ok data => data.data.toList
      | .error _ => []
    let _ ← task (Task.close reader)
    let code ← awaitForeground child
    modify fun s => { s with substituted := some code, status := code }
    return data
  termination_by structural fuel => fuel

/-- Makes a descriptor stand for a target; tells whether that worked. -/
def point : Nat → Nat → Target → Step Bool
  | 0, _, _ => exit 2
  | fuel + 1, fd, target => do
    let toFile (word : List Piece) (mode : OpenMode) (verb missing : String) : Step Bool := do
      let path ← single fuel word
      match ← task (Task.openFile path mode) with
      | .ok opened =>
        moveTo opened fd
        return true
      | .error e =>
        warn ("cannot " ++ verb ++ " " ++ Text.lossy path ++ ": " ++ openFault e missing)
        return false
    match target with
    | .input word => toFile word .read "open" "No such file"
    | .output word forced =>
      if forced || !(← get).has .noclobber then toFile word .write "create" "Directory nonexistent"
      else
        let path ← single fuel word
        if ← task (Task.look (FileTest.plain.holds path)) then
          warn ("cannot create " ++ Text.lossy path ++ ": File exists")
          return false
        toFile [.text path true] .write "create" "Directory nonexistent"
    | .append word => toFile word .append "create" "Directory nonexistent"
    | .update word => toFile word .update "create" "Directory nonexistent"
    | .copy word =>
      let text ← single fuel word
      if text = [45] then
        let _ ← task (Task.close fd)
        return true
      match natural? text with
      | none =>
        fail "Bad fd number"
      | some source =>
        match ← task (Task.duplicate source fd) with
        | .ok () => return true
        | .error e =>
          warn (toString source ++ ": " ++ e.message)
          return false
    | .text content =>
      let data ← single fuel content
      let (reader, writer) ← task Task.pipe
      let _ ← forkStep do
        let _ ← task (Task.close reader)
        let _ ← task (Task.writeAll writer ⟨data.toArray⟩)
        return 0
      let _ ← task (Task.close writer)
      moveTo reader fd
      return true
  termination_by structural fuel => fuel

/-- Redirects in order: what is needed to undo it, or nothing if it failed and was undone. -/
def redirect : Nat → List Saved → List Redirection → Step (Option (List Saved))
  | 0, _, _ => exit 2
  | _ + 1, saved, [] => return some saved
  | fuel + 1, saved, .mk fd target :: rest => do
    let old ← keep fd
    if ← point fuel fd target then redirect fuel (old :: saved) rest
    else
      restore (old :: saved)
      return none
  termination_by structural fuel => fuel

/-- Runs the actions of the signals that have come. -/
def runTraps : Nat → Step Unit
  | 0 => exit 2
  | fuel + 1 => do
    let s ← get
    if s.traps.any fun (n, action) => n != 0 && !action.isEmpty then
      collectSignals 64
      let s ← get
      match s.pending with
      | [] => pure ()
      | signal :: more =>
        set { s with pending := more }
        match s.traps.lookup signal with
        | some action =>
          let status := s.status
          runText fuel {} (Parse.ofBytes action)
          setStatus status
        | none => pure ()
        runTraps fuel
  termination_by structural fuel => fuel

/-- Runs a step and then what was to be done at the end: the exit code. -/
def finish : Nat → Step Unit → Step Nat
  | 0, _ => exit 2
  | fuel + 1, body => do
    let code ← try
        body
        pure (← get).status
      catch
        | .exit code => pure code
        | .return code => pure code
        | .fault => pure 2
        | .leave .. => pure (← get).status
    match (← get).traps.lookup 0 with
    | none => return code
    | some action =>
      modify fun s => { s with traps := s.traps.filter (·.1 ≠ 0), status := code }
      try
        runText fuel {} (Parse.ofBytes action)
        return code
      catch
        | .exit code => return code
        | .fault => return 2
        | _ => return code
  termination_by structural fuel => fuel

/-- Runs a text as a script. -/
def runText : Nat → Mode → List Char → Step Unit
  | 0, _, _ => exit 2
  | fuel + 1, mode, text => runScanner fuel mode { rest := text }
  termination_by structural fuel => fuel

def runScanner : Nat → Mode → Scanner → Step Unit
  | 0, _, _ => exit 2
  | fuel + 1, mode, scanner => do
    let reveal (after : List Char) : Step Unit := do
      if mode.fromFile && (← get).has .verbose then
        let text := scanner.rest.take (scanner.rest.length - after.length)
        let _ ← task (Task.writeAll 2 ⟨(Parse.toBytes text).toArray⟩)
    match nextCommand { scanner with aliases := (← get).aliases } with
    | .error e =>
      reveal []
      modify fun s => { s with line := e.line }
      fail ("Syntax error: " ++ e.message)
    | .ok none => reveal []
    | .ok (some (c, isLast, rest)) =>
      reveal rest.rest
      run fuel { mode with last := mode.last && isLast, fromFile := false } c
      runScanner fuel mode rest
  termination_by structural fuel => fuel

/-- Runs a file in this shell. -/
def runFile : Nat → ByteString → Step Unit
  | 0, _ => exit 2
  | fuel + 1, name => do
    let path ← if name.contains Path.separator then pure name
      else match ← task (Task.look (candidates name (exported (← get)))) with
        | path :: _ => pure path
        | [] => fail (Text.lossy name ++ ": not found")
    match ← task (Task.openFile path .read) with
    | .error e => fail ("cannot open " ++ Text.lossy path ++ ": " ++ openFault e "No such file")
    | .ok fd =>
      let data := match ← task (Task.readAll fd) with
        | .ok data => data.data.toList
        | .error _ => []
      let _ ← task (Task.close fd)
      modify fun s => { s with status := 0, speaker := Text.lossy path }
      try runText fuel { fromFile := true } (Parse.ofBytes data)
      catch
        | .return code => setStatus code
        | j => throw j
  termination_by structural fuel => fuel

/-- Runs a builtin that other commands may be run by. -/
def runBuiltin : Nat → Mode → String → List ByteString → Step Unit
  | 0, _, _, _ => exit 2
  | fuel + 1, mode, name, arguments => do
    match name with
    | "eval" =>
      setStatus 0
      runText fuel mode (Parse.ofBytes ((List.intersperse [32] arguments).flatten))
    | "." =>
      match (← options "" "" arguments).operands with
      | [] => setStatus 0
      | path :: _ => runFile fuel path
    | "exec" =>
      match (← options "" "" arguments).operands with
      | [] => setStatus 0
      | program :: rest =>
        let environment := exported (← get)
        let paths ← task (Task.look (candidates program environment))
        let _ ← becomeProgram program rest environment .noEntry paths
    | "command" => setStatus (← runDescribe arguments)
    | "type" => setStatus (← describeAll arguments)
    | "hash" => setStatus (← runHash arguments)
    | _ =>
      match builtin? name with
      | some builtin => setStatus (← builtin arguments)
      | none => setStatus 127
  termination_by structural fuel => fuel

/-- Runs a command that is not a function: a builtin or a program. -/
def runNamed : Nat → Mode → Called → Variables → Step Unit
  | 0, _, _, _ => exit 2
  | fuel + 1, mode, called, assignments => do
    let name := Text.lossy called.name
    let isSpecial := special.contains name && !called.plainly
    let before := (← get).values
    let back : Step Unit := modify fun s =>
      assignments.foldl (fun s x => giveBack s x.1 (before.lookup x.1)) s
    if isBuiltin name then
      for (n, v) in assignments do
        if isSpecial then assign n v else assignAs (fun v => { v with exported := true }) n v
      let speaker := (← get).speaker
      let quiet : Step Unit := modify fun s => { s with speaker }
      modify fun s => { s with speaker := name }
      try
        runBuiltin fuel mode name called.arguments
        quiet
      catch
        | .fault =>
          quiet
          if isSpecial then throw .fault
          setStatus 2
        | j =>
          quiet
          throw j
      if !isSpecial then back
    else
      for (n, v) in assignments do assignAs (fun v => { v with exported := true }) n v
      runProgram mode called.name called.arguments called.usual
      back
  termination_by structural fuel => fuel

/-- Runs a body with its own parameters; `return` ends it. -/
def runFunction : Nat → Mode → Command → List ByteString → Variables → Step Unit
  | 0, _, _, _, _ => exit 2
  | fuel + 1, mode, body, arguments, assignments => do
    let s ← get
    let kept : List (ByteString × Option Variable) :=
      assignments.map fun (n, _) => (n, s.values.lookup n)
    set { s with
      parameters := arguments, loops := 0, optionIndex := 1, optionOffset := none
      sheltered := some kept, shelteredSwitches := none }
    let back : Step Unit := modify fun t =>
      let t := (t.sheltered.getD []).foldl (fun t x => giveBack t x.1 x.2) t
      { t with
        parameters := s.parameters, loops := s.loops
        optionIndex := s.optionIndex, optionOffset := s.optionOffset
        on := t.shelteredSwitches.getD t.on, sheltered := s.sheltered
        shelteredSwitches := s.shelteredSwitches }
    try
      for (n, v) in assignments do assignAs (fun v => { v with exported := true }) n v
      run fuel mode body
      back
    catch
      | .return code =>
        back
        setStatus code
      | j =>
        back
        throw j
  termination_by structural fuel => fuel

/-- Shows a command that is about to be run. -/
def echoCommand : Nat → Variables → List ByteString → Step Unit
  | 0, _, _ => exit 2
  | fuel + 1, assignments, words => do
    let sign := (valueOf? "PS4" (← get)).getD []
    let sign ← match readQuoted (Parse.ofBytes sign) with
      | .ok pieces => do pure (whole (← expand fuel pieces)).bytes
      | .error _ => pure sign
    let shown := assignments.map fun (n, v) => n ++ 61 :: v
    say (Text.lossy sign ++ " ".intercalate ((shown ++ words).map Text.lossy))
  termination_by structural fuel => fuel

/-- Runs a simple command. -/
def runSimple : Nat → Mode → List (ByteString × List Piece) → List (List Piece) →
    List Redirection → Step Unit
  | 0, _, _, _, _ => exit 2
  | fuel + 1, mode, assignments, words, redirections => do
    task (Task.spend commandTime)
    modify fun s => { s with substituted := none }
    let argv ← commandWords fuel [] words
    let values ← assignmentValues fuel assignments
    if (← get).has .xtrace then echoCommand fuel values argv
    let called := Called.ofWords (argv.headD []) (argv.drop 1)
    match ← redirect fuel [] redirections with
    | none =>
      setStatus 2
      if special.contains (Text.lossy called.name) && !called.plainly then throw .fault
    | some saved =>
      if argv.isEmpty then
        for (n, v) in values do assign n v
        restore saved
        setStatus ((← get).substituted.getD 0)
      else match ((← get).functions.lookup called.name).filter (fun _ => !called.plainly) with
        | some body =>
          runFunction fuel { tested := mode.tested } body called.arguments values
          restore saved
        | none =>
          runNamed fuel mode called values
          if called.name = "exec" then
            for s in saved do
              if let some copy := s.copy then
                let _ ← task (Task.close copy)
          else restore saved
    runTraps fuel
    let s ← get
    if s.status != 0 && s.has .errexit && !mode.tested then exit s.status
  termination_by structural fuel => fuel

def assignmentValues : Nat → List (ByteString × List Piece) → Step Variables
  | 0, _ => exit 2
  | _ + 1, [] => return []
  | fuel + 1, (name, word) :: rest => do
    let v ← valueOf fuel word
    return (name, v) :: (← assignmentValues fuel rest)
  termination_by structural fuel => fuel

/-- Starts the parts of a pipeline, each reading what the one before it writes: their numbers. -/
def startParts : Nat → Option Nat → List Command → Step (List Nat)
  | 0, _, _ => exit 2
  | _ + 1, _, [] => return []
  | fuel + 1, input, part :: parts => do
    let body (ends : Option (Nat × Nat)) : Step Nat := do
      if let some fd := input then moveTo fd 0
      if let some (reader, writer) := ends then
        let _ ← task (Task.close reader)
        moveTo writer 1
      finish fuel (run fuel { last := true } part)
    let closeInput : Step Unit := do
      if let some fd := input then
        let _ ← task (Task.close fd)
    if parts.isEmpty then
      let child ← forkStep (body none)
      closeInput
      return [child]
    else
      let (reader, writer) ← task Task.pipe
      let child ← forkStep (body (some (reader, writer)))
      closeInput
      let _ ← task (Task.close writer)
      return child :: (← startParts fuel (some reader) parts)
  termination_by structural fuel => fuel

/-- Runs the rounds of a loop; `code` is the exit code of the last round. -/
def runLoop : Nat → Mode → Bool → Command → Command → Nat → Step Unit
  | 0, _, _, _, _, _ => exit 2
  | fuel + 1, mode, untilTrue, condition, body, code => do
    run fuel { tested := true } condition
    if ((← get).status == 0) == untilTrue then setStatus code
    else if ← runRound fuel mode body then
      runLoop fuel mode untilTrue condition body (← get).status
  termination_by structural fuel => fuel

/-- Runs a round of a loop: whether another may follow. -/
def runRound : Nat → Mode → Command → Step Bool
  | 0, _, _ => exit 2
  | fuel + 1, mode, body => do
    try
      run fuel mode body
      return true
    catch
      | .leave n goOn =>
        if 1 < n then throw (.leave (n - 1) goOn)
        return goOn
      | j => throw j
  termination_by structural fuel => fuel

def runEach : Nat → Mode → ByteString → List ByteString → Command → Step Unit
  | 0, _, _, _, _ => exit 2
  | _ + 1, _, _, [], _ => pure ()
  | fuel + 1, mode, name, w :: ws, body => do
    assign name w
    if ← runRound fuel mode body then runEach fuel mode name ws body
  termination_by structural fuel => fuel

/-- The body of the first branch with a pattern that describes the value. -/
def branchFor : Nat → ByteString → List (List (List Piece) × Command) → Step Command
  | 0, _, _ => exit 2
  | _ + 1, _, [] => return .nothing
  | _ + 1, _, ([], _) :: [] => return .nothing
  | fuel + 1, value, ([], _) :: more => branchFor fuel value more
  | fuel + 1, value, (p :: ps, body) :: more => do
    if (whole (← expand fuel p)).describes value then return body
    branchFor fuel value ((ps, body) :: more)
  termination_by structural fuel => fuel

/-- Runs a command. -/
def run : Nat → Mode → Command → Step Unit
  | 0, _, _ => exit 2
  | fuel + 1, mode, command => do
    let inner : Mode := { mode with last := false }
    let check : Step Unit := do
      runTraps fuel
      let s ← get
      if s.status != 0 && s.has .errexit && !mode.tested then exit s.status
    if (← get).has .noexec then return
    let inLoop (body : Step Unit) : Step Unit := do
      modify fun s => { s with loops := s.loops + 1 }
      body
      modify fun s => { s with loops := s.loops - 1 }
    match command with
    | .nothing => setStatus 0
    | .simple line assignments words redirections =>
      modify fun s => { s with line }
      runSimple fuel mode assignments words redirections
    | .pipeline parts =>
      let children ← startParts fuel none parts
      for child in children.dropLast do
        let _ ← awaitWithin child false Task.patience
      setStatus (← awaitForeground (children.getLastD 0))
      check
    | .negated c =>
      run fuel { last := false, tested := true } c
      setStatus (if (← get).status = 0 then 1 else 0)
    | .both a b =>
      run fuel { last := false, tested := true } a
      if (← get).status = 0 then run fuel mode b
    | .either a b =>
      run fuel { last := false, tested := true } a
      if (← get).status ≠ 0 then run fuel mode b
    | .sequence a b =>
      run fuel inner a
      run fuel mode b
    | .background c =>
      let child ← forkStep do
        match ← task (Task.openFile "/dev/null" .read) with
        | .ok fd => moveTo fd 0
        | .error _ => pure ()
        task (Task.dispose 2 .ignored)
        task (Task.dispose 3 .ignored)
        finish fuel (run fuel { last := true } c)
      addJob child
      setStatus 0
    | .redirected c redirections =>
      match ← redirect fuel [] redirections with
      | none => setStatus 2
      | some saved =>
        run fuel inner c
        restore saved
    | .subshell c =>
      if mode.last && (← get).traps.isEmpty then run fuel mode c
      else
        let child ← forkStep (finish fuel (run fuel { mode with last := true } c))
        setStatus (← awaitForeground child)
        check
    | .choice condition yes no =>
      run fuel { last := false, tested := true } condition
      if (← get).status = 0 then run fuel mode yes
      else run fuel mode no
    | .loop untilTrue condition body => inLoop (runLoop fuel inner untilTrue condition body 0)
    | .each name words body =>
      let items ← match words with
        | some ws => wordsOf fuel false ws
        | none => pure (← get).parameters
      setStatus 0
      inLoop (runEach fuel inner name items body)
    | .select word branches =>
      let value ← single fuel word
      setStatus 0
      run fuel mode (← branchFor fuel value branches)
    | .define name body =>
      modify fun s => { s with
        functions := s.functions.filter (·.1 ≠ name) ++ [(name, body)], status := 0 }
    | .placed line c =>
      modify fun s => { s with line }
      run fuel mode c
  termination_by structural fuel => fuel

end

/-! ## The program -/

/-- Reads the switches among the words that a shell is called with: whether its script is the next
word, and the words that are left. -/
def readStart (isText : Bool) : Nat → List ByteString → Step (Bool × List ByteString)
  | 0, words => return (isText, words)
  | fuel + 1, words => do
    let turn (on : Bool) (letters : ByteString) (rest : List ByteString) :
        Step (Bool × List ByteString) := do
      let own (b : UInt8) : Bool := b == 99 || b == 108
      let rest ← turnLetters on (letters.filter (!own ·)) rest
      readStart (isText || letters.contains 99) fuel rest
    match words with
    | [45] :: rest | [45, 45] :: rest => return (isText, rest)
    | (45 :: letters) :: rest => turn true letters rest
    | (43 :: letters) :: rest => turn false letters rest
    | words => return (isText, words)

/-- Takes the script from a file. -/
def runScript (path : ByteString) : Step Unit := do
  let program := (← get).name
  match ← task (Task.openFile path .read) with
  | .error e => fail ("cannot open " ++ Text.lossy path ++ ": " ++ openFault e "No such file")
  | .ok fd =>
    let data ← task (Task.readAll fd)
    let _ ← task (Task.close fd)
    modify fun s => { s with line := 1, name := if path.isEmpty then program else path }
    match data with
    | .ok data => runText Task.patience { fromFile := true } (Parse.ofBytes data.data.toList)
    | .error _ => exit 2

/-- What the words of a call ask a shell to do. -/
def start (words : List ByteString) : Step Unit := do
  modify fun s => { s with line := 0 }
  let (isText, words) ← readStart false (words.length + 1) words
  let fromInput (parameters : List ByteString) : Step Unit := do
    modify fun s => { (s.turn .stdin true) with line := 1, parameters }
    match ← task (Task.readAll 0) with
    | .ok data => runText Task.patience { fromFile := true } (Parse.ofBytes data.data.toList)
    | .error _ => pure ()
  if isText then
    match words with
    | [] => fail "-c requires an argument"
    | script :: rest =>
      modify fun s => { s with line := 1, name := rest.headD s.name, parameters := rest.drop 1 }
      runText Task.patience { last := true } (Parse.ofBytes script)
  else if (← get).has .stdin then fromInput words
  else match words with
    | [] => fromInput []
    | path :: parameters =>
      modify fun s => { s with parameters }
      runScript path

/-- The shell as a program. -/
def shell (arguments : List ByteString) (environment : Variables) : Task Nat := do
  let pid ← Task.processId
  let parent ← Task.parentId
  let physical ← Task.look fun t here => t.pathOf here
  let claimed := (environment.lookup (ByteString.ofText "PWD")).getD []
  -- the names under which the current directory was reached are taken over if they lead to it
  let isTrue ← Task.look fun t here =>
    claimed.head? == some Path.separator && (t.find here claimed).toOption == some here
  let here := if isTrue then claimed else physical
  let inherited := (environment.filter fun (n, _) => isName n).map fun (n, v) =>
    (n, ({ value := some v, exported := true } : Variable))
  let own (name : String) (value : ByteString) (s : State) : State :=
    let name := ByteString.ofText name
    if (s.values.lookup name).isSome then s
    else setVariable name (fun v => { v with value := some value }) s
  let s : State := { name := arguments.headD "sh", processId := pid, values := inherited }
  let s := { s with values := s.values.filter (·.1 ≠ (ByteString.ofText "IFS")) }
  let s := own "PATH" usualPath (own "PS1" "# " (own "PS2" "> " (own "PS4" "+ " (own "IFS" " \t\n" s))))
  let forced (name : String) (value : ByteString) (s : State) : State :=
    setVariable (ByteString.ofText name) (fun v => { v with value := some value }) s
  let s := forced "OPTIND" "1" (forced "PPID" (ByteString.ofText (toString parent)) s)
  let s := setVariable "PWD" (fun v => { v with value := some here, exported := true }) { s with here }
  match ← (finish Task.patience (start (arguments.drop 1))).run s with
  | (.ok code, _) => return code
  | (.error _, s) => return s.status

end ModuleForge.Host.Shell
