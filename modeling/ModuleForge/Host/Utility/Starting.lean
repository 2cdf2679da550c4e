import ModuleForge.Host.Utility.Call

/-!
# Utilities that wait and that start programs

What waits, changes what a program is started with, gives it a limit of time, or starts one over and
over.
-/
namespace ModuleForge.Host.Utility

open Call

/-! ## Waiting -/

/-- A length of time in nanoseconds: a decimal number of seconds, minutes, hours or days. -/
def nanos? (word : ByteString) : Option Nat :=
  let cs := (Format.chars word).dropWhile Decimal.isBlank
  let billion := 1000000000
  match Decimal.readLong cs with
  | none => none
  | some (x, rest) =>
    let unit? : Option Nat := match rest with
      | [] | ['s'] => some 1
      | ['m'] => some 60
      | ['h'] => some 3600
      | ['d'] => some 86400
      | _ => none
    match unit?, x.size with
    | some unit, .finite m =>
      let (num, den) := m.quotient
      if x.negative && num ≠ 0 then none else some ((num * unit * billion + den - 1) / den)
    | some _, .infinite => if x.negative then none else some (billion * 10 ^ 9)
    | _, _ => none

def sleep : Utility := fun c => c.withGrammar {} fun o => do
  match o.operands.mapM nanos? with
  | some [] => c.misuse "missing operand"
  | some times =>
    Task.sleep (times.foldl (· + ·) 0)
    return 0
  | none =>
    for w in o.operands do
      if (nanos? w).isNone then c.complain ("invalid time interval " ++ quoted w)
    say ("Try '" ++ c.program ++ " --help' for more information.")
    return 1

/-! ## Starting programs -/

/-- The paths at which a program may be found. -/
def candidates (program : ByteString) (environment : Variables) : List ByteString :=
  let name : ByteString := "PATH"
  let dirs := FileTree.searchDirs ((environment.lookup name).getD "/bin:/usr/bin")
  if program.contains Path.separator then [program]
  else dirs.map fun d => if d.isEmpty then program else d ++ Path.separator :: program

/-- Becomes another program: why that is not possible. -/
def becoming (words : List ByteString) (environment : Variables) : Task Errno := do
  let program := words.headD []
  let mut fault := Errno.noEntry
  for path in candidates program environment do
    let e ← Task.execute path words environment
    let e ← if e = .notExecutable then
        let sh : ByteString := "/bin/sh"
        Task.execute sh (sh :: path :: words.drop 1) environment
      else pure e
    if e ≠ .noEntry && e ≠ .notDirectory then fault := e
  return fault

/-- The exit code for a program that cannot be started. -/
def codeOfFault (e : Errno) : Nat := if e = .noEntry then 127 else 126

/-- Becomes another program, or complains that this is not possible. -/
def become (c : Call) (complaint : String) (words : List ByteString) (environment : Variables) :
    Task Nat := do
  let fault ← becoming words environment
  c.complain (complaint ++ quoted (words.headD []) ++ ": " ++ fault.message)
  return codeOfFault fault

/-- Prints where programs are found. -/
def which : Utility := fun c => c.withGrammar { flags := "as" } fun o => do
  let mut code := 0
  for name in o.operands do
    let found ← Task.look fun t here =>
      (candidates name c.environment).filter fun path =>
        Shell.FileTest.plain.holds path t here && Shell.FileTest.executable.holds path t here
    match found with
    | path :: more =>
      if !o.has 's' then
        let _ ← c.putBytes ((path :: if o.has 'a' then more else []).flatMap (· ++ [10]))
    | [] => code := 1
  return if o.operands.isEmpty then 1 else code

/-! ## Variables -/

/-- Variables without one of them. -/
def withoutVariable (name : ByteString) (environment : Variables) : Variables :=
  environment.filter (·.1 ≠ name)

/-- Variables with one of them set. -/
def withVariable (name value : ByteString) (environment : Variables) : Variables :=
  if (environment.lookup name).isSome then
    environment.map fun (n, v) => if n = name then (name, value) else (n, v)
  else environment ++ [(name, value)]

/-- The words of a text between blanks; quotes and backslashes keep blanks in words. -/
def wordsWithin (quote : Option UInt8) (current : Option (List UInt8)) :
    List UInt8 → List (List UInt8)
  | [] => current.toList
  | b :: rest =>
    let add (x : UInt8) : Option (List UInt8) := some (current.getD [] ++ [x])
    match quote with
    | some q =>
      if b = q then wordsWithin none (some (current.getD [])) rest
      else wordsWithin quote (add b) rest
    | none =>
      if b = 34 || b = 39 then wordsWithin (some b) (some (current.getD [])) rest
      else if b = 92 then match rest with
        | x :: rest => wordsWithin none (add x) rest
        | [] => (add 92).toList
      else if isBlankByte b then current.toList ++ wordsWithin none none rest
      else wordsWithin none (add b) rest

/-- The words of a call with those that stand together behind `-S` as words of their own. -/
def unpacked : Nat → List ByteString → List ByteString
  | 0, words => words
  | _ + 1, [] => []
  | fuel + 1, w :: rest =>
    match w with
    | [45, 83] => match rest with
      | text :: rest => unpacked fuel (wordsWithin none none text ++ rest)
      | [] => [w]
    | 45 :: 83 :: text => unpacked fuel (wordsWithin none none text ++ rest)
    | 45 :: 105 :: 83 :: text => [45, 105] :: unpacked fuel (wordsWithin none none text ++ rest)
    | 45 :: _ => w :: unpacked fuel rest
    | _ => w :: rest

/-- Prints the variables, or runs a program with some more of them. -/
def env : Utility := fun c => do
  let call := { c with words := unpacked (c.words.length + 8) c.words }
  call.withGrammarOr 125 {
      flags := "i0v", valued := "uCS", inFront := true
      long := [("ignore-environment", 'i'), ("null", '0'), ("unset", 'u'), ("chdir", 'C'),
        ("split-string", 'S'), ("debug", 'v')] } fun o => do
    let (cleared, words) := match o.operands with
      | [45] :: rest => (true, rest)
      | words => (o.has 'i', words)
    let isSetting (w : ByteString) : Bool := w.contains 61
    let settings := (words.takeWhile isSetting).filterMap Shell.assignment?
    let program := words.dropWhile isSetting
    match (o.values 'u').find? fun n => n.isEmpty || n.contains 61 with
    | some n =>
      c.complain ("cannot unset " ++ quoted n ++ ": Invalid argument")
      return 125
    | none =>
      let start := if cleared then [] else c.environment
      let start := (o.values 'u').foldl (fun e n => withoutVariable n e) start
      let environment := settings.foldl (fun e (n, v) => withVariable n v e) start
      match o.value? 'C', program with
      | some _, [] => c.misuse "must specify command with --chdir (-C)" 125
      | dir, program =>
        let moved ← match dir with
          | some d => Task.changeDir d
          | none => pure (.ok ())
        match moved with
        | .error e =>
          c.complain ("cannot change directory to " ++ quoted (dir.getD []) ++ ": " ++ e.message)
          return 125
        | .ok () =>
          let closing : ByteString := if o.has '0' then [0] else [10]
          match program with
          | [] => c.putBytes (environment.flatMap fun (n, v) => n ++ 61 :: v ++ closing)
          | words =>
            if o.has '0' then c.misuse "cannot specify --null (-0) with command" 125
            else
              if o.has 'v' then
                say ("executing: " ++ plain (words.headD []))
                for (w, i) in words.zipIdx do say ("   arg[" ++ toString i ++ "]= " ++ quoted w)
              become c "" words environment

def printenv : Utility := fun c => c.withGrammarOr 2 {
    flags := "0", long := [("null", '0')], inFront := true } fun o => do
  let closing : ByteString := if o.has '0' then [0] else [10]
  match o.operands with
  | [] => c.putBytes (c.environment.flatMap fun (n, v) => n ++ 61 :: v ++ closing)
  | names =>
    let found := names.map fun n => c.environment.lookup n
    c.putBytes (found.flatMap fun v => (v.map (· ++ closing)).getD [])
      (if found.all (·.isSome) then 0 else 1)

/-! ## Other ways of running -/

/-- Runs a program that hears no hangup. -/
def nohup : Utility := fun c => c.withGrammarOr 125 { inFront := true } fun o => do
  match o.operands with
  | [] => c.misuse "missing operand" 125
  | words =>
    Task.dispose 1 .ignored
    become c "failed to run command " words c.environment

/-- Runs a program with another urgency, which makes no difference here. -/
def nice : Utility := fun c =>
  let spelled : List ByteString := c.words.map fun w => match w with
    | 45 :: d :: more => if 48 ≤ d && d ≤ 57 then 45 :: 110 :: d :: more else w
    | w => w
  { c with words := spelled }.withGrammarOr 125 {
      valued := "n", long := [("adjustment", 'n')], inFront := true } fun o => do
    match o.value? 'n', o.operands with
    | some n, words =>
      if (Shell.integer? n).isNone then
        c.complain ("invalid adjustment " ++ quoted n)
        return 125
      else if words.isEmpty then c.misuse "a command must be given with an adjustment" 125
      else if words == [ByteString.ofText "nice"] then
        c.putText (toString (min 19 ((Shell.integer? n).getD 0)) ++ "\n")
      else become c "" words c.environment
    | none, [] => c.putText "0\n"
    | none, words =>
      if words == [ByteString.ofText "nice"] then c.putText "10\n" else become c "" words c.environment

/-- Runs a program whose streams are buffered in another way, which makes no difference here. -/
def stdbuf : Utility := fun c => c.withGrammarOr 125 {
    valued := "ioe", long := [("input", 'i'), ("output", 'o'), ("error", 'e')], inFront := true } fun o => do
  if o.operands.isEmpty then c.misuse "missing operand" 125
  else if o.letters.isEmpty then c.misuse "you must specify a buffering mode option" 125
  else become c "failed to run command " o.operands c.environment

/-- Starts a program in a group of its own. The leader of a group leaves that to a child. -/
def setsid : Utility := fun c => c.withGrammar {
    flags := "wcf", long := [("wait", 'w'), ("ctty", 'c'), ("fork", 'f')], inFront := true } fun o => do
  let words := o.operands
  let run : Task Nat := do
    let fault ← becoming words c.environment
    c.complain ("failed to execute " ++ plain (words.headD []) ++ ": " ++ fault.message)
    return codeOfFault fault
  if words.isEmpty then c.misuse "no command specified"
  else
    let left ← if o.has 'f' then pure (.error Errno.notPermitted) else Task.leaveGroup
    match left with
    | .ok () => run
    | .error _ =>
      let child ← Task.fork do
        let _ ← Task.leaveGroup
        run
      if o.has 'w' then
        match ← Task.wait (some child) true with
        | .ok (some (_, word)) => return Shell.Step.codeOf word
        | _ => return 1
      else return 0

/-- Runs a program for a time at most. What runs too long gets a signal, and so does everything it
has started. -/
def timeout : Utility := fun c => c.withGrammarOr 125 {
    flags := "vPF", valued := "sk", inFront := true
    long := [("signal", 's'), ("kill-after", 'k'), ("verbose", 'v'), ("preserve-status", 'P'),
      ("foreground", 'F')] } fun o => do
  let signal? := match o.value? 's' with
    | none => some 15
    | some s => Signal.ofText? (plain s)
  match signal?, o.operands with
  | none, _ => c.misuse (quoted ((o.value? 's').getD []) ++ ": invalid signal") 125
  | some signal, limit :: program :: rest =>
    match nanos? limit, (o.value? 'k').map nanos? with
    | none, _ => c.misuse ("invalid time interval " ++ quoted limit) 125
    | _, some none => c.misuse ("invalid time interval " ++ quoted ((o.value? 'k').getD [])) 125
    | some nanos, later =>
      if !o.has 'F' then
        let _ ← Task.leaveGroup
      let child ← Task.fork (become c "failed to run command " (program :: rest) c.environment)
      let send (signal : Nat) : Task Unit := do
        if o.has 'v' then
          c.complain ("sending signal " ++ Signal.name signal ++ " to command " ++ quoted program)
        let _ ← Task.kill child signal
        if !o.has 'F' then
          let _ ← Task.kill 0 signal
        if signal ≠ Signal.kill then
          let _ ← Task.kill child Signal.goOn
      Task.dispose signal .ignored
      let watcher? ← if nanos = 0 then pure none else some <$> Task.fork do
        Task.sleep nanos
        send signal
        if let some (some more) := later then
          Task.sleep more
          send Signal.kill
        return 1
      match ← Task.wait (some child) true with
      | .ok (some (_, word)) =>
        let late ← match watcher? with
          | none => pure false
          | some watcher => do
            match ← Task.wait (some watcher) false with
            | .ok (some _) => pure true
            | _ =>
              let _ ← Task.kill watcher Signal.kill
              pure (later.isSome && word.toNat % 128 = signal)
        let code := Shell.Step.codeOf word
        return if late && !o.has 'P' && word.toNat % 128 ≠ Signal.kill then 124 else code
      | _ => return 125
  | _, _ =>
    say ("Try '" ++ c.program ++ " --help' for more information.")
    return 125

/-- Sends signals to processes. -/
def kill : Utility := fun c => do
  let (signal?, targets) : Option Nat × List ByteString := match c.words with
    | [45, 115] :: s :: rest => (Signal.ofText? (plain s), rest)
    | [45, 45] :: rest => (some 15, rest)
    | (45 :: s) :: rest => (Signal.ofText? (plain s), rest)
    | words => (some 15, words)
  match signal?, targets with
  | _, [] => c.misuse "not enough arguments"
  | none, _ => c.misuse "unknown signal name"
  | some signal, targets =>
    let mut code := 0
    for t in if targets.head? == some [45, 45] then targets.drop 1 else targets do
      match Shell.integer? t with
      | none =>
        c.complain ("failed to parse argument: " ++ quoted t)
        code := 1
      | some pid => match ← Task.kill pid signal with
        | .ok () => pure ()
        | .error e =>
          c.complain ("(" ++ toString pid ++ "): " ++ e.message)
          code := 1
    return code

/-! ## Running over and over -/

/-- A text with another in every place of a mark. -/
def replaceAll (mark text : ByteString) (w : ByteString) : ByteString :=
  go (w.length + 1) w
where
  go : Nat → ByteString → ByteString
    | 0, w => w
    | _ + 1, [] => []
    | fuel + 1, b :: rest =>
      if !mark.isEmpty && mark.isPrefixOf (b :: rest) then text ++ go fuel ((b :: rest).drop mark.length)
      else b :: go fuel rest

/-- Items that are read: each with whether its line goes on behind it. -/
structure Items where
  items : List (ByteString × Bool)
  complaint : Option String := none

/-- The items of a text: its words, or in `byLines` its lines without the blanks before them. Quotes
and backslashes keep what they stand around. -/
def itemsOf (byLines : Bool) (quote : Option UInt8) (current : Option ByteString) :
    List UInt8 → Items
  | [] => match quote with
    | some q => { items := [], complaint := some ("unmatched "
        ++ (if q = 34 then "double" else "single")
        ++ " quote; by default quotes are special to xargs unless you use the -0 option") }
    | none => { items := current.toList.map (·, false) }
  | b :: rest =>
    let add (x : UInt8) : Option ByteString := some (current.getD [] ++ [x])
    let close (goesOn : Bool) (more : Items) : Items :=
      { more with items := current.toList.map (·, goesOn) ++ more.items }
    match quote with
    | some q =>
      if b = q then itemsOf byLines none (some (current.getD [])) rest
      else if b = 10 then { items := [], complaint := some ("unmatched "
        ++ (if q = 34 then "double" else "single")
        ++ " quote; by default quotes are special to xargs unless you use the -0 option") }
      else itemsOf byLines quote (add b) rest
    | none =>
      if b = 34 || b = 39 then itemsOf byLines (some b) (some (current.getD [])) rest
      else if b = 92 then match rest with
        | x :: rest => itemsOf byLines none (add x) rest
        | [] => itemsOf byLines none current []
      else if b = 10 then close false (itemsOf byLines none none rest)
      else if b = 32 || b = 9 then
        if byLines then itemsOf byLines none (if current.isSome then add b else none) rest
        else
          -- a blank at the end of a line continues it
          close (rest.head? != some 10 || current.isNone) (itemsOf byLines none none rest)
      else itemsOf byLines none (add b) rest

/-- The byte that a word for a delimiter means. -/
def delimiterOf (w : ByteString) : UInt8 :=
  match Format.chars w with
  | ['\\', c] => if c == '0' then 0 else (Format.escape? c).getD (UInt8.ofNat c.toNat)
  | '\\' :: 'x' :: ds => UInt8.ofNat (Format.digitsValue 16 ds)
  | '\\' :: ds => UInt8.ofNat (Format.digitsValue 8 ds)
  | c :: _ => UInt8.ofNat c.toNat
  | [] => 0

/-- Items by the lines they came from, in groups of so many lines. -/
def byLineGroups (lines : Nat) (items : List (ByteString × Bool)) : List (List ByteString) :=
  let rows := items.foldr (fun (x, goesOn) acc => match acc with
    | [] => [[x]]
    | row :: rows => if goesOn then (x :: row) :: rows else [x] :: row :: rows) []
  (parts (max lines 1) rows).map List.flatten

/-- Starts a program and waits for it: its status word, or why it could not be started. -/
def runItems (c : Call) (words : List ByteString) : Task (Option (BitVec 32)) := do
  let child ← Task.fork do
    let null : ByteString := "/dev/null"
    match ← Task.openFile null .read with
    | .ok fd =>
      let _ ← Task.duplicate fd 0
    | .error _ => pure ()
    let fault ← becoming words c.environment
    c.complain (plain (words.headD []) ++ ": " ++ fault.message)
    return codeOfFault fault
  match ← Task.wait (some child) true with
  | .ok (some (_, word)) => return some word
  | _ => return none

/-- Runs a program with items as words behind its own, or in the place of a mark. -/
def xargs : Utility := fun c => c.withGrammar {
    flags := "0prtxo", valued := "adEILnPs", attached := "eil", inFront := true
    long := [("null", '0'), ("arg-file", 'a'), ("delimiter", 'd'), ("replace", 'i'), ("max-lines", 'l'),
      ("max-args", 'n'), ("max-procs", 'P'), ("no-run-if-empty", 'r'), ("max-chars", 's'), ("verbose", 't'),
      ("interactive", 'p'), ("exit", 'x')] } fun o => do
  let numberFault? := "nLPs".toList.findSome? fun l => (o.value? l).bind fun v =>
    match Shell.integer? v with
    | none => some ("invalid number \"" ++ plain v ++ "\" for -" ++ String.singleton l ++ " option")
    | some n =>
      if n < 1 && l != 'P' then
        some ("value " ++ plain v ++ " for -" ++ String.singleton l ++ " option should be >= 1")
      else none
  match numberFault? with
  | some message => c.misuse message
  | none =>
    let program := if o.operands.isEmpty then [ByteString.ofText "echo"] else o.operands
    let source ← match o.value? 'a' with
      | none => pure (.ok 0)
      | some path => Task.openFile path .read
    match source with
    | .error e =>
      c.complain ("Cannot open input file " ++ quoted ((o.value? 'a').getD []) ++ ": " ++ e.message)
      return 1
    | .ok fd =>
      let data := match ← Task.readAll fd with
        | .ok data => data.data.toList
        | .error _ => []
      let mark? := match o.last? "Ii" with
        | some 'I' => o.value? 'I'
        | some _ => some (if o.value? 'i' == some [] then ByteString.ofText "\x7b\x7d" else (o.value? 'i').getD [])
        | none => none
      let read : Items :=
        if o.has '0' then { items := (between 0 data).map (·, false) }
        else match o.value? 'd' with
          | some d => { items := (between (delimiterOf d) data).map (·, false) }
          | none => itemsOf mark?.isSome none none data
      let items := match o.value? 'E' with
        | some stop => read.items.takeWhile fun (x, _) => x ≠ stop
        | none => read.items
      let lines? := match o.last? "Ll" with
        | some 'L' => (o.value? 'L').bind Shell.natural?
        | some _ => some (((o.value? 'l').bind Shell.natural?).getD 1)
        | none => none
      let number := (o.value? 'n').bind Shell.natural?
      -- how much room all words of a call may take
      let room := (((o.value? 's').bind Shell.natural?).getD 131072)
      let ofRoom (items : List ByteString) : List (List ByteString) :=
        let own := (program.map (·.length + 1)).foldl (· + ·) 0
        let (rows, row, _) := items.foldl (fun (st : List (List ByteString) × List ByteString × Nat) w =>
          let (rows, row, used) := st
          if row.isEmpty || used + w.length + 1 ≤ room then (rows, row ++ [w], used + w.length + 1)
          else (rows ++ [row], [w], own + w.length + 1)) ([], [], own)
        if row.isEmpty then rows else rows ++ [row]
      let groups : List (List ByteString) := match mark?, lines?, number with
        | some _, _, _ => items.map fun (x, _) => [x]
        | none, some l, _ => byLineGroups l items
        | none, none, some n => parts (max n 1) (items.map (·.1))
        | none, none, none => ofRoom (items.map (·.1))
      let calls : List (List ByteString) := match mark? with
        | some m => groups.map fun row => program.map (replaceAll m (row.headD []))
        | none =>
          if groups.isEmpty then if o.has 'r' || read.complaint.isSome then [] else [program]
          else groups.map (program ++ ·)
      let mut code := 0
      for words in calls do
        if o.has 't' then say (" ".intercalate (words.map named))
        match ← runItems c words with
        | none => code := 123
        | some word =>
          let status := Shell.Step.codeOf word
          let signal := word.toNat % 128
          if signal ≠ 0 then
            c.complain (plain (words.headD []) ++ ": terminated by signal " ++ toString signal)
            return 125
          if status = 126 || status = 127 then return status
          if status = 255 then
            c.complain (plain (words.headD []) ++ ": exited with status 255; aborting")
            return 124
          if status ≠ 0 then code := 123
      match read.complaint with
      | some message =>
        c.complain message
        return 1
      | none => return code

end ModuleForge.Host.Utility
