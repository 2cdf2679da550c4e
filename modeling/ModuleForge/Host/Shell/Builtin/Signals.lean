import ModuleForge.Host.Shell.Builtin.Basic

/-!
# Signals and children

The builtins that send signals, say what is done on them, wait for children and list them.
-/
namespace ModuleForge.Host.Shell

open Step

/-! ## Jobs by name -/

/-- The job that a word with a percent sign means: a number, or the latest job or the one before
it. -/
def jobOf (w : ByteString) : Step Job := do
  let jobs := (← get).jobs
  let latest (found : Option Job) (missing : String) : Step Job := do
    match found with
    | some job => return job
    | none => fail missing
  match w with
  | [] | [37] | [37, 37] | [37, 43] => latest jobs.head? "No current job"
  | [37, 45] => latest jobs[1]? "No previous job"
  | 37 :: rest =>
    match (natural? rest).bind fun n => jobs.find? (·.number == n) with
    | some job => return job
    | none => fail ("No such job: " ++ Text.lossy w)
  | _ => fail ("No such job: " ++ Text.lossy w)

/-- How a job has come to an end, in words. -/
def endText : Option (BitVec 32) → String
  | none => "Running"
  | some word =>
    if word.toNat % 128 = 0 then
      let code := codeOf word
      if code = 0 then "Done" else "Done(" ++ toString code ++ ")"
    else signalText (word.toNat % 128) ++ if 128 ≤ word.toNat % 256 then " (core dumped)" else ""

/-- One line of a listing of jobs; the job before the latest and the latest are marked. -/
def jobLine (jobs : List Job) (withChild : Bool) (job : Job) : String :=
  let mark :=
    if jobs.head?.any (·.number == job.number) then "+"
    else if jobs[1]?.any (·.number == job.number) then "-" else " "
  let child := if withChild then toString job.child ++ " " else ""
  let text := "[" ++ toString job.number ++ "] " ++ mark ++ " " ++ child ++ endText job.word
  text ++ String.ofList (List.replicate (33 - text.length) ' ') ++ "\n"

def runJobs (words : List ByteString) : Step Nat := do
  let o ← options "lp" "" words
  noteEnds 1024
  let jobs := (← get).jobs
  let shown ←
    if o.operands.isEmpty then pure (jobs.mergeSort fun a b => a.number ≤ b.number)
    else o.operands.mapM jobOf
  let line (job : Job) : String :=
    if (o.letters.getLast?.map (·.1)) == some 'p' then toString job.child ++ "\n"
    else jobLine jobs (o.has 'l') job
  let gone (job : Job) : Bool := job.word.isSome && shown.any (·.number == job.number)
  if !o.has 'p' then modify fun s => { s with jobs := s.jobs.filter fun job => !gone job }
  putText 0 (String.join (shown.map line))

/-- The builtins that would bring jobs to the front or to the back, for which a shell must have
control of them. -/
def runControl (words : List ByteString) : Step Nat := do
  let o ← options "" "" words
  let w := o.operands.headD []
  let _ ← jobOf w
  fail ("job " ++ (if w.isEmpty then "(null)" else Text.lossy w) ++ " not created under job control")

/-! ## Sending signals -/

/-- How the sending of signals is asked for. -/
def killUsage : String :=
  "Usage: kill [-s sigspec | -signum | -sigspec] [pid | job]... or\nkill -l [exitstatus]"

/-- Sends a signal to processes. -/
def sendAll (signal : Nat) (targets : List ByteString) : Step Nat := do
  let mut code := 0
  for target in targets do
    let pid : Int ← match target with
      | 37 :: _ => do pure (-((← jobOf target).child : Int))
      | 45 :: rest => do pure (-((← numberOf rest : Nat) : Int))
      | _ => do pure (← numberOf target : Int)
    match ← task (Task.kill pid signal) with
    | .ok () => pure ()
    | .error e =>
      warn (e.message ++ "\n")
      code := 1
  return code

/-- Writes the names of signals: of all, or of those that exit codes tell of. -/
def listSignals (words : List ByteString) : Step Nat := do
  match words with
  | [] =>
    let numbers := (List.range Signal.last).map (· + 1)
    putText 0 ("0\n" ++ String.join (numbers.map fun n => Signal.name n ++ "\n"))
  | w :: _ =>
    let n ← numberOf w
    let signal := if 128 < n then n - 128 else n
    if 0 < signal && signal ≤ Signal.last then putText 0 (Signal.name signal ++ "\n")
    else fail ("invalid signal number or exit status: " ++ Text.lossy w)

/-- The signal that a word names, other than the end of a process. -/
def signalOf? (w : ByteString) : Option Nat :=
  (Signal.ofWord? (Text.lossy w)).filter fun n => n != 0 || (natural? w).isSome

def runKill (words : List ByteString) : Step Nat := do
  let aim (signal : Nat) (targets : List ByteString) : Step Nat := do
    if targets.isEmpty then fail killUsage
    sendAll signal targets
  match words with
  | (45 :: name) :: rest =>
    if let some signal := signalOf? name then aim signal rest
    else
      let o ← options "l" "s" words
      let named ← (o.letters.filter (·.1 == 's')).mapM fun (_, name) => do
        match signalOf? name with
        | some signal => pure signal
        | none => fail ("invalid signal number or name: " ++ Text.lossy name)
      match o.has 'l', named.getLast? with
      | true, none => listSignals o.operands
      | true, some _ => fail killUsage
      | false, signal => aim (signal.getD 15) o.operands
  | words => aim 15 words

/-! ## Waiting -/

/-- Waits for all children. -/
def waitForAll : Nat → Step Nat
  | 0 => return 0
  | fuel + 1 => do
    match ← task (Task.wait none true) with
    | .ok (some (child, word)) =>
      noteEnd child word
      waitForAll fuel
    | .ok none => return 0
    | .error e =>
      if e = .interrupted then
        collectSignals 64
        match (← get).pending.getLast? with
        | some signal => return 128 + signal
        | none => waitForAll fuel
      else
        modify fun s => { s with jobs := s.jobs.map fun j => { j with waited := true } }
        return 0

/-- Waits for a job: its exit code, or that of the signal that came first. -/
def waitForJob (job : Job) : Step Nat := do
  if job.word.isNone then
    if let some word ← awaitWithin job.child true Task.patience then
      reportDeath word
      noteEnd job.child word
  let job := ((← get).jobs.find? (·.child == job.child)).getD job
  match job.word with
  | some word =>
    modify fun s => { s with
      jobs := s.jobs.map fun j => if j.child = job.child then { j with waited := true } else j }
    return codeOf word
  | none => match (← get).pending.getLast? with
    | some signal => return 128 + signal
    | none => return 127

/-- Waits for children: all of them, or some. -/
def runWait (words : List ByteString) : Step Nat := do
  let o ← options "" "" words
  if o.operands.isEmpty then waitForAll Task.patience
  else
    let mut code := 127
    for w in o.operands do
      match w with
      | 37 :: _ => code := ← waitForJob (← jobOf w)
      | _ =>
        let child ← numberOf w
        if let some job := (← get).jobs.find? (·.child == child) then
          code := ← waitForJob job
    return code

/-! ## Traps -/

/-- Sets what is to be done on signals. -/
def runTrap (words : List ByteString) : Step Nat := do
  match (← options "" "" words).operands with
  | [] =>
    let s ← get
    let line (signal : Nat) (action : ByteString) : ByteString :=
      let name := if signal = 0 then "EXIT" else Signal.name signal
      ByteString.ofText "trap -- " ++ singleQuoted action ++ ByteString.ofText (" " ++ name ++ "\n")
    put 0 ((s.traps.mergeSort (·.1 ≤ ·.1)).flatMap fun (n, a) => line n a)
  | action :: rest =>
    let isNumber : Bool := (natural? action).any (· ≤ Signal.last)
    let (action, signals) : Option ByteString × List ByteString :=
      if rest.isEmpty || isNumber then (none, action :: rest)
      else if action = [45] then (none, rest) else (some action, rest)
    for text in signals do
      match Signal.ofWord? (Text.lossy text) with
      | none =>
        say ("trap: " ++ Text.lossy text ++ ": bad trap")
        return 1
      | some signal =>
        modify fun s => { s with
          traps := s.traps.filter (·.1 ≠ signal) ++ (action.map fun a => (signal, a)).toList }
        if signal != 0 then
          task (Task.dispose signal (match action with
            | none => .default
            | some [] => .ignored
            | some _ => .caught))
    return 0

end ModuleForge.Host.Shell
