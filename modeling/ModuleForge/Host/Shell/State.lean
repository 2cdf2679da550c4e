import ModuleForge.Host.Shell.Command
import ModuleForge.Host.Shell.Pattern
import ModuleForge.Host.Signal
import ModuleForge.Host.Thread

/-!
# The state of a shell

Variables, functions, traps and the rest of what a running shell knows, and the steps (`Step`) in
which it works: parts of a program that change this state and may jump out of what is being run.
-/
namespace ModuleForge.Host.Shell

structure Variable where
  value : Option ByteString := none
  exported : Bool := false
  fixed : Bool := false

/-- A way out of what is being run. -/
inductive Jump where
  | exit (code : Nat)
  /-- A mistake has been met and told of. It ends the shell, unless a builtin whose mistakes are
  those of an ordinary command has made it. -/
  | fault
  /-- Leaves so many loops; the last of them may go on with its next round. -/
  | leave (loops : Nat) (goOn : Bool)
  | return (code : Nat)

/-- What can be switched on in a shell. -/
inductive Switch where
  | errexit | noglob | ignoreeof | interactive | monitor | noexec | stdin | xtrace | verbose | vi | emacs
  | noclobber | allexport | notify | nounset | privileged | nolog | debug
  deriving DecidableEq, Repr

/-- The switches with their names and letters, in the order of listings. -/
def switches : List (Switch × String × Option Char) := [
  (.errexit, "errexit", some 'e'), (.noglob, "noglob", some 'f'), (.ignoreeof, "ignoreeof", some 'I'),
  (.interactive, "interactive", some 'i'), (.monitor, "monitor", some 'm'),
  (.noexec, "noexec", some 'n'), (.stdin, "stdin", some 's'), (.xtrace, "xtrace", some 'x'),
  (.verbose, "verbose", some 'v'), (.vi, "vi", some 'V'), (.emacs, "emacs", some 'E'),
  (.noclobber, "noclobber", some 'C'), (.allexport, "allexport", some 'a'), (.notify, "notify", some 'b'),
  (.nounset, "nounset", some 'u'), (.privileged, "privileged", some 'p'), (.nolog, "nolog", none),
  (.debug, "debug", none)]

/-- The switch of a letter. -/
def Switch.ofLetter? (c : Char) : Option Switch :=
  (switches.find? fun (_, _, letter) => letter == some c).map (·.1)

/-- The switch of a name. -/
def Switch.ofName? (name : String) : Option Switch :=
  (switches.find? fun (_, n, _) => n == name).map (·.1)

/-- A command that runs in the background. -/
structure Job where
  number : Nat
  child : Nat
  /-- How it ended, once that is known. -/
  word : Option (BitVec 32) := none
  /-- Whether its end has been asked for. -/
  waited : Bool := false

/-- What stands for a resource without a limit. -/
abbrev Limit := Option Nat

structure State where
  /-- The name under which the shell speaks. -/
  name : ByteString
  /-- The builtin that is running, which the shell names when it speaks. -/
  speaker : String := ""
  parameters : List ByteString := []
  values : List (ByteString × Variable) := []
  functions : List (ByteString × Command) := []
  /-- Other texts for words at the beginning of commands. -/
  aliases : List (ByteString × ByteString) := []
  /-- Where programs have been found. -/
  located : List (ByteString × ByteString) := []
  status : Nat := 0
  /-- The exit code of the last command whose output was put into a word, if there was one. -/
  substituted : Option Nat := none
  lastChild : Option Nat := none
  processId : Nat := 0
  /-- What is run on a signal; 0 stands for the end of the shell. -/
  traps : List (Nat × ByteString) := []
  pending : List Nat := []
  /-- The latest one first. -/
  jobs : List Job := []
  line : Nat := 1
  loops : Nat := 0
  on : List Switch := []
  /-- Which parameter is read next as an option, and how far the one before it has been read. -/
  optionIndex : Nat := 1
  optionOffset : Option Nat := none
  /-- The current directory by the names under which it was reached. -/
  here : ByteString := []
  /-- The limits that have been set: a letter, and the soft and the hard limit. -/
  limits : List (Char × Limit × Limit) := []
  /-- Inside a function, what the variables were that are local to it. -/
  sheltered : Option (List (ByteString × Option Variable)) := none
  /-- Inside a function, the switches if they are local to it. -/
  shelteredSwitches : Option (List Switch) := none

def State.has (s : State) (switch : Switch) : Bool := s.on.contains switch

/-- Turns a switch on or off. -/
def State.turn (s : State) (switch : Switch) (on : Bool) : State :=
  let others := s.on.filter (· != switch)
  { s with on := if on then switch :: others else others }

/-- The row of a name in a table of some rows. What the shell keeps in such tables it lists row by
row. -/
def row (rows : Nat) (name : ByteString) : Nat :=
  ((name.headD 0).toNat * 16 + (name.map (·.toNat)).foldl (· + ·) 0) % rows

/-- Named things in the order of a table of some rows. -/
def inRows (rows : Nat) (xs : List (ByteString × α)) : List (ByteString × α) :=
  xs.mergeSort fun a b => row rows a.1 ≤ row rows b.1

abbrev Step := ExceptT Jump (StateT State Task)

namespace Step

def task (t : Task α) : Step α := ExceptT.lift (StateT.lift t)

def exit (code : Nat) : Step α := throw (.exit code)

/-- Writes a message to standard error. -/
def say (message : String) : Step Unit := do
  let _ ← task (Task.writeAll 2 (message ++ "\n").toUTF8)

/-- A message of the shell, with its name, the line, and the builtin that is running. -/
def warn (message : String) : Step Unit := do
  let s ← get
  let speaker := if s.speaker.isEmpty then "" else s.speaker ++ ": "
  say (Text.lossy s.name ++ ": " ++ toString s.line ++ ": " ++ speaker ++ message)

/-- Tells of a mistake and stops what is being run. -/
def fail (message : String) : Step α := do
  warn message
  throw .fault

def setStatus (n : Nat) : Step Unit := modify fun s => { s with status := n }

/-! ## Variables -/

def isName (bs : ByteString) : Bool :=
  match bs.map fun b => Char.ofNat b.toNat with
  | c :: cs => (c.isAlpha || c == '_') && cs.all fun d => d.isAlphanum || d == '_'
  | [] => false

def valueOf? (name : ByteString) (s : State) : Option ByteString :=
  (s.values.lookup name).bind (·.value)

/-- Changes a variable, which keeps its place among the others. -/
def setVariable (name : ByteString) (change : Variable → Variable) (s : State) : State :=
  if (s.values.lookup name).isSome then
    { s with values := s.values.map fun (n, v) => (n, if n = name then change v else v) }
  else { s with values := s.values ++ [(name, change {})] }

/-- Makes a variable what it was before. -/
def giveBack (s : State) (name : ByteString) (old : Option Variable) : State :=
  match old with
  | some v => setVariable name (fun _ => v) s
  | none => { s with values := s.values.filter (·.1 ≠ name) }

/-- What the shell keeps in mind about variables that mean something to it. -/
def noticed (name : ByteString) (value : ByteString) : Step Unit := do
  match Text.lossy name with
  | "OPTIND" =>
    match (Text.lossy value).toNat? with
    | some n => modify fun s => { s with optionIndex := max n 1, optionOffset := none }
    | none => fail ("Illegal number: " ++ Text.lossy value)
  | "PATH" => modify fun s => { s with located := [] }
  | _ => pure ()

/-- Refuses to change a variable that must not be changed, or that cannot be one. -/
def checkVariable (name : ByteString) : Step Unit := do
  if !isName name then fail (Text.lossy name ++ ": bad variable name")
  if ((← get).values.lookup name).any (·.fixed) then fail (Text.lossy name ++ ": is read only")

/-- Gives a variable a value, and marks it. -/
def assignAs (mark : Variable → Variable) (name value : ByteString) : Step Unit := do
  checkVariable name
  let all := (← get).has .allexport
  modify (setVariable name fun v =>
    mark { v with value := some value, exported := v.exported || all })
  noticed name value

/-- Gives a variable a value. -/
def assign (name value : ByteString) : Step Unit := assignAs id name value

/-- The variables that a program inherits. -/
def exported (s : State) : Variables :=
  (inRows 39 s.values).filterMap fun (n, v) =>
    if v.exported then v.value.map fun value => (n, value) else none

def separators (s : State) : ByteString :=
  (valueOf? "IFS" s).getD [32, 9, 10]

/-! ## Children -/

/-- The texts of the signals that a shell reports. -/
def signalText (signal : Nat) : String :=
  (Signal.texts[signal]?).getD ("Unknown signal " ++ toString signal)

/-- The exit code that a status word stands for. -/
def codeOf (word : BitVec 32) : Nat :=
  let n := word.toNat
  if n % 128 = 0 then n / 256 % 256 else 128 + n % 128

/-- Moves the signals that have come to the ones that are to be handled. -/
def collectSignals : Nat → Step Unit
  | 0 => pure ()
  | fuel + 1 => do
    match ← task Task.takeSignal with
    | none => pure ()
    | some signal =>
      modify fun s => { s with pending := s.pending ++ [signal] }
      collectSignals fuel

/-- Waits for a child to end: its status word. With `untilSignal` a caught signal ends the
waiting. -/
def awaitWithin (child : Nat) (untilSignal : Bool) : Nat → Step (Option (BitVec 32))
  | 0 => return none
  | fuel + 1 => do
    match ← task (Task.wait (some child) true) with
    | .ok (some (_, word)) => return some word
    | .ok none => return none
    | .error e =>
      if e = .interrupted then
        collectSignals 64
        if untilSignal then return none else awaitWithin child untilSignal fuel
      else return none

/-! ## Jobs -/

/-- The first number that no job has; a job whose end has been asked for gives its number away. -/
def freeNumber (jobs : List Job) : Nat :=
  let isFree (n : Nat) : Bool := jobs.all fun j => j.number != n || j.waited && j.word.isSome
  ((List.range (jobs.length + 1)).map (· + 1)).find? isFree |>.getD 1

/-- The jobs that are left when a new child takes a number. -/
def jobsBeside (jobs : List Job) : List Job := jobs.filter (·.number != freeNumber jobs)

/-- Takes up a child that runs in the background. -/
def addJob (child : Nat) : Step Unit := modify fun s => { s with
  jobs := { number := freeNumber s.jobs, child } :: jobsBeside s.jobs
  lastChild := some child }

/-- Notes how a child has ended. -/
def noteEnd (child : Nat) (word : BitVec 32) : Step Unit := modify fun s => { s with
  jobs := s.jobs.map fun j => if j.child = child then { j with word := some word } else j }

/-- Notes the ends of children that have come unasked. -/
def noteEnds : Nat → Step Unit
  | 0 => pure ()
  | fuel + 1 => do
    match ← task (Task.wait none false) with
    | .ok (some (child, word)) =>
      noteEnd child word
      noteEnds fuel
    | _ => pure ()

/-- Tells by which signal a child has died, if that is worth a line. -/
def reportDeath (word : BitVec 32) : Step Unit := do
  let signal := word.toNat % 128
  if signal != 0 && signal != 2 && signal != 13 then
    say (signalText signal)

/-- Waits for a command in the foreground: its exit code. -/
def awaitForeground (child : Nat) : Step Nat := do
  modify fun s => { s with jobs := jobsBeside s.jobs }
  match ← awaitWithin child false Task.patience with
  | none => return 127
  | some word =>
    reportDeath word
    return codeOf word

/-- Starts a process that goes on with a step of its own. -/
def forkStep (body : Step Nat) : Step Nat := do
  let s ← get
  let child : Task Nat := do
    for (signal, action) in s.traps do
      if signal != 0 && !action.isEmpty then Task.dispose signal .default
    let s := { s with
      traps := s.traps.filter (·.2.isEmpty), pending := [], loops := 0, jobs := [] }
    match ← (body.run.run s) with
    | (.ok code, _) | (.error (.exit code), _) | (.error (.return code), _) => return code
    | (.error .fault, _) => return 2
    | (.error (.leave ..), s) => return s.status
  task (Task.fork child)

end Step
end ModuleForge.Host.Shell
