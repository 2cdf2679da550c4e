import ModuleForge.Exchange
import ModuleForge.Host.Machine

/-!
# Running a program from outside

`Machine.exchange` starts a program with its three standard streams on pipes, in a process group of
its own, and drives the exchange with it to its end or to its limit.
-/
namespace ModuleForge.Host

namespace FileTree

/-- The program that a path names. A file that is no program may be taken for a script of the
shell. -/
def imageOrScript (t : FileTree) (here : Nat) (path zeroth : ByteString) (scripts : Bool) :
    Except Errno Image :=
  match t.image here path zeroth 5 with
  | .error e =>
    if scripts && e = .notExecutable then do
      let shell : ByteString := "/bin/sh"
      let i ← t.image here shell shell 5
      return ⟨i.tool, i.leading ++ [path]⟩
    else .error e
  | found => found

/-- Looks for a program in directories; `denied` tells whether one was found that cannot be run. -/
def search (t : FileTree) (here : Nat) (name : ByteString) (scripts denied : Bool) :
    List ByteString → Except Errno Image
  | [] => .error (if denied then .accessDenied else .noEntry)
  | dir :: dirs =>
    let path := if dir.isEmpty then name else dir ++ Path.separator :: name
    match t.imageOrScript here path name scripts with
    | .ok i => .ok i
    | .error e =>
      if e = .accessDenied then t.search here name scripts true dirs
      else if e = .noEntry || e = .notDirectory then t.search here name scripts denied dirs
      else .error e

/-- The program that a name stands for: a path, or a bare name to be searched for. -/
def locate (t : FileTree) (here : Nat) (name searchPath : ByteString) (scripts : Bool) :
    Except Errno Image :=
  if name.isEmpty then .error .noEntry
  else if name.contains Path.separator then t.imageOrScript here name name false
  else if maxName < name.length then .error .nameTooLong
  else t.search here name scripts false (searchDirs searchPath)

end FileTree

namespace Machine

/-- Variables on top of inherited ones; as soon as there are any, all are in the order of their
names. -/
def inherit (environment settings : Variables) : Variables :=
  if settings.isEmpty then environment
  else (environment ++ settings).foldl (fun acc (n, v) => put n v acc) []
where
  put (name value : ByteString) : Variables → Variables
    | [] => [(name, value)]
    | (n, v) :: rest =>
      if name = n then (name, value) :: rest
      else if name < n then (name, value) :: (n, v) :: rest
      else (n, v) :: put name value rest

/-- The variable in which programs are searched for. -/
def searchVariable : ByteString := "PATH"

/-- Where programs are searched for if no variable says so. -/
def usualSearch : ByteString := "/bin:/usr/bin"

/-- A child as seen by its parent: its number, and the parent's ends of its pipes. -/
structure Child where
  pid : Nat
  input : Nat
  output : Nat
  errors : Nat

def pipeOf (m : Machine) (channel : Nat) : Nat :=
  match m.channels[channel]? with
  | some (.readEnd pipe) | some (.writeEnd pipe) => pipe
  | _ => 0

/-- The program, the directory and the variables with which an invocation starts. -/
def prepare (m : Machine) (i : Invocation) :
    Except IoError (Image × Nat × Variables) := do
  let strings := i.program.bytes :: i.arguments ++ (i.workingDir.map (·.bytes)).toList
    ++ i.settings.flatMap fun (n, v) => [n, v]
  if strings.any (·.contains 0) then throw .nulInCommand
  let lift {α : Type} (r : Except Errno α) : Except IoError α := r.mapError .system
  let dir ← match i.workingDir with
    | none => pure m.dir
    | some d => lift (m.tree.find m.dir d.bytes)
  if !m.tree.isDirectory dir then throw (.system .notDirectory)
  let environment := inherit m.environment i.settings
  let own := i.settings.lookup searchVariable
  let path := (own <|> m.environment.lookup searchVariable).getD usualSearch
  let image ← lift (m.tree.locate dir i.program.bytes path own.isSome)
  if !argumentsFit (i.program.bytes :: i.arguments) environment then
    throw (.system .argumentsTooLong)
  return (image, dir, environment)

/-- Starts a program with its streams on pipes. -/
def start (tools : Tools) (m : Machine) (i : Invocation) : Except IoError (Child × Machine) := do
  let (image, dir, environment) ← m.prepare i
  let (inR, inW, m) := m.addPipe
  let (outR, outW, m) := m.addPipe
  let (errR, errW, m) := m.addPipe
  let pid := m.lastPid + 1
  let p : Process := {
    pid, parent := m.self, group := pid, dir
    thread := tools image.tool (image.leading ++ i.arguments) environment
    time := m.clock + forkTime + executeTime
    descriptors := [{ fd := 0, channel := inR }, { fd := 1, channel := outW },
      { fd := 2, channel := errW }] }
  let m := { m with lastPid := pid, processes := m.processes ++ [p] }
  return (⟨pid, inW, outR, errR⟩, m)

/-- The parent's end of an output. -/
def Child.reader (c : Child) : ModuleForge.Stream → Nat
  | .out => c.output
  | .err => c.errors

/-- Feeds as much as can be fed at once. -/
def feed (c : Child) (x : Exchange) (m : Machine) : Exchange × Machine :=
  let pipe := m.pipeOf c.input
  let p := m.pipeAt pipe
  let (x, p) := (x.feedInto? p (m.hasReaders pipe) p.capacity).getD (x, p)
  (x, m.setPipe pipe p)

/-- Drains all that an output holds. -/
def drain (c : Child) (s : ModuleForge.Stream) (x : Exchange) (m : Machine) : Exchange × Machine :=
  let pipe := m.pipeOf (c.reader s)
  let p := m.pipeAt pipe
  let (x, p) := (x.drainFrom? s p (m.hasWriters pipe) p.held.size).getD (x, p)
  (x, m.setPipe pipe p)

/-- Lets go of the ends whose parts are finished. -/
def letGo (c : Child) (x : Exchange) (m : Machine) : Machine :=
  { m with
    held := (if x.feed.isClosed then [] else [c.input])
      ++ (if x.out.isEnded then [] else [c.output])
      ++ (if x.err.isEnded then [] else [c.errors]) }

/-- Waits for a child that is dead. -/
def reap (c : Child) (x : Exchange) (m : Machine) : Exchange × Machine :=
  match (m.process? c.pid).bind (·.word?) with
  | some word =>
    (x.reaped (WaitStatus.ofWord word),
      { m with processes := m.processes.filter (·.pid != c.pid) })
  | none => (x, m)

/-- Does whatever the parent can do at once: feed, drain, and wait for a child that is dead. -/
def attend (c : Child) (x : Exchange) (m : Machine) : Exchange × Machine :=
  let (x, m) := feed c x m
  let (x, m) := drain c .out x m
  let (x, m) := drain c .err x m
  reap c x (letGo c x m)

/-- Kills a process, if there is one with the number. -/
def kill (m : Machine) (pid : Nat) : Machine :=
  match m.process? pid with
  | some p => m.signal Signal.kill p
  | none => m

/-- Cleans up after a child that has run into its limit. -/
def cleanUp (c : Child) (x : Exchange) (m : Machine) : Machine :=
  x.cleanup.foldl (fun m action => match action with
    | .killGroup => m.killGroup c.pid
    | .killChild => m.kill c.pid
    | .reap => { m with processes := m.processes.filter (·.pid != c.pid) }) { m with held := [] }

/-- What an exchange comes to that nothing can bring to its end. -/
def endless : Outcome := .failed (.custom "the exchange does not end")

/-- Drives an exchange; `deadline` is the time at which it is given up. -/
def drive (tools : Tools) (c : Child) (deadline : Option Nat) (x : Exchange) (m : Machine) :
    Nat → Outcome × Machine
  | 0 => (endless, m)
  | fuel + 1 =>
    -- once for what is there, and once for what closing or draining it has uncovered
    let (x, m) := attend c x m
    let (x, m) := attend c x m
    match x.result? with
    | some (.ok output) => (.finished output, m)
    | some (.error fault) => (.failed fault, m)
    | none =>
      let expire (time : Nat) : Outcome × Machine :=
        (.timedOut x.status.isSome, cleanUp c x { m with clock := max m.clock time })
      match m.next?, deadline with
      | some p, some d =>
        if d ≤ max m.clock p.time then expire d
        else drive tools c deadline x (m.step tools p) fuel
      | some p, none => drive tools c deadline x (m.step tools p) fuel
      | none, some d => expire d
      | none, none => (endless, m)

/-- Runs a program to its end or its limit. -/
def exchange (tools : Tools) (i : Invocation) (m : Machine) : Outcome × Machine :=
  match m.start tools i with
  | .error fault => (.notStarted fault, m)
  | .ok (c, m) =>
    drive tools c (i.limit.map (m.clock + ·.toNanos)) (Exchange.start i.input)
      { m with held := [c.input, c.output, c.errors] } Task.patience

end Machine
end ModuleForge.Host
