import ModuleForge.Host.Loader
import ModuleForge.Host.Signal
import ModuleForge.Host.Thread
import ModuleForge.Log
import ModuleForge.Pipe
import ModuleForge.WaitStatus

/-!
# The machine

Files, processes, the pipes between them, and a clock. `Machine.step` answers one request of one
process; `Machine.next?` picks the process that is first in time among those whose request can be
answered. Time is counted in nanoseconds; every process has a clock of its own that is never behind
what it has seen.
-/
namespace ModuleForge.Host

/-- What a descriptor stands for. Descriptors that are copies of each other share one. -/
inductive Channel where
  | readEnd (pipe : Nat)
  | writeEnd (pipe : Nat)
  | file (node offset : Nat) (mode : OpenMode)
  | device (device : Device)

structure Descriptor where
  fd : Nat
  channel : Nat
  closeOnExecute : Bool := false

inductive Life where
  | running
  | stopped
  /-- Dead, and not yet waited for. -/
  | ended (word : BitVec 32)
  deriving DecidableEq

structure Process where
  pid : Nat
  parent : Nat
  group : Nat
  thread : Thread
  time : Nat
  descriptors : List Descriptor
  dir : Nat
  dispositions : List (Nat × Disposition) := []
  caught : List Nat := []
  life : Life := .running
  /-- Which rights new files do not get. -/
  mask : Nat := 0o022

/-- What a descriptor of a process stands for. -/
def Process.channel? (p : Process) (fd : Nat) : Option Nat :=
  (p.descriptors.find? (·.fd == fd)).map (·.channel)

/-- The status word of a process that has ended. -/
def Process.word? (p : Process) : Option (BitVec 32) :=
  match p.life with
  | .ended word => some word
  | _ => none

/-- The programs of the machine, by name. -/
abbrev Tools := String → List ByteString → Variables → Thread

structure Machine where
  tree : FileTree := {}
  /-- The current directory of the outside. -/
  dir : Nat := 0
  environment : Variables := []
  clock : Nat := 0
  processes : List Process := []
  channels : Array Channel := #[]
  pipes : Array Pipe := #[]
  /-- The channels that are held open from outside. -/
  held : List Nat := []
  /-- The process from which the machine is used. -/
  self : Nat := 1000
  lastPid : Nat := 1000
  /-- How many modules have been named. -/
  modules : Nat := 0
  loader : Loader := Loader.standard
  /-- Which events are shown on standard error. -/
  filter : Log.Filter := ⟨[]⟩
  stdout : String := ""
  stderr : String := ""

/-! ## What may be run -/

/-- A program file, resolved: a tool, and the arguments that stand in place of the program's
name. -/
structure Image where
  tool : String
  leading : List ByteString

namespace FileTree

/-- Blanks inside the first line of a script. -/
def isGap (b : UInt8) : Bool := b == 32 || b == 9

/-- The interpreter of a script, and its argument. -/
def interpreter? (data : ByteArray) : Option (ByteString × Option ByteString) :=
  match (data.extract 0 255).data.toList with
  | 35 :: 33 :: rest =>
    let line := rest.takeWhile (· ≠ 10)
    let line := (line.dropWhile isGap).reverse.dropWhile isGap |>.reverse
    let program := line.takeWhile (!isGap ·)
    let argument := (line.dropWhile (!isGap ·)).dropWhile isGap
    some (program, if argument.isEmpty then none else some argument)
  | _ => none

/-- The program that a path names, or why it cannot be run. -/
def image (t : FileTree) (here : Nat) (path zeroth : ByteString) : Nat → Except Errno Image
  | 0 => .error .linkLoop
  | fuel + 1 => do
    match t.node? (← t.find here path) with
    | some (.tool name) => .ok ⟨name, [zeroth]⟩
    | some (.file data) =>
      if !t.isExecutable (← t.find here path) then .error .accessDenied
      else match interpreter? data with
        | none => .error .notExecutable
        | some ([], _) => .error .notExecutable
        | some (program, argument) =>
          let i ← t.image here program program fuel
          .ok ⟨i.tool, i.leading ++ argument.toList ++ [path]⟩
    | _ => .error .accessDenied

end FileTree

/-- The longest single argument or variable. -/
def maxArgument : Nat := 131071

/-- How much all arguments and variables may take. -/
def maxArguments : Nat := 2097152 - 4096

/-- Whether arguments and variables can be handed to a program. -/
def argumentsFit (arguments : List ByteString) (environment : Variables) : Bool :=
  let sizes := arguments.map (·.length) ++ environment.map fun (n, v) => n.length + v.length + 1
  sizes.all (· ≤ maxArgument) && (sizes.map (· + 9)).foldl (· + ·) 0 ≤ maxArguments

namespace Machine

/-! ## Processes and channels -/

def process? (m : Machine) (pid : Nat) : Option Process := m.processes.find? (·.pid == pid)

def setProcess (m : Machine) (p : Process) : Machine :=
  { m with processes := m.processes.map fun q => if q.pid = p.pid then p else q }

/-- Whether anyone holds a channel with some property. -/
def holds (m : Machine) (property : Channel → Bool) : Bool :=
  let good (c : Nat) : Bool := (m.channels[c]?).any property
  m.held.any good || m.processes.any (·.descriptors.any (good ·.channel))

def hasReaders (m : Machine) (pipe : Nat) : Bool :=
  m.holds fun
    | .readEnd p => p == pipe
    | _ => false

def hasWriters (m : Machine) (pipe : Nat) : Bool :=
  m.holds fun
    | .writeEnd p => p == pipe
    | _ => false

def pipeAt (m : Machine) (pipe : Nat) : Pipe := m.pipes[pipe]?.getD {}

def setPipe (m : Machine) (pipe : Nat) (p : Pipe) : Machine :=
  { m with pipes := m.pipes.setIfInBounds pipe p }

def setChannel (m : Machine) (channel : Nat) (c : Channel) : Machine :=
  { m with channels := m.channels.setIfInBounds channel c }

def addChannel (m : Machine) (c : Channel) : Nat × Machine :=
  (m.channels.size, { m with channels := m.channels.push c })

/-- A new pipe: its reading and its writing channel. -/
def addPipe (m : Machine) : Nat × Nat × Machine :=
  let pipe := m.pipes.size
  let m := { m with pipes := m.pipes.push {} }
  let (r, m) := m.addChannel (.readEnd pipe)
  let (w, m) := m.addChannel (.writeEnd pipe)
  (r, w, m)

/-- The least free descriptor from `least` on. -/
def freeDescriptor (ds : List Descriptor) (least : Nat) : Nat → Nat
  | 0 => least
  | fuel + 1 =>
    if ds.any (·.fd == least) then freeDescriptor ds (least + 1) fuel else least

def free (ds : List Descriptor) (least : Nat) : Nat := freeDescriptor ds least (ds.length + 1)

/-! ## Death and signals -/

/-- A process ends: its descriptors are closed and its children are left to the machine, which waits
for them at once. -/
def terminate (m : Machine) (pid : Nat) (word : BitVec 32) : Machine :=
  let ended (p : Process) : Process := { p with life := .ended word, descriptors := [] }
  let processes := m.processes.map fun p =>
    if p.pid = pid then ended p else if p.parent = pid then { p with parent := 1 } else p
  { m with processes := processes.filter fun p => p.parent != 1 || p.word?.isNone }

def disposition (p : Process) (signal : Nat) : Disposition :=
  if signal = Signal.kill || signal = Signal.stop then .default
  else (p.dispositions.lookup signal).getD .default

/-- Sends a signal to one process. -/
def signal (m : Machine) (signal : Nat) (p : Process) : Machine :=
  match p.life with
  | .ended _ => m
  | _ =>
    let p := if signal = Signal.goOn && p.life = .stopped then { p with life := .running } else p
    let m := m.setProcess p
    match disposition p signal with
    | .ignored => m
    | .caught => m.setProcess { p with caught := p.caught ++ [signal], time := min p.time m.clock }
    | .default =>
      if Signal.harmless.contains signal then m
      else if Signal.stopping.contains signal then m.setProcess { p with life := .stopped }
      else m.terminate p.pid (WaitStatus.signalWord signal false)

/-- Sends a signal to a process, or to a group if the target is negative; 0 only asks whether there
is one. -/
def send (m : Machine) (sender : Process) (target : Int) (number : Nat) : Except Errno Machine :=
  if Signal.last < number then .error .invalid
  else
    let chosen := m.processes.filter fun p =>
      if 0 < target then (p.pid : Int) == target
      else if target = 0 then p.group == sender.group
      else if target = -1 then p.pid != sender.pid
      else (p.group : Int) == -target
    if chosen.isEmpty then .error .noProcess
    else if number = 0 then .ok m
    else .ok (chosen.foldl (fun m p => m.signal number p) m)

/-- Kills every process of a group. -/
def killGroup (m : Machine) (group : Nat) : Machine :=
  (m.processes.filter (·.group == group)).foldl (fun m p => m.signal Signal.kill p) m

/-! ## Requests -/

/-- The children that a process waits for. -/
def awaited (m : Machine) (p : Process) (child : Option Nat) : List Process :=
  m.processes.filter fun q => q.parent == p.pid && child.all (· == q.pid)

/-- Whether the request of a process can be answered. -/
def canStep (m : Machine) (p : Process) : Bool :=
  if p.life != .running then false
  else match p.thread with
  | .read fd _ _ => match (p.channel? fd).bind (m.channels[·]?) with
    | some (.readEnd pipe) => !(m.pipeAt pipe).held.isEmpty || !m.hasWriters pipe
    | _ => true
  | .write fd data _ => match (p.channel? fd).bind (m.channels[·]?) with
    | some (.writeEnd pipe) =>
      data.isEmpty || 0 < (m.pipeAt pipe).room || !m.hasReaders pipe
    | _ => true
  | .wait child blocking _ =>
    let children := m.awaited p child
    !blocking || children.isEmpty || !p.caught.isEmpty || children.any (·.word?.isSome)
  | _ => true

/-- The process whose turn it is. -/
def next? (m : Machine) : Option Process :=
  m.processes.foldl (fun best p =>
    if !m.canStep p then best
    else match best with
      | none => some p
      | some b => if p.time < b.time then some p else some b) none

/-- How long requests take, in nanoseconds. -/
def requestTime : Nat := 2000

def forkTime : Nat := 200000

def executeTime : Nat := 400000

/-- Goes on with a process that has taken some time. -/
def resume (m : Machine) (p : Process) (nanos : Nat) (thread : Thread) : Machine :=
  m.setProcess { p with thread, time := m.clock + nanos }

/-- The time at which the clock was started, in nanoseconds. -/
def epoch : Nat := 1735689600 * 10 ^ 9

/-- The files as a process finds them, at the time by the clock. -/
def treeFor (m : Machine) (p : Process) : FileTree :=
  { m.tree with now := epoch + m.clock, mask := p.mask }

private def readFile (data : ByteArray) (offset max : Nat) : ByteArray :=
  data.extract offset (min data.size (offset + max))

/-- Answers a read from a channel. -/
def readFrom (m : Machine) (channel max : Nat) : Except Errno ByteArray × Machine :=
  match m.channels[channel]? with
  | some (.readEnd pipe) => match (m.pipeAt pipe).read (m.hasWriters pipe) max with
    | .waits => (.ok ByteArray.empty, m)
    | .taken data p => (.ok data, m.setPipe pipe p)
  | some (.file node offset mode) =>
    if mode = .write || mode = .append then (.error .badDescriptor, m)
    else match m.tree.node? node with
      | some (.file data) =>
        let chunk := readFile data offset max
        (.ok chunk, m.setChannel channel (.file node (offset + chunk.size) mode))
      | some (.directory ..) => (.error .isDirectory, m)
      | _ => (.ok ByteArray.empty, m)
  | some (.device .zero) | some (.device .full) => (.ok ⟨Array.replicate max 0⟩, m)
  | some (.device _) => (.ok ByteArray.empty, m)
  | _ => (.error .badDescriptor, m)

/-- Answers a write to a channel; a broken pipe is `none`. -/
def writeTo (m : Machine) (channel : Nat) (data : ByteArray) :
    Option (Except Errno Nat × Machine) :=
  match m.channels[channel]? with
  | some (.writeEnd pipe) => match (m.pipeAt pipe).write (m.hasReaders pipe) data with
    | .broken => none
    | .waits => some (.ok 0, m)
    | .accepted count p => some (.ok count, m.setPipe pipe p)
  | some (.file node offset mode) =>
    if mode = .read then some (.error .badDescriptor, m)
    else match m.tree.node? node with
      | some (.file old) =>
        let offset := if mode = .append then old.size else offset
        let tree := { m.tree with now := epoch + m.clock }
        let m := { m with tree := tree.setData node (FileTree.overwrite old offset data) }
        some (.ok data.size, m.setChannel channel (.file node (offset + data.size) mode))
      | _ => some (.error .badDescriptor, m)
  | some (.device .full) => some (.error .noSpace, m)
  | some (.device _) => some (.ok data.size, m)
  | _ => some (.error .badDescriptor, m)

/-- Opens a path for a process: the channel. -/
def openChannel (m : Machine) (p : Process) (path : ByteString) (mode : OpenMode) :
    Except Errno (Nat × Machine) := do
  let (node, tree) ←
    if mode = .read then do pure (← m.tree.find p.dir path, m.tree)
    else (m.treeFor p).openOrMake p.dir path
  let m := { m with tree }
  match m.tree.node? node with
  | some (.device (.descriptor fd)) => match p.channel? fd with
    | some channel => return (channel, m)
    | none => throw .noEntry
  | some (.device d) => return m.addChannel (.device d)
  | some (.file ..) =>
    let m := if mode = .write then { m with tree := m.tree.setData node ByteArray.empty } else m
    return m.addChannel (.file node 0 mode)
  | some (.tool _) => if mode = .read then return m.addChannel (.file node 0 mode) else throw .textBusy
  | _ => return m.addChannel (.file node 0 mode)

/-- Becomes another program. -/
def execute (tools : Tools) (m : Machine) (p : Process) (path : ByteString)
    (arguments : List ByteString) (environment : Variables) : Except Errno Machine := do
  if path.contains 0 then throw .noEntry
  let i ← m.tree.image p.dir path (arguments.headD path) 5
  if !argumentsFit arguments environment then throw .argumentsTooLong
  let thread := tools i.tool (i.leading ++ arguments.drop 1) environment
  return m.setProcess { p with
    thread
    time := m.clock + executeTime
    descriptors := p.descriptors.filter (!·.closeOnExecute)
    dispositions := p.dispositions.filter (·.2 == .ignored)
    caught := [] }

/-- Answers the request of a process. -/
def step (tools : Tools) (m : Machine) (p : Process) : Machine :=
  let m := { m with clock := max m.clock p.time }
  match p.thread with
  | .exit code => m.terminate p.pid (WaitStatus.exitWord code)
  | .spend nanos k => m.resume p nanos (k ())
  | .sleep nanos k => m.resume p nanos (k ())
  | .read fd max k => match p.channel? fd with
    | none => m.resume p requestTime (k (.error .badDescriptor))
    | some channel =>
      let (answer, m) := m.readFrom channel max
      m.resume p requestTime (k answer)
  | .write fd data k => match p.channel? fd with
    | none => m.resume p requestTime (k (.error .badDescriptor))
    | some channel => match m.writeTo channel data with
      | some (answer, m) => m.resume p requestTime (k answer)
      | none =>
        let m := m.resume p requestTime (k (.error .brokenPipe))
        match m.process? p.pid with
        | some p => m.signal Signal.brokenPipe p
        | none => m
  | .openFile path mode k => match m.openChannel p path mode with
    | .error e => m.resume p requestTime (k (.error e))
    | .ok (channel, m) =>
      let fd := free p.descriptors 0
      m.resume { p with descriptors := p.descriptors ++ [{ fd := fd, channel := channel }] } requestTime (k (.ok fd))
  | .close fd k =>
    let answer := if (p.channel? fd).isSome then .ok () else .error .badDescriptor
    m.resume { p with descriptors := p.descriptors.filter (·.fd != fd) } requestTime (k answer)
  | .duplicate fd target k => match p.channel? fd with
    | none => m.resume p requestTime (k (.error .badDescriptor))
    | some channel =>
      let others := p.descriptors.filter (·.fd != target)
      let p := if fd = target then p
        else { p with descriptors := others ++ [{ fd := target, channel }] }
      m.resume p requestTime (k (.ok ()))
  | .position fd k =>
    let answer := match (p.channel? fd).bind (m.channels[·]?) with
      | some (.file node offset _) => some (node, offset)
      | _ => none
    m.resume p 0 (k answer)
  | .seek fd offset k =>
    let m := match p.channel? fd with
      | some channel => match m.channels[channel]? with
        | some (.file node _ mode) => m.setChannel channel (.file node offset mode)
        | _ => m
      | none => m
    m.resume p 0 (k ())
  | .duplicateAbove fd least k => match p.channel? fd with
    | none => m.resume p requestTime (k (.error .badDescriptor))
    | some channel =>
      let copy := free p.descriptors least
      let d : Descriptor := { fd := copy, channel, closeOnExecute := true }
      m.resume { p with descriptors := p.descriptors ++ [d] } requestTime (k (.ok copy))
  | .pipe k =>
    let (r, w, m) := m.addPipe
    let reader := free p.descriptors 0
    let ds := p.descriptors ++ [{ fd := reader, channel := r }]
    let writer := free ds 0
    let ds := ds ++ [{ fd := writer, channel := w }]
    m.resume { p with descriptors := ds } requestTime (k reader writer)
  | .fork child k =>
    let pid := m.lastPid + 1
    let copy : Process :=
      { p with pid, parent := p.pid, thread := child, time := m.clock + forkTime, caught := [] }
    let m := { m with lastPid := pid, processes := m.processes ++ [copy] }
    m.resume p forkTime (k pid)
  | .execute path arguments environment k =>
    match m.execute tools p path arguments environment with
    | .ok m => m
    | .error e => m.resume p requestTime (k e)
  | .wait child blocking k =>
    let children := m.awaited p child
    let dead := children.findSome? fun q => q.word?.map fun word => (q.pid, word)
    match dead with
    | some (pid, word) =>
      let m := { m with processes := m.processes.filter (·.pid != pid) }
      m.resume p requestTime (k (.ok (some (pid, word))))
    | none =>
      let answer := if children.isEmpty then .error .noChild
        else if blocking then .error .interrupted else .ok none
      m.resume p requestTime (k answer)
  | .kill target number k => match m.send p target number with
    | .error e => m.resume p requestTime (k (.error e))
    | .ok m => match m.process? p.pid with
      | some p => if p.word?.isSome then m else m.resume p requestTime (k (.ok ()))
      | none => m
  | .dispose signal how k =>
    let others := p.dispositions.filter (·.1 != signal)
    let all := if how = .default then others else (signal, how) :: others
    m.resume { p with dispositions := all } requestTime (k ())
  | .takeSignal k => match p.caught with
    | [] => m.resume p 0 (k none)
    | s :: more => m.resume { p with caught := more } 0 (k (some s))
  | .leaveGroup k =>
    if p.group = p.pid then m.resume p requestTime (k (.error .notPermitted))
    else m.resume { p with group := p.pid } requestTime (k (.ok ()))
  | .identity k => m.resume p 0 (k p.pid p.parent)
  | .changeDir path k => match m.tree.find p.dir path with
    | .error e => m.resume p requestTime (k (.error e))
    | .ok n =>
      if m.tree.isDirectory n then m.resume { p with dir := n } requestTime (k (.ok ()))
      else m.resume p requestTime (k (.error .notDirectory))
  | .mask rights k => m.resume { p with mask := rights.getD p.mask } 0 (k p.mask)
  | .look k => m.resume p requestTime (k (m.treeFor p) p.dir)
  | .change f k => match f (m.treeFor p) p.dir with
    | .error e => m.resume p requestTime (k (.error e))
    | .ok tree => { m with tree }.resume p requestTime (k (.ok ()))

/-- Lets the processes go on until a point in time. -/
def runUntil (tools : Tools) (m : Machine) (time : Nat) : Nat → Machine
  | 0 => m
  | fuel + 1 => match m.next? with
    | none => { m with clock := max m.clock time }
    | some p =>
      if time < p.time then { m with clock := max m.clock time }
      else (m.step tools p).runUntil tools time fuel

/-- Lets time pass. -/
def pause (tools : Tools) (m : Machine) (nanos : Nat) : Machine :=
  m.runUntil tools (m.clock + nanos) Task.patience

end Machine
end ModuleForge.Host
