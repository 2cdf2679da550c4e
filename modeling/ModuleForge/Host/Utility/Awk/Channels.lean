import ModuleForge.Host.Utility.Awk.Memory

/-!
# Files and commands of programs over records

How programs over records read and write: the main input, whose files are named by arguments, and
channels, which are opened when they are first used. What is written waits until there is enough of
it, until a command is started, or until the end.
-/
namespace ModuleForge.Host.Utility.Awk

namespace Machine

/-! ## Writing -/

/-- Writes what waits to be written. -/
def flush (c : Channel) : Machine Channel := do
  if c.data.isEmpty || !c.kind.isWritten then return c
  match ← task (Task.writeAll c.descriptor c.data) with
  | .ok () => return { c with data := .empty }
  | .error e => abort ("write failure (" ++ e.message ++ ")")

def flushAll : Machine Unit := do
  let channels ← (← get).channels.mapM flush
  modify fun s => { s with channels }

/-- Writes what waits for standard output. -/
def flushStandard : Machine Unit := do
  let channels ← (← get).channels.mapM fun c =>
    if c.kind == .sink && c.descriptor == 1 then flush c else pure c
  modify fun s => { s with channels }

/-- Hands text to a channel. -/
def put (c : Channel) (text : ByteString) : Machine Channel := do
  let c := { c with data := c.data ++ ⟨text.toArray⟩ }
  if c.descriptor == 2 || Channel.chunk ≤ c.data.size then flush c else return c

/-- Hands text to standard output. -/
def putStandard (text : ByteString) : Machine Unit := do
  let channels ← (← get).channels.mapM fun c =>
    if c.kind == .sink && c.descriptor == 1 then put c text else pure c
  modify fun s => { s with channels }

/-! ## Opening and closing -/

/-- The status word of a process as programs are told of it. -/
def statusOf (word : BitVec 32) : Nat :=
  let n := word.toNat
  if n % 128 = 0 then n / 256 else 256 + n % 256

/-- Starts a command: the descriptor of its input or its output, and its process. -/
def start (text : ByteString) (reads : Bool) : Machine (Nat × Nat) := do
  flushStandard
  let environment := (← get).call.environment
  let (r, w) ← task Task.pipe
  let (near, far) := if reads then (r, w) else (w, r)
  let process ← task (Task.fork do
    let _ ← Task.close near
    let _ ← Task.duplicate far (if reads then 1 else 0)
    let _ ← Task.close far
    let shell : ByteString := "/bin/sh"
    let _ ← Task.execute shell [shell, "-c", text] environment
    return 2)
  let _ ← task (Task.close far)
  match ← task (Task.duplicateAbove near 10) with
  | .ok fd =>
    let _ ← task (Task.close near)
    return (fd, process)
  | .error _ => return (near, process)

/-- Runs a command to its end. -/
def runCommand (text : ByteString) : Machine Nat := do
  flushAll
  let environment := (← get).call.environment
  let process ← task (Task.fork do
    let shell : ByteString := "/bin/sh"
    let _ ← Task.execute shell [shell, "-c", text] environment
    return 127)
  match ← task (Task.wait (some process) true) with
  | .ok (some (_, word)) => return statusOf word
  | _ => return 0

/-- Opens a channel; there may be no such file to read. -/
def openChannel (name : ByteString) (kind : ChannelKind) (appends : Bool) : Machine (Option Channel) := do
  match kind with
  | .source =>
    match ← task (Call.source name) with
    | .ok descriptor => return some { name, kind, descriptor }
    | .error _ => return none
  | .sink =>
    match ← task (Task.openFile name (if appends then .append else .write)) with
    | .ok descriptor => return some { name, kind, descriptor }
    | .error e => abort ("cannot open \"" ++ Text.lossy name ++ "\" for output (" ++ e.message ++ ")")
  | .command | .fed =>
    let (descriptor, process) ← start name (kind == .command)
    return some { name, kind, descriptor, process }

/-- The channel with a name, which then is the first one. -/
def channel (name : ByteString) (kind : ChannelKind) (appends : Bool := false) : Machine (Option Channel) := do
  let channels := (← get).channels
  match channels.find? fun c => c.name == name && c.kind == kind with
  | some c =>
    let others := channels.filter fun d => !(d.name == name && d.kind == kind)
    modify fun s => { s with channels := c :: others }
    return some c
  | none =>
    let c? ← openChannel name kind appends
    modify fun s => { s with channels := c?.toList ++ s.channels }
    return c?

/-- Keeps what has become of the first channel. -/
def keepFirst (c : Channel) : Machine Unit := modify fun s => { s with channels := c :: s.channels.drop 1 }

/-- Closes a channel: the status of its command. -/
def shut (c : Channel) : Machine Nat := do
  let c ← flush c
  let _ ← task (Task.close c.descriptor)
  match c.kind with
  | .source | .sink => return 0
  | .command | .fed => match ← task (Task.wait (some c.process) true) with
    | .ok (some (_, word)) => return statusOf word
    | _ => return 0

/-- Closes all channels with a name; the status is that of the last one, if there is one. -/
def closeNamed (name : ByteString) : Machine (Option Nat) := do
  let (closing, others) := (← get).channels.partition (·.name == name)
  modify fun s => { s with channels := others }
  let mut status := none
  for c in closing do
    status := some (← shut c)
  return status

/-- Closes what is written when the program ends. -/
def closeWritten : Machine Unit := do
  for c in (← get).channels do
    if c.kind.isWritten then
      let _ ← shut c

/-! ## Reading -/

/-- The next record of a channel. -/
def nextOf (c : Channel) : Machine (Option ByteString × Channel) := do
  match ← task (c.next (← get).recordSeparator Task.patience) with
  | .ok (text, c) => return (text, c)
  | .error e => abort ("read error (" ++ e.message ++ ")")

/-- Whether an argument sets a variable: its name and its value. -/
def assignment? (word : ByteString) : Option (String × ByteString) :=
  let name := Format.chars (word.takeWhile (· != 61))
  if word.contains 61 && name.head?.any isNameStart && name.all isNamePart then
    some (String.ofList name, Awk.textOf (Format.chars (word.drop (name.length + 1))))
  else none

/-- Sets the variable of an argument; a name that the program does not know is of no use. -/
def assign (name : String) (text : ByteString) : Machine Unit := do
  match (← get).program.names.findIdx? (· == name) with
  | some v => writeShared v (.input text)
  | none => pure ()

/-- Goes on to the main input in a file. -/
def begin_ (name : ByteString) (descriptor : Nat) : Machine Unit := do
  setValue Special.fileName (.input name)
  setValue Special.fileRecordNumber (.number 0)
  modify fun s => { s with main := .open_ { name, kind := .source, descriptor } }

/-- Opens the next file of the main input; without any it is standard input. -/
def openNext (isFirst : Bool) : Nat → Machine Unit
  | 0 => modify fun s => { s with main := .ended }
  | fuel + 1 => do
    let s ← get
    let n := s.nextArgument
    let count := (← value Special.argumentCount).toFloat
    if count ≤ Float.ofNat n then
      if isFirst then begin_ [45] 0 else modify fun s => { s with main := .ended }
    else
      set { s with nextArgument := n + 1 }
      let arguments := s.tables.getD Special.arguments {}
      let (isThere, arguments) := arguments.has (.number n)
      let word ← if isThere then textOf (arguments.get (.number n)).1 else pure []
      if word.isEmpty then openNext isFirst fuel
      else match assignment? word with
        | some (name, text) =>
          assign name text
          openNext isFirst fuel
        | none => match ← task (Call.source word) with
          | .ok descriptor => begin_ word descriptor
          | .error e => abort ("cannot open \"" ++ Text.lossy word ++ "\" (" ++ e.message ++ ")")

/-- The next record of the main input. -/
def nextRecordWithin : Nat → Machine (Option ByteString)
  | 0 => return none
  | fuel + 1 => do
    match (← get).main with
    | .ended => return none
    | .fresh =>
      openNext true Task.patience
      nextRecordWithin fuel
    | .between =>
      openNext false Task.patience
      nextRecordWithin fuel
    | .open_ c =>
      let (text?, c) ← nextOf c
      match text? with
      | some text =>
        modify fun s => { s with main := .open_ c }
        for v in [Special.recordNumber, Special.fileRecordNumber] do
          setValue v (.number ((← value v).toFloat + 1))
        return some text
      | none =>
        if c.descriptor ≠ 0 then
          let _ ← task (Task.close c.descriptor)
        modify fun s => { s with main := .between }
        nextRecordWithin fuel

def nextRecord : Machine (Option ByteString) := nextRecordWithin Task.patience

/-- Leaves the file from which the main input is read. -/
def leaveFile : Machine Unit := do
  match (← get).main with
  | .open_ c =>
    if c.descriptor ≠ 0 then
      let _ ← task (Task.close c.descriptor)
    modify fun s => { s with main := .between }
  | _ => pure ()

end Machine
end ModuleForge.Host.Utility.Awk
