import ModuleForge.Host.FileTree

/-!
# Threads

A `Thread` is a running program as the machine sees it: the next request to the machine, and how the
program goes on with the answer. A `Task` is a part of a program that gives a value, so that
programs can be written in the usual sequential style.
-/
namespace ModuleForge.Host

/-- What a process does on a signal. -/
inductive Disposition where
  | default
  | ignored
  /-- The signal is kept until the program asks for it. -/
  | caught
  deriving DecidableEq, Repr

/-- What a file is opened for. -/
inductive OpenMode where
  | read
  /-- For writing from the start; what was there is lost, and a missing file is made. -/
  | write
  /-- For writing at the end; a missing file is made. -/
  | append
  /-- For both; a missing file is made. -/
  | update
  deriving DecidableEq, Repr

/-- Variables with their values, in the order in which a process hands them on. -/
abbrev Variables := List (ByteString × ByteString)

inductive Thread where
  | exit (code : Nat)
  /-- Computes for a while. -/
  | spend (nanos : Nat) (k : Unit → Thread)
  | sleep (nanos : Nat) (k : Unit → Thread)
  | read (fd max : Nat) (k : Except Errno ByteArray → Thread)
  | write (fd : Nat) (data : ByteArray) (k : Except Errno Nat → Thread)
  | openFile (path : ByteString) (mode : OpenMode) (k : Except Errno Nat → Thread)
  | close (fd : Nat) (k : Except Errno Unit → Thread)
  /-- Makes `target` stand for what `fd` stands for. -/
  | duplicate (fd target : Nat) (k : Except Errno Unit → Thread)
  /-- The same for a free descriptor from `least` on, which a new program does not inherit. -/
  | duplicateAbove (fd least : Nat) (k : Except Errno Nat → Thread)
  /-- The file behind a descriptor, and how far it was read or written; nothing for what is no
  file. -/
  | position (fd : Nat) (k : Option (Nat × Nat) → Thread)
  /-- Goes on reading or writing a file at another place. -/
  | seek (fd offset : Nat) (k : Unit → Thread)
  /-- A new pipe: the descriptors to read from and to write to. -/
  | pipe (k : Nat → Nat → Thread)
  | fork (child : Thread) (k : Nat → Thread)
  /-- Becomes another program; the answer is why not. -/
  | execute (path : ByteString) (arguments : List ByteString) (environment : Variables)
      (k : Errno → Thread)
  /-- Waits for one child or for any: its number and status word, or nothing yet. -/
  | wait (child : Option Nat) (blocking : Bool)
      (k : Except Errno (Option (Nat × BitVec 32)) → Thread)
  | kill (target : Int) (signal : Nat) (k : Except Errno Unit → Thread)
  | dispose (signal : Nat) (how : Disposition) (k : Unit → Thread)
  /-- The next caught signal. -/
  | takeSignal (k : Option Nat → Thread)
  /-- Leaves the group of processes for one of its own; the leader of a group cannot. -/
  | leaveGroup (k : Except Errno Unit → Thread)
  /-- The numbers of the process and of its parent. -/
  | identity (k : Nat → Nat → Thread)
  | changeDir (path : ByteString) (k : Except Errno Unit → Thread)
  /-- Which rights new files did not get so far; from now on these, if some are given. -/
  | mask (rights : Option Nat) (k : Nat → Thread)
  /-- Looks at the files; the number is the current directory. -/
  | look (k : FileTree → Nat → Thread)
  | change (f : FileTree → Nat → Except Errno FileTree) (k : Except Errno Unit → Thread)

/-- A part of a program that gives an `α`. -/
def Task (α : Type) : Type := (α → Thread) → Thread

namespace Task

instance : Monad Task where
  pure a := fun k => k a
  bind t f := fun k => t fun a => f a k

/-- The thread that ends with the task's exit code. -/
def toThread (t : Task Nat) : Thread := t .exit

def exit (code : Nat) : Task α := fun _ => Thread.exit code
def spend (nanos : Nat) : Task Unit := Thread.spend nanos
def sleep (nanos : Nat) : Task Unit := Thread.sleep nanos
def read (fd max : Nat) : Task (Except Errno ByteArray) := Thread.read fd max
def write (fd : Nat) (data : ByteArray) : Task (Except Errno Nat) := Thread.write fd data
def openFile (path : ByteString) (mode : OpenMode) : Task (Except Errno Nat) := Thread.openFile path mode
def close (fd : Nat) : Task (Except Errno Unit) := Thread.close fd
def duplicate (fd target : Nat) : Task (Except Errno Unit) := Thread.duplicate fd target
def duplicateAbove (fd least : Nat) : Task (Except Errno Nat) := Thread.duplicateAbove fd least
def position (fd : Nat) : Task (Option (Nat × Nat)) := Thread.position fd
def seek (fd offset : Nat) : Task Unit := Thread.seek fd offset
def pipe : Task (Nat × Nat) := fun k => Thread.pipe fun r w => k (r, w)
def fork (child : Task Nat) : Task Nat := Thread.fork child.toThread
def execute (path : ByteString) (arguments : List ByteString) (environment : Variables) :
    Task Errno := Thread.execute path arguments environment
def wait (child : Option Nat) (blocking : Bool) :
    Task (Except Errno (Option (Nat × BitVec 32))) := Thread.wait child blocking
def kill (target : Int) (signal : Nat) : Task (Except Errno Unit) := Thread.kill target signal
def dispose (signal : Nat) (how : Disposition) : Task Unit := Thread.dispose signal how
def takeSignal : Task (Option Nat) := Thread.takeSignal
def leaveGroup : Task (Except Errno Unit) := Thread.leaveGroup
def processId : Task Nat := fun k => Thread.identity fun pid _ => k pid
def parentId : Task Nat := fun k => Thread.identity fun _ parent => k parent
def changeDir (path : ByteString) : Task (Except Errno Unit) := Thread.changeDir path
/-- Sets which rights new files do not get. -/
def setMask (rights : Nat) : Task Unit := fun k => Thread.mask (some rights) fun _ => k ()
def mask : Task Nat := Thread.mask none
def look (f : FileTree → Nat → α) : Task α := fun k => Thread.look fun t here => k (f t here)
def change (f : FileTree → Nat → Except Errno FileTree) : Task (Except Errno Unit) := Thread.change f

/-- How often a program may go round in one loop. -/
def patience : Nat := 1 <<< 60

/-- Writes all of some data. -/
def writeAllWithin (fd : Nat) : Nat → ByteArray → Task (Except Errno Unit)
  | 0, _ => pure (.ok ())
  | fuel + 1, data =>
    if data.isEmpty then pure (.ok ())
    else do
      match ← write fd data with
      | .error e => return .error e
      | .ok n => writeAllWithin fd fuel (data.extract n data.size)

def writeAll (fd : Nat) (data : ByteArray) : Task (Except Errno Unit) :=
  writeAllWithin fd patience data

def readAllWithin (fd : Nat) : Nat → ByteArray → Task (Except Errno ByteArray)
  | 0, sofar => pure (.ok sofar)
  | fuel + 1, sofar => do
    match ← read fd 65536 with
    | .error e => return .error e
    | .ok data => if data.isEmpty then return .ok sofar else readAllWithin fd fuel (sofar ++ data)

/-- Reads up to the end. -/
def readAll (fd : Nat) : Task (Except Errno ByteArray) := readAllWithin fd patience ByteArray.empty

end Task
end ModuleForge.Host
