import ModuleForge.Pipe
import ModuleForge.Surroundings

/-!
# The exchange with a child

While a child runs, four things go on at once and none waits for another: its input is fed to it and
then closed (`Feed`), its standard output and its standard error are each drained to their end
(`Drain`), and its death is waited for. The exchange is finished when all four are; only then is
there a result. A child that stops reading its input is no fault.
-/
namespace ModuleForge

/-- Feeding the input. Models how far `feed` has come. -/
inductive Feed where
  | writing (rest : ByteArray)
  | closed (result : Except IoError Unit)

namespace Feed

/-- A write has accepted some bytes. -/
def accepted (count : Nat) : Feed → Feed
  | writing rest => writing (rest.extract count rest.size)
  | f => f

/-- A write has failed. A broken pipe ends the feeding and nothing more. -/
def failed (e : Errno) : Feed → Feed
  | writing _ => closed (if e = .brokenPipe then .ok () else .error (.system e))
  | f => f

/-- Closes the pipe when everything is written. -/
def close : Feed → Feed
  | writing _ => closed (.ok ())
  | f => f

def isClosed : Feed → Bool
  | writing _ => false
  | closed _ => true

end Feed

/-- Draining an output. Models how far `drain` has come. -/
inductive Drain where
  | reading (sofar : ByteArray)
  | ended (result : Except IoError ByteArray)

namespace Drain

/-- A read has returned; an empty one marks the end. -/
def took (data : ByteArray) : Drain → Drain
  | reading sofar => if data.isEmpty then ended (.ok sofar) else reading (sofar ++ data)
  | d => d

/-- A read has failed. -/
def failed (e : Errno) : Drain → Drain
  | reading _ => ended (.error (.system e))
  | d => d

def isEnded : Drain → Bool
  | reading _ => false
  | ended _ => true

end Drain

/-- The outputs of a child. -/
inductive Stream where
  | out
  | err
  deriving DecidableEq, Repr

/-- The state of an exchange. Models the four parts that `Process.run` waits for together. -/
structure Exchange where
  feed : Feed
  out : Drain := .reading ByteArray.empty
  err : Drain := .reading ByteArray.empty
  /-- What the child left behind, once it has been waited for. -/
  status : Option WaitStatus := none

namespace Exchange

def start (input : ByteArray) : Exchange := { feed := .writing input }

/-- The draining of an output. -/
def drain (x : Exchange) : Stream → Drain
  | .out => x.out
  | .err => x.err

def setDrain (x : Exchange) (s : Stream) (d : Drain) : Exchange :=
  match s with
  | .out => { x with out := d }
  | .err => { x with err := d }

/-- Feeds at most `most` bytes, or closes the pipe after the last one; nothing while that has to
wait and once the feeding is over. -/
def feedInto? (x : Exchange) (p : Pipe) (readers : Bool) (most : Nat) : Option (Exchange × Pipe) :=
  match x.feed with
  | .closed _ => none
  | .writing rest =>
    if rest.isEmpty then some ({ x with feed := x.feed.close }, p)
    else match p.write readers (rest.extract 0 most) with
      | .broken => some ({ x with feed := x.feed.failed .brokenPipe }, p)
      | .waits => none
      | .accepted count p => some ({ x with feed := x.feed.accepted count }, p)

/-- Drains at most `most` bytes of what a pipe holds, or notes its end; nothing while that has to
wait and once the draining is over. -/
def drainFrom? (x : Exchange) (s : Stream) (p : Pipe) (writers : Bool) (most : Nat) :
    Option (Exchange × Pipe) :=
  match x.drain s with
  | .ended _ => none
  | .reading _ => match p.read writers most with
    | .waits => none
    | .taken data p => some (x.setDrain s ((x.drain s).took data), p)

/-- The child has been waited for. -/
def reaped (x : Exchange) (status : WaitStatus) : Exchange :=
  { x with status := x.status.getD status }

/-- The result, once all four parts are finished. -/
def result? (x : Exchange) : Option (Except IoError Output) :=
  match x.feed, x.out, x.err, x.status with
  | .closed fed, .ended out, .ended err, some status => some do
    fed
    return { status, stdout := ← out, stderr := ← err }
  | _, _, _, _ => none

/-- What is done to a child that has run into its limit. -/
inductive Cleanup where
  | killGroup
  | killChild
  | reap
  deriving DecidableEq, Repr

/-- The cleaning up after the limit has passed. A child that has been waited for is left alone,
since its number may belong to another process by then. Models the branch of `Process.run` for a
limit that has passed, with `kill_group`. -/
def cleanup (x : Exchange) : List Cleanup :=
  if x.status.isSome then [] else [.killGroup, .killChild, .reap]

end Exchange
end ModuleForge
