/-!
# Wait status

What a finished process leaves behind: an exit code or the signal that killed it, and the encoding
of both in the status word that waiting for a process returns. Bits 0 to 6 hold the signal, bit 7
tells whether a core was dumped, bits 8 to 15 hold the exit code.
-/
namespace ModuleForge

/-- How a process ended. -/
inductive WaitStatus where
  | exited (code : Int)
  | signaled (signal : Int)
  deriving DecidableEq, Repr

namespace WaitStatus

def success : WaitStatus → Bool
  | exited code => code == 0
  | signaled _ => false

def code? : WaitStatus → Option Int
  | exited code => some code
  | signaled _ => none

def signal? : WaitStatus → Option Int
  | exited _ => none
  | signaled signal => some signal

/--
The status that a status word tells. A word whose seven signal bits are all set belongs to a process
that has stopped or gone on rather than ended; it counts as the exit code -1, which no process that
ended has.
-/
def ofWord (word : BitVec 32) : WaitStatus :=
  let signal := word.toNat % 128
  if signal = 0 then exited (word.toNat / 256 % 256 : Nat)
  else if signal = 127 then exited (-1)
  else signaled (signal : Nat)

/-- The status word of an exit code. -/
def exitWord (code : Nat) : BitVec 32 := BitVec.ofNat 32 (code % 256 * 256)

/-- The status word of a death by signal. -/
def signalWord (signal : Nat) (core : Bool) : BitVec 32 :=
  BitVec.ofNat 32 (signal + if core then 128 else 0)

/-- The status as messages show it. -/
def message : WaitStatus → String
  | exited code => "exit code " ++ toString code
  | signaled signal => "signal " ++ toString signal

/-- The status as logs of values show it. -/
def debug : WaitStatus → String
  | exited code => "Exited(" ++ toString code ++ ")"
  | signaled signal => "Signaled(" ++ toString signal ++ ")"

end WaitStatus
end ModuleForge
