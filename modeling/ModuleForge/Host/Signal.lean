/-!
# Signals

The numbered signals with their names and texts, and what they do to a process that does not care.
-/
namespace ModuleForge.Host.Signal

def illegal : Nat := 4
def trap : Nat := 5
def abort : Nat := 6
def arithmetic : Nat := 8
def kill : Nat := 9
def segmentation : Nat := 11
def brokenPipe : Nat := 13
def child : Nat := 17
def goOn : Nat := 18
def stop : Nat := 19
def timeExceeded : Nat := 24

/-- Signals that do nothing unless they are caught. -/
def harmless : List Nat := [17, 18, 23, 28]

/-- Signals that stop a process. -/
def stopping : List Nat := [19, 20, 21, 22]

/-- The highest signal. -/
def last : Nat := 64

/-- The names, from 1 on. -/
def names : List String := [
  "HUP", "INT", "QUIT", "ILL", "TRAP", "ABRT", "BUS", "FPE", "KILL", "USR1", "SEGV", "USR2", "PIPE",
  "ALRM", "TERM", "STKFLT", "CHLD", "CONT", "STOP", "TSTP", "TTIN", "TTOU", "URG", "XCPU", "XFSZ",
  "VTALRM", "PROF", "WINCH", "IO", "PWR", "SYS"]

/-- The texts, from 0 on. -/
def texts : List String := [
  "Unknown signal 0", "Hangup", "Interrupt", "Quit", "Illegal instruction", "Trace/breakpoint trap",
  "Aborted", "Bus error", "Floating point exception", "Killed", "User defined signal 1",
  "Segmentation fault", "User defined signal 2", "Broken pipe", "Alarm clock", "Terminated",
  "Stack fault", "Child exited", "Continued", "Stopped (signal)", "Stopped", "Stopped (tty input)",
  "Stopped (tty output)", "Urgent I/O condition", "CPU time limit exceeded",
  "File size limit exceeded", "Virtual timer expired", "Profiling timer expired", "Window changed",
  "I/O possible", "Power failure", "Bad system call"]

/-- The first of the signals without a meaning of their own that programs may use. -/
def firstFree : Nat := 34

/-- The name of a signal from 1 on, or its number if it has none. -/
def name (n : Nat) : String :=
  match names[n - 1]? with
  | some s => s
  | none =>
    if n < firstFree then toString n
    else if n = firstFree then "RTMIN"
    else if n = last then "RTMAX"
    else if n ≤ firstFree + 15 then "RTMIN+" ++ toString (n - firstFree)
    else "RTMAX-" ++ toString (last - n)

/-- A signal by its number or its name; 0 and `EXIT` are the end of a process. -/
def ofWord? (s : String) : Option Nat :=
  match s.toNat? with
  | some n => if n ≤ last then some n else none
  | none =>
    let wanted := s.toUpper
    if wanted == "EXIT" then some 0
    else ((List.range last).find? fun i => name (i + 1) == wanted).map (· + 1)

/-- The same for names that may have their usual beginning. -/
def ofText? (s : String) : Option Nat :=
  ofWord? (if s.toUpper.startsWith "SIG" then String.ofList (s.toList.drop 3) else s)

end ModuleForge.Host.Signal
