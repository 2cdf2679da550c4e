import ModuleForge.Host.Shell.Builtin.Basic
import ModuleForge.Host.Shell.Builtin.Settings
import ModuleForge.Host.Shell.Builtin.Signals
import ModuleForge.Host.Shell.Builtin.Test
import ModuleForge.Host.Shell.Builtin.Variables

/-!
# Builtins

The commands that a shell runs itself and that need nothing but its state. What has to run other
commands is in `ModuleForge.Host.Shell.Run`.
-/
namespace ModuleForge.Host.Shell

open Step

/-- The builtins that have to run other commands, or that look for them. -/
def running : List String := [".", "command", "eval", "exec", "hash", "type"]

/-- Leaves loops, or goes on with their next rounds. -/
def runLeave (goOn : Bool) (words : List ByteString) : Step Nat := do
  let n ← match words with
    | w :: _ => do
      let n ← numberOf w
      if n = 0 then fail ("Illegal number: " ++ Text.lossy w) else pure n
    | [] => pure 1
  let depth := (← get).loops
  if depth = 0 then return 0
  throw (.leave (min n depth) goOn)

/-- The builtins by name. -/
def builtin? (name : String) : Option (List ByteString → Step Nat) :=
  match name with
  | ":" | "true" => some fun _ => return 0
  | "false" => some fun _ => return 1
  | "echo" => some runEcho
  | "printf" => some runPrintf
  | "test" => some (runTest "test")
  | "[" => some (runTest "[")
  | "read" => some runRead
  | "kill" => some runKill
  | "wait" => some runWait
  | "jobs" => some runJobs
  | "fg" | "bg" => some runControl
  | "trap" => some runTrap
  | "export" =>
    some (runMark "export" (fun v => { v with exported := true }) (·.exported))
  | "readonly" =>
    some (runMark "readonly" (fun v => { v with fixed := true }) (·.fixed))
  | "unset" => some runUnset
  | "local" => some runLocal
  | "shift" => some runShift
  | "set" => some runSet
  | "getopts" => some runGetopts
  | "cd" | "chdir" => some runCd
  | "pwd" => some runPwd
  | "umask" => some runUmask
  | "ulimit" => some runUlimit
  | "alias" => some runAlias
  | "unalias" => some runUnalias
  | "times" => some fun _ => putText 0 "0m0.000000s 0m0.000000s\n0m0.000000s 0m0.000000s\n"
  | "exit" => some fun words => do
    match words with
    | [] => exit (← get).status
    | w :: _ => exit ((← numberOf w) % 256)
  | "return" => some fun words => do
    match words with
    | [] => throw (.return (← get).status)
    | w :: _ => throw (.return (← numberOf w))
  | "break" => some (runLeave false)
  | "continue" => some (runLeave true)
  | _ => none

/-- Whether a name is that of a builtin. -/
def isBuiltin (name : String) : Bool := (builtin? name).isSome || running.contains name

end ModuleForge.Host.Shell
