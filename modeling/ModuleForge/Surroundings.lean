import ModuleForge.Failure
import ModuleForge.Log

/-!
# Surroundings

What a build asks of the machine it runs on, as classes over a state `σ`: files, the environment,
names for new modules, running programs, loading modules, calling what is in them, and showing
texts. The pipeline is written against these, so it can be run on any machine and reasoned about for
all of them.
-/
namespace ModuleForge

/-- A step that may fail and changes the state either way. -/
abbrev Action (σ ε α : Type) := ExceptT ε (StateM σ) α

namespace Action

/-- The step with its error changed. -/
def mapError (f : ε → ε') (a : Action σ ε α) : Action σ ε' α :=
  ExceptT.mk do return (← a.run).mapError f

/-- The step that looks at the state. -/
def reads (f : σ → Except ε α) : Action σ ε α := ExceptT.mk do return f (← get)

end Action

/-- Directories and files. -/
class Files (σ : Type) where
  /-- The directory against which relative paths are taken. -/
  currentDir : σ → Except IoError Path
  /-- Creates a directory and those above it, as far as they are missing. -/
  createDirs : Path → Action σ IoError Unit
  /-- The absolute path of what exists, without links, `.` and `..`. -/
  canonical : Path → σ → Except IoError Path
  /-- A file's text. -/
  readText : Path → σ → Except IoError String

/-- Environment variables. -/
class Environment (σ : Type) where
  valueOf : String → σ → Option ByteString

/-- Numbers for new modules: each use of the counter takes the next one. -/
class Numbering (σ : Type) where
  processId : σ → Nat
  nextNumber : StateM σ Nat

/-- One run of a program: what to run, where, and what to feed it. -/
structure Invocation where
  program : Path
  arguments : List ByteString := []
  workingDir : Option Path := none
  /-- Variables set on top of the inherited ones, by name. -/
  settings : List (ByteString × ByteString) := []
  input : ByteArray := ByteArray.empty
  limit : Option Duration := none

/-- What a finished run leaves behind. -/
structure Output where
  status : WaitStatus
  stdout : ByteArray
  stderr : ByteArray

/-- How a run ended. -/
inductive Outcome where
  | notStarted (fault : IoError)
  | failed (fault : IoError)
  /-- The limit passed; `reaped` tells whether the child itself had been waited for by then. -/
  | timedOut (reaped : Bool)
  | finished (output : Output)

/-- Running programs. -/
class Spawning (σ : Type) where
  /-- Sets up what drives the exchange of a run. -/
  engine : Invocation → StateM σ (Except IoError Unit) := fun _ => pure (.ok ())
  exchange : Invocation → StateM σ Outcome

/-- Loading modules, each known by a handle; a symbol's address may be null. Code of a module runs
when the module is opened, looked into and closed and when the program ends, and it may end the
program there and then; what is asked of the machine after that has no effect. -/
class Loading (σ : Type) (η : outParam Type) where
  openModule : Path → StateM σ (Except String η)
  lookUp : η → ByteString → StateM σ (Except String Nat)
  close : η → StateM σ (Except String Unit)
  /-- How code of a module has ended the program, if it has. -/
  ended? : σ → Option WaitStatus := fun _ => none
  /-- Runs what modules have left to be run at the end of the program. -/
  finish : StateM σ Unit := return ()

/-- Standard output and standard error, and which events are shown there. -/
class Console (σ : Type) where
  out : String → σ → σ
  err : String → σ → σ
  listen : Log.Filter → σ → σ

/-- Calling what is at an address as a function of integers; the error is how that ended the
program. -/
class Calling (σ : Type) where
  call : Nat → List Int → StateM σ (Except WaitStatus Int)

end ModuleForge
