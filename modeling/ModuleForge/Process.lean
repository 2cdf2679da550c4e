import ModuleForge.Surroundings

/-!
# Subprocesses

`Invocation.run` runs a program to its end and logs what happens; `Invocation.start` does so on an
engine of its own. That a program exits with another code than 0 or dies by a signal is no error
here; not being able to start it, a fault on its pipes and passing the limit are.
-/
namespace ModuleForge

/-- A name with its value put into a list that is sorted by name. -/
def setVariable (name value : ByteString) :
    List (ByteString × ByteString) → List (ByteString × ByteString)
  | [] => [(name, value)]
  | (n, v) :: rest =>
    if name = n then (name, value) :: rest
    else if name < n then (name, value) :: (n, v) :: rest
    else (n, v) :: setVariable name value rest

namespace Invocation

/-- Also sets a variable. Models `Process.env`. -/
def withVariable (i : Invocation) (name value : ByteString) : Invocation :=
  { i with settings := setVariable name value i.settings }

variable {σ : Type} [Logging σ] [Spawning σ]

/-- Logs something about a run. -/
def note (level : Level) (i : Invocation) (message : String)
    (fields : List (String × String)) : StateM σ Unit :=
  log ⟨level, Part.process, message, ("program", i.program.display) :: fields⟩

/-- What the end of a run is to whoever asked for it: the errors of `Process.run`. -/
def answer (i : Invocation) : Outcome → Except ProcessError Output
  | .notStarted fault => .error (.spawn i.program.display fault)
  | .failed fault => .error (.io i.program.display fault)
  | .timedOut _ => .error (.timeout i.program.display (i.limit.getD .zero))
  | .finished output => .ok output

/-- Notes how a run has ended. -/
def noteEnd (i : Invocation) : Outcome → StateM σ Unit
  | .notStarted _ | .failed _ => return
  | .timedOut reaped => do
    note .warn i "process timed out, killing" [("after", (i.limit.getD .zero).debug)]
    if reaped then
      note .debug i "kill failed, child already gone"
        [("error", "invalid argument: can't kill an exited process")]
  | .finished output =>
    note .debug i "process finished" [
      ("status", output.status.message), ("stdout_len", toString output.stdout.size),
      ("stderr_len", toString output.stderr.size)]

/-- Runs a program to its end. Models `Process.run`, with its exchange of data left to
`Spawning`. -/
def run (i : Invocation) : Action σ ProcessError Output := ExceptT.mk do
  note .debug i "spawning process" [
    ("args", Text.bracketed (i.arguments.map Text.quoteBytes)),
    ("working_dir", Text.optional (i.workingDir.map Path.debug)),
    ("input_len", toString i.input.size)]
  let outcome ← Spawning.exchange i
  noteEnd i outcome
  return i.answer outcome

/-- Runs a program to its end on an engine of its own. Models `block_on`, and `Process.start`
outside an event loop. -/
def start (i : Invocation) : Action σ ProcessError Output := ExceptT.mk do
  match ← Spawning.engine i with
  | .error fault => return .error (.engine fault)
  | .ok () => i.run.run

/-- Runs a program from within a running event loop, on a thread of its own. Models `Process.start`
there. -/
def startNested (i : Invocation) : Action σ ProcessError Output := ExceptT.mk do
  note .debug i "inside a runtime, running on a helper thread" []
  i.start.run

end Invocation
end ModuleForge
