import ModuleForge.Library
import ModuleForge.Process
import ModuleForge.Source

/-!
# Linkers

A `Linker` makes a module of objects and loads it. The usual one is a `LinkerCommand`: a program
that runs in the output directory and writes a module there, whose name is new within this process
and tells its number (`moduleName`).
-/
namespace ModuleForge

/-- Something that links objects into a loaded module. Models the interface `Linker`. -/
structure Linker (σ η : Type) where
  link : List Object → Action σ BuildError (Library η)

/-- The file name of the `n`th module that a process makes. -/
def moduleName (process n : Nat) : String :=
  "exec_" ++ toString process ++ "_" ++ toString n ++ ".so"

/-- Takes the next module name of this process. Models `next_module_name`. -/
def nextModuleName [Numbering σ] : StateM σ String := do
  let n ← Numbering.nextNumber
  return moduleName (Numbering.processId (← get)) n

/-- A linker program, and the directory for its modules, the current one if none is named. Models
`ExternalLinker`. -/
structure LinkerCommand where
  program : Path
  outputDir : Option Path := none
  limit : Option Duration := some (.ofSeconds 120)
  deriving DecidableEq, Repr

namespace LinkerCommand

/-- The arguments: a shared module of position independent code, from the objects in order. Models
`link_arguments`. -/
def arguments (module : String) (objects : List Object) : List ByteString :=
  ["-shared", "-fPIC", "-lc", "-o", module].map ByteString.ofText ++ objects.map (·.path.bytes)

/-- The output directory as seen by a caller in `currentDir`. Models `output_dir`. -/
def directory (l : LinkerCommand) (currentDir : Except IoError Path) : Except IoError Path :=
  match l.outputDir with
  | none => currentDir
  | some dir => if dir.isAbsolute then .ok dir else return (← currentDir).join dir

/-- The run that links objects. -/
def invocation (l : LinkerCommand) (dir : Path) (module : String) (objects : List Object) :
    Invocation where
  program := l.program
  arguments := arguments module objects
  workingDir := some dir
  limit := l.limit

variable {σ η : Type} [Logging σ] [Files σ] [Numbering σ] [Spawning σ] [Loading σ η]

/-- Links objects and loads the module. With `invocation` it models `ExternalLinker.link`. -/
def link (l : LinkerCommand) (objects : List Object) : Action σ BuildError (Library η) := do
  let dir ← Action.reads fun s => (l.directory (Files.currentDir s)).mapError BuildError.io
  (Files.createDirs dir).mapError BuildError.io
  let name ← (nextModuleName : StateM σ String)
  let module := dir.join (Path.ofText name)
  let run := l.invocation dir name objects
  log ⟨.info, Part.linker, "linking", [("linker", l.program.display), ("module", module.display),
    ("objects", toString objects.length)]⟩
  log ⟨.debug, Part.linker, "linker arguments",
    [("args", Text.bracketed (run.arguments.map Text.quoteBytes))]⟩
  let output ← run.start.mapError BuildError.process
  if !output.status.success then
    throw (.link module output.status (Text.lossyData output.stderr))
  (Library.load module : StateM σ (Library η))

def toLinker (l : LinkerCommand) : Linker σ η := ⟨l.link⟩

end LinkerCommand
end ModuleForge
