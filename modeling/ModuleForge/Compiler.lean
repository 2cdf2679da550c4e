import ModuleForge.Config
import ModuleForge.Process
import ModuleForge.Source

/-!
# Compilers

A `Compiler` turns a source into an object. The usual one is a `CompilerCommand`: a program that is
fed the text on its standard input and writes the object itself, so no source file is ever written.
-/
namespace ModuleForge

/-- Something that compiles a source to an object of a given name. Models the interface
`Compiler`. -/
structure Compiler (σ : Type) where
  compile : Source → Path → Option Context → Action σ BuildError Object

/-- A compiler program. It runs in the working directory, to which the names of objects are
relative. Models `ExternalCompiler`. -/
structure CompilerCommand where
  program : Path
  language : String := "c++"
  workingDir : Option Path := none
  limit : Option Duration := some (.ofSeconds 120)
  deriving DecidableEq, Repr

namespace CompilerCommand

/-- The arguments: what the context asks for, then position independent code into the object, from
standard input. Models `compile_arguments`. -/
def arguments (c : CompilerCommand) (objectName : Path) (context : Option Context) :
    List ByteString :=
  (context.elim [] Context.arguments).map ByteString.ofText
    ++ (["-fPIC", "-o", objectName.bytes, "-c", ("-x" ++ c.language : String),
      "-"] : List ByteString)

/-- Where an object comes to lie, as seen from a caller in `currentDir`. Models `object_path`. -/
def objectPath (c : CompilerCommand) (currentDir : Except IoError Path) (objectName : Path) :
    Path :=
  if objectName.isAbsolute then objectName
  else match c.workingDir with
    | some dir => dir.join objectName
    | none => match currentDir with
      | .ok here => here.join objectName
      | .error _ => objectName

/-- The run that compiles a source. -/
def invocation (c : CompilerCommand) (source : Source) (objectName : Path)
    (context : Option Context) : Invocation where
  program := c.program
  arguments := c.arguments objectName context
  workingDir := c.workingDir
  input := source.data
  limit := c.limit

variable {σ : Type} [Logging σ] [Files σ] [Spawning σ]

/-- The object that a finished run leaves, or why there is none. -/
def conclude (object : Path) (output : Output) : Action σ BuildError Object := do
  let diagnostics := Text.lossyData output.stderr
  if !output.status.success then throw (.compile object output.status diagnostics)
  let shown := Text.trim diagnostics
  if !shown.isEmpty then
    log ⟨.warn, Part.compiler, "compiler reported diagnostics",
      [("object", object.display), ("diagnostics", shown)]⟩
  return ⟨object, diagnostics⟩

/-- Compiles a source, creating the working directory first. With `invocation` and `conclude` it
models `ExternalCompiler.compile`. -/
def compile (c : CompilerCommand) (source : Source) (objectName : Path)
    (context : Option Context) : Action σ BuildError Object := do
  let object := c.objectPath (Files.currentDir (← get)) objectName
  let run := c.invocation source objectName context
  log ⟨.info, Part.compiler, "compiling",
    [("compiler", c.program.display), ("object", object.display)]⟩
  log ⟨.debug, Part.compiler, "compiler arguments",
    [("args", Text.bracketed (run.arguments.map Text.quoteBytes))]⟩
  if let some dir := c.workingDir then
    (Files.createDirs dir).mapError BuildError.io
  conclude object (← run.start.mapError BuildError.process)

def toCompiler (c : CompilerCommand) : Compiler σ := ⟨c.compile⟩

end CompilerCommand
end ModuleForge
