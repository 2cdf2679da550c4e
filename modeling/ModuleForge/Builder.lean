import ModuleForge.Compiler
import ModuleForge.Linker

/-!
# Builders

A `Builder` holds a compiler, a linker, a context, and the targets: sources with the names of their
objects, in the order of their registration. `Builder.build` compiles the targets in that order,
stops at the first failure, and links all objects into one module.
-/
namespace ModuleForge

/-- A source, and the name of the object that it compiles to. -/
structure Target where
  source : Source
  objectName : Path
  deriving DecidableEq, Repr

/-- The target as logs of values show it. -/
def Target.debug (t : Target) : String :=
  Text.record "BuildTarget" [("source", t.source.debug), ("object_name", t.objectName.debug)]

/-- Targets in the order of their registration. -/
abbrev Targets := List Target

namespace Targets

/-- Whether a target has that object name. -/
def hasName (ts : Targets) (name : Path) : Bool := ts.any (·.objectName.same name)

/-- Registers a source under the name that its text yields, which may be taken already. Models what
`add_target` does to the targets. -/
def add (ts : Targets) (source : Source) : Targets := ts ++ [⟨source, source.objectName⟩]

/-- Registers a source under a name that no target has. Models what `add_named_target` does to the
targets. -/
def addNamed (ts : Targets) (source : Source) (name : Path) : Except ConfigError Targets :=
  if ts.hasName name then .error (.duplicateTarget name) else .ok (ts ++ [⟨source, name⟩])

/-- Takes out the first target with a property. -/
def takeFirst (p : Target → Bool) : Targets → Option Target × Targets
  | [] => (none, [])
  | t :: ts =>
    if p t then (some t, ts)
    else
      let (found, rest) := takeFirst p ts
      (found, t :: rest)

/-- Takes out the first target of a source. Models `remove_target`. -/
def remove (ts : Targets) (source : Source) : Option Target × Targets :=
  takeFirst (·.source.same source) ts

/-- Takes out the first target with an object name. Models `remove_named_target`. -/
def removeNamed (ts : Targets) (name : Path) : Option Target × Targets :=
  takeFirst (·.objectName.same name) ts

end Targets

structure Builder (σ η : Type) where
  compiler : Option (Compiler σ) := none
  linker : Option (Linker σ η) := none
  context : Option Context := none
  targets : Targets := []

namespace Builder

/-- The builder as logs of values show it. -/
def debug (b : Builder σ η) : String :=
  Text.record "Builder" [
    ("has_compiler", toString b.compiler.isSome), ("has_linker", toString b.linker.isSome),
    ("context", Text.optional (b.context.map Context.debug)),
    ("targets", Text.bracketed (b.targets.map Target.debug))]

/-- The compiler program that a configuration names, working in `dir`. -/
def compilerOf (c : Config) (dir : Path) : CompilerCommand where
  program := c.compiler
  language := c.language
  workingDir := some dir
  limit := c.limit

/-- The linker program that a configuration names, with its modules in `dir`. -/
def linkerOf (c : Config) (dir : Path) : LinkerCommand where
  program := c.linker
  outputDir := some dir
  limit := c.limit

variable {σ η : Type} [Logging σ] [Files σ]

/-- A builder without targets, as configured. Models `Builder.from_config`. -/
def ofConfig [Numbering σ] [Spawning σ] [Loading σ η] (c : Config) :
    Action σ ConfigError (Builder σ η) := do
  let dir ← c.resolveOutputDir
  return {
    compiler := some (compilerOf c dir).toCompiler
    linker := some (linkerOf c dir).toLinker
    context := if c.context.isEmpty then none else some c.context }

private def added (name : Path) : Event :=
  ⟨.debug, Part.builder, "target added", [("object", name.display)]⟩

/-- Registers a source: the name of its object. Models `Builder.add_target`. -/
def addTarget (b : Builder σ η) (source : Source) : StateM σ (Path × Builder σ η) := do
  log (added source.objectName)
  return (source.objectName, { b with targets := b.targets.add source })

/-- Registers a source under a name of the caller's. Models `Builder.add_named_target`. -/
def addNamedTarget (b : Builder σ η) (source : Source) (name : Path) :
    Action σ ConfigError (Builder σ η) := do
  let targets ← Action.reads fun _ => b.targets.addNamed source name
  log (added name)
  return { b with targets }

/-- Compiles targets in order up to the first that fails; `index` numbers them. Models the loop of
`Builder.build`. -/
def compileAll (compiler : Compiler σ) (context : Option Context) :
    Nat → Targets → Action σ BuildError (List Object)
  | _, [] => return []
  | index, t :: ts => do
    log ⟨.debug, Part.builder, "compiling target",
      [("index", toString index), ("object", t.objectName.display)]⟩
    let object ← compiler.compile t.source t.objectName context
    return object :: (← compileAll compiler context (index + 1) ts)

/-- Compiles every target and links the objects. Models `Builder.build`. -/
def build (b : Builder σ η) : Action σ BuildError (Library η) := do
  let some compiler := b.compiler | throw (.config .missingCompiler)
  let some linker := b.linker | throw (.config .missingLinker)
  log ⟨.info, Part.builder, "building", [("targets", toString b.targets.length)]⟩
  let objects ← compileAll compiler b.context 0 b.targets
  let library ← linker.link objects
  log ⟨.info, Part.builder, "build finished",
    [("module", library.path.display), ("loaded", toString library.isLoaded)]⟩
  return library

end Builder
end ModuleForge
