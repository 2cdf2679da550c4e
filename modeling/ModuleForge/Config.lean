import ModuleForge.Context
import ModuleForge.Surroundings
import ModuleForge.Text.Printable

/-!
# Configuration

Which tools a build uses, where it puts what it makes, and how long a tool may run. A configuration
is read from a JSON file, field by field over the default, and environment variables overlay it
(`withEnvironment`): a variable counts if it is text and not empty.
-/
namespace ModuleForge

/-- A configuration, with its defaults. Models `ToolchainConfig`. -/
structure Config where
  compiler : Path := "c++"
  linker : Path := "c++"
  language : String := "c++"
  outputDir : Option Path := none
  timeoutSecs : Nat := 120
  context : Context := {}
  deriving DecidableEq, Repr

namespace Config

/-! ## As JSON -/

def shape : Json.Shape Config :=
  .record "struct ToolchainConfig" {} [
    .of "compiler" .path fun v c => { c with compiler := v },
    .of "linker" .path fun v c => { c with linker := v },
    .of "language" .text fun v c => { c with language := v },
    .of "output_dir" (.optional .path) fun v c => { c with outputDir := v },
    .of "timeout_secs" .natural fun v c => { c with timeoutSecs := v },
    .of "context" Context.shape fun v c => { c with context := v }]

/-- The configuration as JSON, if its paths are text. -/
def toJson (c : Config) : Except Json.Refusal Json := do
  return .object [
    ("compiler", ← Json.ofPath c.compiler), ("linker", ← Json.ofPath c.linker),
    ("language", .string c.language),
    ("output_dir", ← match c.outputDir with
      | none => pure .null
      | some dir => Json.ofPath dir),
    ("timeout_secs", .number (.whole c.timeoutSecs)), ("context", ← c.context.toJson)]

/-- The configuration as logs of values show it. -/
def debug (c : Config) : String :=
  Text.record "ToolchainConfig" [
    ("compiler", c.compiler.debug), ("linker", c.linker.debug),
    ("language", Text.quote c.language),
    ("output_dir", Text.optional (c.outputDir.map Path.debug)),
    ("timeout_secs", toString c.timeoutSecs), ("context", c.context.debug)]

/-- How long a tool may run; zero seconds set no limit. Models `ToolchainConfig.timeout`. -/
def limit (c : Config) : Option Duration :=
  if 0 < c.timeoutSecs then some (.ofSeconds c.timeoutSecs) else none

/-! ## Reading -/

/-- The configuration that a file's text describes. -/
def ofText (text : String) : Except Json.Error Config := shape.parse text

/-- Reads a configuration file. Models `ToolchainConfig.load`. -/
def load [Files σ] [Logging σ] (path : Path) : Action σ ConfigError Config := do
  let text ← Action.reads fun s => (Files.readText path s).mapError (.read path)
  match ofText text with
  | .error e => throw (.parse path e)
  | .ok c =>
    log ⟨.debug, Part.config, "loaded toolchain config", [("path", path.display)]⟩
    return c

/-! ## The environment -/

/-- The names of the variables that overlay a configuration. -/
structure Variables where
  compiler : String := "DYNBUILD_CC"
  linker : String := "DYNBUILD_LD"
  language : String := "DYNBUILD_LANG"
  outputDir : String := "DYNBUILD_OUT_DIR"
  timeoutSecs : String := "DYNBUILD_TIMEOUT_SECS"

def variableNames : Variables := {}

/-- Reads a natural number of 64 bits: digits, behind an optional plus sign. -/
def readNatural? (s : String) : Option Nat :=
  let digits := match s.toList with
    | '+' :: rest => rest
    | cs => cs
  if digits.isEmpty || !digits.all Char.isDigit then none
  else
    let n := digits.foldl (fun n c => n * 10 + (c.toNat - '0'.toNat)) 0
    if n < 2 ^ 64 then some n else none

/-- The configuration with every variable that is set, read by `value`, in place of its field. -/
def overlay (value : String → Option String) (c : Config) : Except ConfigError Config :=
  let c := {
    c with
    compiler := (value variableNames.compiler).elim c.compiler Path.ofText
    linker := (value variableNames.linker).elim c.linker Path.ofText
    language := (value variableNames.language).getD c.language
    outputDir := (value variableNames.outputDir).elim c.outputDir fun dir =>
      some (Path.ofText dir) }
  match value variableNames.timeoutSecs with
  | none => .ok c
  | some secs => match readNatural? (Text.trim secs) with
    | some n => .ok { c with timeoutSecs := n }
    | none => .error (.invalidEnv variableNames.timeoutSecs secs)

/-- A variable's value, if it is text and not empty. Models `env_var`. -/
def setting? [Environment σ] (s : σ) (name : String) : Option String :=
  ((Environment.valueOf name s).bind Text.text?).filter (· ≠ "")

/-- The configuration overlaid by the environment. Models `with_env_overrides`, with `overlay`. -/
def withEnvironment [Environment σ] (c : Config) : Action σ ConfigError Config :=
  Action.reads fun s => c.overlay (setting? s)

/-- Creates the output directory, the current one if none is named: its absolute path. Models
`resolved_output_dir`. -/
def resolveOutputDir [Files σ] (c : Config) : Action σ ConfigError Path := do
  let dir := c.outputDir.getD "."
  (Files.createDirs dir).mapError (.outputDir dir)
  Action.reads fun s => (Files.canonical dir s).mapError (.outputDir dir)

end Config
end ModuleForge
