import ModuleForge.Cli.Grammar
import ModuleForge.Config
import ModuleForge.Duration.Reader

/-!
# Toolchain options

The options that every command takes, and the configuration that they lead to: the file or the
defaults, then the environment, then the options. The lists of the context are appended, everything
else is replaced.
-/
namespace ModuleForge.Cli

structure Toolchain where
  config : Option Path := none
  outDir : Option Path := none
  timeout : Option Duration := none
  context : Context := {}
  deriving DecidableEq, Repr

namespace Toolchain

/-! ## Kinds of values -/

/-- A path, which must not be empty. -/
def asPath (v : ByteString) : Except ValueFault Path :=
  if v.isEmpty then .error .missing else .ok ⟨v⟩

def asText (v : ByteString) : Except ValueFault String :=
  match Text.text? v with
  | some s => .ok s
  | none => .error .notText

def asDuration (v : ByteString) : Except ValueFault Duration := do
  (Duration.parse (← asText v)).mapError fun e =>
    if e = .carriedTooFar then .outOfRange else .unsuitable e.message

/-! ## The options -/

/-- Adds an entry to the context. -/
def addEntry (on : (Toolchain → Toolchain) → ρ → ρ) (entry : α → Context.Entry) (a : α) : ρ → ρ :=
  on fun t => { t with context := t.context.add (entry a) }

/-- The options, as part of what a command's arguments say; `on` changes that part. -/
def options (on : (Toolchain → Toolchain) → ρ → ρ) : List (Spec ρ) :=
  [ { long := "config", value := some "CONFIG"
      store := stored asPath fun p => on fun t => { t with config := some p } },
    { long := "out-dir", value := some "OUT_DIR"
      store := stored asPath fun p => on fun t => { t with outDir := some p } },
    { long := "timeout", value := some "TIMEOUT"
      store := stored asDuration fun d => on fun t => { t with timeout := some d } },
    { long := "include", short := some 'I', value := some "INCLUDE_DIRS", repeats := true
      store := stored asPath (addEntry on .includeDir) },
    { long := "lib-dir", short := some 'L', value := some "LIBRARY_DIRS", repeats := true
      store := stored asPath (addEntry on .libraryDir) },
    { long := "lib", short := some 'l', value := some "LIBRARIES", repeats := true
      store := stored asText (addEntry on .library) },
    { long := "define", short := some 'D', value := some "DEFINES", repeats := true
      store := stored asText (addEntry on .define) },
    { long := "flag", value := some "FLAGS", repeats := true, takesHyphens := true
      store := stored asText (addEntry on .flag) } ]

/-- The option that asks how a command is used. -/
def helpOption (usage : String) : Spec ρ := .announcing "help" 'h' usage

/-- The grammar of the options alone. -/
def grammar : Grammar Toolchain := { options := options id ++ [helpOption "Usage: [OPTIONS]"] }

def parse (arguments : List ByteString) : Except UsageError Toolchain :=
  grammar.parse {} arguments

/-! ## The configuration -/

/-- Why the options lead to no configuration. -/
inductive Obstacle where
  | config (error : ConfigError)
  /-- The sum that rounds the limit up to whole seconds does not fit into 64 bits. -/
  | overflow

/-- A limit in whole seconds of 64 bits; a part of a second counts as one. Models the sum in
`resolve_config`. -/
def limitSeconds (d : Duration) : Except Obstacle Nat :=
  if d.ceilSeconds < 2 ^ 64 then .ok d.ceilSeconds else .error .overflow

/-- A configuration with the options on top. -/
def overlay (t : Toolchain) (c : Config) : Except Obstacle Config := do
  return { c with
    outputDir := t.outDir <|> c.outputDir
    timeoutSecs := ← match t.timeout with
      | some d => limitSeconds d
      | none => pure c.timeoutSecs
    context := c.context.append t.context }

/-- The configuration that the options, the environment and the file give. Models
`resolve_config`. -/
def resolve [Files σ] [Environment σ] [Logging σ] (t : Toolchain) : Action σ Obstacle Config := do
  let base ← match t.config with
    | some path => (Config.load path).mapError Obstacle.config
    | none => pure {}
  let config ← base.withEnvironment.mapError Obstacle.config
  Action.reads fun _ => t.overlay config

end Toolchain
end ModuleForge.Cli
