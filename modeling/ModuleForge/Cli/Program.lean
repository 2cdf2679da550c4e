import ModuleForge.Builder
import ModuleForge.Cli.Request

/-!
# The program

The three jobs, each a row of stages of which the first that fails ends the job: the configuration,
the output directory, the sources, compiling, linking, loading, and what is then done with the
module. Results go to standard output, log lines and failures to standard error.
-/
namespace ModuleForge.Cli

/-- Why a job was not done. -/
inductive Failure where
  | toolchain (obstacle : Toolchain.Obstacle)
  | config (error : ConfigError)
  | build (error : BuildError)
  | load (error : LoadError)
  | symbol (error : SymbolError)
  | unreadable (file : Path) (fault : IoError)
  | tooManyArguments (count : Nat)
  | unloadable
  | notWritable (refusal : Json.Refusal)
  /-- Code of the module has ended the program. -/
  | ended (status : WaitStatus)

/-- The most arguments that a function can be called with. -/
def maxArguments : Nat := 4

namespace Failure

/-- What a failure is reported as; one that ends the program without a report has no message. -/
def message : Failure → String
  | toolchain (.config e) | config e => e.message
  | build e => e.message
  | load e => e.message
  | symbol e => e.message
  | unreadable file _ => "Failed to read source " ++ file.display
  | tooManyArguments count =>
    "at most " ++ toString maxArguments ++ " integer arguments are supported, got "
      ++ toString count
  | unloadable => "module was built but could not be loaded"
  | notWritable _ => "Failed to serialize to JSON"
  | toolchain .overflow | ended _ => ""

def cause? : Failure → Option String
  | toolchain (.config e) | config e => e.cause?
  | build e => e.cause?
  | unreadable _ fault => some fault.message
  | notWritable refusal => some refusal.message
  | _ => none

/-- The report of a failure. -/
def report (f : Failure) : String :=
  "Error: " ++ f.message ++ (match f.cause? with
    | none => ""
    | some cause => "\n\nCaused by:\n    " ++ cause) ++ "\n"

end Failure

/-! ## Output -/

def printLine [Console σ] (line : String) : Action σ Failure Unit :=
  modify (Console.out (line ++ "\n"))

def success (text : String) : String := "✓ " ++ text

def absence (text : String) : String := "✗ " ++ text

def warning (text : String) : String := "⚠ " ++ text

/-- Prints a value as indented JSON. -/
def printJson [Console σ] (value : Except Json.Refusal Json) : Action σ Failure Unit := do
  match value with
  | .ok j => printLine (j.pretty 0)
  | .error r => throw (.notWritable r)

/-! ## Stages -/

variable {σ η : Type} [Logging σ] [Files σ] [Environment σ] [Numbering σ] [Spawning σ] [Loading σ η]
  [Console σ] [Calling σ]

/-- Reads sources into targets; the files are numbered to tell equal texts apart. Models
`read_source` and its loop. -/
def addSources (b : Builder σ η) : Nat → List Path → Action σ Failure (Builder σ η)
  | _, [] => return b
  | n, file :: files => do
    let content ← Action.reads fun s => (Files.readText file s).mapError (Failure.unreadable file)
    let (_, b) ← (b.addTarget ⟨n, content⟩ : StateM σ _)
    addSources b (n + 1) files

/-- The builder that a request asks for, with every source as a target. Models `prepare_builder`. -/
def prepare (r : Request) : Action σ Failure (Builder σ η) := do
  let config ← r.toolchain.resolve.mapError Failure.toolchain
  log ⟨.debug, Part.command, "resolved toolchain config", [("config", config.debug)]⟩
  let builder ← (Builder.ofConfig config).mapError Failure.config
  addSources builder 0 r.files

/-- Goes on, unless code of a module has ended the program. -/
def goOn : Action σ Failure Unit := Action.reads fun s => match Loading.ended? s with
  | some status => .error (.ended status)
  | none => .ok ()

/-- Builds the module, whose code runs when it is loaded. -/
def buildModule (r : Request) : Action σ Failure (Library η × Builder σ η) := do
  let builder ← prepare r
  let library ← builder.build.mapError Failure.build
  goOn
  return (library, builder)

/-- Builds the module, which must have been loaded. -/
def loadedModule (r : Request) : Action σ Failure (Library η) := do
  let (library, _) ← buildModule r
  match library.loadError with
  | some e => throw (.load e)
  | none => return library

/-- Does something with a library and lets go of it, whatever comes of that. -/
def holding (library : Library η) (act : Action σ Failure Unit) : Action σ Failure Unit :=
  ExceptT.mk do
    let result ← act.run
    library.drop
    return result

/-! ## Jobs -/

/-- What a build reports as JSON. -/
def buildReport (library : Library η) (targets : Targets) : Except Json.Refusal Json := do
  return .object [
    ("module", ← Json.ofPath library.path), ("loaded", .bool library.isLoaded),
    ("objects", .array (← targets.mapM fun t => Json.ofPath t.objectName))]

/-- Builds and reports. Models `cmd_build`. -/
def runBuild (r : Request) : Action σ Failure Unit := do
  let (library, builder) ← buildModule (η := η) r
  holding library do
    match r.format with
    | .json => printJson (buildReport library builder.targets)
    | .text =>
      printLine (success "Build complete")
      printLine ("  Module: " ++ library.path.display)
      printLine ("  Targets: " ++ toString builder.targets.length)
    match library.loadError with
    | none => return ()
    | some e =>
      modify (Console.err (warning e.message ++ "\n"))
      throw .unloadable

/-- What a call reports. -/
def callReport (r : Request) (symbol : String) (result : Int) : Action σ Failure Unit :=
  match r.format with
  | .json => printJson (.ok (.object [
      ("symbol", .string symbol), ("args", .array (r.arguments.map fun n => .number (.whole n))),
      ("result", .number (.whole result))]))
  | .text =>
    let arguments := ", ".intercalate (r.arguments.map toString)
    printLine (success (symbol ++ "(" ++ arguments ++ ") = " ++ toString result))

/-- Builds, calls one function and reports. Models `cmd_call`. -/
def runCall (r : Request) (symbol : String) : Action σ Failure Unit := do
  if maxArguments < r.arguments.length then throw (.tooManyArguments r.arguments.length)
  let library : Library η ← loadedModule r
  holding library do
    match ← (library.resolveFunction symbol : StateM σ _) with
    | (.error e, _) => throw (.symbol e)
    | (.ok address, _) =>
      match ← (Calling.call address r.arguments : StateM σ _) with
      | .error status => throw (.ended status)
      | .ok result => callReport r symbol result

/-- Looks up symbols one after the other: each with why it was not found, if it was not. -/
def lookUpAll (library : Library η) : List String → StateM σ (List (String × Option SymbolError))
  | [] => return []
  | symbol :: symbols => do
    let (answer, library) ← library.resolve symbol
    let error := match answer with
      | .ok _ => none
      | .error e => some e
    return (symbol, error) :: (← lookUpAll library symbols)

/-- What a probe reports as JSON. -/
def probeReport (entries : List (String × Option SymbolError)) : Json :=
  .array <| entries.map fun (symbol, error) => .object <|
    [("symbol", .string symbol), ("found", .bool error.isNone)]
      ++ (error.map fun e => ("error", Json.string e.message)).toList

/-- Builds, looks up symbols and reports. Models `cmd_probe`. -/
def runProbe (r : Request) : Action σ Failure Unit := do
  let library : Library η ← loadedModule r
  holding library do
    let entries ← (lookUpAll library r.symbols : StateM σ _)
    match r.format with
    | .json => printJson (.ok (probeReport entries))
    | .text =>
      for (symbol, error) in entries do
        printLine (if error.isNone then success symbol else absence (symbol ++ " (not found)"))

/-- What comes of an action, unless code of a module has ended the program by then. -/
def surviving (act : Action σ Failure Unit) : Action σ Failure Unit := ExceptT.mk do
  let result ← act.run
  return (← goOn.run) >>= fun _ => result

def runJob (r : Request) : Action σ Failure Unit :=
  surviving (η := η) <| match r.job with
    | .build => runBuild (η := η) r
    | .call => runCall (η := η) r (r.symbols.headD "")
    | .probe => runProbe (η := η) r

/-! ## The whole program -/

/-- The variable that says which events are shown. -/
def logVariable : String := "RUST_LOG"

/-- Which events are shown: with `verbose` all but the finest, otherwise what the environment says,
if that can be read, and warnings if not. -/
def logFilter (verbose : Bool) (setting : Option ByteString) : Log.Filter :=
  if verbose then .upTo .debug
  else ((setting.bind Text.text?).bind Log.Filter.parse?).getD (.upTo .warn)

/-- How the program ends when a sum overflows. -/
def overflowStatus : WaitStatus := .exited 101

/-- What is said of a sum that overflows. -/
def overflowNotice : String := "attempt to add with overflow\n"

/-- Ends the program by itself, unless what modules have left to be run ends it in another way. -/
def leave (status : WaitStatus) : StateM σ WaitStatus := do
  Loading.finish
  return (Loading.ended? (← get)).getD status

/-- Runs the program: how it ends. -/
def run (arguments : List ByteString) : StateM σ WaitStatus := do
  match Request.parse arguments with
  | .error (.announcement text) =>
    modify (Console.out (text ++ "\n"))
    leave (.exited 0)
  | .error .outOfRange =>
    modify (Console.err overflowNotice)
    leave overflowStatus
  | .error e =>
    modify (Console.err (e.message ++ "\n"))
    leave (.exited 2)
  | .ok r =>
    let setting := Environment.valueOf logVariable (← get)
    modify (Console.listen (logFilter r.verbose setting))
    match ← (runJob (η := η) r).run with
    | .ok () => leave (.exited 0)
    | .error (.ended status) => return status
    | .error (.toolchain .overflow) =>
      modify (Console.err overflowNotice)
      leave overflowStatus
    | .error f =>
      modify (Console.err f.report)
      leave (.exited 1)

end ModuleForge.Cli
