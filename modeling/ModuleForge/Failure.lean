import ModuleForge.Duration
import ModuleForge.Json
import ModuleForge.Path
import ModuleForge.SystemError
import ModuleForge.WaitStatus

/-!
# Failures

Why a configuration, a subprocess, a build, a load or a look-up fails. Each cause has one message,
and where it was caused by another fault also that one's (`cause?`).
-/
namespace ModuleForge

/-- Why there is no usable configuration or registry entry. -/
inductive ConfigError where
  | missingCompiler
  | missingLinker
  | duplicateTarget (name : Path)
  | invalidEnv (var value : String)
  | read (path : Path) (fault : IoError)
  | parse (path : Path) (fault : Json.Error)
  | outputDir (path : Path) (fault : IoError)

namespace ConfigError

def message : ConfigError → String
  | missingCompiler => "no compiler configured"
  | missingLinker => "no linker configured"
  | duplicateTarget name =>
    "a target with object name " ++ name.display ++ " is already registered"
  | invalidEnv var value => "invalid value " ++ Text.quote value ++ " for " ++ var
  | read path fault => "failed to read config " ++ path.display ++ ": " ++ fault.message
  | parse path fault => "failed to parse config " ++ path.display ++ ": " ++ fault.message
  | outputDir path fault =>
    "failed to prepare output directory " ++ path.display ++ ": " ++ fault.message

def cause? : ConfigError → Option String
  | read _ fault | outputDir _ fault => some fault.message
  | parse _ fault => some fault.message
  | _ => none

end ConfigError

/-- Why a subprocess gave no result. -/
inductive ProcessError where
  | spawn (program : String) (fault : IoError)
  | io (program : String) (fault : IoError)
  | timeout (program : String) (after : Duration)
  | engine (fault : IoError)
  deriving DecidableEq, Repr

namespace ProcessError

def message : ProcessError → String
  | spawn program fault => "failed to spawn " ++ program ++ ": " ++ fault.message
  | io program fault => "i/o error while running " ++ program ++ ": " ++ fault.message
  | timeout program after =>
    program ++ " did not finish within " ++ after.debug ++ " and was killed"
  | engine fault => "failed to create process runtime: " ++ fault.message

def cause? : ProcessError → Option String
  | spawn _ fault | io _ fault | engine fault => some fault.message
  | timeout .. => none

end ProcessError

/-- Why a build made no module. -/
inductive BuildError where
  | config (error : ConfigError)
  | process (error : ProcessError)
  | compile (object : Path) (status : WaitStatus) (stderr : String)
  | link (module : Path) (status : WaitStatus) (stderr : String)
  | io (fault : IoError)

namespace BuildError

def message : BuildError → String
  | config e => e.message
  | process e => e.message
  | compile object status stderr =>
    "compilation of " ++ object.display ++ " failed (" ++ status.message ++ "):\n" ++ stderr
  | link module status stderr =>
    "linking " ++ module.display ++ " failed (" ++ status.message ++ "):\n" ++ stderr
  | io fault => "io error: " ++ fault.message

def cause? : BuildError → Option String
  | config e => e.cause?
  | process e => e.cause?
  | io fault => some fault.message
  | compile .. | link .. => none

/-- What the failing tool wrote to its standard error. -/
def stderr? : BuildError → Option String
  | compile _ _ stderr | link _ _ stderr => some stderr
  | _ => none

end BuildError

/-- Why a module is not loaded. -/
structure LoadError where
  path : Path
  reason : String
  deriving DecidableEq, Repr

def LoadError.message (e : LoadError) : String :=
  "failed to load " ++ e.path.display ++ ": " ++ e.reason

/-- The error as logs of values show it. -/
def LoadError.debug (e : LoadError) : String :=
  Text.record "LoadError" [("path", e.path.debug), ("message", Text.quote e.reason)]

/-- Why a name has no symbol. -/
inductive SymbolError where
  | notLoaded (name : String)
  | notFound (name reason : String)
  deriving DecidableEq, Repr

def SymbolError.message : SymbolError → String
  | .notLoaded name => "cannot resolve " ++ name ++ ": library is not loaded"
  | .notFound name reason => "symbol " ++ name ++ " not found: " ++ reason

end ModuleForge
