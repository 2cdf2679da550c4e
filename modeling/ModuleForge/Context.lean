import ModuleForge.Json.Shape

/-!
# Building contexts

What a compiler is told besides the source: directories to search, libraries, definitions and flags,
five lists that keep the order in which entries are added. As arguments the groups come one after
the other, each entry behind its option letter.
-/
namespace ModuleForge

structure Context where
  includeDirs : List Path := []
  libraryDirs : List Path := []
  libraries : List String := []
  defines : List String := []
  flags : List String := []
  deriving DecidableEq, Repr

/-- One entry of a context. -/
inductive Context.Entry where
  | includeDir (dir : Path)
  | libraryDir (dir : Path)
  | library (name : String)
  | define (text : String)
  | flag (text : String)
  deriving DecidableEq, Repr

namespace Context

/-- Adds an entry at the end of its group. -/
def add (c : Context) : Entry → Context
  | .includeDir dir => { c with includeDirs := c.includeDirs ++ [dir] }
  | .libraryDir dir => { c with libraryDirs := c.libraryDirs ++ [dir] }
  | .library name => { c with libraries := c.libraries ++ [name] }
  | .define text => { c with defines := c.defines ++ [text] }
  | .flag text => { c with flags := c.flags ++ [text] }

/-- Adds every group of `d` at the end of the same group. -/
def append (c d : Context) : Context where
  includeDirs := c.includeDirs ++ d.includeDirs
  libraryDirs := c.libraryDirs ++ d.libraryDirs
  libraries := c.libraries ++ d.libraries
  defines := c.defines ++ d.defines
  flags := c.flags ++ d.flags

/-- The argument of an entry. A directory is given by the text that shows it, as `path_flag`
does. -/
def Entry.argument : Entry → String
  | .includeDir dir => "-I" ++ dir.display
  | .libraryDir dir => "-L" ++ dir.display
  | .library name => "-l" ++ name
  | .define text => "-D" ++ text
  | .flag text => text

/-- The arguments, group by group. Models `to_arguments`. -/
def arguments (c : Context) : List String :=
  c.includeDirs.map (fun d => "-I" ++ d.display)
    ++ c.libraryDirs.map (fun d => "-L" ++ d.display)
    ++ c.libraries.map ("-l" ++ ·)
    ++ c.defines.map ("-D" ++ ·)
    ++ c.flags

def isEmpty (c : Context) : Bool :=
  c.includeDirs.isEmpty && c.libraryDirs.isEmpty && c.libraries.isEmpty && c.defines.isEmpty
    && c.flags.isEmpty

/-! ## As JSON -/

def shape : Json.Shape Context :=
  .record "struct BuildingContext" {} [
    .of "include_dirs" (.list .path) fun v c => { c with includeDirs := v },
    .of "library_dirs" (.list .path) fun v c => { c with libraryDirs := v },
    .of "libraries" (.list .text) fun v c => { c with libraries := v },
    .of "defines" (.list .text) fun v c => { c with defines := v },
    .of "flags" (.list .text) fun v c => { c with flags := v }]

/-- The context as JSON, if its paths are text. -/
def toJson (c : Context) : Except Json.Refusal Json := do
  let paths (ps : List Path) := Json.array <$> ps.mapM Json.ofPath
  let texts (ts : List String) := Json.array (ts.map Json.string)
  return .object [
    ("include_dirs", ← paths c.includeDirs), ("library_dirs", ← paths c.libraryDirs),
    ("libraries", texts c.libraries), ("defines", texts c.defines), ("flags", texts c.flags)]

/-- The context as logs of values show it. -/
def debug (c : Context) : String :=
  let paths (ps : List Path) := Text.bracketed (ps.map Path.debug)
  let texts (ts : List String) := Text.bracketed (ts.map Text.quote)
  Text.record "BuildingContext" [
    ("include_dirs", paths c.includeDirs), ("library_dirs", paths c.libraryDirs),
    ("libraries", texts c.libraries), ("defines", texts c.defines), ("flags", texts c.flags)]

end Context
end ModuleForge
