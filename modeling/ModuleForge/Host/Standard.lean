import ModuleForge.Cli.Program
import ModuleForge.Host.Native.Tool
import ModuleForge.Host.Shell.Run
import ModuleForge.Host.Spawn
import ModuleForge.Host.Utility.Awk.Run
import ModuleForge.Host.Utility.Calculation
import ModuleForge.Host.Utility.Checksums
import ModuleForge.Host.Utility.Columns
import ModuleForge.Host.Utility.Compare
import ModuleForge.Host.Utility.Dump
import ModuleForge.Host.Utility.Editor
import ModuleForge.Host.Utility.Find
import ModuleForge.Host.Utility.Identity
import ModuleForge.Host.Utility.Lines
import ModuleForge.Host.Utility.Matching
import ModuleForge.Host.Utility.Pieces
import ModuleForge.Host.Utility.Printing
import ModuleForge.Host.Utility.Search
import ModuleForge.Host.Utility.Translation

/-!
# The standard machine

A machine with the usual directories, a shell, the utilities and a compiler, the surroundings that
it gives to a build, and the program as one of its processes.
-/

/-!
## Utilities

The small programs of the machine by name.
-/

namespace ModuleForge.Host.Utilities

open Utility

/-- The utilities for streams and lines. -/
def forStreams : List (String × Utility) := [
  ("cat", cat), ("tee", tee), ("head", head), ("tail", tail), ("dd", dd), ("wc", wc), ("tr", tr), ("od", od),
  ("sort", sort), ("uniq", uniq), ("comm", comm), ("join", join), ("tsort", tsort), ("shuf", shuf),
  ("tac", tac), ("rev", rev), ("nl", nl), ("fold", fold), ("expand", expand), ("unexpand", unexpand),
  ("fmt", fmt), ("cut", cut), ("paste", paste), ("split", split), ("csplit", csplit), ("grep", grep),
  ("egrep", fun c => grep { c with words := ByteString.ofText "-E" :: c.words }),
  ("fgrep", fun c => grep { c with words := ByteString.ofText "-F" :: c.words }),
  ("sed", Editor.sed), ("awk", Awk.awk), ("mawk", Awk.awk), ("cmp", cmp), ("diff", diff),
  ("md5sum", digests md5), ("sha1sum", digests sha1), ("sha224sum", digests sha224), ("sha256sum", digests sha256), ("sha384sum", digests sha384),
  ("sha512sum", digests sha512), ("cksum", cksum), ("sum", sum),
  ("base64", encoding base64Alphabet), ("base32", encoding base32Alphabet)]

/-- The utilities for files. -/
def forFiles : List (String × Utility) := [
  ("basename", basename), ("dirname", dirname), ("pwd", pwd), ("readlink", readlink),
  ("realpath", realpath), ("mktemp", mktemp), ("mkdir", mkdir), ("rmdir", rmdir), ("rm", rm),
  ("unlink", unlink), ("mv", mv), ("cp", cp), ("install", install), ("touch", touch), ("chmod", chmod),
  ("chown", chown), ("chgrp", chown), ("ln", ln), ("link", link), ("truncate", truncate), ("ls", ls),
  ("stat", stat), ("du", du), ("find", find)]

/-- The utilities that print, tell about the machine, wait, and start programs. -/
def others : List (String × Utility) := [
  ("true", fun _ => return 0), ("false", fun _ => return 1), ("printf", printf), ("echo", echo), ("yes", yes),
  ("seq", seq), ("expr", expr), ("factor", factor), ("uname", uname), ("arch", arch), ("hostname", hostname),
  ("whoami", whoami), ("logname", logname), ("groups", groups), ("id", id), ("nproc", nproc), ("tty", tty),
  ("sync", sync), ("date", date), ("sleep", sleep), ("env", env), ("printenv", printenv), ("nohup", nohup),
  ("nice", nice), ("stdbuf", stdbuf), ("setsid", setsid), ("timeout", timeout), ("kill", kill),
  ("xargs", xargs), ("which", which)]

/-- The utilities with their names. -/
def all : List (String × Utility) := forStreams ++ forFiles ++ others

/-- Runs a utility with its arguments, the first of which is the name under which it was called. -/
def run? (name : String) (arguments : List ByteString) (environment : Variables) :
    Option (Task Nat) :=
  (all.lookup name).map fun utility => utility {
    program := Text.lossy (arguments.headD (ByteString.ofText name))
    words := arguments.drop 1
    environment }

/-- The names of the utilities. -/
def names : List String := all.map (·.1)

end ModuleForge.Host.Utilities

namespace ModuleForge.Host

/-- The programs of the machine. -/
def tools : Tools := fun name arguments environment =>
  Task.toThread <| match name with
    | "sh" => Shell.shell arguments environment
    | "test" | "[" => do
      match ← (Shell.runTest name (arguments.drop 1)).run.run { name := ByteString.ofText name } with
      | (.ok code, _) => return code
      | (.error _, _) => return 2
    | _ =>
      if Native.programNames.contains name then Native.run name arguments
      else (Utilities.run? name arguments environment).getD (return 127)

namespace FileTree

/-- The tree with a directory and those above it. -/
def withDirs (t : FileTree) (path : String) : FileTree :=
  let p : Path := path
  match t.makeDirs root p (p.bytes.length + 1) with
  | .ok t => t
  | .error _ => t

/-- The tree with a node in an existing directory. -/
def withNode (t : FileTree) (dir name : String) (node : Node) : FileTree :=
  match t.find root (ByteString.ofText dir) with
  | .ok n => (t.insert n (ByteString.ofText name) node).2
  | .error _ => t

/-- Files beside the libraries that tell linkers what to take in their place. -/
def scripts : List (String × String) := [
  ("libc.so", "/* GNU ld script\n"
    ++ "   Use the shared library, but some functions are only in\n"
    ++ "   the static library, so try that secondarily.  */\n"
    ++ "OUTPUT_FORMAT(elf64-x86-64)\n"
    ++ "GROUP ( /lib/x86_64-linux-gnu/libc.so.6 /usr/lib/x86_64-linux-gnu/libc_nonshared.a"
    ++ "  AS_NEEDED ( /lib64/ld-linux-x86-64.so.2 ) )\n"),
  ("libm.so", "/* GNU ld script\n*/\n"
    ++ "OUTPUT_FORMAT(elf64-x86-64)\n"
    ++ "GROUP ( /lib/x86_64-linux-gnu/libm.so.6"
    ++ "  AS_NEEDED ( /lib/x86_64-linux-gnu/libmvec.so.1 ) )\n")]

/-- The usual directories, devices, programs and libraries. -/
def standard : FileTree :=
  let dirs := ["/usr/bin", "/usr/sbin", "/usr/lib/x86_64-linux-gnu", "/usr/lib64", "/usr/local/bin", "/usr/local/sbin",
    "/usr/local/lib", "/usr/local/include", "/usr/include", "/usr/share", "/dev/fd", "/etc", "/home",
    "/root", "/tmp", "/var/tmp", "/proc", "/sys", "/run", "/opt", "/mnt", "/srv", "/media"]
  let t := dirs.foldl withDirs {}
  let links := [("bin", "usr/bin"), ("sbin", "usr/sbin"), ("lib", "usr/lib"), ("lib64", "usr/lib64")]
  let t := links.foldl (fun t (name, target) =>
    t.withNode "/" name (.link (ByteString.ofText target))) t
  let devices := [("null", Device.null), ("zero", .zero), ("full", .full), ("stdin", .descriptor 0),
    ("stdout", .descriptor 1), ("stderr", .descriptor 2)]
  let t := devices.foldl (fun t (name, d) => t.withNode "/dev" name (.device d)) t
  let t := (List.range 10).foldl (fun t n =>
    t.withNode "/dev/fd" (toString n) (.device (.descriptor n))) t
  let programs := [("sh", "sh"), ("dash", "sh"), ("test", "test"), ("[", "[")]
    ++ (Utilities.names ++ Native.programNames).map fun n => (n, n)
  let t := programs.foldl (fun t (name, tool) => t.withNode "/usr/bin" name (.tool tool)) t
  let t := SystemLibrary.all.foldl (fun t l => t.withNode l.dir l.name (.library l.name)) t
  scripts.foldl (fun t (name, text) =>
    t.withNode "/lib/x86_64-linux-gnu" name (.file text.toUTF8)) t

end FileTree

namespace Machine

/-- The variables of the standard machine. -/
def standardEnvironment : Variables :=
  [("PATH", "/usr/local/sbin:/usr/local/bin:/usr/sbin:/usr/bin:/sbin:/bin"), ("LC_ALL", "C")].map
    fun (n, v) => (ByteString.ofText n, ByteString.ofText v)

/-- A machine that is used from a directory of its own. -/
def standard (dir : String) : Machine :=
  let tree := FileTree.standard.withDirs dir
  { tree, dir := (tree.find FileTree.root (ByteString.ofText dir)).toOption.getD 0
    environment := standardEnvironment }

/-! ## Its surroundings -/

/-- How a program has stopped. -/
def statusOf : Stop → WaitStatus
  | .signal n => .signaled n
  | .exit code => .exited code

/-- How the program on the machine has ended, if code that was loaded into it ended it. -/
def ended? (m : Machine) : Option WaitStatus := m.loader.ended?.map statusOf

/-- The machine after the program has written to standard error; one that has ended writes
nothing. -/
def complain (text : String) (m : Machine) : Machine :=
  if m.ended?.isSome then m else { m with stderr := m.stderr ++ text }

instance : Logging Machine where
  log e m := if m.filter.passes e then m.complain (e.line ++ "\n") else m

/-- A path that can name a file at all. -/
def named (p : Path) (f : Except Errno α) : Except IoError α :=
  if p.bytes.contains 0 then .error .nulInName else f.mapError .system

instance : Files Machine where
  currentDir m := .ok ⟨m.tree.pathOf m.dir⟩
  createDirs p := ExceptT.mk fun m =>
    match named p (m.tree.makeDirs m.dir p (p.bytes.length + 1)) with
    | .ok tree => (.ok (), { m with tree })
    | .error e => (.error e, m)
  canonical p m := named p ((m.tree.canonical m.dir p.bytes).map Path.mk)
  readText p m := do
    let data ← named p (m.tree.readData m.dir p.bytes)
    match String.fromUTF8? data with
    | some text => return text
    | none => throw .notText

instance : Environment Machine where
  valueOf name m := m.environment.lookup (ByteString.ofText name)

instance : Numbering Machine where
  processId m := m.self
  nextNumber := do
    let m ← get
    set { m with modules := m.modules + 1 }
    return m.modules + 1

instance : Spawning Machine where
  exchange i := fun m => m.exchange tools i

/-- Does something with the loader, whose program sees and changes the machine. -/
def withLoader (act : StateM Loader α) : StateM Machine α := fun m =>
  let outside : Outside :=
    { tree := m.tree, here := m.dir, environment := m.environment, processId := m.self, clock := m.clock }
  let l := { m.loader with program := { m.loader.program with outside } }
  let m := { m with loader := Loader.standard }
  let (a, l) := act l
  let o := l.program.outside
  (a, { m with
    loader := l, tree := o.tree, dir := o.here, environment := o.environment, clock := o.clock
    stdout := m.stdout ++ Text.lossyData o.output
    stderr := m.stderr ++ Text.lossyData o.complaints })

/-- Starts a program: the loader learns which directories the user wants to be searched. -/
def learnDirs : StateM Machine Unit := modify fun m =>
  let dirs := match m.environment.lookup (ByteString.ofText "LD_LIBRARY_PATH") with
    | some path => if path.isEmpty then [] else FileTree.searchDirs path
    | none => []
  { m with loader := { m.loader with userDirs := dirs } }

instance : Loading Machine Nat where
  openModule p := do
    let m ← get
    withLoader (Loader.openModule m.tree m.dir p.bytes)
  lookUp handle name := withLoader (Loader.lookUp handle name)
  close handle := do
    withLoader (Loader.close handle)
    return .ok ()
  ended? := Machine.ended?
  finish := withLoader Loader.finish

/-- Calls what is at an address. -/
def call (address : Nat) (arguments : List Nat) : StateM Machine (Except WaitStatus Nat) := do
  return (← withLoader (Loader.call address arguments)).mapError statusOf

instance : Calling Machine where
  call address arguments := do
    let result ← Machine.call address (arguments.map (Processor.unsigned 4))
    return result.map fun n => Processor.signed 4 (Processor.cut 4 n)

instance : Console Machine where
  out text m := if m.ended?.isSome then m else { m with stdout := m.stdout ++ text }
  err text m := m.complain text
  listen filter m := { m with filter }

/-- Runs the program with its arguments: how it ends. -/
def runProgram (arguments : List ByteString) : StateM Machine WaitStatus := do
  learnDirs
  Cli.run (η := Nat) arguments

end Machine
end ModuleForge.Host
