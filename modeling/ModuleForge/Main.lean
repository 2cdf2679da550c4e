import ModuleForge.Host.Standard

/-!
# The command

Runs the program on a standard machine: the files that the arguments and the environment name are
put into it beforehand, and what the run leaves in the current directory is written back.
-/
namespace ModuleForge.Main

/-- The variables that the run can see. -/
def variableNames : List String :=
  let v := Config.variableNames
  [v.compiler, v.linker, v.language, v.outputDir, v.timeoutSecs, Cli.logVariable]

/-- The contents of a file, if it can be read. -/
def contents? (path : String) : IO (Option ByteArray) := do
  try return some (← IO.FS.readBinFile path)
  catch _ => return none

/-- A machine with a file put at a path. -/
def put (m : Host.Machine) (path : String) (data : ByteArray) (executable : Bool) : Host.Machine :=
  let p : Path := path
  let above := p.parent?.getD ""
  let tree := (m.tree.makeDirs m.dir above (above.bytes.length + 1)).toOption.getD m.tree
  match tree.openOrMake m.dir p.bytes with
  | .ok (n, tree) => { m with tree := (tree.setData n data).setExecutable n executable }
  | .error _ => m

/-- The files below a machine's current directory. -/
def filesOf (m : Host.Machine) : List (String × ByteArray) :=
  (m.tree.below m.dir).filterMap fun path =>
    match m.tree.readData m.dir path with
    | .ok data => some (Text.lossy path, data)
    | .error _ => none

end ModuleForge.Main

open ModuleForge in
/-- Runs the program with its arguments; a crash gives 128 and the signal. -/
def main (arguments : List String) : IO UInt32 := do
  let mut m := Host.Machine.standard (toString (← IO.currentDir))
  for name in Main.variableNames do
    if let some value ← IO.getEnv name then
      m :=
        { m with environment := m.environment
        ++ [(ByteString.ofText name, ByteString.ofText value)] }
      if let some data ← Main.contents? value then m := Main.put m value data true
  for argument in arguments do
    if let some data ← Main.contents? argument then m := Main.put m argument data false
  let before := Main.filesOf m
  let (status, after) :=
    (Host.Machine.runProgram (arguments.map ByteString.ofText)).run m
  IO.print after.stdout
  IO.eprint after.stderr
  for (path, data) in Main.filesOf after do
    if (before.lookup path).map (·.data) ≠ some data.data then
      let above := ((Path.ofText path).parent?.getD "").display
      if above ≠ "" then IO.FS.createDirAll above
      IO.FS.writeBinFile path data
  return UInt32.ofNat ((status.code?.map Int.toNat).getD (128 + (status.signal?.getD 0).toNat))
