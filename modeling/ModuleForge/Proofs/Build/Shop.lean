import Mathlib.Data.List.Forall2
import Mathlib.Logic.Function.Basic
import ModuleForge.Proofs.Build.Runs
import ModuleForge.Proofs.ModuleName

/-!
# A machine that remembers what objects are made of

A machine reduced to what builds in one directory share (`Shop`). A compiler run that succeeds
writes its object at once, and a linker run that succeeds reads the objects on its argument line at
once. An object is known by what the compiler was given (`Artifact`), a module by the objects that
it was made of (`Product`). How runs end is open.

On this machine a compilation is one run (`compile_exec`), and so is a linking (`link_exec`).
-/
namespace ModuleForge

/-! ## Files on argument lines -/

/-- What a compiler is given: a text, and the arguments, which tell context and language. -/
structure Artifact where
  text : ByteString
  arguments : List ByteString
  deriving DecidableEq

namespace Invocation

def artifact (i : Invocation) : Artifact := ⟨i.input.data.toList, i.arguments⟩

/-- A path as it is meant in the working directory. -/
def located (i : Invocation) (bytes : ByteString) : Path := (i.workingDir.getD ⟨[]⟩).join ⟨bytes⟩

/-- The object that a run writes, if it is one that compiles. -/
def written? (i : Invocation) : Option Path :=
  match i.arguments.reverse with
  | last :: _ :: only :: name :: option :: _ =>
    if last = "-" ∧ only = "-c" ∧ option = "-o" then some (i.located name) else none
  | _ => none

/-- The objects that a run which links reads. -/
def objectsRead (i : Invocation) : List Path := (i.arguments.drop 5).map i.located

end Invocation

/-- An object has its name from the text alone, in the directory of the configuration. -/
theorem Config.compileRun_written (c : Config) (dir : Path) (t : Target) :
    (c.compileRun dir t).written? = some (dir.join t.objectName) := by
  simp only [Invocation.written?, compileRun, List.reverse_append, List.reverse_cons,
    List.reverse_nil, List.nil_append, List.cons_append]
  rfl

namespace LinkerCommand

variable {l : LinkerCommand} {dir : Path} {module : String} {objects : List Object}

theorem invocation_written (absolute : ∀ o ∈ objects, o.path.isAbsolute = true) :
    (l.invocation dir module objects).written? = none := by
  unfold Invocation.written?
  split
  · rename_i last _ only name option _ hargs
    refine if_neg fun ⟨hlast, honly, _⟩ => ?_
    rcases List.eq_nil_or_concat objects with rfl | ⟨init, o, rfl⟩
    · -- without objects the linker's own options stand at the end
      simp only [invocation, arguments, List.map_cons, List.map_nil, List.append_nil,
        List.reverse_cons, List.reverse_nil, List.nil_append, List.cons_append, List.cons.injEq]
          at hargs
      rw [← hargs.2.2.1] at honly
      exact absurd honly (by decide)
    · simp only [invocation, arguments, List.concat_eq_append, List.map_append, List.reverse_append,
        List.map_cons, List.map_nil, List.reverse_cons, List.reverse_nil, List.nil_append,
        List.cons_append, List.cons.injEq] at hargs
      have hroot := absolute o (by simp)
      rw [Path.isAbsolute, hargs.1, hlast] at hroot
      exact absurd hroot (by decide)
  · rfl

/-- A linking reads the objects that it was given. -/
theorem invocation_objectsRead (absolute : ∀ o ∈ objects, o.path.isAbsolute = true) :
    (l.invocation dir module objects).objectsRead = objects.map (·.path) := by
  simp only [Invocation.objectsRead, invocation, arguments, List.map_cons, List.map_nil,
    List.cons_append, List.nil_append, List.drop_succ_cons, List.drop_zero, List.map_map]
  refine List.map_congr_left fun o ho => ?_
  exact Path.join_of_isAbsolute (absolute o ho)

end LinkerCommand

/-! ## The machine -/

/-- A module: whose it is, and the objects that it was made of, where they were there. -/
structure Product (ι : Type) where
  builder : ι
  parts : List (Option Artifact)
  deriving DecidableEq

/-- A machine on which tools work. -/
structure Shop (ι : Type) where
  /-- What paths lead to. -/
  canonical : Path → Except IoError Path
  /-- How runs end, one after the other. -/
  fates : Nat → Outcome
  /-- Whose turn it is. -/
  worker : ι
  ran : Nat := 0
  numbered : Nat := 0
  objects : Path → Option Artifact := fun _ => none
  products : List (Product ι) := []

namespace Shop

variable {ι : Type}

/-- The machine when it is another's turn. -/
def handOver (s : Shop ι) (i : ι) : Shop ι := { s with worker := i }

/-- Whether a run ends with code 0. -/
def succeeds : Outcome → Bool
  | .finished output => output.status.success
  | _ => false

/-- Whether the next run does. -/
def lucky (s : Shop ι) : Bool := succeeds (s.fates s.ran)

/-- One more run, with nothing left behind. -/
def wasted (s : Shop ι) : Shop ι := { s with ran := s.ran + 1 }

/-- One more run, which has written an object. -/
def wrote (s : Shop ι) (path : Path) (a : Artifact) : Shop ι :=
  { s with ran := s.ran + 1, objects := Function.update s.objects path (some a) }

/-- One more run, which has made a module. -/
def linked (s : Shop ι) (paths : List Path) : Shop ι :=
  { s with ran := s.ran + 1, products := s.products ++ [⟨s.worker, paths.map s.objects⟩] }

/-- One more number is taken. -/
def counted (s : Shop ι) : Shop ι := { s with numbered := s.numbered + 1 }

/-- The machine after one more run. -/
def after (s : Shop ι) (i : Invocation) : Shop ι :=
  if s.lucky then
    match i.written? with
    | some path => s.wrote path i.artifact
    | none => s.linked i.objectsRead
  else s.wasted

instance : Logging (Shop ι) where
  log _ s := s

instance : Files (Shop ι) where
  currentDir _ := .ok "/"
  createDirs _ := return
  canonical path s := s.canonical path
  readText _ _ := .ok ""

instance : Numbering (Shop ι) where
  processId _ := 1
  nextNumber := modifyGet fun s => (s.numbered + 1, s.counted)

instance : Spawning (Shop ι) where
  exchange i := modifyGet fun s => (s.fates s.ran, s.after i)

instance : Loading (Shop ι) Unit where
  openModule _ := return .ok ()
  lookUp _ _ := return .ok 0
  close _ := return .ok ()

@[simp] theorem log_eq (e : Event) (s : Shop ι) : Logging.log e s = s := rfl

@[simp] theorem wrote_objects (s : Shop ι) (path : Path) (a : Artifact) :
    (s.wrote path a).objects = Function.update s.objects path (some a) := rfl

/-! ## Runs -/

theorem after_unlucky {s : Shop ι} (h : s.lucky = false) (i : Invocation) :
    s.after i = s.wasted := by
  simp [after, h]

theorem after_writes {s : Shop ι} (h : s.lucky = true) {i : Invocation} {path : Path}
    (hwritten : i.written? = some path) : s.after i = s.wrote path i.artifact := by
  simp [after, h, hwritten]

theorem after_links {s : Shop ι} (h : s.lucky = true) {i : Invocation}
    (hwritten : i.written? = none) :
    s.after i = s.linked i.objectsRead := by
  simp [after, h, hwritten]

theorem quiet : Quiet (Shop ι) := ⟨fun _ _ => rfl, fun _ _ => rfl⟩

theorem start_exec (i : Invocation) (s : Shop ι) :
    i.start.exec s = (i.answer (s.fates s.ran), s.after i) :=
  i.exec_start_of_quiet quiet s

theorem conclude_exec (object : Path) (output : Output) (s : Shop ι) : ∃ answer,
    (CompilerCommand.conclude object output).exec s = (answer, s) ∧
      if output.status.success then ∃ o, answer = .ok o ∧ o.path = object else ∃ e,
        answer = .error e := by
  unfold CompilerCommand.conclude
  cases hzero : output.status.success with
  | false =>
    simp only [Bool.not_false, if_true]
    exact ⟨.error (.compile object output.status (Text.lossyData output.stderr)), rfl, _, rfl⟩
  | true =>
    simp only [Bool.not_true, Bool.false_eq_true, if_false, if_true]
    refine ⟨.ok ⟨object, Text.lossyData output.stderr⟩, ?_, _, rfl, rfl⟩
    split <;> rfl

/-- A compilation is one run, and succeeds if that does. -/
theorem compile_exec {k : CompilerCommand} {dir : Path} (hdir : k.workingDir = some dir)
    (source : Source) (name : Path) (context : Option Context) (s : Shop ι) : ∃ answer,
    (k.compile source name context).exec s = (answer, s.after (k.invocation source name context)) ∧
      if s.lucky then ∃ o, answer = .ok o ∧ o.path = dir.join name else ∃ e, answer = .error e := by
  have hstart := start_exec (k.invocation source name context) s
  have hdirs : (Files.createDirs dir : Action (Shop ι) IoError Unit).exec s = (.ok (), s) := rfl
  unfold CompilerCommand.compile lucky
  simp only [Action.exec_bind, Action.exec_get, Action.exec_log, log_eq, hdir,
    CompilerCommand.objectPath_eq hdir, Action.exec_mapError, hdirs, mapError_ok, hstart]
  cases s.fates s.ran with
  | finished output => exact conclude_exec (dir.join name) output _
  | notStarted fault => exact ⟨_, rfl, _, rfl⟩
  | failed fault => exact ⟨_, rfl, _, rfl⟩
  | timedOut reaped => exact ⟨_, rfl, _, rfl⟩

theorem load_run (path : Path) (s : Shop ι) : ∃ library : Library Unit,
    (Library.load path).run s = (library, s) := by
  unfold Library.load
  cases terminated path.bytes with
  | ok bytes => exact ⟨_, rfl⟩
  | error reason => exact ⟨_, rfl⟩

theorem complete_exec (l : LinkerCommand) (objects : List Object) (dir : Path) (module : String)
    (s : Shop ι) : ∃ answer : Except BuildError (Library Unit),
    (l.complete objects dir module).exec s
      = (answer, s.after (l.invocation dir module objects)) := by
  have hrun : (Spawning.exchange (l.invocation dir module objects)).run s
      = (s.fates s.ran, s.after (l.invocation dir module objects)) := rfl
  rcases l.complete_cases quiet objects dir module hrun with hloaded | ⟨e, herror⟩
  · obtain ⟨library, hload⟩ := load_run (dir.join (Path.ofText module))
      (s.after (l.invocation dir module objects))
    exact ⟨.ok library, by rw [hloaded, hload]⟩
  · exact ⟨.error e, herror⟩

/-- A linking takes a number and is one run. -/
theorem link_exec {l : LinkerCommand} {dir : Path} (hdir : l.outputDir = some dir)
    (absolute : dir.isAbsolute = true) (objects : List Object) (s : Shop ι) :
    ∃ (answer : Except BuildError (Library Unit)) (module : String),
      (l.link objects).exec s = (answer, s.counted.after (l.invocation dir module objects)) := by
  have hprepare : l.prepare.exec s = (.ok dir, s) := by
    have hdirectory : l.directory (Files.currentDir s) = .ok dir := by
      simp [LinkerCommand.directory, hdir, absolute]
    unfold LinkerCommand.prepare
    simp only [Action.exec_bind, Action.exec_reads, hdirectory]
    rfl
  obtain ⟨answer, hcomplete⟩ := complete_exec l objects dir (moduleName 1 (s.numbered + 1))
    s.counted
  refine ⟨answer, moduleName 1 (s.numbered + 1), ?_⟩
  rw [LinkerCommand.link_eq, Action.exec_bind, hprepare]
  exact hcomplete

end Shop
end ModuleForge
