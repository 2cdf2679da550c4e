import ModuleForge.Proofs.Build.Calls
import ModuleForge.Proofs.Build.Watch
import ModuleForge.Proofs.Path
import ModuleForge.Proofs.Text.Bytes

/-!
# The runs of a configured build

A builder made from a configuration runs one compiler for each target, in order, and then one
linker, all in the output directory and under the limit of the configuration (`Config.compileRun`,
`Config.linkRun`). It stops after the first run that does not exit with code 0, and opens the module
only after a linking that does (`Config.Builds`). `configured_build_runs` holds for any targets, on
any machine that creates the directories it is asked for.
-/
namespace ModuleForge

/-! ## What is run -/

namespace Config

/-- The run that compiles a target. -/
def compileRun (c : Config) (dir : Path) (t : Target) : Invocation where
  program := c.compiler
  arguments := c.context.arguments.map ByteString.ofText
    ++ [.ofText "-fPIC", .ofText "-o", t.objectName.bytes, .ofText "-c",
      .ofText ("-x" ++ c.language),
        .ofText "-"]
  workingDir := some dir
  input := t.source.content.toUTF8
  limit := c.limit

/-- The run that links the objects of targets. -/
def linkRun (c : Config) (dir : Path) (module : String) (ts : Targets) : Invocation where
  program := c.linker
  arguments := [.ofText "-shared", .ofText "-fPIC", .ofText "-lc", .ofText "-o", .ofText module]
    ++ ts.map fun t => (dir.join t.objectName).bytes
  workingDir := some dir
  input := ByteArray.empty
  limit := c.limit

/-- The runs that have compiled targets. -/
def compileRuns (c : Config) (dir : Path) (ts : Targets) (outputs : List Output) : List (Deed η) :=
  List.zipWith (fun t output => .ran (c.compileRun dir t) (.ok output)) ts outputs

end Config

/-- Where the module of a number comes to lie. -/
def modulePath (dir : Path) (process number : Nat) : Path :=
  dir.join (.ofText (moduleName process number))

/-- The error with which the answer of a tool ends a build; an exit with code 0 does not. -/
def stop? (failed : WaitStatus → String → BuildError) :
    Except ProcessError Output → Option BuildError
  | .error e => some (.process e)
  | .ok output =>
    if output.status.success then none
    else some (failed output.status (Text.lossyData output.stderr))

variable {σ η : Type}

/-- What a build in `dir` answers and asks of the machine. -/
inductive Config.Builds [Logging σ] [Loading σ η] (c : Config) (dir : Path) (ts : Targets) :
    Except BuildError (Library η) → List (Deed η) → Prop where
  | compileStops {done rest : Targets} {t : Target} {outputs : List Output}
      {answer : Except ProcessError Output} {e : BuildError} (targets : ts = done ++ t :: rest)
      (length : outputs.length = done.length)
      (zero : ∀ output ∈ outputs, output.status.success = true)
      (stops : stop? (.compile (dir.join t.objectName)) answer = some e) :
      Builds c dir ts (.error e)
        (c.compileRuns dir done outputs ++ [.ran (c.compileRun dir t) answer])
  | linkStops {outputs : List Output} {process number : Nat} {answer : Except ProcessError Output}
      {e : BuildError} (length : outputs.length = ts.length)
      (zero : ∀ output ∈ outputs, output.status.success = true)
      (stops : stop? (.link (modulePath dir process number)) answer = some e) :
      Builds c dir ts (.error e) (c.compileRuns dir ts outputs ++ [.numbered process number,
        .ran (c.linkRun dir (moduleName process number) ts) answer])
  /-- In the state `s`, with all runs done, the module is opened, and the build answers what comes
  of that. -/
  | opens {outputs : List Output} {process number : Nat} {output : Output} (s : σ)
      (length : outputs.length = ts.length)
      (zero : ∀ output ∈ outputs, output.status.success = true)
      (linked : output.status.success = true) :
      Builds c dir ts (.ok ((Library.load (modulePath dir process number)).run s).1)
        (c.compileRuns dir ts outputs ++ [.numbered process number,
          .ran (c.linkRun dir (moduleName process number) ts) (.ok output)]
          ++ loadDeeds (modulePath dir process number) s)

/-! ## One tool -/

/-- What a compilation to `object` by `run` answers and asks of the machine. -/
inductive Compiles (run : Invocation) (object : Path) :
    Except BuildError Object → List (Deed η) → Prop where
  | refused (fault : IoError) : Compiles run object (.error (.io fault)) [.refused fault]
  | stops {ran : Except ProcessError Output} {e : BuildError}
      (h : stop? (.compile object) ran = some e) : Compiles run object (.error e) [.ran run ran]
  | passes {output : Output} (diagnostics : String) (zero : output.status.success = true) :
      Compiles run object (.ok ⟨object, diagnostics⟩) [.ran run (.ok output)]

/-- What a linking in `dir` by `run`, which depends on the name of the module, answers and asks of
the machine. -/
inductive Links [Logging σ] [Loading σ η] (run : String → Invocation) (dir : Path) :
    Except BuildError (Library η) → List (Deed η) → Prop where
  | refused (fault : IoError) : Links run dir (.error (.io fault)) [.refused fault]
  | stops {process number : Nat} {ran : Except ProcessError Output} {e : BuildError}
      (h : stop? (.link (modulePath dir process number)) ran = some e) :
      Links run dir (.error e)
        [.numbered process number, .ran (run (moduleName process number)) ran]
  | opens {process number : Nat} {output : Output} (s : σ) (zero : output.status.success = true) :
      Links run dir (.ok ((Library.load (modulePath dir process number)).run s).1)
        ([.numbered process number, .ran (run (moduleName process number)) (.ok output)]
          ++ loadDeeds (modulePath dir process number) s)

/-- What a build in `dir` answers and asks of the machine, step by step: it compiles the targets in
order up to the first that fails, and if none does it links. -/
inductive Proceeds [Logging σ] [Loading σ η] (c : Config) (dir : Path) (ts : Targets) :
    Except BuildError (Library η) → List (Deed η) → Prop where
  | stops {e : BuildError} {deeds : List (Deed η)}
      (compiling : Compiling
        (fun t => Compiles (c.compileRun dir t) (dir.join t.objectName)) ts deeds
        (.error e)) : Proceeds c dir ts (.error e) deeds
  | links {objects : List Object} {deeds more : List (Deed η)}
    {answer : Except BuildError (Library η)}
      (compiling : Compiling
        (fun t => Compiles (c.compileRun dir t) (dir.join t.objectName)) ts deeds
        (.ok objects))
      (linking : Links (σ := σ) (fun module => c.linkRun dir module ts) dir answer more) :
      Proceeds c dir ts answer (deeds ++ more)

/-- The directory to which a compiler program's objects are relative. -/
def CompilerCommand.base (c : CompilerCommand) (here : Except IoError Path) : Path :=
  match c.workingDir with
  | some dir => dir
  | none => here.toOption.getD ⟨[]⟩

theorem CompilerCommand.objectPath_eq_join (c : CompilerCommand) (here : Except IoError Path)
    (name : Path) : c.objectPath here name = (c.base here).join name := by
  unfold objectPath base
  by_cases habs : name.isAbsolute = true
  · rw [if_pos habs, Path.join_of_isAbsolute habs]
  · rw [if_neg habs]
    cases c.workingDir with
    | some dir => rfl
    | none =>
      cases here with
      | ok dir => rfl
      | error fault => exact (Path.nil_join name).symm

/-- An object comes to lie in the working directory, unless its name is absolute. -/
theorem CompilerCommand.objectPath_eq {k : CompilerCommand} {dir : Path}
    (h : k.workingDir = some dir) (here : Except IoError Path) (name : Path) :
    k.objectPath here name = dir.join name := by
  rw [objectPath_eq_join, base, h]

theorem Context.arguments_of_isEmpty {context : Context} (h : context.isEmpty = true) :
    context.arguments = [] := by
  simp only [isEmpty, Bool.and_eq_true, List.isEmpty_iff] at h
  simp [arguments, h]

/-- A directory that cannot be created ends the build. -/
theorem createDirs_bind [Files σ] {α : Type} {P : Except BuildError α → List (Deed η) → Prop}
    {f : Unit → Action σ BuildError α} {g : Unit → Action (Watched σ η) BuildError α} (path : Path)
    (hrefused : ∀ fault, P (.error (.io fault)) [.refused fault]) (h : Traces P (f ()) (g ())) :
    Traces P ((Files.createDirs path : Action σ IoError Unit).mapError BuildError.io >>= f)
      ((Files.createDirs path : Action (Watched σ η) IoError Unit).mapError BuildError.io
        >>= g) := by
  refine .bind ((createDirs_traces path).mapError (Q := fun answer deeds =>
    ∃ created, answer = created.mapError .io ∧ deeds = Watched.refusal created)
    fun created deeds h => ⟨created, rfl, h⟩) ?_ ?_
  · rintro e _ ⟨created, he, rfl⟩
    cases created with
    | ok _ => cases he
    | error fault => cases he; exact hrefused fault
  · rintro _ _ ⟨created, ho, rfl⟩
    cases created with
    | ok _ => exact h
    | error fault => cases ho

/-- A tool without an output ends the build. -/
theorem start_bind [Logging σ] [Spawning σ] {α : Type}
    {P : Except BuildError α → List (Deed η) → Prop} {f : Output → Action σ BuildError α}
    {g : Output → Action (Watched σ η) BuildError α} (run : Invocation)
    (hfault : ∀ e, P (.error (.process e)) [.ran run (.error e)])
    (h : ∀ output, Traces (fun answer more => P answer (.ran run (.ok output) :: more))
      (f output) (g output)) :
    Traces P ((run.start : Action σ ProcessError Output).mapError BuildError.process >>= f)
      ((run.start : Action (Watched σ η) ProcessError Output).mapError BuildError.process
        >>= g) := by
  refine .bind (run.start_traces.mapError (Q := fun answer deeds =>
    ∃ ran, answer = ran.mapError .process ∧ deeds = [.ran run ran])
    fun ran deeds h => ⟨ran, rfl, h⟩) ?_ ?_
  · rintro e _ ⟨ran, he, rfl⟩
    cases ran with
    | ok output => cases he
    | error fault => cases he; exact hfault fault
  · rintro output _ ⟨ran, ho, rfl⟩
    cases ran with
    | ok output' => cases ho; exact h output
    | error fault => cases ho

theorem CompilerCommand.conclude_traces [Logging σ] (object : Path) (output : Output) :
    Traces (fun answer deeds => deeds = [] ∧
        ((∃ e, stop? (.compile object) (.ok output) = some e ∧ answer = .error e) ∨
          output.status.success = true ∧ ∃ diagnostics, answer = .ok ⟨object, diagnostics⟩))
      (conclude object output : Action σ BuildError Object)
      (conclude object output : Action (Watched σ η) BuildError Object) := by
  unfold conclude
  cases hzero : output.status.success with
  | false =>
    simp only [Bool.not_false, if_true]
    exact .throw_bind ⟨rfl, .inl ⟨_, by simp only [stop?, hzero]; rfl, rfl⟩⟩
  | true =>
    simp only [Bool.not_true, Bool.false_eq_true, if_false]
    split
    · exact .log_bind (.pure _ ⟨rfl, .inr ⟨trivial, _, rfl⟩⟩)
    · exact .pure _ ⟨rfl, .inr ⟨trivial, _, rfl⟩⟩

namespace CompilerCommand

/-- What is left to do of a compilation when it is known where the object comes to lie. -/
def compileInto [Logging σ] [Files σ] [Spawning σ] (k : CompilerCommand) (object : Path)
    (source : Source)
    (name : Path) (context : Option Context) : Action σ BuildError Object := do
  let run := k.invocation source name context
  log ⟨.info, Part.compiler, "compiling",
    [("compiler", k.program.display), ("object", object.display)]⟩
  log ⟨.debug, Part.compiler, "compiler arguments",
    [("args", Text.bracketed (run.arguments.map Text.quoteBytes))]⟩
  if let some dir := k.workingDir then
    (Files.createDirs dir).mapError BuildError.io
  conclude object (← run.start.mapError BuildError.process)

theorem compile_eq [Logging σ] [Files σ] [Spawning σ] (k : CompilerCommand) (source : Source)
    (name : Path)
    (context : Option Context) : (k.compile source name context : Action σ BuildError Object)
      = get >>= fun s =>
        k.compileInto (k.objectPath (Files.currentDir s) name) source name context := rfl

/-- That is one run, with the working directory created before if there is one. -/
theorem compileInto_traces [Logging σ] [Files σ] [Spawning σ] (k : CompilerCommand) (object : Path)
    (source : Source) (name : Path) (context : Option Context) :
    Traces (Compiles (k.invocation source name context) object)
      (k.compileInto object source name context : Action σ BuildError Object)
      (k.compileInto object source name context : Action (Watched σ η) BuildError Object) := by
  have hrun : Traces (Compiles (k.invocation source name context) object)
      ((k.invocation source name context).start.mapError BuildError.process >>= conclude object :
        Action σ BuildError Object)
      ((k.invocation source name context).start.mapError BuildError.process >>= conclude object :
        Action (Watched σ η) BuildError Object) := by
    refine start_bind _ (fun e => .stops rfl) fun output => ?_
    refine (conclude_traces object output).weaken fun answer deeds h => ?_
    obtain ⟨rfl, ⟨e, hstop, rfl⟩ | ⟨hzero, diagnostics, rfl⟩⟩ := h
    · exact .stops hstop
    · exact .passes diagnostics hzero
  unfold compileInto
  refine .log_bind (.log_bind ?_)
  cases k.workingDir with
  | none => exact hrun
  | some dir => exact createDirs_bind dir .refused hrun

/-- A compilation in a directory of its own leaves the object there. -/
theorem compile_traces [Logging σ] [Files σ] [Spawning σ] {k : CompilerCommand}
    {dir : Path} (hdir : k.workingDir = some dir) (source : Source) (name : Path)
    (context : Option Context) :
    Traces (Compiles (k.invocation source name context) (dir.join name))
      (k.compile source name context : Action σ BuildError Object)
      (k.compile source name context : Action (Watched σ η) BuildError Object) := by
  rw [compile_eq, compile_eq]
  refine .get_bind fun s before => ?_
  rw [objectPath_eq hdir, objectPath_eq hdir]
  exact k.compileInto_traces (dir.join name) source name context

end CompilerCommand

/-- A linking takes a number for the module and is one run, with the directory created before; only
after an exit with code 0 is the module loaded. -/
theorem LinkerCommand.link_traces [Logging σ] [Files σ] [Numbering σ] [Spawning σ] [Loading σ η]
    {k : LinkerCommand} {dir : Path} (hdir : k.outputDir = some dir)
    (absolute : dir.isAbsolute = true) (objects : List Object) :
    Traces (Links (σ := σ) (fun module => k.invocation dir module objects) dir)
      (k.link objects : Action σ BuildError (Library η))
      (k.link objects : Action (Watched σ η) BuildError (Library η)) := by
  have hdirectory (here : Except IoError Path) : k.directory here = .ok dir := by
    simp [directory, hdir, absolute]
  have hreads : Traces (fun answer deeds => answer = .ok dir ∧ deeds = [])
      (Action.reads fun s : σ => (k.directory (Files.currentDir s)).mapError BuildError.io)
      (Action.reads fun s : Watched σ η =>
        (k.directory (Files.currentDir s)).mapError BuildError.io) :=
    .reads fun s before => by rw [hdirectory, hdirectory]; exact ⟨rfl, rfl, rfl⟩
  unfold link
  refine .bind hreads (fun e deeds h => by cases h.1) fun found deeds h => ?_
  obtain ⟨hfound, rfl⟩ := h
  cases hfound
  refine createDirs_bind dir .refused ?_
  refine .bind nextModuleName_traces (fun e deeds ⟨_, _, _, he⟩ => by cases he) ?_
  rintro _ _ ⟨process, number, rfl, hmodule⟩
  cases hmodule
  refine .log_bind (.log_bind (start_bind _ (fun e => .stops rfl) fun output => ?_))
  cases hzero : output.status.success with
  | false =>
    simp only [Bool.not_false, if_true]
    exact .throw_bind (.stops (by simp only [stop?, hzero]; rfl))
  | true =>
    simp only [Bool.not_true, Bool.false_eq_true, if_false]
    refine (load_traces _).weaken fun answer deeds h => ?_
    obtain ⟨s, rfl, rfl⟩ := h
    exact .opens s hzero

/-! ## All tools -/

/-- The compiler of a configuration runs as told, whether an empty context is passed on or left
out. -/
theorem Builder.compilerOf_invocation (c : Config) (dir : Path) (t : Target) :
    (compilerOf c dir).invocation t.source t.objectName
      (if c.context.isEmpty then none else some c.context) = c.compileRun dir t := by
  split
  · simp [CompilerCommand.invocation, CompilerCommand.arguments, Config.compileRun, compilerOf,
      Source.data, Context.arguments_of_isEmpty ‹_›]
  · rfl

theorem Builder.linkerOf_invocation (c : Config) (dir : Path) (module : String) {ts : Targets}
    {objects : List Object} (h : objects.map Object.path = ts.map fun t => dir.join t.objectName) :
    (linkerOf c dir).invocation dir module objects = c.linkRun dir module ts := by
  have hbytes : objects.map (·.path.bytes) = ts.map fun t => (dir.join t.objectName).bytes := by
    simpa [Function.comp_def] using congrArg (List.map Path.bytes) h
  simp [LinkerCommand.invocation, LinkerCommand.arguments, Config.linkRun, linkerOf, hbytes]

/-- Compiling targets runs the compiler for each in order, up to the first that does not exit with
code 0; the objects lie where the names of the targets say. -/
theorem Config.compiling_runs {c : Config} {dir : Path} {ts : Targets} {deeds : List (Deed η)}
    {result : Except BuildError (List Object)}
    (h : Compiling (fun t => Compiles (c.compileRun dir t) (dir.join t.objectName)) ts
      deeds result) :
    (∃ fault, .refused fault ∈ deeds ∧ result = .error (.io fault)) ∨
      (∃ done t rest outputs ran e, ts = done ++ t :: rest ∧ outputs.length = done.length ∧
        (∀ output ∈ outputs, output.status.success = true) ∧
        stop? (.compile (dir.join t.objectName)) ran = some e ∧
        deeds = c.compileRuns dir done outputs ++ [.ran (c.compileRun dir t) ran] ∧
        result = .error e) ∨
      ∃ outputs objects, outputs.length = ts.length ∧
        (∀ output ∈ outputs, output.status.success = true) ∧
        deeds = c.compileRuns dir ts outputs ∧ result = .ok objects ∧
        objects.map Object.path = ts.map fun t => dir.join t.objectName := by
  induction h with
  | nil => exact .inr (.inr ⟨[], [], rfl, by simp, rfl, rfl, rfl⟩)
  | @stops t rest e deeds h =>
    cases h with
    | refused fault => exact .inl ⟨fault, by simp, rfl⟩
    | @stops ran _ h => exact .inr (.inl ⟨[], t, rest, [], ran, e, rfl, rfl, by simp, h, rfl, rfl⟩)
  | @passes t ts object _ more result h _ ih =>
    cases h with
    | @passes output diagnostics zero =>
      rcases ih with ⟨fault, hmem, rfl⟩ |
        ⟨done, u, rest, outputs, ran, e, rfl, hlen, hzero, hstop, rfl, rfl⟩ |
        ⟨outputs, objects, hlen, hzero, rfl, rfl, hpaths⟩
      · exact .inl ⟨fault, by simp [hmem], rfl⟩
      · exact .inr (.inl ⟨t :: done, u, rest, output :: outputs, ran, e, rfl, by simp [hlen],
          by simpa [zero] using hzero, hstop, rfl, rfl⟩)
      · exact .inr
          (.inr ⟨output :: outputs, _, by simp [hlen], by simpa [zero] using hzero, rfl, rfl,
          by simp [hpaths]⟩)

/-- Compiling targets asks for nothing but runs of the compiler and its directory. -/
theorem Config.compiling_runs_compiler {c : Config} {dir : Path} {ts : Targets}
    {deeds : List (Deed η)}
    {result : Except BuildError (List Object)}
    (h : Compiling (fun t => Compiles (c.compileRun dir t) (dir.join t.objectName)) ts
      deeds result) :
    ∀ deed ∈ deeds, (∃ t ∈ ts, ∃ answer, deed = .ran (c.compileRun dir t) answer) ∨
      ∃ fault, deed = .refused fault := by
  induction h with
  | nil => exact nofun
  | @stops t rest e deeds h =>
    cases h with
    | refused fault => simp
    | stops h => simp
  | @passes t rest object deeds more result h _ ih =>
    cases h
    intro deed hdeed
    rcases List.mem_append.mp hdeed with hdeed | hdeed
    · exact .inl ⟨t, by simp, _, List.mem_singleton.mp hdeed⟩
    · exact (ih deed hdeed).imp_left fun ⟨u, hu, hran⟩ => ⟨u, List.mem_cons_of_mem _ hu, hran⟩

/-- A build that goes on step by step runs the tools as told, unless a directory cannot be
created. -/
theorem Proceeds.builds [Logging σ] [Loading σ η] {c : Config} {dir : Path} {ts : Targets}
    {answer : Except BuildError (Library η)} {deeds : List (Deed η)}
    (h : Proceeds (σ := σ) c dir ts answer deeds) : c.Builds (σ := σ) dir ts answer deeds ∨
      ∃ fault, .refused fault ∈ deeds ∧ answer = .error (.io fault) := by
  cases h with
  | stops compiling =>
    rcases Config.compiling_runs compiling with ⟨fault, hmem, he⟩ |
      ⟨done, t, rest, outputs, ran, e', hts, hlen, hzero, hstop, rfl, he⟩ | ⟨_, _, _, _, _, he, _⟩
    · exact .inr ⟨fault, hmem, by rw [Except.error.inj he]⟩
    · cases he
      exact .inl (.compileStops hts hlen hzero hstop)
    · cases he
  | links compiling linking =>
    rcases Config.compiling_runs compiling with ⟨_, _, ho⟩ | ⟨_, _, _, _, _, _, _, _, _, _, _, ho⟩ |
      ⟨outputs, objects', hlen, hzero, rfl, -, -⟩
    · cases ho
    · cases ho
    cases linking with
    | refused fault => exact .inr ⟨fault, by simp, rfl⟩
    | stops h => exact .inl (.linkStops hlen hzero h)
    | opens s zero =>
      rw [← List.append_assoc]
      exact .inl (.opens s hlen hzero zero)

theorem Config.resolveOutputDir_traces [Files σ] (c : Config) :
    Traces (fun answer deeds => ∀ dir, answer = .ok dir → deeds = [])
      (c.resolveOutputDir : Action σ ConfigError Path)
      (c.resolveOutputDir : Action (Watched σ η) ConfigError Path) := by
  have hcreate := (createDirs_traces (σ := σ) (η := η) (c.outputDir.getD ".")).mapError
    (f := ConfigError.outputDir (c.outputDir.getD "."))
    (Q := fun answer deeds => answer = .ok () → deeds = []) fun answer deeds h hok => by
      cases answer with
      | ok _ => exact h
      | error fault => cases hok
  refine .bind hcreate (fun e deeds _ dir h => by cases h) fun _ deeds h => ?_
  refine .reads fun s before => ⟨rfl, fun _ _ => ?_⟩
  rw [h rfl, List.append_nil]

namespace Builder

variable [Logging σ] [Files σ] [Numbering σ] [Spawning σ] [Loading σ η]

/-- A builder as configured, with its tools in `dir`. -/
def configured (c : Config) (dir : Path) (ts : Targets) : Builder σ η where
  compiler := some (compilerOf c dir).toCompiler
  linker := some (linkerOf c dir).toLinker
  context := if c.context.isEmpty then none else some c.context
  targets := ts

omit [Numbering σ] [Loading σ η] in
theorem compilerOf_traces (c : Config) (dir : Path) (t : Target) :
    Traces (Compiles (c.compileRun dir t) (dir.join t.objectName))
      ((compilerOf c dir).compile t.source t.objectName
        (if c.context.isEmpty then none else some c.context) : Action σ BuildError Object)
      ((compilerOf c dir).compile t.source t.objectName
        (if c.context.isEmpty then none else some c.context) :
          Action (Watched σ η) BuildError Object) := by
  rw [← compilerOf_invocation]
  exact CompilerCommand.compile_traces rfl _ _ _

theorem linkerOf_traces {c : Config} {dir : Path} (absolute : dir.isAbsolute = true) {ts : Targets}
    {objects : List Object} (h : objects.map Object.path = ts.map fun t => dir.join t.objectName) :
    Traces (Links (σ := σ) (fun module => c.linkRun dir module ts) dir)
      ((linkerOf c dir).link objects : Action σ BuildError (Library η))
      ((linkerOf c dir).link objects : Action (Watched σ η) BuildError (Library η)) := by
  simp only [← linkerOf_invocation c dir _ h]
  exact LinkerCommand.link_traces rfl absolute objects

theorem configured_proceeds (c : Config) {dir : Path} (absolute : dir.isAbsolute = true)
    (ts : Targets) :
    Traces (Proceeds (σ := σ) c dir ts)
      (configured c dir ts : Builder σ η).build
        (configured c dir ts : Builder (Watched σ η) η).build := by
  refine .log_bind (.bind (compileAll_traces (compilerOf_traces c dir) ts 0)
    (fun e deeds h => .stops h)
    fun objects deeds h => ?_)
  rcases Config.compiling_runs h with ⟨_, _, ho⟩ | ⟨_, _, _, _, _, _, _, _, _, _, _, ho⟩ |
    ⟨_, _, _, _, _, ho, hpaths⟩
  · cases ho
  · cases ho
  cases ho
  refine .bind (linkerOf_traces absolute hpaths) (fun e more hmore => .links h hmore)
    fun library more hmore => ?_
  exact .log_bind (.pure _ (by rw [List.append_nil]; exact .links h hmore))

/-- **The runs of a configured build.** From a configuration whose output directory resolves to an
absolute path there is a builder, and whatever targets it is given and from whatever state it then
builds, watching changes neither the answer nor the state that is left. The build runs the tools as
`Config.Builds` says, unless a directory cannot be created, which is then its answer. To pass on an
empty context is to pass on none. -/
theorem configured_build_runs (c : Config) {s s' : σ} {dir : Path}
    (resolved : (c.resolveOutputDir : Action σ ConfigError Path).exec s = (.ok dir, s'))
    (absolute : dir.isAbsolute = true) :
    ∃ (b : Builder σ η) (w : Builder (Watched σ η) η),
      (ofConfig c : Action σ ConfigError (Builder σ η)).exec s = (.ok b, s') ∧
      (ofConfig c : Action (Watched σ η) ConfigError (Builder (Watched σ η) η)).exec ⟨s, []⟩
        = (.ok w, ⟨s', []⟩) ∧
      (∀ (ts : Targets) (t : σ), ∃ result after deeds,
        { b with targets := ts }.build.exec t = (result, after) ∧
        { w with targets := ts }.build.exec ⟨t, []⟩ = (result, ⟨after, deeds⟩) ∧
        (c.Builds (σ := σ) dir ts result deeds ∨
          ∃ fault, .refused fault ∈ deeds ∧ result = .error (.io fault))) ∧
      ∀ source name context, context.isEmpty = true →
        (compilerOf c dir).invocation source name (some context)
          = (compilerOf c dir).invocation source name none := by
  refine ⟨configured c dir [], configured c dir [], ?_, ?_, fun ts t => ?_, ?_⟩
  · unfold ofConfig
    rw [Action.exec_bind, resolved]
    rfl
  · obtain ⟨answer, after, deeds, hplain, hwatched, hnone⟩ := c.resolveOutputDir_traces s []
    rw [resolved] at hplain
    cases hplain
    rw [hnone dir rfl] at hwatched
    unfold ofConfig
    rw [Action.exec_bind, hwatched]
    rfl
  · exact (configured_proceeds c absolute ts).weaken (fun _ _ h => h.builds) t []
  · intro source name context hempty
    simp [CompilerCommand.invocation, CompilerCommand.arguments,
      Context.arguments_of_isEmpty hempty]

end Builder

/-! ## A rehearsal -/

/-- A machine on which every directory is there, every module opens, and runs end as listed; those
after that run into the limit. -/
structure Rehearsal where
  outcomes : List Outcome
  number : Nat := 0

namespace Rehearsal

instance : Logging Rehearsal where
  log _ s := s

instance : Files Rehearsal where
  currentDir _ := .ok "/"
  createDirs _ := return
  canonical path _ := .ok path
  readText _ _ := .ok ""

instance : Numbering Rehearsal where
  processId _ := 1
  nextNumber := modifyGet fun s => (s.number, { s with number := s.number + 1 })

instance : Spawning Rehearsal where
  exchange _ :=
    modifyGet fun s => (s.outcomes.headD (.timedOut false), { s with outcomes := s.outcomes.tail })

instance : Loading Rehearsal Unit where
  openModule _ := return .ok ()
  lookUp _ _ := return .ok 0
  close _ := return .ok ()

/-- A run that exits with code 0. -/
def passing : Outcome := .finished ⟨.ofWord 0, ByteArray.empty, ByteArray.empty⟩

/-- A run that exits with code 1 and says why. -/
def failing (text : String) : Outcome := .finished ⟨.ofWord 0x100, ByteArray.empty, text.toUTF8⟩

/-- A configuration with a directory and nothing else of its own. -/
def config : Config := { outputDir := some "/out" }

/-- A configured build of targets stops with an error after so many deeds. -/
def Stops (outcomes : List Outcome) (ts : Targets) (e : BuildError) (count : Nat) : Prop :=
  ∃ (w : Builder (Watched Rehearsal Unit) Unit) (after : Rehearsal) (deeds : List (Deed Unit)),
    (Builder.ofConfig config : Action (Watched Rehearsal Unit) _ _).exec ⟨⟨outcomes, 0⟩, []⟩
      = (.ok w, ⟨⟨outcomes, 0⟩, []⟩) ∧
    { w with targets := ts }.build.exec ⟨⟨outcomes, 0⟩, []⟩ = (.error e, ⟨after, deeds⟩) ∧
    deeds.length = count

end Rehearsal

open Rehearsal in
/-- When the second of two compilations runs into its limit, these are all runs, and there is no
linking. A compilation that fails is the only run, and a link that fails is the last; what the tool
has said is in the error. -/
theorem failing_runs_stop :
    Stops [passing] [⟨⟨0, "a"⟩, "a.o"⟩, ⟨⟨1, "b"⟩, "b.o"⟩]
      (.process (.timeout (Path.ofText "c++").display (.ofSeconds 120))) 2 ∧
    Stops [failing "no type"] [⟨⟨0, "a"⟩, "a.o"⟩, ⟨⟨1, "b"⟩, "b.o"⟩]
      (.compile "/out/a.o" (.exited 1) "no type") 1 ∧
    Stops [passing, failing "no symbol"] [⟨⟨0, "a"⟩, "a.o"⟩]
      (.link "/out/exec_1_0.so" (.exited 1) "no symbol") 3 := by
  have hstops {outcomes : List Outcome} {ts : Targets} {e : BuildError} {count : Nat}
      (hanswer : ({
        (Builder.configured config "/out" [] : Builder (Watched Rehearsal Unit) Unit) with
        targets := ts }.build.exec ⟨⟨outcomes, 0⟩, []⟩).1 = .error e)
      (hcount : ({
        (Builder.configured config "/out" [] : Builder (Watched Rehearsal Unit) Unit) with
        targets := ts }.build.exec ⟨⟨outcomes, 0⟩, []⟩).2.trace.length = count) :
      Stops outcomes ts e count := by
    obtain ⟨b, w, -, hw, hruns, -⟩ := Builder.configured_build_runs (σ := Rehearsal) (η := Unit)
      config (s := ⟨outcomes, 0⟩) rfl (by decide)
    obtain ⟨result, after, deeds, -, hwatched, -⟩ := hruns ts ⟨outcomes, 0⟩
    obtain rfl : w = .configured config "/out" [] := (Except.ok.inj (congrArg Prod.fst hw)).symm
    rw [hwatched] at hanswer hcount
    cases hanswer
    exact ⟨_, after, deeds, hw, hwatched, hcount⟩
  refine ⟨hstops rfl rfl, hstops ?_ rfl, hstops ?_ rfl⟩
  · rw [← Text.lossyData_toUTF8 "no type"]
    rfl
  · rw [← Text.lossyData_toUTF8 "no symbol"]
    rfl

end ModuleForge
