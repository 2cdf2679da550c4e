import ModuleForge.Builder
import ModuleForge.Proofs.Trace

/-!
# Watching the machine

A state can be watched: beside it stands what was asked of the machine, in order (`Watched`). Every
request is passed on, so a program does on a watched state what it does on the plain one. A run of a
program is one deed, with its answer, whether that is the machine's or that of the engine that could
not be set up (`Invocation.start_traces`).
-/
namespace ModuleForge

/-- What was asked of the machine. -/
inductive Deed (η : Type) where
  | ran (run : Invocation) (answer : Except ProcessError Output)
  /-- A process has taken the number for a new module. -/
  | numbered (process number : Nat)
  | opened (path : Path) (answer : Except String η)
  /-- A directory could not be created. -/
  | refused (fault : IoError)

/-- A state beside what was asked of the machine so far. -/
abbrev Watched (σ η : Type) := Traced (Deed η) σ

namespace Watched

variable {σ η : Type}

/-- What a fault in creating a directory adds. -/
def refusal : Except IoError Unit → List (Deed η)
  | .ok () => []
  | .error fault => [.refused fault]

/-- What setting up the engine of a run adds; the run itself is still to come if that works. -/
def halted (i : Invocation) : Except IoError Unit → List (Deed η)
  | .ok () => []
  | .error fault => [.ran i (.error (.engine fault))]

instance [Files σ] : Files (Watched σ η) where
  currentDir s := Files.currentDir s.state
  createDirs path := Traced.recorded refusal (Files.createDirs path)
  canonical path s := Files.canonical path s.state
  readText path s := Files.readText path s.state

instance [Numbering σ] : Numbering (Watched σ η) where
  processId s := Numbering.processId s.state
  nextNumber :=
    Traced.step (fun n state => [.numbered (Numbering.processId state) n]) Numbering.nextNumber

instance [Spawning σ] : Spawning (Watched σ η) where
  engine i := Traced.step (fun answer _ => halted i answer) (Spawning.engine i)
  exchange i := Traced.step (fun outcome _ => [.ran i (i.answer outcome)]) (Spawning.exchange i)

instance [Loading σ η] : Loading (Watched σ η) η where
  openModule path := Traced.step (fun answer _ => [.opened path answer]) (Loading.openModule path)
  lookUp handle name := Traced.step (fun _ _ => []) (Loading.lookUp handle name)
  close handle := Traced.step (fun _ _ => []) (Loading.close handle)
  ended? s := Loading.ended? s.state
  finish := Traced.step (fun _ _ => []) Loading.finish

end Watched

variable {σ η : Type}

theorem createDirs_traces [Files σ] (path : Path) :
    Traces (fun answer deeds => deeds = Watched.refusal answer)
      (Files.createDirs path : Action σ IoError Unit)
      (Files.createDirs path : Action (Watched σ η) IoError Unit) :=
  .recorded _ _

/-! ## Runs -/

/-- A machine that keeps no log and sets up every engine. -/
structure Quiet (σ : Type) [Logging σ] [Spawning σ] : Prop where
  log (e : Event) (s : σ) : Logging.log e s = s
  engine (i : Invocation) (s : σ) : (Spawning.engine i : StateM σ (Except IoError Unit)).run s
    = (.ok (), s)

namespace Invocation

variable [Logging σ] (i : Invocation)

/-- Noting the end of a run asks nothing of the machine. -/
theorem noteEnd_watched (outcome : Outcome) (s : σ) (deeds : List (Deed η)) :
    (i.noteEnd outcome : StateM (Watched σ η) Unit).run ⟨s, deeds⟩
      = ((), ⟨((i.noteEnd outcome).run s).2, deeds⟩) := by
  cases outcome with
  | timedOut reaped => cases reaped <;> rfl
  | _ => rfl

/-- A run notes its start, then exchanges, then notes its end. -/
theorem exec_run_eq : ∃ started : Event, ∀ {σ : Type} [Logging σ] [Spawning σ] (s : σ),
    (i.run : Action σ ProcessError Output).exec s =
      match (Spawning.exchange i : StateM σ Outcome).run (Logging.log started s) with
      | (outcome, t) => (i.answer outcome, ((i.noteEnd outcome).run t).2) :=
  ⟨_, fun _ => rfl⟩

/-- A run whose engine cannot be set up ends there. -/
theorem exec_start_eq [Spawning σ] (s : σ) :
    (i.start : Action σ ProcessError Output).exec s =
      match (Spawning.engine i : StateM σ (Except IoError Unit)).run s with
      | (.error fault, t) => (.error (.engine fault), t)
      | (.ok (), t) => i.run.exec t := by
  unfold start Action.exec
  rw [ExceptT.run_mk, StateT.run_bind]
  cases h : (Spawning.engine i : StateM σ (Except IoError Unit)).run s with
  | mk answer t => cases answer <;> rfl

variable [Spawning σ]

/-- On a quiet machine a run is its exchange. -/
theorem exec_start_of_quiet (quiet : Quiet σ) (s : σ) :
    (i.start : Action σ ProcessError Output).exec s
    = (i.answer ((Spawning.exchange i).run s).1, ((Spawning.exchange i).run s).2) := by
  have hnote (outcome : Outcome) (t : σ) : ((i.noteEnd outcome : StateM σ Unit).run t).2 = t := by
    cases outcome with
    | timedOut reaped => cases reaped with
      | false => exact quiet.log _ t
      | true =>
        show Logging.log _ (Logging.log _ t) = t
        rw [quiet.log, quiet.log]
    | finished output => exact quiet.log _ t
    | _ => rfl
  obtain ⟨started, hrun⟩ := i.exec_run_eq
  rw [exec_start_eq, quiet.engine]
  show i.run.exec s = _
  rw [hrun, quiet.log]
  simp only [hnote]
  rfl

theorem run_traces :
    Traces (fun answer deeds => deeds = [.ran i answer])
      (i.run : Action σ ProcessError Output)
        (i.run : Action (Watched σ η) ProcessError Output) := by
  intro s before
  obtain ⟨started, hrun⟩ := i.exec_run_eq
  have hexchange (s : σ) : (Spawning.exchange i : StateM (Watched σ η) Outcome).run
      ⟨s, before⟩ = _ :=
    Traced.run_step _ _ s before
  refine ⟨_, _, _, hrun s, ?_, rfl⟩
  rw [hrun, Traced.log_mk, hexchange]
  simp only [noteEnd_watched]
  rfl

/-- A run of a program is one deed. -/
theorem start_traces :
    Traces (fun answer deeds => deeds = [.ran i answer])
      (i.start : Action σ ProcessError Output)
        (i.start : Action (Watched σ η) ProcessError Output) := by
  intro s before
  have hengine : (Spawning.engine i : StateM (Watched σ η) (Except IoError Unit)).run
      ⟨s, before⟩ = _ :=
    Traced.run_step _ _ s before
  rw [exec_start_eq, exec_start_eq, hengine]
  cases (Spawning.engine i : StateM σ (Except IoError Unit)).run s with
  | mk answer t =>
    cases answer with
    | error fault => exact ⟨.error (.engine fault), t, _, rfl, rfl, rfl⟩
    | ok _ => simpa only [Watched.halted, List.append_nil] using i.run_traces t before

end Invocation

/-! ## Modules -/

/-- The name of a new module tells the number that was taken for it. -/
theorem nextModuleName_traces {ε : Type} [Numbering σ] :
    Traces (fun answer deeds => ∃ process number, deeds = [.numbered process number] ∧
        answer = .ok (moduleName process number))
      (liftM (nextModuleName : StateM σ String) : Action σ ε String)
      (liftM (nextModuleName : StateM (Watched σ η) String) : Action (Watched σ η) ε String) :=
  .lift fun _ _ => ⟨_, rfl, _, _, rfl, rfl⟩

variable [Loading σ η]

/-- What loading a module in a state asks of the machine: to open it, unless its path cannot be put
to a loader. -/
def loadDeeds (path : Path) (s : σ) : List (Deed η) :=
  match terminated path.bytes with
  | .ok bytes =>
    [.opened ⟨bytes⟩ ((Loading.openModule ⟨bytes⟩ : StateM σ (Except String η)).run s).1]
  | .error _ => []

theorem load_watched [Logging σ] (path : Path) (s : σ) (before : List (Deed η)) :
    (Library.load path : StateM (Watched σ η) (Library η)).run ⟨s, before⟩
      = (((Library.load path).run s).1,
        ⟨((Library.load path).run s).2, before ++ loadDeeds path s⟩) := by
  unfold loadDeeds Library.load
  cases terminated path.bytes with
  | error reason => exact Prod.ext rfl (congrArg (Traced.mk _) (List.append_nil before).symm)
  | ok bytes =>
    have hopen : (Loading.openModule ⟨bytes⟩ : StateM (Watched σ η) (Except String η)).run
        ⟨s, before⟩ = _ :=
      Traced.run_step _ _ s before
    simp only [StateT.run_bind, hopen]
    cases (Loading.openModule ⟨bytes⟩ : StateM σ (Except String η)).run s with
    | mk answer t => cases answer <;> rfl

theorem load_traces [Logging σ] {ε : Type} (path : Path) :
    Traces (fun answer deeds => ∃ s : σ, answer = .ok ((Library.load path).run s).1 ∧
        deeds = loadDeeds path s)
      (liftM (Library.load path : StateM σ (Library η)) : Action σ ε (Library η))
      (liftM (Library.load path : StateM (Watched σ η) (Library η)) :
        Action (Watched σ η) ε (Library η)) :=
  .lift fun s before => ⟨_, load_watched path s before, s, rfl, rfl⟩

end ModuleForge
