import ModuleForge.Cli.Program
import ModuleForge.Proofs.Build.Alike

/-!
# Observing the program

A state of the program can be observed: beside it stands all that the program does to the machine
and all that can be seen of it, in order (`Observed`): directories, the deeds of builds, look-ups,
calls, and what is printed. Watching tells of a directory only when it could not be created, so an
observed build does more than its deeds (`Does`); but it answers alike (`observed_alike`), and what
is known of the deeds of a build holds of an observed one (`configured_proceeds`).
-/
namespace ModuleForge.Cli

/-- What the program does. -/
inductive Act (η : Type) where
  /-- A directory was created, or could not be. -/
  | created (dir : Path) (answer : Except IoError Unit)
  /-- A deed of a build. -/
  | did (deed : Deed η)
  | lookedUp (name : ByteString) (answer : Except String Nat)
  /-- What is at an address was called; the error is how that ended the program. -/
  | called (address : Nat) (arguments : List Int) (answer : Except WaitStatus Int)
  /-- A text on standard output. -/
  | printed (text : String)
  /-- A text on standard error that is no log entry. -/
  | complained (text : String)

/-- A state beside what the program has done so far. -/
abbrev Observed (σ η : Type) := Traced (Act η) σ

namespace Observed

variable {σ η : Type}

instance [Files σ] : Files (Observed σ η) where
  currentDir s := Files.currentDir s.state
  createDirs path := Traced.recorded (fun answer => [.created path answer]) (Files.createDirs path)
  canonical path s := Files.canonical path s.state
  readText path s := Files.readText path s.state

instance [Environment σ] : Environment (Observed σ η) where
  valueOf name s := Environment.valueOf name s.state

instance [Numbering σ] : Numbering (Observed σ η) where
  processId s := Numbering.processId s.state
  nextNumber := Traced.step (fun n state => [.did (.numbered (Numbering.processId state) n)])
    Numbering.nextNumber

instance [Spawning σ] : Spawning (Observed σ η) where
  engine i := Traced.step (fun answer _ => (Watched.halted i answer).map .did) (Spawning.engine i)
  exchange i := Traced.step (fun outcome _ => [.did (.ran i (i.answer outcome))])
    (Spawning.exchange i)

instance [Loading σ η] : Loading (Observed σ η) η where
  openModule path := Traced.step (fun answer _ => [.did (.opened path answer)])
    (Loading.openModule path)
  lookUp handle name := Traced.step (fun answer _ => [.lookedUp name answer])
    (Loading.lookUp handle name)
  close handle := Traced.step (fun _ _ => []) (Loading.close handle)
  ended? s := Loading.ended? s.state
  finish := Traced.step (fun _ _ => []) Loading.finish

@[simp] theorem ended?_mk [Loading σ η] (s : σ) (acts : List (Act η)) :
    Loading.ended? (⟨s, acts⟩ : Observed σ η) = Loading.ended? s := rfl

instance [Console σ] : Console (Observed σ η) where
  out text s := ⟨Console.out text s.state, s.trace ++ [.printed text]⟩
  err text s := ⟨Console.err text s.state, s.trace ++ [.complained text]⟩
  listen filter s := ⟨Console.listen filter s.state, s.trace⟩

instance [Calling σ] : Calling (Observed σ η) where
  call address arguments := Traced.step (fun answer _ => [.called address arguments answer])
    (Calling.call address arguments)

/-- Deeds as they are observed. -/
inductive Does : List (Act η) → List (Deed η) → Prop where
  | nil : Does [] []
  | did {acts : List (Act η)} {deeds : List (Deed η)} (deed : Deed η) (rest : Does acts deeds) :
      Does (.did deed :: acts) (deed :: deeds)
  | created {acts : List (Act η)} {deeds : List (Deed η)} (dir : Path)
    (answer : Except IoError Unit)
      (rest : Does acts deeds) : Does (.created dir answer :: acts)
        (Watched.refusal answer ++ deeds)

theorem Does.append {acts more : List (Act η)} {deeds others : List (Deed η)} (h : Does acts deeds)
    (hmore : Does more others) : Does (acts ++ more) (deeds ++ others) := by
  induction h with
  | nil => exact hmore
  | did deed _ ih => exact .did deed ih
  | created dir answer _ ih =>
    rw [List.append_assoc]
    exact .created dir answer ih

theorem Does.of_deeds : (deeds : List (Deed η)) → Does (deeds.map .did) deeds
  | [] => .nil
  | deed :: deeds => .did deed (of_deeds deeds)

/-- Each act is a deed or tells of a directory. -/
theorem Does.mem {acts : List (Act η)} {deeds : List (Deed η)} (h : Does acts deeds) {act : Act η}
    (hact : act ∈ acts) :
    (∃ deed ∈ deeds, act = .did deed) ∨ ∃ dir answer, act = .created dir answer := by
  induction h with
  | nil => cases hact
  | did deed _ ih =>
    rcases List.mem_cons.mp hact with rfl | hact
    · exact .inl ⟨deed, by simp, rfl⟩
    · exact (ih hact).imp_left fun ⟨other, hmem, h⟩ => ⟨other, List.mem_cons_of_mem _ hmem, h⟩
  | created dir answer _ ih =>
    rcases List.mem_cons.mp hact with rfl | hact
    · exact .inr ⟨dir, answer, rfl⟩
    · exact (ih hact).imp_left fun ⟨deed, hmem, h⟩ => ⟨deed, List.mem_append_right _ hmem, h⟩

/-- Each deed can be seen, but for a directory that could not be created. -/
theorem Does.of_mem {acts : List (Act η)} {deeds : List (Deed η)} (h : Does acts deeds)
    {deed : Deed η}
    (hdeed : deed ∈ deeds) : .did deed ∈ acts ∨ ∃ fault, deed = .refused fault := by
  induction h with
  | nil => cases hdeed
  | did other _ ih =>
    rcases List.mem_cons.mp hdeed with rfl | hdeed
    · exact .inl (by simp)
    · exact (ih hdeed).imp_left (List.mem_cons_of_mem _)
  | created dir answer _ ih =>
    rcases List.mem_append.mp hdeed with hdeed | hdeed
    · cases answer with
      | ok _ => cases hdeed
      | error fault => exact .inr ⟨fault, by simpa [Watched.refusal] using hdeed⟩
    · exact (ih hdeed).imp_left (List.mem_cons_of_mem _)

/-- The deeds that were watched are what was done behind the acts `before`. -/
def Matches (before : List (Act η)) (w : Watched σ η) (o : Observed σ η) : Prop :=
  w.state = o.state ∧ ∃ acts, o.trace = before ++ acts ∧ Does acts w.trace

theorem step_agrees {α : Type} (before : List (Act η)) (m : StateM σ α)
    (deeds : α → σ → List (Deed η))
    (acts : α → σ → List (Act η))
    (h : ∀ answer state, Does (acts answer state) (deeds answer state)) :
    StepsAgree (Matches before) (Traced.step deeds m) (Traced.step acts m) := by
  rintro ⟨s, watched⟩ ⟨t, observed⟩ ⟨rfl, done, rfl, hdone⟩
  exact ⟨_, _, _, rfl, rfl, rfl, done ++ acts _ _, by simp, hdone.append (h _ _)⟩

/-- Observing answers as watching does. -/
theorem observed_alike [Logging σ] [Files σ] [Numbering σ] [Spawning σ] [Loading σ η]
    (before : List (Act η)) : Alike (η := η) (Matches (σ := σ) before) where
  log e _ _ h := ⟨congrArg (Logging.log e) h.1, h.2⟩
  currentDir h := congrArg Files.currentDir h.1
  createDirs path := step_agrees before _ (fun answer _ => Watched.refusal answer)
    (fun answer _ => [.created path answer]) fun answer _ => by
      simpa using Does.created path answer .nil
  processId h := congrArg Numbering.processId h.1
  nextNumber := step_agrees before _ _ _ fun _ _ => .did _ .nil
  engine i := step_agrees before _ _ _ fun answer _ => .of_deeds (Watched.halted i answer)
  exchange _ := step_agrees before _ _ _ fun _ _ => .did _ .nil
  openModule _ := step_agrees before _ _ _ fun _ _ => .did _ .nil

/-- What is known of the deeds that are watched is known of those that are observed. -/
theorem traces_of_watched {ε α : Type} {P : Except ε α → List (Deed η) → Prop} {a : Action σ ε α}
    {w : Action (Watched σ η) ε α} {o : Action (Observed σ η) ε α} (h : Traces P a w)
    (hagree : ∀ before, Agrees (Matches before) w o) :
    Traces (fun answer acts => ∃ deeds, Does acts deeds ∧ P answer deeds) a o := by
  intro s before
  -- The watched run is only a go-between: the two that are compared here share its answer and its
  -- state.
  obtain ⟨answer, after, deeds, ha, hw, hP⟩ := h s []
  have hstart : Matches before (⟨s, []⟩ : Watched σ η) ⟨s, before⟩ := ⟨rfl, [], by simp, .nil⟩
  obtain ⟨answer', w', ⟨t, trace⟩, hw', ho, hstate, acts, htrace, hacts⟩ := hagree before _ _ hstart
  obtain ⟨rfl, rfl⟩ := Prod.mk.inj (hw.symm.trans hw')
  cases hstate
  cases htrace
  exact ⟨answer, _, acts, ha, ho, deeds, hacts, hP⟩

end Observed

/-! ## Builds -/

variable {σ η : Type}

/-- An observed build does what a watched one does. -/
theorem configured_proceeds [Logging σ] [Files σ] [Numbering σ] [Spawning σ] [Loading σ η]
    (c : Config)
    {dir : Path} (absolute : dir.isAbsolute = true) (ts : Targets) :
    Traces (fun answer acts => ∃ deeds, Observed.Does acts deeds ∧
      Proceeds (σ := σ) c dir ts answer deeds)
      (Builder.configured c dir ts : Builder σ η).build
      (Builder.configured c dir ts : Builder (Observed σ η) η).build :=
  Observed.traces_of_watched (Builder.configured_proceeds c absolute ts) fun before =>
    (Observed.observed_alike before).configured_build c dir ts

end ModuleForge.Cli
