import ModuleForge.Proofs.Build.Runs

/-!
# Builds on machines that are alike

Two machines are alike in related states (`Alike`) if all that a build asks of them is answered in
the same way and leaves related states again. Then a build does on the one what it does on the other
(`Alike.configured_build`), whatever else the two do. The proof follows the way actions are put
together (`Agrees`) from what is asked of the machine up to whole builds.
-/
namespace ModuleForge

variable {σ τ ε ε' α β η : Type}

/-- From related states two steps answer alike and leave related states. -/
def StepsAgree (R : σ → τ → Prop) (m : StateM σ α) (n : StateM τ α) : Prop :=
  ∀ s t, R s t → ∃ answer s' t', m.run s = (answer, s') ∧ n.run t = (answer, t') ∧ R s' t'

/-- From related states two actions answer alike and leave related states. -/
def Agrees (R : σ → τ → Prop) (a : Action σ ε α) (b : Action τ ε α) : Prop :=
  ∀ s t, R s t → ∃ answer s' t', a.exec s = (answer, s') ∧ b.exec t = (answer, t') ∧ R s' t'

namespace Agrees

variable {R : σ → τ → Prop} {a : Action σ ε α} {b : Action τ ε α}

theorem pure (x : α) : Agrees R (Pure.pure x : Action σ ε α) (Pure.pure x : Action τ ε α) :=
  fun s t h => ⟨.ok x, s, t, rfl, rfl, h⟩

/-- What comes after a failure does not happen. -/
theorem throw_bind {f : β → Action σ ε α} {g : β → Action τ ε α} (e : ε) :
    Agrees R (throw e >>= f : Action σ ε α) (throw e >>= g : Action τ ε α) :=
  fun s t h => ⟨.error e, s, t, by simp, by simp, h⟩

theorem bind {f : α → Action σ ε β} {g : α → Action τ ε β} (h : Agrees R a b)
    (hrest : ∀ x, Agrees R (f x) (g x)) : Agrees R (a >>= f) (b >>= g) := by
  intro s t hst
  obtain ⟨answer, s', t', ha, hb, hst'⟩ := h s t hst
  simp only [Action.exec_bind, ha, hb]
  cases answer with
  | error e => exact ⟨.error e, s', t', rfl, rfl, hst'⟩
  | ok x => exact hrest x s' t' hst'

theorem get_bind {f : σ → Action σ ε α} {g : τ → Action τ ε α}
    (h : ∀ s t, R s t → Agrees R (f s) (g t)) : Agrees R (get >>= f) (get >>= g) :=
  fun s t hst => by
  simpa [Action.exec_bind] using h s t hst s t hst

theorem reads {f : σ → Except ε α} {g : τ → Except ε α} (h : ∀ s t, R s t → f s = g t) :
    Agrees R (Action.reads f) (Action.reads g) := fun s t hst =>
  ⟨f s, s, t, rfl, by rw [Action.exec_reads, h s t hst], hst⟩

theorem mapError {f : ε → ε'} (h : Agrees R a b) : Agrees R (a.mapError f) (b.mapError f) :=
  fun s t hst =>
    let ⟨answer, s', t', ha, hb, hst'⟩ := h s t hst
    ⟨answer.mapError f, s', t', by simp [ha], by simp [hb], hst'⟩

theorem lift {m : StateM σ α} {n : StateM τ α} (h : StepsAgree R m n) :
    Agrees R (liftM m : Action σ ε α) (liftM n : Action τ ε α) := fun s t hst =>
  let ⟨answer, s', t', hm, hn, hst'⟩ := h s t hst
  ⟨.ok answer, s', t', by simp [hm], by simp [hn], hst'⟩

end Agrees

variable [Logging σ] [Logging τ] [Files σ] [Files τ] [Numbering σ] [Numbering τ] [Spawning σ]
  [Spawning τ]
  [Loading σ η] [Loading τ η]

/-- Two machines that answer alike in related states. -/
structure Alike (R : σ → τ → Prop) : Prop where
  log (e : Event) {s : σ} {t : τ} (h : R s t) : R (Logging.log e s) (Logging.log e t)
  currentDir {s : σ} {t : τ} (h : R s t) : Files.currentDir s = Files.currentDir t
  createDirs (path : Path) : Agrees R (Files.createDirs path : Action σ IoError Unit)
    (Files.createDirs path : Action τ IoError Unit)
  processId {s : σ} {t : τ} (h : R s t) : Numbering.processId s = Numbering.processId t
  nextNumber : StepsAgree R (Numbering.nextNumber : StateM σ Nat)
    (Numbering.nextNumber : StateM τ Nat)
  engine (i : Invocation) : StepsAgree R (Spawning.engine i : StateM σ (Except IoError Unit))
    (Spawning.engine i : StateM τ (Except IoError Unit))
  exchange (i : Invocation) : StepsAgree R (Spawning.exchange i : StateM σ Outcome)
    (Spawning.exchange i : StateM τ Outcome)
  openModule (path : Path) : StepsAgree R (Loading.openModule path : StateM σ (Except String η))
    (Loading.openModule path : StateM τ (Except String η))

namespace Alike

variable {R : σ → τ → Prop} (alike : Alike (η := η) R)

include alike

theorem log_bind {a : Action σ ε α} {b : Action τ ε α} (e : Event) (h : Agrees R a b) :
    Agrees R (do ModuleForge.log e; a) (do ModuleForge.log e; b) := fun s t hst => by
  simpa [Action.exec_bind] using h _ _ (alike.log e hst)

/-! ## One tool -/

theorem noteEnd (i : Invocation) (outcome : Outcome) :
    StepsAgree R (i.noteEnd outcome : StateM σ Unit) (i.noteEnd outcome : StateM τ Unit) := by
  intro s t hst
  cases outcome with
  | timedOut reaped =>
    cases reaped with
    | false => exact ⟨(), _, _, rfl, rfl, alike.log _ hst⟩
    | true => exact ⟨(), _, _, rfl, rfl, alike.log _ (alike.log _ hst)⟩
  | finished output => exact ⟨(), _, _, rfl, rfl, alike.log _ hst⟩
  | notStarted fault => exact ⟨(), s, t, rfl, rfl, hst⟩
  | failed fault => exact ⟨(), s, t, rfl, rfl, hst⟩

theorem run (i : Invocation) :
    Agrees R (i.run : Action σ ProcessError Output) (i.run : Action τ ProcessError Output) := by
  intro s t hst
  obtain ⟨started, hrun⟩ := i.exec_run_eq
  obtain ⟨outcome, s', t', hs, ht, hst'⟩ := alike.exchange i _ _ (alike.log started hst)
  obtain ⟨_, s'', t'', hs', ht', hst''⟩ := alike.noteEnd i outcome s' t' hst'
  exact ⟨i.answer outcome, s'', t'', by rw [hrun, hs]; simp only [hs'],
    by rw [hrun, ht]; simp only [ht'], hst''⟩

theorem start (i : Invocation) :
    Agrees R (i.start : Action σ ProcessError Output) (i.start : Action τ ProcessError Output) := by
  intro s t hst
  obtain ⟨answer, s', t', hs, ht, hst'⟩ := alike.engine i s t hst
  rw [i.exec_start_eq, i.exec_start_eq, hs, ht]
  cases answer with
  | error fault => exact ⟨.error (.engine fault), s', t', rfl, rfl, hst'⟩
  | ok _ => exact alike.run i s' t' hst'

theorem conclude (object : Path) (output : Output) :
    Agrees R (CompilerCommand.conclude object output : Action σ BuildError Object)
      (CompilerCommand.conclude object output : Action τ BuildError Object) := by
  unfold CompilerCommand.conclude
  cases output.status.success with
  | false =>
    simp only [Bool.not_false, if_true]
    exact .throw_bind _
  | true =>
    simp only [Bool.not_true, Bool.false_eq_true, if_false]
    split
    · exact alike.log_bind _ (.pure _)
    · exact .pure _

theorem compile (k : CompilerCommand) (source : Source) (name : Path) (context : Option Context) :
    Agrees R (k.compile source name context : Action σ BuildError Object)
      (k.compile source name context : Action τ BuildError Object) := by
  unfold CompilerCommand.compile
  refine .get_bind fun s t hst => ?_
  simp only [alike.currentDir hst]
  refine alike.log_bind _ (alike.log_bind _ ?_)
  have hrest := Agrees.bind ((alike.start (k.invocation source name context)).mapError
    (f := BuildError.process)) (alike.conclude (k.objectPath (Files.currentDir t) name))
  cases k.workingDir with
  | none => exact hrest
  | some dir => exact .bind (alike.createDirs dir).mapError fun _ => hrest

theorem nextModuleName :
    StepsAgree R (ModuleForge.nextModuleName : StateM σ String)
      (ModuleForge.nextModuleName : StateM τ String) := by
  intro s t hst
  obtain ⟨n, s', t', hs, ht, hst'⟩ := alike.nextNumber s t hst
  refine ⟨moduleName (Numbering.processId s') n, s', t', run_bind_of_run hs, ?_, hst'⟩
  rw [alike.processId hst']
  exact run_bind_of_run ht

theorem load (path : Path) :
    StepsAgree R (Library.load path : StateM σ (Library η))
      (Library.load path : StateM τ (Library η)) := by
  intro s t hst
  unfold Library.load
  cases terminated path.bytes with
  | error reason => exact ⟨_, _, _, rfl, rfl, alike.log _ hst⟩
  | ok bytes =>
    obtain ⟨answer, s', t', hs, ht, hst'⟩ := alike.openModule ⟨bytes⟩ s t hst
    simp only [StateT.run_bind, hs, ht]
    cases answer with
    | ok handle => exact ⟨_, _, _, rfl, rfl, alike.log _ hst'⟩
    | error reason => exact ⟨_, _, _, rfl, rfl, alike.log _ hst'⟩

theorem link (l : LinkerCommand) (objects : List Object) :
    Agrees R (l.link objects : Action σ BuildError (Library η))
      (l.link objects : Action τ BuildError (Library η)) := by
  unfold LinkerCommand.link
  refine .bind (.reads fun s t hst => by rw [alike.currentDir hst]) fun dir => ?_
  refine .bind (alike.createDirs dir).mapError fun _ =>
    .bind (.lift alike.nextModuleName) fun name => ?_
  refine alike.log_bind _ (alike.log_bind _ (.bind (alike.start _).mapError fun output => ?_))
  split
  · exact .throw_bind _
  · exact .lift (alike.load _)

/-! ## All tools -/

theorem compileAll (k : CompilerCommand) (context : Option Context) (index : Nat) (ts : Targets) :
    Agrees R (Builder.compileAll (k.toCompiler : Compiler σ) context index ts)
      (Builder.compileAll (k.toCompiler : Compiler τ) context index ts) := by
  induction ts generalizing index with
  | nil => exact .pure _
  | cons t ts ih =>
    refine alike.log_bind _ (.bind (alike.compile k _ _ _) fun object => ?_)
    exact .bind (ih (index + 1)) fun objects => .pure _

/-- A build is determined by what the machine answers. -/
theorem configured_build (c : Config) (dir : Path) (ts : Targets) :
    Agrees R (Builder.configured c dir ts : Builder σ η).build
      (Builder.configured c dir ts : Builder τ η).build := by
  refine alike.log_bind _ (.bind (alike.compileAll _ _ 0 ts) fun objects => ?_)
  exact .bind (alike.link _ objects) fun library => alike.log_bind _ (.pure _)

end Alike
end ModuleForge
