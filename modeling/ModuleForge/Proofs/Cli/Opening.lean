import ModuleForge.Proofs.Cli.Making

/-!
# Before a module is opened

Code of modules can end the program, but none runs before a module is opened. `Unopened` says so of
a machine: there are states in which nothing has ended the program or will, and all that is asked of
the machine up to the first module leads from such states to such states. So while the module is
made, the program is in such a state or a module was opened (`buildModule_guarded`).
-/
namespace ModuleForge.Cli

variable {σ τ η ε ε' α β : Type}

/-! ## States that are kept -/

/-- From states with a property the action leads to such states. -/
def Keeps (p : τ → Prop) (a : Action τ ε α) : Prop := ∀ s, p s → p (a.exec s).2

namespace Keeps

variable {p : τ → Prop} {a : Action τ ε α}

theorem pure (x : α) : Keeps p (Pure.pure x : Action τ ε α) := fun _ h => h

theorem throw (e : ε) : Keeps p (throw e : Action τ ε α) := fun _ h => h

theorem reads (f : τ → Except ε α) : Keeps p (Action.reads f) := fun _ h => h

theorem mapError {f : ε → ε'} (h : Keeps p a) : Keeps p (a.mapError f) := h

theorem bind {f : α → Action τ ε β} (h : Keeps p a) (hrest : ∀ x, Keeps p (f x)) :
    Keeps p (a >>= f) := by
  intro s hs
  have hnext := h s hs
  rw [Action.exec_bind]
  cases ha : a.exec s with
  | mk answer t =>
    rw [ha] at hnext
    cases answer with
    | error e => exact hnext
    | ok x => exact hrest x t hnext

/-- An action that agrees with itself keeps what the agreement is about. -/
theorem of_agrees (h : Agrees (fun s t => t = s ∧ p s) a a) : Keeps p a := by
  intro s hs
  obtain ⟨answer, t, _, ha, -, -, ht⟩ := h s s ⟨rfl, hs⟩
  rw [ha]
  exact ht

end Keeps

/-! ## Machines -/

/-- A module was opened. -/
def Opened (acts : List (Act η)) : Prop := ∃ path answer, .did (.opened path answer) ∈ acts

theorem Opened.mono {acts more : List (Act η)} (h : Opened acts) (hsub : acts ⊆ more) :
    Opened more :=
  let ⟨path, answer, hmem⟩ := h
  ⟨path, answer, hsub hmem⟩

/-- On the machine no code of modules runs before a module is opened: in states that are `fresh`
nothing has ended the program, and nothing ends it when it ends by itself; whatever else is asked of
the machine than what is done with modules leads from fresh states to fresh states. -/
structure Unopened [Logging σ] [Files σ] [Numbering σ] [Spawning σ] [Loading σ η] [Console σ]
    (fresh : σ → Prop) : Prop where
  running {s : σ} (h : fresh s) : Loading.ended? s = none
  finish {s : σ} (h : fresh s) : Loading.ended? ((Loading.finish : StateM σ Unit).run s).2 = none
  log (e : Event) {s : σ} (h : fresh s) : fresh (Logging.log e s)
  createDirs (path : Path) : Keeps fresh (Files.createDirs path : Action σ IoError Unit)
  nextNumber {s : σ} (h : fresh s) : fresh ((Numbering.nextNumber : StateM σ Nat).run s).2
  engine (i : Invocation) {s : σ} (h : fresh s) :
    fresh ((Spawning.engine i : StateM σ (Except IoError Unit)).run s).2
  exchange (i : Invocation) {s : σ} (h : fresh s) :
    fresh ((Spawning.exchange i : StateM σ Outcome).run s).2
  out (text : String) {s : σ} (h : fresh s) : fresh (Console.out text s)
  err (text : String) {s : σ} (h : fresh s) : fresh (Console.err text s)
  listen (filter : Log.Filter) {s : σ} (h : fresh s) : fresh (Console.listen filter s)

/-- The state is fresh, or a module was opened. -/
def Guarded (fresh : σ → Prop) (o : Observed σ η) : Prop := fresh o.state ∨ Opened o.trace

theorem guarded_step {fresh : σ → Prop} {m : StateM σ α} {acts : α → σ → List (Act η)}
    (h : ∀ s, fresh s → fresh (m.run s).2 ∨ Opened (acts (m.run s).1 (m.run s).2)) :
    StepsAgree (fun o p => p = o ∧ Guarded fresh o) (Traced.step acts m) (Traced.step acts m) := by
  rintro ⟨s, before⟩ _ ⟨rfl, hguarded⟩
  refine ⟨_, _, _, rfl, rfl, rfl, ?_⟩
  rcases hguarded with hfresh | hopened
  · exact (h s hfresh).imp_right fun hopened => hopened.mono (List.subset_append_right _ _)
  · exact .inr (hopened.mono (List.subset_append_left _ _))

section Stages

variable [Logging σ] [Files σ] [Environment σ] [Numbering σ] [Spawning σ] [Loading σ η] [Console σ]
  {fresh : σ → Prop} (unopened : Unopened (η := η) fresh)

include unopened

omit [Environment σ] in
theorem Unopened.logged (e : Event) {o : Observed σ η} (h : Guarded fresh o) :
    Guarded fresh (Logging.log e o) := h.imp_left (unopened.log e)

omit [Environment σ] in
/-- A build opens modules and does nothing else to them. -/
theorem Unopened.alike :
    Alike (σ := Observed σ η) (η := η) fun o p => p = o ∧ Guarded fresh o where
  log e _ _ h := ⟨congrArg (Logging.log e) h.1, unopened.logged e h.2⟩
  currentDir h := by rw [h.1]
  createDirs path :=
    @guarded_step σ η _ fresh (Files.createDirs path : Action σ IoError Unit).run
      (fun answer _ => [.created path answer]) fun s hs => .inl (unopened.createDirs path s hs)
  processId h := by rw [h.1]
  nextNumber := guarded_step fun s hs => .inl (unopened.nextNumber hs)
  engine i := guarded_step fun s hs => .inl (unopened.engine i hs)
  exchange i := guarded_step fun s hs => .inl (unopened.exchange i hs)
  openModule path := guarded_step fun s _ => .inr ⟨path, _, List.mem_singleton.mpr rfl⟩

/-! ## Printing -/

omit [Environment σ] in
theorem printLine_keeps (line : String) :
    Keeps fresh (printLine line : Action σ Failure Unit) := fun _ hs => unopened.out _ hs

omit [Environment σ] in
theorem printJson_keeps (value : Except Json.Refusal Json) :
    Keeps fresh (printJson value : Action σ Failure Unit) := by
  cases value with
  | ok j => exact printLine_keeps unopened _
  | error refusal => exact .throw _

/-! ## Making a module -/

omit [Environment σ] in
theorem Unopened.log_keeps (e : Event) {a : Action (Observed σ η) ε α}
    (h : Keeps (Guarded fresh) a) :
    Keeps (Guarded fresh) (do ModuleForge.log e; a) :=
  .bind (fun _ hs => unopened.logged e hs) fun _ => h

theorem resolve_keeps (t : Toolchain) :
    Keeps (Guarded fresh) (t.resolve : Action (Observed σ η) Toolchain.Obstacle Config) := by
  rw [resolve_eq]
  refine .bind ?_ fun base => .bind (Keeps.reads _).mapError fun config => .reads _
  unfold Toolchain.base
  cases t.config with
  | none => exact .pure _
  | some path =>
    refine Keeps.mapError (.bind (.reads _) fun text => ?_)
    cases Config.ofText text with
    | error e => exact .throw _
    | ok c => exact unopened.log_keeps _ (.pure c)

omit [Environment σ] in
theorem addSources_keeps (files : List Path) (b : Builder (Observed σ η) η) (n : Nat) :
    Keeps (Guarded fresh) (addSources b n files) := by
  induction files generalizing b n with
  | nil => exact .pure b
  | cons file files ih =>
    refine .bind (.reads _) fun text => .bind (fun s hs => ?_) fun found => ih _ _
    exact unopened.logged (addedEvent ⟨n, text⟩) hs

theorem prepare_keeps (r : Request) :
    Keeps (Guarded fresh)
      (prepare r : Action (Observed σ η) Failure (Builder (Observed σ η) η)) := by
  refine .bind (resolve_keeps unopened r.toolchain).mapError fun config => unopened.log_keeps _ ?_
  refine .bind
    (Keeps.mapError (.bind (.bind (Keeps.mapError ?_) fun _ => .reads _) fun dir => .pure _))
    fun b => addSources_keeps unopened r.files b 0
  exact .of_agrees (unopened.alike.createDirs _)

/-- Nothing has ended the program while the module is made, unless a module was opened. -/
theorem buildModule_guarded {r : Request} (inRange : r.InRange) {s : σ} {before : List (Act η)}
    (h : Guarded fresh ⟨s, before⟩) : Guarded fresh
      ((buildModule r : Action (Observed σ η) Failure (Library η × Builder (Observed σ η) η)).exec
        ⟨s, before⟩).2 := by
  have hprepared := prepare_keeps unopened r _ h
  obtain ⟨settled, t, acts, -, hobserved, -⟩ := prepare_settles (η := η) inRange s before
  rw [hobserved] at hprepared
  unfold buildModule
  rw [Action.exec_bind, hobserved]
  cases settled with
  | error f => exact hprepared
  | ok plan =>
    have hbuild : Keeps (Guarded fresh) (plan.builder : Builder (Observed σ η) η).build :=
      .of_agrees (unopened.alike.configured_build plan.config plan.dir plan.targets)
    exact Keeps.bind hbuild.mapError (fun library => .bind (.reads _) fun _ => .pure _) _ hprepared

omit unopened [Console σ] in
/-- Only code of a module ends the program while a module is made, and then the machine tells. -/
theorem buildModule_ended {r : Request} (inRange : r.InRange) {s t : σ} {status : WaitStatus}
    (h : (buildModule r : Action σ Failure (Library η × Builder σ η)).exec s
      = (.error (.ended status), t)) :
    Loading.ended? t = some status := by
  obtain ⟨settled, u, acts, hplain, -, hsettles⟩ := prepare_settles (η := η) inRange s []
  unfold buildModule at h
  rw [Action.exec_bind, hplain] at h
  cases settled with
  | error f =>
    obtain ⟨hf, -⟩ := Prod.mk.inj h
    cases hf
    simpa using hsettles.error rfl
  | ok plan =>
    simp only [Except.map, Action.exec_bind, Action.exec_mapError, goOn_exec] at h
    cases hbuilt : (plan.builder : Builder σ η).build.exec u with
    | mk built after =>
      rw [hbuilt] at h
      cases built with
      | error e => cases h
      | ok library =>
        simp only [mapError_ok] at h
        cases hended : Loading.ended? after with
        | none => rw [hended] at h; cases h
        | some found => rw [hended] at h; cases h; exact hended

end Stages

end ModuleForge.Cli
