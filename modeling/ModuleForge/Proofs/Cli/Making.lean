import ModuleForge.Proofs.Cli.Observed
import ModuleForge.Proofs.Registry

/-!
# Making the module

The stages that all jobs have in common: the configuration, the output directory and the sources, in
that order (`Settles`), and then the build (`Makes`). Up to there nothing is printed, looked up or
called, and before the sources were read nothing is done but to create the directory.
`prepare_settles` and `buildModule_makes` show that the program goes through them so, on the machine
as it is and when it is observed.
-/
namespace ModuleForge.Cli

variable {σ η : Type}

/-- What a module is to be made from. -/
structure Plan where
  config : Config
  dir : Path
  targets : Targets

/-- The builder that follows a plan. -/
def Plan.builder [Logging σ] [Files σ] [Numbering σ] [Spawning σ] [Loading σ η] (p : Plan) :
    Builder σ η := .configured p.config p.dir p.targets

/-- What is logged of a configuration. -/
def resolvedEvent (c : Config) : Event :=
  ⟨.debug, Part.command, "resolved toolchain config", [("config", c.debug)]⟩

/-- What is logged of a source. -/
def addedEvent (source : Source) : Event :=
  ⟨.debug, Part.builder, "target added", [("object", source.objectName.display)]⟩

section Stages

variable [Logging σ] [Files σ]

/-- Sources are read in order as texts, up to the first that cannot be, from a state on; `n` is the
number of the next. -/
inductive Reads : σ → Nat → List Path → Except Failure Targets → Prop where
  | nil (s : σ) (n : Nat) : Reads s n [] (.ok [])
  | stops {s : σ} {n : Nat} {file : Path} {files : List Path} {fault : IoError}
      (unreadable : Files.readText file s = .error fault) :
      Reads s n (file :: files) (.error (.unreadable file fault))
  | passes {s : σ} {n : Nat} {file : Path} {files : List Path} {text : String}
      {result : Except Failure Targets} (readable : Files.readText file s = .ok text)
      (rest : Reads (Logging.log (addedEvent ⟨n, text⟩) s) (n + 1) files result) :
      Reads s n (file :: files) (result.map ((Source.mk n text).target :: ·))

/-- What creating the output directory comes to. -/
def creation (c : Config) (answer : Except IoError Unit) : List (Act η) :=
  [.created (c.outputDir.getD ".") answer]

/-- What comes before a build, from a state on: the configuration, the output directory, the
sources. -/
inductive Settles [Environment σ] (r : Request) (s : σ) :
    Except Failure Plan → List (Act η) → Prop where
  | misconfigured {e : ConfigError} {after : σ}
      (refused : (r.toolchain.resolve : Action σ _ _).exec s = (.error (.config e), after)) :
      Settles r s (.error (.toolchain (.config e))) []
  | noDirectory {c : Config} {t after : σ} {e : ConfigError} (answer : Except IoError Unit)
      (configured : (r.toolchain.resolve : Action σ _ _).exec s = (.ok c, t))
      (refused : (c.resolveOutputDir : Action σ _ _).exec (Logging.log (resolvedEvent c) t)
        = (.error e, after)) :
      Settles r s (.error (.config e)) (creation c answer)
  | reads {c : Config} {t u : σ} {dir : Path} {result : Except Failure Targets}
      (configured : (r.toolchain.resolve : Action σ _ _).exec s = (.ok c, t))
      (created : (c.resolveOutputDir : Action σ _ _).exec (Logging.log (resolvedEvent c) t)
        = (.ok dir, u))
      (reading : Reads u 0 r.files result) :
      Settles r s (result.map (Plan.mk c dir)) (creation c (.ok ()))

/-- What comes before a module is used: when all is settled the module is built. Code of it may end
the program as it is loaded. -/
inductive Makes [Environment σ] [Loading σ η] (r : Request) (s : σ) :
    Except Failure (Library η × Plan) → List (Act η) → Prop where
  | unsettled {f : Failure} {acts : List (Act η)} (settling : Settles r s (.error f) acts) :
      Makes r s (.error f) acts
  | fails {plan : Plan} {e : BuildError} {acts more : List (Act η)} {deeds : List (Deed η)}
      (settling : Settles r s (.ok plan) acts) (doing : Observed.Does more deeds)
      (building : Proceeds (σ := σ) plan.config plan.dir plan.targets (.error e) deeds) :
      Makes r s (.error (.build e)) (acts ++ more)
  | ends {plan : Plan} {library : Library η} {acts more : List (Act η)} {deeds : List (Deed η)}
      {status : WaitStatus} (settling : Settles r s (.ok plan) acts)
        (doing : Observed.Does more deeds)
      (building : Proceeds (σ := σ) plan.config plan.dir plan.targets (.ok library) deeds) :
      Makes r s (.error (.ended status)) (acts ++ more)
  | makes {plan : Plan} {library : Library η} {acts more : List (Act η)} {deeds : List (Deed η)}
      (settling : Settles r s (.ok plan) acts) (doing : Observed.Does more deeds)
      (building : Proceeds (σ := σ) plan.config plan.dir plan.targets (.ok library) deeds) :
      Makes r s (.ok (library, plan)) (acts ++ more)

end Stages

/-! ## The configuration -/

/-- Both do the same, and nothing is observed. -/
def Silent {ε α : Type} (a : Action σ ε α) (b : Action (Observed σ η) ε α) : Prop :=
  Traces (fun _ acts => acts = []) a b

theorem Silent.pure {ε α : Type} (x : α) :
    Silent (Pure.pure x : Action σ ε α) (Pure.pure x : Action (Observed σ η) ε α) :=
  Traces.pure x rfl

theorem Silent.throw {ε α : Type} (e : ε) :
    Silent (throw e : Action σ ε α) (throw e : Action (Observed σ η) ε α) := Traces.throw rfl

theorem Silent.bind {ε α β : Type} {a : Action σ ε α} {b : Action (Observed σ η) ε α}
    {f : α → Action σ ε β} {g : α → Action (Observed σ η) ε β} (h : Silent a b)
    (hrest : ∀ x, Silent (f x) (g x)) : Silent (a >>= f) (b >>= g) :=
  Traces.bind h (fun _ _ h => h) fun x _ hnone => (hrest x).weaken fun _ _ hmore => by
    rw [hnone, hmore]; rfl

theorem Silent.reads {ε α : Type} {f : σ → Except ε α} {g : Observed σ η → Except ε α}
    (h : ∀ s before, g ⟨s, before⟩ = f s) : Silent (Action.reads f) (Action.reads g) :=
  Traces.reads fun s before => ⟨h s before, rfl⟩

theorem Silent.mapError {ε ε' α : Type} {f : ε → ε'} {a : Action σ ε α}
    {b : Action (Observed σ η) ε α}
    (h : Silent a b) : Silent (a.mapError f) (b.mapError f) :=
  Traces.mapError h fun _ _ h => h

theorem load_silent [Logging σ] [Files σ] (path : Path) :
    Silent (Config.load path : Action σ ConfigError Config)
      (Config.load path : Action (Observed σ η) ConfigError Config) := by
  refine .bind (.reads fun s before => rfl) fun text => ?_
  cases Config.ofText text with
  | error e => exact .throw _
  | ok c => exact Traces.log_bind (Silent.pure c)

/-- The configuration of the file, or the defaults. -/
def Toolchain.base [Logging σ] [Files σ] (t : Toolchain) : Action σ Obstacle Config :=
  match t.config with
  | some path => (Config.load path).mapError Obstacle.config
  | none => return {}

/-- A configuration with the environment and the options on top. -/
def Toolchain.complete [Environment σ] (t : Toolchain) (base : Config) :
    Action σ Obstacle Config := do
  let config ← base.withEnvironment.mapError Obstacle.config
  Action.reads fun _ => t.overlay config

theorem resolve_eq [Logging σ] [Files σ] [Environment σ] (t : Toolchain) :
    (t.resolve : Action σ _ _) = t.base >>= t.complete := by
  unfold Toolchain.resolve Toolchain.base
  cases t.config <;> rfl

theorem resolve_silent [Logging σ] [Files σ] [Environment σ] (t : Toolchain) :
    Silent (t.resolve : Action σ Toolchain.Obstacle Config)
      (t.resolve : Action (Observed σ η) Toolchain.Obstacle Config) := by
  rw [resolve_eq, resolve_eq]
  refine .bind ?_ fun base => .bind (Silent.reads fun s before => rfl).mapError fun config =>
    .reads fun s before => rfl
  unfold Toolchain.base
  cases t.config with
  | none => exact .pure _
  | some path => exact (load_silent path).mapError

/-- The limit of a command line fits into its 64 bits. -/
def Request.InRange (r : Request) : Prop :=
  ∀ d, r.toolchain.timeout = some d → d.ceilSeconds < 2 ^ 64

theorem exec_bind_error {ε α β : Type} {a : Action σ ε α} {f : α → Action σ ε β}
    {s after : σ} {e : ε}
    (h : (a >>= f).exec s = (.error e, after)) :
    a.exec s = (.error e, after) ∨ ∃ x t, a.exec s = (.ok x, t) ∧
      (f x).exec t = (.error e, after) := by
  rw [Action.exec_bind] at h
  cases ha : a.exec s with
  | mk answer t =>
    rw [ha] at h
    cases answer with
    | error e' =>
      obtain ⟨he, rfl⟩ := Prod.mk.inj h
      cases he
      exact .inl rfl
    | ok x => exact .inr ⟨x, t, rfl, h⟩

theorem exec_mapError_error {ε ε' α : Type} {a : Action σ ε α} {f : ε → ε'} {s after : σ} {e : ε'}
    (h : (a.mapError f).exec s = (.error e, after)) : ∃ e', e = f e' := by
  rw [Action.exec_mapError] at h
  cases hanswer : (a.exec s).1 with
  | ok x => rw [hanswer] at h; cases h
  | error e' => rw [hanswer] at h; cases h; exact ⟨e', rfl⟩

theorem overlay_ok {r : Request} (inRange : r.InRange) (c : Config) :
    ∃ c', r.toolchain.overlay c = .ok c' := by
  unfold Toolchain.overlay
  cases h : r.toolchain.timeout with
  | none => exact ⟨_, rfl⟩
  | some d =>
    simp only [Toolchain.limitSeconds, if_pos (inRange d h)]
    exact ⟨_, rfl⟩

/-- Options that are in range can only fail to configure by a fault in the file or the
environment. -/
theorem resolve_error [Logging σ] [Files σ] [Environment σ] {r : Request} (inRange : r.InRange)
    {s after : σ}
    {o : Toolchain.Obstacle} (h : (r.toolchain.resolve : Action σ _ _).exec s = (.error o, after)) :
    ∃ e, o = .config e := by
  rw [resolve_eq] at h
  rcases exec_bind_error h with hbase | ⟨base, t, -, hrest⟩
  · unfold Toolchain.base at hbase
    split at hbase
    · exact exec_mapError_error hbase
    · cases hbase
  · rcases exec_bind_error hrest with henvironment | ⟨config, u, -, hoverlay⟩
    · exact exec_mapError_error henvironment
    · obtain ⟨c', hc'⟩ := overlay_ok inRange config
      rw [Action.exec_reads, hc'] at hoverlay
      cases hoverlay

/-! ## The directory and the sources -/

/-- Paths that the machine makes canonical are absolute. -/
def CanonicalAbsolute (σ : Type) [Files σ] : Prop :=
  ∀ (path : Path) (s : σ) (dir : Path), Files.canonical path s = .ok dir → dir.isAbsolute = true

theorem resolveOutputDir_traces [Files σ] (c : Config) :
    Traces (fun answer acts => ∃ created, acts = creation c created ∧
        ∀ dir, answer = .ok dir → created = .ok ())
      (c.resolveOutputDir : Action σ ConfigError Path)
      (c.resolveOutputDir : Action (Observed σ η) ConfigError Path) := by
  have hcreate : Traces (fun answer acts => ∃ created, acts = creation c created ∧
        (answer = .ok () → created = .ok ()))
      ((Files.createDirs (c.outputDir.getD ".") : Action σ IoError Unit).mapError
        (ConfigError.outputDir (c.outputDir.getD ".")))
      ((Files.createDirs (c.outputDir.getD ".") : Action (Observed σ η) IoError Unit).mapError
        (ConfigError.outputDir (c.outputDir.getD "."))) := by
    refine (Traces.recorded _ _).mapError fun answer acts h => ⟨answer, h, ?_⟩
    cases answer with
    | ok _ => exact fun _ => rfl
    | error fault => exact nofun
  refine .bind hcreate (fun e acts h => ?_) fun _ acts h => .reads fun s before => ⟨rfl, ?_⟩
  · obtain ⟨created, hacts, -⟩ := h
    exact ⟨created, hacts, nofun⟩
  · obtain ⟨created, hacts, hcreated⟩ := h
    exact ⟨created, by rw [hacts, List.append_nil], fun _ _ => hcreated rfl⟩

theorem addTarget_run [Logging σ] (source : Source) (b : Builder σ η) (s : σ) :
    (b.addTarget source).run s
    = ((source.objectName, { b with targets := b.targets.add source }),
      Logging.log (addedEvent source) s) := rfl

/-- A builder with more targets. -/
def withTargets (b : Builder σ η) (more : Targets) : Builder σ η :=
  { b with targets := b.targets ++ more }

theorem addSources_reads [Logging σ] [Files σ] (files : List Path) (b : Builder σ η)
    (w : Builder (Observed σ η) η) (n : Nat) (s : σ) (before : List (Act η)) : ∃ result after,
    (addSources b n files).exec s = (result.map (withTargets b), after) ∧
      (addSources w n files).exec ⟨s, before⟩ = (result.map (withTargets w), ⟨after, before⟩) ∧
      Reads s n files result := by
  induction files generalizing b w n s with
  | nil => exact ⟨.ok [], s, by simp [addSources, withTargets, Except.map], by
      simp [addSources, withTargets, Except.map], .nil s n⟩
  | cons file files ih =>
    have hobserved : Files.readText file (⟨s, before⟩ : Observed σ η) = Files.readText file s := rfl
    unfold addSources
    simp only [Action.exec_bind, Action.exec_reads, hobserved]
    cases hread : Files.readText file s with
    | error fault => exact ⟨_, s, rfl, rfl, .stops hread⟩
    | ok text =>
      simp only [mapError_ok, Action.exec_lift, addTarget_run, Traced.log_mk]
      obtain ⟨result, after, hplain, hobserved, hreads⟩ :=
        ih { b with targets := b.targets.add ⟨n, text⟩ }
          { w with targets := w.targets.add ⟨n, text⟩ }
          (n + 1) (Logging.log (addedEvent ⟨n, text⟩) s)
      refine ⟨_, after, hplain.trans ?_, hobserved.trans ?_, .passes hread hreads⟩
      · cases result <;> simp [withTargets, Targets.add, Source.target, Except.map]
      · cases result <;> simp [withTargets, Targets.add, Source.target, Except.map]

/-! ## Up to the module -/

section Running

variable [Logging σ] [Files σ] [Environment σ] [Numbering σ] [Spawning σ] [Loading σ η]

omit [Environment σ] in
theorem ofConfig_eq (c : Config) : (Builder.ofConfig c : Action σ ConfigError (Builder σ η))
    = c.resolveOutputDir >>= fun dir => return .configured c dir [] := rfl

theorem prepare_settles {r : Request} (inRange : r.InRange) (s : σ) (before : List (Act η)) :
    ∃ (answer : Except Failure Plan) (after : σ) (acts : List (Act η)),
      (prepare r : Action σ Failure (Builder σ η)).exec s = (answer.map Plan.builder, after) ∧
      (prepare r : Action (Observed σ η) Failure (Builder (Observed σ η) η)).exec ⟨s, before⟩
        = (answer.map Plan.builder, ⟨after, before ++ acts⟩) ∧
      Settles r s answer acts := by
  unfold prepare
  obtain ⟨configured, t, _, hplain, hobserved, rfl⟩ := resolve_silent (η := η) r.toolchain s before
  simp only [Action.exec_bind, Action.exec_mapError, hplain, hobserved, List.append_nil]
  cases configured with
  | error o =>
    obtain ⟨e, rfl⟩ := resolve_error inRange hplain
    exact ⟨.error (.toolchain (.config e)), t, [], rfl,
      by rw [List.append_nil]; rfl, .misconfigured hplain⟩
  | ok c =>
    simp only [mapError_ok, Action.exec_log, ofConfig_eq, Action.exec_bind, Traced.log_mk]
    obtain ⟨found, u, _, hplain', hobserved', created, rfl, hcreated⟩ :=
      resolveOutputDir_traces (η := η) c (Logging.log (resolvedEvent c) t) before
    rw [resolvedEvent] at hplain' hobserved'
    simp only [hplain', hobserved']
    cases found with
    | error e => exact ⟨.error (.config e), u, _, rfl, rfl, .noDirectory created hplain hplain'⟩
    | ok dir =>
      obtain ⟨result, after, hsources, hsources', hreads⟩ :=
        addSources_reads r.files (.configured c dir []) (.configured c dir []) 0 u
          (before ++ creation c created)
      obtain rfl : created = .ok () := hcreated dir rfl
      refine ⟨result.map (Plan.mk c dir), after, _, ?_, ?_, .reads hplain hplain' hreads⟩
      · simp only [mapError_ok, Action.exec_pure, hsources]
        cases result <;> rfl
      · simp only [mapError_ok, Action.exec_pure, hsources']
        cases result <;> rfl

omit [Numbering σ] [Spawning σ] [Loading σ η] in
/-- The output directory of a plan is absolute. -/
theorem Settles.absolute (canonical : CanonicalAbsolute σ) {r : Request} {s : σ}
    {answer : Except Failure Plan} {acts : List (Act η)}
    (h : Settles r s answer acts) {plan : Plan} (hanswer : answer = .ok plan) :
    plan.dir.isAbsolute = true := by
  cases h with
  | misconfigured => cases hanswer
  | noDirectory => cases hanswer
  | @reads c t u dir result configured created reading =>
    have hdir : ∃ (path : Path) (t : σ), Files.canonical path t = .ok dir := by
      unfold Config.resolveOutputDir at created
      rw [Action.exec_bind] at created
      split at created
      · rename_i t' _
        rw [Action.exec_reads] at created
        cases hfound : Files.canonical (c.outputDir.getD ".") t' with
        | ok found =>
          rw [hfound] at created
          cases created
          exact ⟨_, _, hfound⟩
        | error fault => rw [hfound] at created; cases created
      · cases created
    obtain ⟨path, t', hfound⟩ := hdir
    cases result with
    | error f => cases hanswer
    | ok targets => cases hanswer; exact canonical path t' dir hfound

omit [Numbering σ] [Spawning σ] [Loading σ η] in
/-- Before a build only the directory is created, and that only once there is a configuration. -/
theorem Settles.resolved {r : Request} {s : σ} {answer : Except Failure Plan} {acts : List (Act η)}
    (h : Settles r s answer acts) : (acts = [] ∧ ∃ f, answer = .error f) ∨
      (∃ dir created, acts = [.created dir created]) ∧
        ∃ (c : Config) (t : σ), (r.toolchain.resolve : Action σ _ _).exec s = (.ok c, t) := by
  cases h with
  | misconfigured refused => exact .inl ⟨rfl, _, rfl⟩
  | noDirectory created configured refused => exact .inr ⟨⟨_, _, rfl⟩, _, _, configured⟩
  | reads configured created reading => exact .inr ⟨⟨_, _, rfl⟩, _, _, configured⟩

omit [Environment σ] [Numbering σ] [Spawning σ] [Loading σ η] in
/-- Only a file that cannot be read keeps the sources from being read. -/
theorem Reads.error {s : σ} {n : Nat} {files : List Path} {result : Except Failure Targets}
    (h : Reads s n files result) {f : Failure} (hresult : result = .error f) :
    ∃ file ∈ files, ∃ fault, f = .unreadable file fault := by
  induction h with
  | nil => cases hresult
  | @stops s n file files fault unreadable => cases hresult; exact ⟨file, by simp, fault, rfl⟩
  | @passes s n file files text result readable rest ih =>
    cases result with
    | ok ts => cases hresult
    | error f' =>
      obtain ⟨later, hmem, hf⟩ := ih hresult
      exact ⟨later, List.mem_cons_of_mem _ hmem, hf⟩

omit [Numbering σ] [Spawning σ] [Loading σ η] in
/-- What can fail before a build: the configuration, the directory, a source. -/
theorem Settles.error {r : Request} {s : σ} {answer : Except Failure Plan} {acts : List (Act η)}
    (h : Settles r s answer acts) {f : Failure} (hanswer : answer = .error f) :
    (∃ e, f = .toolchain (.config e)) ∨ (∃ e, f = .config e) ∨
      ∃ file ∈ r.files, ∃ fault, f = .unreadable file fault := by
  cases h with
  | misconfigured => cases hanswer; exact .inl ⟨_, rfl⟩
  | noDirectory => cases hanswer; exact .inr (.inl ⟨_, rfl⟩)
  | @reads c t u dir result configured created reading =>
    cases result with
    | ok ts => cases hanswer
    | error f' => cases hanswer; exact .inr (.inr (reading.error rfl))

omit [Logging σ] [Files σ] [Environment σ] [Numbering σ] [Spawning σ] in
theorem goOn_exec (s : σ) : (goOn : Action σ Failure Unit).exec s = (match Loading.ended? s with
    | some status => .error (.ended status)
    | none => .ok (), s) := rfl

/-- The module and the plan, as a job gets them. -/
def made (m : Library η × Plan) : Library η × Builder σ η := (m.1, m.2.builder)

theorem buildModule_makes (canonical : CanonicalAbsolute σ) {r : Request}
    (inRange : r.InRange) (s : σ)
    (before : List (Act η)) :
    ∃ (answer : Except Failure (Library η × Plan)) (after : σ) (acts : List (Act η)),
      (buildModule r : Action σ Failure (Library η × Builder σ η)).exec s
        = (answer.map made, after) ∧
      (buildModule r : Action (Observed σ η) Failure (Library η × Builder (Observed σ η) η)).exec
        ⟨s, before⟩
        = (answer.map made, ⟨after, before ++ acts⟩) ∧
      Makes r s answer acts := by
  obtain ⟨settled, t, acts, hplain, hobserved, hsettles⟩ :=
    prepare_settles (η := η) inRange s before
  unfold buildModule
  simp only [Action.exec_bind, hplain, hobserved]
  cases settled with
  | error f => exact ⟨.error f, t, acts, rfl, rfl, .unsettled hsettles⟩
  | ok plan =>
    obtain ⟨built, after, more, hbuild, hbuild', deeds, hdoes, hproceeds⟩ :=
      configured_proceeds plan.config (hsettles.absolute canonical rfl) plan.targets t
        (before ++ acts)
    rw [List.append_assoc] at hbuild'
    simp only [Except.map, Action.exec_mapError, Plan.builder, hbuild, hbuild']
    cases built with
    | error e => exact ⟨.error (.build e), after, _, rfl, rfl, .fails hsettles hdoes hproceeds⟩
    | ok library =>
      simp only [mapError_ok, goOn_exec, Observed.ended?_mk]
      cases Loading.ended? after with
      | some status =>
        exact ⟨.error (.ended status), after, _, rfl, rfl, .ends hsettles hdoes hproceeds⟩
      | none => exact ⟨.ok (library, plan), after, _, rfl, rfl, .makes hsettles hdoes hproceeds⟩

end Running

end ModuleForge.Cli
