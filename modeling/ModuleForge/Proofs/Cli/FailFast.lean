import ModuleForge.Proofs.Cli.Using

/-!
# Stopping at the first failure

The whole of a job (`Course`): a call with too many arguments stops before anything is done, and
every other job makes a module and uses it. Nothing is done before its time: what each act
presupposes was done before (`Earned`), so after the first failure nothing of a later stage happens.
There is no failure exactly if all stages succeed (`Succeeds`).

The program ends by itself as its job has come out, unless code of the module ends it in another way
(`Ends`): such code runs when the module is loaded, looked into, called and let go of, and when the
program ends. `run_fail_fast` puts this together for all command lines that are accepted, on all
machines.
-/
namespace ModuleForge.Cli

variable {σ η : Type}

/-! ## Builds -/

/-- Every target was compiled. -/
def Compiled (acts : List (Act η)) (p : Plan) : Prop :=
  ∀ t ∈ p.targets, ∃ output : Output, output.status.success = true ∧
    .did (.ran (p.config.compileRun p.dir t) (.ok output)) ∈ acts

/-- The objects of all targets were linked. -/
def Linked (acts : List (Act η)) (p : Plan) : Prop :=
  ∃ (process number : Nat) (output : Output), output.status.success = true ∧
    .did (.ran (p.config.linkRun p.dir (moduleName process number) p.targets) (.ok output)) ∈ acts

/-- What a deed of a build presupposes: a run is that of the compiler for a target, or that of the
linker after every target was compiled, and a module is opened after that. -/
def Due (acts : List (Act η)) (p : Plan) : Deed η → Prop
  | .ran run _ => (∃ t ∈ p.targets, run = p.config.compileRun p.dir t) ∨
      Compiled acts p ∧ ∃ module, run = p.config.linkRun p.dir module p.targets
  | .numbered _ _ => Compiled acts p
  | .opened _ _ => Compiled acts p ∧ Linked acts p
  | .refused _ => True

theorem compiling_ok {c : Config} {dir : Path} {ts : Targets} {deeds : List (Deed η)}
    {result : Except BuildError (List Object)}
    (h : Compiling (fun t => Compiles (c.compileRun dir t) (dir.join t.objectName)) ts deeds result)
    {objects : List Object} (hresult : result = .ok objects) :
    ∀ t ∈ ts, ∃ output : Output, output.status.success = true ∧
      .ran (c.compileRun dir t) (.ok output) ∈ deeds := by
  induction h generalizing objects with
  | nil => exact nofun
  | stops => cases hresult
  | @passes t rest object deeds more result h _ ih =>
    cases h with
    | @passes output diagnostics zero =>
      cases result with
      | error e => cases hresult
      | ok others =>
        intro u hu
        rcases List.mem_cons.mp hu with rfl | hu
        · exact ⟨output, zero, by simp⟩
        · obtain ⟨output', zero', hmem⟩ := ih rfl u hu
          exact ⟨output', zero', List.mem_append_right _ hmem⟩

theorem opened_of_mem_loadDeeds [Loading σ η] {path : Path} {s : σ} {deed : Deed η}
    (h : deed ∈ loadDeeds path s) : ∃ opened answer, deed = .opened opened answer := by
  unfold loadDeeds at h
  split at h
  · exact ⟨_, _, List.mem_singleton.mp h⟩
  · cases h

theorem due_of_proceeds [Logging σ] [Loading σ η] {p : Plan}
    {answer : Except BuildError (Library η)}
    {deeds : List (Deed η)} (h : Proceeds (σ := σ) p.config p.dir p.targets answer deeds)
    {acts more : List (Act η)} (doing : Observed.Does more deeds) (within : more ⊆ acts) :
    ∀ deed ∈ deeds, Due acts p deed := by
  -- Only directories are told of in another way, so a run that was asked for can be seen.
  have hseen {run : Invocation} {output : Output} (hran : .ran run (.ok output) ∈ deeds) :
      .did (.ran run (.ok output)) ∈ acts := by
    rcases doing.of_mem hran with hmem | ⟨_, habsurd⟩
    · exact within hmem
    · cases habsurd
  cases h with
  | stops compiling =>
    intro deed hdeed
    rcases Config.compiling_runs_compiler compiling deed hdeed with ⟨t, ht, _, rfl⟩ | ⟨fault, rfl⟩
    · exact .inl ⟨t, ht, rfl⟩
    · trivial
  | @links objects first rest answer compiling linking =>
    have hcompiled : Compiled acts p := fun t ht =>
      let ⟨output, zero, hmem⟩ := compiling_ok compiling rfl t ht
      ⟨output, zero, hseen (List.mem_append_left _ hmem)⟩
    intro deed hdeed
    rcases List.mem_append.mp hdeed with hdeed' | hdeed'
    · rcases Config.compiling_runs_compiler compiling deed hdeed' with
        ⟨t, ht, _, rfl⟩ | ⟨fault, rfl⟩
      · exact .inl ⟨t, ht, rfl⟩
      · trivial
    cases linking with
    | refused fault =>
      cases List.mem_singleton.mp hdeed'
      trivial
    | stops h =>
      simp only [List.mem_cons, List.not_mem_nil, or_false] at hdeed'
      rcases hdeed' with rfl | rfl
      · exact hcompiled
      · exact .inr ⟨hcompiled, _, rfl⟩
    | @opens process number output s zero =>
      rcases List.mem_append.mp hdeed' with hdeed' | hdeed'
      · simp only [List.mem_cons, List.not_mem_nil, or_false] at hdeed'
        rcases hdeed' with rfl | rfl
        · exact hcompiled
        · exact .inr ⟨hcompiled, _, rfl⟩
      · obtain ⟨_, _, rfl⟩ := opened_of_mem_loadDeeds hdeed'
        exact ⟨hcompiled, process, number, output, zero, hseen (by simp)⟩

/-! ## What went before -/

/-- The function that is called takes the arguments. -/
def Request.Fits (r : Request) : Prop := r.job = .call → r.arguments.length ≤ maxArguments

section Courses

variable [Logging σ] [Files σ] [Environment σ] [Numbering σ] [Spawning σ] [Loading σ η]

/-- A module was made of a plan. -/
def Made (r : Request) (s : σ) (acts : List (Act η)) (library : Library η) (p : Plan) : Prop :=
  ∃ making, Makes r s (.ok (library, p)) making ∧ making <+: acts

/-- What an act presupposes: each stage that comes before it has been passed. -/
def Act.Earned (r : Request) (s : σ) (result : Except Failure Unit) (acts : List (Act η)) :
    Act η → Prop
  | .created _ _ => ∃ (c : Config) (t : σ), (r.toolchain.resolve : Action σ _ _).exec s = (.ok c, t)
  | .did deed => ∃ (p : Plan) (settling : List (Act η)), Settles r s (.ok p) settling ∧
      settling <+: acts ∧ Due acts p deed
  | .lookedUp _ _ => r.job ≠ .build ∧ ∃ (library : Library η) (p : Plan), Made r s acts library p ∧
      library.loadError = none
  | .called address arguments _ => r.job = .call ∧ arguments = r.arguments ∧
      ∃ (library : Library η) (p : Plan) (name : ByteString), Made r s acts library p ∧
        library.loadError = none ∧ terminated (ByteString.ofText r.symbol) = .ok name ∧
        .lookedUp name (.ok address) ∈ acts
  | .printed _ => (∃ (library : Library η) (p : Plan), Made r s acts library p) ∧
      (r.job = .build ∨ result = .ok ())
  | .complained _ => r.job = .build ∧ result = .error .unloadable

omit [Numbering σ] [Spawning σ] in
theorem build_earned {r : Request} {s : σ} {result : Except Failure Unit} {p : Plan}
    {settling more acts : List (Act η)} {answer : Except BuildError (Library η)}
    {deeds : List (Deed η)}
    (h : Settles r s (.ok p) settling) (doing : Observed.Does more deeds)
    (building : Proceeds (σ := σ) p.config p.dir p.targets answer deeds)
    (within : settling ++ more <+: acts) : ∀ act ∈ settling ++ more,
      act.Earned r s result acts := by
  rcases h.resolved with ⟨_, _, habsurd⟩ | ⟨⟨dir, created, rfl⟩, hresolved⟩
  · cases habsurd
  intro act hact
  rcases List.mem_append.mp hact with hact | hact
  · cases List.mem_singleton.mp hact
    exact hresolved
  · have hmore : more ⊆ acts := fun act hact => within.subset (List.mem_append_right _ hact)
    rcases doing.mem hact with ⟨deed, hdeed, rfl⟩ | ⟨_, _, rfl⟩
    · exact ⟨p, _, h, (List.prefix_append _ _).trans within,
        due_of_proceeds building doing hmore deed hdeed⟩
    · exact hresolved

omit [Numbering σ] [Spawning σ] in
theorem Makes.earned {r : Request} {s : σ} {result : Except Failure Unit}
    {answer : Except Failure (Library η × Plan)} {making acts : List (Act η)}
    (h : Makes r s answer making) (within : making <+: acts) :
    ∀ act ∈ making, act.Earned r s result acts := by
  cases h with
  | unsettled settling =>
    intro act hact
    rcases settling.resolved with ⟨rfl, -⟩ | ⟨⟨dir, created, rfl⟩, hresolved⟩
    · cases hact
    · cases List.mem_singleton.mp hact
      exact hresolved
  | fails settling doing building | ends settling doing building | makes settling doing building =>
    exact build_earned settling doing building within

omit [Numbering σ] [Spawning σ] in
theorem Uses.earned {r : Request} {s : σ} {library : Library η} {p : Plan}
    {result : Except Failure Unit}
    {usage acts : List (Act η)} (h : Uses r library p.targets result usage)
    (made : Made r s acts library p) (within : usage ⊆ acts) :
    ∀ act ∈ usage, act.Earned r s result acts := by
  intro act hact
  cases h with
  | unprintable => cases hact
  | builds job report loaded =>
    obtain ⟨text, -, rfl⟩ := List.mem_map.mp hact
    exact ⟨⟨library, p, made⟩, .inl job⟩
  | buildsUnloadable job report unloaded =>
    rcases List.mem_append.mp hact with hact | hact
    · obtain ⟨text, -, rfl⟩ := List.mem_map.mp hact
      exact ⟨⟨library, p, made⟩, .inl job⟩
    · cases List.mem_singleton.mp hact
      exact ⟨job, rfl⟩
  | unloaded => cases hact
  | unresolved job loaded lookUp =>
    obtain ⟨_, _, rfl⟩ := lookUp.lookedUp act hact
    exact ⟨by simp [job], library, p, made, loaded⟩
  | callEnds job loaded lookUp =>
    cases lookUp with
    | found hname address =>
      simp only [List.cons_append, List.nil_append, List.mem_cons, List.not_mem_nil, or_false]
        at hact
      rcases hact with rfl | rfl
      · exact ⟨by simp [job], library, p, made, loaded⟩
      · exact ⟨job, rfl, library, p, _, made, loaded, hname, within (by simp)⟩
  | callReturns job loaded lookUp =>
    cases lookUp with
    | found hname address =>
      simp only [List.cons_append, List.nil_append, List.mem_cons, List.not_mem_nil, or_false]
        at hact
      rcases hact with rfl | rfl | rfl
      · exact ⟨by simp [job], library, p, made, loaded⟩
      · exact ⟨job, rfl, library, p, _, made, loaded, hname, within (by simp)⟩
      · exact ⟨⟨library, p, made⟩, .inr rfl⟩
  | probes job loaded symbols lookUps =>
    rcases List.mem_append.mp hact with hact | hact
    · obtain ⟨_, _, rfl⟩ := lookUps act hact
      exact ⟨by simp [job], library, p, made, loaded⟩
    · obtain ⟨text, -, rfl⟩ := List.mem_map.mp hact
      exact ⟨⟨library, p, made⟩, .inr rfl⟩

/-! ## Whole jobs -/

/-- What comes of a job. -/
inductive Course (r : Request) (s : σ) : Except Failure Unit → List (Act η) → Prop where
  | tooManyArguments (job : r.job = .call) (many : maxArguments < r.arguments.length) :
      Course r s (.error (.tooManyArguments r.arguments.length)) []
  | runs {result : Except Failure Unit} {acts : List (Act η)} (fits : r.Fits)
      (running : Runs r s result acts) : Course r s result acts

/-- Nothing is done before its time. -/
theorem Course.earned {r : Request} {s : σ} {result : Except Failure Unit} {acts : List (Act η)}
    (h : Course r s result acts) : ∀ act ∈ acts, r.Fits ∧ act.Earned r s result acts := by
  intro act hact
  cases h with
  | tooManyArguments => cases hact
  | runs fits running =>
    refine ⟨fits, ?_⟩
    cases running with
    | stops stopped making => exact making.earned List.prefix_rfl act hact
    | @goesOn library plan _ _ making usage built makes uses =>
      rcases List.mem_append.mp hact with hact | hact
      · exact makes.earned (List.prefix_append _ _) act hact
      · exact uses.earned ⟨making, makes, List.prefix_append _ _⟩
          (List.subset_append_right _ _) act hact

/-- All stages succeed, and what is called returns. -/
def Succeeds (r : Request) (s : σ) (acts : List (Act η)) : Prop :=
  r.Fits ∧ ∃ (library : Library η) (b : Builder σ η) (t : σ),
    (buildModule r : Action σ Failure (Library η × Builder σ η)).exec s = (.ok (library, b), t) ∧
    library.loadError = none ∧
    (r.job = .build → r.format = .json → (Text.text? library.path.bytes).isSome) ∧
    (r.job = .call → ∃ name address value, .lookedUp name (.ok address) ∈ acts ∧
      .called address r.arguments (.ok value) ∈ acts)

omit [Numbering σ] [Spawning σ] in
/-- While a module is made nothing is called. -/
theorem Makes.not_called {r : Request} {s : σ} {answer : Except Failure (Library η × Plan)}
    {making : List (Act η)} (h : Makes r s answer making) (address : Nat) (arguments : List Int)
    (returned : Except WaitStatus Int) : .called address arguments returned ∉ making := by
  intro hcalled
  have hsettling {answer : Except Failure Plan} {settling : List (Act η)}
      (h : Settles r s answer settling) :
      .called address arguments returned ∉ settling := by
    rcases h.resolved with ⟨rfl, -⟩ | ⟨⟨dir, created, rfl⟩, -⟩ <;> simp
  have hdoing {more : List (Act η)} {deeds : List (Deed η)} (h : Observed.Does more deeds) :
      .called address arguments returned ∉ more := by
    intro hmem
    rcases h.mem hmem with ⟨_, _, habsurd⟩ | ⟨_, _, habsurd⟩ <;> cases habsurd
  cases h with
  | unsettled settling => exact hsettling settling hcalled
  | fails settling doing | ends settling doing | makes settling doing =>
    exact (List.mem_append.mp hcalled).elim (hsettling settling) (hdoing doing)

theorem LooksUp.not_called {name : String} {found : Except SymbolError Nat} {looking : List (Act η)}
    (h : LooksUp name found looking) (address : Nat) (arguments : List Int)
    (returned : Except WaitStatus Int) : .called address arguments returned ∉ looking := by
  cases h <;> simp

/-- There is no failure exactly if all stages succeed and what is called returns. -/
theorem Course.ok_iff {r : Request} {s : σ} {result : Except Failure Unit} {acts : List (Act η)}
    (h : Course r s result acts) : result = .ok () ↔ Succeeds r s acts := by
  constructor
  · rintro rfl
    cases h with
    | runs fits running =>
      refine ⟨fits, ?_⟩
      cases running with
      | @goesOn library plan t _ making usage built makes uses =>
        refine ⟨library, _, t, built, ?_⟩
        cases uses with
        | builds job report loaded =>
          refine ⟨loaded, fun _ hjson => ?_, fun hcall => by simp [job] at hcall⟩
          rw [hjson] at report
          exact buildTexts_json_ok report
        | @callReturns address looking value job loaded lookUp =>
          refine ⟨loaded, fun hbuild => by simp [job] at hbuild, fun _ => ?_⟩
          cases lookUp with
          | @found name hname => exact ⟨name, address, value, by simp, by simp⟩
        | probes job loaded =>
          exact ⟨loaded, fun h => by simp [job] at h, fun h => by simp [job] at h⟩
  · rintro ⟨fits, library', b, t', built', loaded', hjson, hcall⟩
    cases h with
    | tooManyArguments job many => exact absurd (fits job) (Nat.not_le.mpr many)
    | runs _ running =>
      cases running with
      | stops stopped => rw [stopped] at built'; cases built'
      | @goesOn library plan t _ making usage built makes uses =>
        -- To make a module is a step of the machine, so both sides speak of the same library.
        obtain rfl : library = library' := by
          rw [built] at built'
          cases built'
          rfl
        have hnone := makes.not_called
        cases uses with
        | unprintable job json path =>
          have hsome := hjson job json
          rw [path] at hsome
          cases hsome
        | builds => rfl
        | buildsUnloadable job report unloaded => rw [unloaded] at loaded'; cases loaded'
        | unloaded job unloaded => rw [unloaded] at loaded'; cases loaded'
        | unresolved job loaded lookUp =>
          obtain ⟨_, address, value, -, hcalled⟩ := hcall job
          exact ((List.mem_append.mp hcalled).elim (hnone _ _ _) (lookUp.not_called _ _ _)).elim
        | callEnds job loaded lookUp =>
          obtain ⟨_, address, value, -, hcalled⟩ := hcall job
          rcases List.mem_append.mp hcalled with hcalled | hcalled
          · exact absurd hcalled (hnone _ _ _)
          rcases List.mem_append.mp hcalled with hcalled | hcalled
          · exact absurd hcalled (lookUp.not_called _ _ _)
          · cases List.mem_singleton.mp hcalled
        | callReturns => rfl
        | probes => rfl

/-- A limit in range is never said to be out of range. -/
theorem Course.in_range {r : Request} {s : σ} {result : Except Failure Unit} {acts : List (Act η)}
    (h : Course r s result acts) : result ≠ .error (.toolchain .overflow) := by
  rintro rfl
  cases h with
  | runs fits running =>
    cases running with
    | stops stopped making =>
      cases making with
      | unsettled settling => simpa using settling.error rfl
    | goesOn built making usage => cases usage

omit [Numbering σ] [Spawning σ] in
/-- A module that is loaded was opened. -/
theorem Made.opened {r : Request} {s : σ} {acts : List (Act η)} {library : Library η} {p : Plan}
    (h : Made r s acts library p) (loaded : library.loadError = none) : Opened acts := by
  obtain ⟨making, makes, within⟩ := h
  cases makes with
  | makes settling doing building =>
    rcases opened_or_absent building doing with hopened | ⟨-, e, unloaded⟩
    · exact hopened.mono fun act hact => within.subset (List.mem_append_right _ hact)
    · rw [loaded] at unloaded
      cases unloaded

section Programs

variable [Console σ] [Calling σ]

/-- What comes of a job that has come out in one way: nothing of its own if code of a module has
ended the program. -/
def verdict (result : Except Failure Unit) (after : σ) : Except Failure Unit :=
  match Loading.ended? after with
  | some status => .error (.ended status)
  | none => result

omit [Logging σ] [Files σ] [Environment σ] [Numbering σ] [Spawning σ] [Console σ] [Calling σ] in
theorem surviving_exec {act : Action σ Failure Unit} {s after : σ} {result : Except Failure Unit}
    (h : act.exec s = (result, after)) :
    (surviving (η := η) act).exec s = (verdict result after, after) := by
  show (((goOn : Action σ Failure Unit).exec (act.exec s).2).1 >>= fun _ => (act.exec s).1,
    (act.exec s).2) = _
  rw [h, goOn_exec, verdict]
  cases Loading.ended? after <;> rfl

/-- A job takes its course until code of a module ends the program. That was opened then, and the
machine or the function that was called tells how. -/
theorem runJob_course (canonical : CanonicalAbsolute σ) {fresh : σ → Prop}
    (unopened : Unopened (η := η) fresh) {r : Request} (inRange : r.InRange) {s : σ}
    (hs : fresh s) :
    ∃ (result : Except Failure Unit) (after : σ) (acts : List (Act η)),
      (runJob (η := η) r : Action σ _ _).exec s = (verdict result after, after) ∧
      (runJob (η := η) r : Action (Observed σ η) _ _).exec ⟨s, []⟩
        = (verdict result after, ⟨after, acts⟩) ∧
      Course r s result acts ∧ Guarded fresh ⟨after, acts⟩ ∧
      ∀ status, result = .error (.ended status) → Told r acts after status := by
  have hcourse {job : Action σ Failure Unit} {observed : Action (Observed σ η) Failure Unit}
      (fits : r.Fits)
      (h : JobRuns fresh r job observed) : ∃ result after acts,
        (surviving (η := η) job).exec s = (verdict result after, after) ∧
        (surviving (η := η) observed).exec ⟨s, []⟩ = (verdict result after, ⟨after, acts⟩) ∧
        Course r s result acts ∧ Guarded fresh ⟨after, acts⟩ ∧
        ∀ status, result = .error (.ended status) → Told r acts after status :=
    let ⟨result, after, acts, hplain, hobserved, hruns, hguarded, htold⟩ := h s hs
    ⟨result, after, acts, surviving_exec hplain, surviving_exec hobserved, .runs fits hruns,
      hguarded, htold⟩
  unfold runJob
  cases job : r.job with
  | build =>
    exact hcourse (by simp [Request.Fits, job]) (runBuild_runs canonical unopened inRange job)
  | probe =>
    exact hcourse (by simp [Request.Fits, job]) (runProbe_runs canonical unopened inRange job)
  | call =>
    by_cases many : maxArguments < r.arguments.length
    · have hplain : (runCall (η := η) r r.symbol : Action σ _ _).exec s
          = (.error (.tooManyArguments r.arguments.length), s) := by simp [runCall, many]
      have hobserved : (runCall (η := η) r r.symbol : Action (Observed σ η) _ _).exec ⟨s, []⟩
          = (.error (.tooManyArguments r.arguments.length), ⟨s, []⟩) := by simp [runCall, many]
      exact ⟨_, s, [], surviving_exec hplain, surviving_exec hobserved,
        .tooManyArguments job many, .inl hs, nofun⟩
    · have few : r.arguments.length ≤ maxArguments := Nat.not_lt.mp many
      exact hcourse (fun _ => few) (runCall_runs canonical unopened inRange job few)

/-- The state in which a job starts: it is known which events are shown. -/
def started (r : Request) (s : σ) : σ :=
  Console.listen (logFilter r.verbose (Environment.valueOf logVariable s)) s

/-! ## How the program ends -/

/-- The exit code of a job. -/
def ownStatus : Except Failure Unit → WaitStatus
  | .ok () => .exited 0
  | .error _ => .exited 1

/-- What the program says last. -/
def closing : Except Failure Unit → List (Act η)
  | .ok () | .error (.ended _) => []
  | .error f => [.complained f.report]

/-- How the program ends, in which state, and what it says before that: by itself, or because code
of the module ends it in another way. -/
inductive Ends (r : Request) (result : Except Failure Unit) (acts : List (Act η)) (after : σ) :
    WaitStatus → List (Act η) → Prop where
  | itself (running : Loading.ended? after = none)
    (own : ∀ status, result ≠ .error (.ended status)) :
      Ends r result acts after (ownStatus result) (closing result)
  | byModule {status : WaitStatus} {said : List (Act η)} (opened : Opened acts)
      (told : Told r acts after status) (h : said <+: closing result) :
        Ends r result acts after status said

/-- The state after a failure was reported. -/
def reported : Except Failure Unit → σ → σ
  | .ok (), t | .error (.ended _), t => t
  | .error f, t => Console.err f.report t

/-- The state that is left when what modules have left to be run was run. -/
def finished (result : Except Failure Unit) (t : σ) : σ :=
  ((Loading.finish : StateM σ Unit).run (reported result t)).2

theorem ownStatus_zero_iff (result : Except Failure Unit) :
    ownStatus result = .exited 0 ↔ result = .ok () := by
  rcases result with f | _ <;> simp [ownStatus]

omit [Logging σ] [Files σ] [Environment σ] [Numbering σ] [Spawning σ] [Calling σ] in
theorem finished_observed (result : Except Failure Unit) (t : σ) (acts : List (Act η)) :
    finished result (⟨t, acts⟩ : Observed σ η) = ⟨finished result t, acts ++ closing result⟩ := by
  have hreported : reported result (⟨t, acts⟩ : Observed σ η)
      = ⟨reported result t, acts ++ closing result⟩ := by
    rcases result with f | _
    · cases f with
      | ended status => simp [reported, closing]
      | _ => rfl
    · simp [reported, closing]
  show (⟨_, (reported result (⟨t, acts⟩ : Observed σ η)).trace ++ []⟩ : Observed σ η) = _
  rw [List.append_nil, hreported]
  rfl

omit [Environment σ] [Calling σ] in
/-- A program that ends before a module is opened ends by itself. -/
theorem Unopened.finished {fresh : σ → Prop} (unopened : Unopened (η := η) fresh)
    (result : Except Failure Unit) {t : σ} (ht : fresh t) :
    Loading.ended? (Cli.finished result t) = none := by
  refine unopened.finish ?_
  rcases result with f | _
  · cases f with
    | ended status => exact ht
    | _ => exact unopened.err _ ht
  · exact ht

/-- Code of a module has ended the program: nothing more is done. -/
theorem run_ended {arguments : List ByteString} {r : Request}
    (accepted : Request.parse arguments = .ok r)
    {s t : σ} {status : WaitStatus}
    (h : (runJob (η := η) r : Action σ _ _).exec (started r s) = (.error (.ended status), t)) :
    (run (η := η) arguments : StateM σ WaitStatus).run s = (status, t) := by
  unfold run
  rw [accepted]
  exact (run_bind_of_run (t := s) rfl).trans ((run_bind_of_run (t := started r s) rfl).trans
    ((run_bind_of_run h).trans rfl))

/-- A run of the program that is not ended before is that of a job, with its closing. -/
theorem run_left {arguments : List ByteString} {r : Request}
    (accepted : Request.parse arguments = .ok r)
    {s t : σ} {result : Except Failure Unit}
    (h : (runJob (η := η) r : Action σ _ _).exec (started r s) = (result, t))
    (inRange : result ≠ .error (.toolchain .overflow))
    (own : ∀ status, result ≠ .error (.ended status)) :
    (run (η := η) arguments : StateM σ WaitStatus).run s
      = ((Loading.ended? (finished result t)).getD (ownStatus result), finished result t) := by
  unfold run
  rw [accepted]
  refine (run_bind_of_run (t := s) rfl).trans ((run_bind_of_run (t := started r s) rfl).trans
    ((run_bind_of_run h).trans ?_))
  rcases result with f | _
  · cases f with
    | toolchain obstacle =>
      cases obstacle with
      | overflow => exact absurd rfl inRange
      | config e => rfl
    | ended status => exact absurd rfl (own status)
    | _ => rfl
  · rfl

/-- **Fail-fast.** Whatever command line is accepted, with a limit in range, and on any machine
whose canonical paths are absolute and on which only code of modules can end the program, the stages
of the job are passed in order up to the first that fails (`Course`), and there is no failure
exactly if all succeed. Observing this changes neither how the program ends nor the state that it
leaves. Without a failure the program exits with code 0, and with one it exits with code 1 and the
report of that failure, unless code of the module ends it: a module was opened then, and the program
ends as the machine or the called function tells (`Ends`). Whatever was done had its grounds: each
stage before it has been passed. -/
theorem run_fail_fast (canonical : CanonicalAbsolute σ) {fresh : σ → Prop}
    (unopened : Unopened (η := η) fresh) {arguments : List ByteString} {r : Request}
    (accepted : Request.parse arguments = .ok r) (inRange : r.InRange) {s : σ} (hs : fresh s) :
    ∃ (result : Except Failure Unit) (status : WaitStatus) (after : σ) (acts said : List (Act η)),
      (run (η := η) arguments : StateM σ WaitStatus).run s = (status, after) ∧
      (run (η := η) arguments : StateM (Observed σ η) WaitStatus).run ⟨s, []⟩
        = (status, ⟨after, acts ++ said⟩) ∧
      Course r (started r s) result acts ∧
      (∀ act ∈ acts, r.Fits ∧ act.Earned r (started r s) result acts) ∧
      (result = .ok () ↔ Succeeds r (started r s) acts) ∧
      Ends r result acts after status said := by
  obtain ⟨result, t, acts, hplain, hobserved, hcourse, hguarded, htold⟩ :=
    runJob_course (η := η) canonical unopened inRange (unopened.listen _ hs : fresh (started r s))
  rw [verdict] at hplain hobserved
  -- As it ends: code of the module has ended it by now, or did so in the job, or may do so when it
  -- leaves.
  cases hended : Loading.ended? t with
  | some status =>
    rw [hended] at hplain hobserved
    have hopened : Opened acts := hguarded.resolve_left fun hfresh => by
      rw [unopened.running hfresh] at hended
      cases hended
    refine ⟨result, status, t, acts, [], run_ended accepted hplain, ?_, hcourse, hcourse.earned,
      hcourse.ok_iff, .byModule hopened (.inl hended) (List.nil_prefix)⟩
    rw [List.append_nil]
    exact run_ended (s := (⟨s, []⟩ : Observed σ η)) accepted hobserved
  | none =>
    rw [hended] at hplain hobserved
    by_cases own : ∀ status, result ≠ .error (.ended status)
    · have hrun := run_left accepted hplain hcourse.in_range own
      have hrun' := run_left (s := (⟨s, []⟩ : Observed σ η)) accepted hobserved hcourse.in_range own
      rw [finished_observed, Observed.ended?_mk] at hrun'
      refine ⟨result, _, _, acts, closing result, hrun, hrun', hcourse, hcourse.earned,
        hcourse.ok_iff, ?_⟩
      cases hlate : Loading.ended? (finished result t) with
      | none => exact .itself hlate own
      | some status =>
        have hopened : Opened acts := hguarded.resolve_left fun hfresh => by
          rw [unopened.finished result hfresh] at hlate
          cases hlate
        exact .byModule hopened (.inl hlate) (List.prefix_refl _)
    · obtain ⟨status, hresult⟩ := not_forall_not.mp own
      subst hresult
      have hcalled : Told r acts t status := htold status rfl
      have hopened : Opened acts := by
        rcases hcalled with hnone | ⟨address, hmem⟩
        · rw [hended] at hnone
          cases hnone
        · obtain ⟨-, -, -, library, p, name, made, loaded, -⟩ := hcourse.earned _ hmem
          exact made.opened loaded
      refine ⟨.error (.ended status), status, t, acts, [], run_ended accepted hplain, ?_, hcourse,
        hcourse.earned, hcourse.ok_iff, .byModule hopened hcalled (List.nil_prefix)⟩
      rw [List.append_nil]
      exact run_ended (s := (⟨s, []⟩ : Observed σ η)) accepted hobserved

end Programs

end Courses

/-! ## A trial -/

/-- A machine on which files are empty, programs exit with code 0, modules open and symbols are
found; what is called answers as told, and the last code of a module may end the program. -/
structure Trial where
  answer : Except WaitStatus Int
  last : Option WaitStatus := none
  ended : Option WaitStatus := none

namespace Trial

instance : Logging Trial where
  log _ s := s

instance : Files Trial where
  currentDir _ := .ok "/"
  createDirs _ := return
  canonical _ _ := .ok "/out"
  readText _ _ := .ok ""

instance : Environment Trial where
  valueOf _ _ := none

instance : Numbering Trial where
  processId _ := 1
  nextNumber := return 0

instance : Spawning Trial where
  exchange _ := return .finished ⟨.ofWord 0, ByteArray.empty, ByteArray.empty⟩

instance : Loading Trial Unit where
  openModule _ := return .ok ()
  lookUp _ _ := return .ok 1
  close _ := modifyGet fun s => (.ok (), { s with ended := s.last })
  ended? s := s.ended

instance : Console Trial where
  out _ s := s
  err _ s := s
  listen _ s := s

instance : Calling Trial where
  call _ _ := do return (← get).answer

def arguments : List ByteString :=
  ["call", "s.cpp", "-s", "leave", "--out-dir", "out"].map ByteString.ofText

/-- What the arguments ask for. -/
def request : Request where
  job := .call
  verbose := false
  format := .text
  files := ["s.cpp"]
  symbols := ["leave"]
  arguments := []
  toolchain := { outDir := some "out" }

theorem accepted : Request.parse arguments = .ok request := by
  have hparse : (Request.parse arguments).toOption = some request := by decide +kernel
  cases h : Request.parse arguments with
  | ok r => rw [h] at hparse; exact congrArg Except.ok (Option.some.inj hparse)
  | error e => rw [h] at hparse; cases hparse

theorem canonical : CanonicalAbsolute Trial := by
  intro path s dir h
  cases h
  decide

theorem inRange : request.InRange := nofun

theorem unopened : Unopened (η := Unit) fun s : Trial => s.ended = none where
  running h := h
  finish h := h
  log _ _ h := h
  createDirs _ _ h := h
  nextNumber h := h
  engine _ _ h := h
  exchange _ _ h := h
  out _ _ h := h
  err _ _ h := h
  listen _ _ h := h

/-- A function that returns. -/
def returning : Trial := { answer := .ok 7 }

/-- A function that returns, in a module that then ends the program when it is let go of. -/
def parting : Trial := { answer := .ok 7, last := some (.exited 3) }

/-- A function that ends the program. -/
def leaving : Trial := { answer := .error (.exited 3) }

end Trial

/-- A text that was printed. -/
def Act.printed? : Act η → Option String
  | .printed text => some text
  | _ => none

theorem printed?_eq_some {act : Act η} {text : String} (h : act.printed? = some text) :
    act = .printed text := by
  cases act <;> cases h
  rfl

/-- What is printed was done in the job. -/
theorem Ends.printed {r : Request} {result : Except Failure Unit} {acts said : List (Act η)}
    [Loading σ η]
    {after : σ} {status : WaitStatus} (h : Ends r result acts after status said) {text : String}
    (hmem : text ∈ (acts ++ said).filterMap Act.printed?) : .printed text ∈ acts := by
  have hclosing : said <+: closing result := by
    cases h with
    | itself => exact List.prefix_refl _
    | byModule _ _ h => exact h
  obtain ⟨act, hact, hprinted⟩ := List.mem_filterMap.mp hmem
  rw [printed?_eq_some hprinted] at hact
  rcases List.mem_append.mp hact with hacts | hsaid
  · exact hacts
  · have hlast := hclosing.subset hsaid
    rcases result with f | _
    · cases f <;> simp [closing] at hlast
    · simp [closing] at hlast

/-- A call that returns passes all stages, and is reported. The program then exits with code 0,
unless the module ends it in another way as it is let go of. -/
theorem returning_call_succeeds :
    (∃ (after : Trial) (acts said : List (Act Unit)),
      (run (η := Unit) Trial.arguments : StateM (Observed Trial Unit) WaitStatus).run
        ⟨.returning, []⟩
        = (.exited 0, ⟨after, acts ++ said⟩) ∧
      Succeeds Trial.request (started Trial.request Trial.returning) acts ∧
      (acts ++ said).filterMap Act.printed? = ["✓ leave() = 7\n"]) ∧
    ∃ (after : Trial) (acts said : List (Act Unit)),
      (run (η := Unit) Trial.arguments : StateM (Observed Trial Unit) WaitStatus).run ⟨.parting, []⟩
        = (.exited 3, ⟨after, acts ++ said⟩) ∧
      Succeeds Trial.request (started Trial.request Trial.parting) acts ∧ Opened acts ∧
      (acts ++ said).filterMap Act.printed? = ["✓ leave() = 7\n"] := by
  constructor
  · obtain ⟨result, status, after, acts, said, -, hrun, -, hearned, hsucceeds, hends⟩ :=
      run_fail_fast Trial.canonical Trial.unopened Trial.accepted Trial.inRange
        (s := .returning) rfl
    obtain rfl : status = .exited 0 := (congrArg Prod.fst hrun).symm.trans (by decide +kernel)
    have htexts : (acts ++ said).filterMap Act.printed? = ["✓ leave() = 7\n"] :=
      (congrArg (·.2.trace.filterMap Act.printed?) hrun).symm.trans (by decide +kernel)
    obtain ⟨-, -, hbuild | hok⟩ :=
      hearned _ (hends.printed (by rw [htexts]; exact List.mem_singleton.mpr rfl))
    · cases hbuild
    · exact ⟨after, acts, said, hrun, hsucceeds.mp hok, htexts⟩
  · obtain ⟨result, status, after, acts, said, -, hrun, -, hearned, hsucceeds, hends⟩ :=
      run_fail_fast Trial.canonical Trial.unopened Trial.accepted Trial.inRange (s := .parting) rfl
    obtain rfl : status = .exited 3 := (congrArg Prod.fst hrun).symm.trans (by decide +kernel)
    have htexts : (acts ++ said).filterMap Act.printed? = ["✓ leave() = 7\n"] :=
      (congrArg (·.2.trace.filterMap Act.printed?) hrun).symm.trans (by decide +kernel)
    obtain ⟨-, -, hbuild | hok⟩ :=
      hearned _ (hends.printed (by rw [htexts]; exact List.mem_singleton.mpr rfl))
    · cases hbuild
    have hopened : Opened acts := by
      subst hok
      generalize hstatus : WaitStatus.exited 3 = status at hends
      cases hends with
      | itself => cases hstatus
      | byModule opened => exact opened
    exact ⟨after, acts, said, hrun, hsucceeds.mp hok, hopened, htexts⟩

/-- That all stages have been passed does not mean that the program exits with code 0: the function
that is called may end it, and so may a module that is let go of after the function has returned. -/
theorem called_function_ends_program :
    (∃ (library : Library Unit) (t : Trial),
      (loadedModule Trial.request : Action Trial Failure (Library Unit)).exec
        (started Trial.request Trial.leaving) = (.ok library, t) ∧
      ((library.resolveFunction Trial.request.symbol).run t).1.1 = .ok 1) ∧
    ((run (η := Unit) Trial.arguments : StateM Trial WaitStatus).run Trial.leaving).1 = .exited 3 ∧
    ((runCall (η := Unit) Trial.request Trial.request.symbol : Action Trial Failure Unit).exec
      (started Trial.request Trial.parting)).1.toOption = some () ∧
    ((run (η := Unit) Trial.arguments : StateM Trial WaitStatus).run Trial.parting).1
      = .exited 3 := by
  refine ⟨?_, by decide +kernel, by decide +kernel, by decide +kernel⟩
  have hloads : ((loadedModule Trial.request : Action Trial Failure (Library Unit)).exec
      (started Trial.request Trial.leaving)).1.toOption.map Library.handle = some (some ()) := by
        decide +kernel
  cases h : (loadedModule Trial.request : Action Trial Failure (Library Unit)).exec
      (started Trial.request Trial.leaving) with
  | mk answer t =>
    rw [h] at hloads
    cases answer with
    | error f => cases hloads
    | ok library =>
      refine ⟨library, t, rfl, ?_⟩
      rw [library.resolveFunction_loaded _ (Option.some.inj hloads)]
      rfl

end ModuleForge.Cli
