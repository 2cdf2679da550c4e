import ModuleForge.Proofs.Cli.Making
import ModuleForge.Proofs.Config.Amount
import ModuleForge.Proofs.Text.Bytes

/-!
# Three layers of configuration

The file, or the defaults, lies below; the environment covers it, and the options cover both. Each
layer replaces the fields that it gives and leaves the others, except that the options only add to
the lists of the context, which the environment does not touch (`Layered`). `resolve_layers` shows
that this is all that can come of it, beside the two ways to fail: a file that cannot be loaded, and
a limit in the environment that is no number.
-/
namespace ModuleForge.Cli

variable {σ : Type}

/-! ## What the layers hold -/

/-- The configuration of the file that is named, or the defaults, and the state that reading it
leaves. -/
def Toolchain.loaded [Logging σ] [Files σ] (t : Toolchain) (s : σ) :
    Except ConfigError Config × σ :=
  match t.config with
  | some path => (Config.load path : Action σ _ _).exec s
  | none => (.ok {}, s)

/-- The texts of the variables that overlay a configuration; one that is not set has none. -/
structure Settings where
  compiler : Option String := none
  linker : Option String := none
  language : Option String := none
  outputDir : Option String := none
  timeoutSecs : Option String := none

/-- The variables are set so in a state. -/
structure Settings.Hold [Environment σ] (v : Settings) (s : σ) : Prop where
  compiler : Environment.valueOf Config.variableNames.compiler s = v.compiler.map ByteString.ofText
  linker : Environment.valueOf Config.variableNames.linker s = v.linker.map ByteString.ofText
  language : Environment.valueOf Config.variableNames.language s = v.language.map ByteString.ofText
  outputDir : Environment.valueOf Config.variableNames.outputDir s
    = v.outputDir.map ByteString.ofText
  timeoutSecs : Environment.valueOf Config.variableNames.timeoutSecs s
    = v.timeoutSecs.map ByteString.ofText

/-- What a variable gives: an empty text is as good as none. -/
def given (value : Option String) : Option String := value.filter (· ≠ "")

/-- The limit that a variable gives can be read. -/
def Settings.Usable (v : Settings) : Prop :=
  ∀ text, given v.timeoutSecs = some text → ∃ n, Amount text n

/-- The limit in seconds of three layers: of the options, of the environment, of the file. -/
def LimitOf (flag : Option Duration) (setting : Option String) (base n : Nat) : Prop :=
  match flag, setting with
  | some d, _ => n = d.ceilSeconds
  | none, some text => Amount text n
  | none, none => n = base

/-- A configuration is `base` below the environment and the options. -/
structure Layered (t : Toolchain) (v : Settings) (base c : Config) : Prop where
  compiler : c.compiler = ((given v.compiler).map Path.ofText).getD base.compiler
  linker : c.linker = ((given v.linker).map Path.ofText).getD base.linker
  language : c.language = (given v.language).getD base.language
  outputDir : c.outputDir = (t.outDir <|> (given v.outputDir).map Path.ofText <|> base.outputDir)
  timeoutSecs : LimitOf t.timeout (given v.timeoutSecs) base.timeoutSecs c.timeoutSecs
  includeDirs : c.context.includeDirs = base.context.includeDirs ++ t.context.includeDirs
  libraryDirs : c.context.libraryDirs = base.context.libraryDirs ++ t.context.libraryDirs
  libraries : c.context.libraries = base.context.libraries ++ t.context.libraries
  defines : c.context.defines = base.context.defines ++ t.context.defines
  flags : c.context.flags = base.context.flags ++ t.context.flags

/-- What comes of the options and the environment, given what came of loading the file. -/
inductive Resolves (t : Toolchain) (v : Settings) :
    Except ConfigError Config → Except Toolchain.Obstacle Config → Prop where
  | unloaded (e : ConfigError) : Resolves t v (.error e) (.error (.config e))
  | unusable {base : Config} {text : String} (set : given v.timeoutSecs = some text)
      (unread : ∀ n, ¬ Amount text n) :
      Resolves t v (.ok base) (.error (.config (.invalidEnv Config.variableNames.timeoutSecs text)))
  | layered {base c : Config} (usable : v.Usable) (layers : Layered t v base c) :
    Resolves t v (.ok base) (.ok c)

/-! ## The environment -/

section Environment

variable [Environment σ]

theorem setting?_eq {s : σ} {name : String} {value : Option String}
    (h : Environment.valueOf name s = value.map ByteString.ofText) :
    Config.setting? s name = given value := by
  rw [Config.setting?, h, given]
  cases value with
  | none => rfl
  | some text => rw [Option.map_some, Option.bind_some, Text.text?_ofText]

/-- The fields that the environment gives in place of those of `base`, but for the limit. -/
def Settings.cover (v : Settings) (base : Config) : Config :=
  { base with
    compiler := ((given v.compiler).map Path.ofText).getD base.compiler
    linker := ((given v.linker).map Path.ofText).getD base.linker
    language := (given v.language).getD base.language
    outputDir := (given v.outputDir).map Path.ofText <|> base.outputDir }

theorem Settings.Hold.overlay_eq {v : Settings} {s : σ} (hold : v.Hold s) (base : Config) :
    base.overlay (Config.setting? s) = match given v.timeoutSecs with
      | none => .ok (v.cover base)
      | some text => match Config.readNatural? (Text.trim text) with
        | some n => .ok { v.cover base with timeoutSecs := n }
        | none => .error (.invalidEnv Config.variableNames.timeoutSecs text) := by
  have helim {α β : Type} (o : Option α) (b : β) (f : α → β) : o.elim b f = (o.map f).getD b := by
    cases o <;> rfl
  have hsome (o : Option String) (b : Option Path) : o.elim b (fun dir => some (Path.ofText dir))
      = (o.map Path.ofText <|> b) := by
    cases o <;> rfl
  unfold Config.overlay
  rw [setting?_eq hold.compiler, setting?_eq hold.linker, setting?_eq hold.language,
    setting?_eq hold.outputDir, setting?_eq hold.timeoutSecs, helim, helim, hsome]
  cases given v.timeoutSecs with
  | none => rfl
  | some text =>
    dsimp only
    cases Config.readNatural? (Text.trim text) <;> rfl

/-- The environment covers a configuration, unless the limit in it is no number. -/
theorem Settings.Hold.overlay_cases {v : Settings} {s : σ} (hold : v.Hold s) (base : Config) :
    (∃ text, given v.timeoutSecs = some text ∧ (∀ n, ¬ Amount text n) ∧
      base.overlay (Config.setting? s)
        = .error (.invalidEnv Config.variableNames.timeoutSecs text)) ∨
    ∃ n, v.Usable ∧ LimitOf none (given v.timeoutSecs) base.timeoutSecs n ∧
      base.overlay (Config.setting? s) = .ok { v.cover base with timeoutSecs := n } := by
  rw [hold.overlay_eq, Settings.Usable]
  cases hgiven : given v.timeoutSecs with
  | none => exact .inr ⟨base.timeoutSecs, nofun, rfl, rfl⟩
  | some text =>
    cases hread : Config.readNatural? (Text.trim text) with
    | none =>
      refine .inl ⟨text, rfl, fun n h => ?_, by simp only [hread]⟩
      rw [readNatural?_trim.mpr h] at hread
      cases hread
    | some n =>
      refine .inr ⟨n, ?_, readNatural?_trim.mp hread, by simp only [hread]⟩
      rintro _ ⟨⟩
      exact ⟨n, readNatural?_trim.mp hread⟩

/-- What covers a configuration covers it as well when it lies there already. -/
theorem overlay_again {value : String → Option String} {c c' : Config}
    (h : c.overlay value = .ok c') :
    c'.overlay value = .ok c' := by
  have hagain {α β : Type} (o : Option α) (b : β) (f : α → β) :
      o.elim (o.elim b f) f = o.elim b f := by
    cases o <;> rfl
  have hgetD (o : Option String) (b : String) : o.getD (o.getD b) = o.getD b := by cases o <;> rfl
  unfold Config.overlay at h ⊢
  cases hlimit : value Config.variableNames.timeoutSecs with
  | none =>
    rw [hlimit] at h
    cases h
    simp only [hagain, hgetD]
  | some text =>
    rw [hlimit] at h
    cases hread : Config.readNatural? (Text.trim text) with
    | none => simp only [hread] at h; cases h
    | some n =>
      simp only [hread] at h
      cases h
      simp only [hread, hagain, hgetD]

theorem withEnvironment_twice (c : Config) (s : σ) :
    (c.withEnvironment >>= Config.withEnvironment : Action σ ConfigError Config).exec s
      = (c.withEnvironment : Action σ ConfigError Config).exec s := by
  rw [Action.exec_bind, Config.withEnvironment, Action.exec_reads]
  cases h : c.overlay (Config.setting? s) with
  | error e => rfl
  | ok c' => simp only [Config.withEnvironment, Action.exec_reads, overlay_again h]

end Environment

/-! ## The options -/

/-- Options whose limit is in range give a configuration over any other. -/
theorem Toolchain.overlay_eq {t : Toolchain}
    (inRange : ∀ d, t.timeout = some d → d.ceilSeconds < 2 ^ 64)
    (c : Config) : t.overlay c = .ok { c with
      outputDir := t.outDir <|> c.outputDir
      timeoutSecs := (t.timeout.map Duration.ceilSeconds).getD c.timeoutSecs
      context := c.context.append t.context } := by
  unfold Toolchain.overlay
  cases h : t.timeout with
  | none => rfl
  | some d => simp only [Toolchain.limitSeconds, if_pos (inRange d h)]; rfl

theorem layered_of_cover {t : Toolchain} {v : Settings} {base : Config} {n : Nat}
    (limit : LimitOf none (given v.timeoutSecs) base.timeoutSecs n) :
    Layered t v base { v.cover base with
      outputDir := t.outDir <|> (v.cover base).outputDir
      timeoutSecs := (t.timeout.map Duration.ceilSeconds).getD n
      context := base.context.append t.context } where
  compiler := rfl
  linker := rfl
  language := rfl
  outputDir := rfl
  timeoutSecs := by
    cases t.timeout with
    | none => exact limit
    | some d => rfl
  includeDirs := rfl
  libraryDirs := rfl
  libraries := rfl
  defines := rfl
  flags := rfl

theorem resolve_exec [Logging σ] [Files σ] [Environment σ] (t : Toolchain) (s : σ) :
    (t.resolve : Action σ _ _).exec s
      = ((t.loaded s).1.mapError Toolchain.Obstacle.config >>= fun base =>
      (base.overlay (Config.setting? (t.loaded s).2)).mapError Toolchain.Obstacle.config
        >>= t.overlay,
      (t.loaded s).2) := by
  have hcomplete (base : Config) (u : σ) : (t.complete base : Action σ _ _).exec u
      = ((base.overlay (Config.setting? u)).mapError Toolchain.Obstacle.config
        >>= t.overlay, u) := by
    rw [Toolchain.complete, Action.exec_bind, Action.exec_mapError, Config.withEnvironment,
      Action.exec_reads]
    cases base.overlay (Config.setting? u) <;> rfl
  rw [resolve_eq, Action.exec_bind, Toolchain.base, Toolchain.loaded]
  cases t.config with
  | none => exact hcomplete {} s
  | some path =>
    simp only [Action.exec_mapError]
    cases h : (Config.load path : Action σ _ _).exec s with
    | mk answer u => cases answer with
      | error e => rfl
      | ok base => exact hcomplete base u

/-- Options whose limit is in range resolve as the layers say, whatever loading the file came to: it
fails exactly when the file was not loaded, or else when the limit in the environment cannot be
read, and otherwise each field is that of the uppermost layer that gives it. Covering with the
environment once more changes nothing. -/
theorem resolve_layers [Logging σ] [Files σ] [Environment σ] (t : Toolchain)
    (inRange : ∀ d, t.timeout = some d → d.ceilSeconds < 2 ^ 64) (v : Settings) (s : σ)
    (hold : v.Hold (t.loaded s).2) :
    (∃ result, (t.resolve : Action σ _ _).exec s = (result, (t.loaded s).2) ∧
      Resolves t v (t.loaded s).1 result) ∧
    ∀ (c : Config) (u : σ), (c.withEnvironment >>= Config.withEnvironment : Action σ _ _).exec u
      = (c.withEnvironment : Action σ ConfigError Config).exec u := by
  refine ⟨⟨_, resolve_exec t s, ?_⟩, withEnvironment_twice⟩
  cases (t.loaded s).1 with
  | error e => exact .unloaded e
  | ok base =>
    show Resolves t v _ ((base.overlay _).mapError _ >>= t.overlay)
    rcases hold.overlay_cases base with ⟨text, hset, hunread, heq⟩ | ⟨n, husable, hlimit, heq⟩
    · rw [heq]
      exact .unusable hset hunread
    · rw [heq]
      show Resolves t v _ (t.overlay _)
      rw [t.overlay_eq inRange]
      exact .layered husable (layered_of_cover hlimit)

/-! ## A desk -/

/-- A machine whose files all hold one text, on which variables are set. -/
structure Desk where
  text : String := "\x7b\x7d"
  settings : Settings := {}

namespace Desk

instance : Logging Desk where
  log _ s := s

instance : Files Desk where
  currentDir _ := .ok "/"
  createDirs _ := return
  canonical path _ := .ok path
  readText _ s := .ok s.text

instance : Environment Desk where
  valueOf name s :=
    ([(Config.variableNames.compiler, s.settings.compiler),
      (Config.variableNames.linker, s.settings.linker),
      (Config.variableNames.language, s.settings.language),
      (Config.variableNames.outputDir, s.settings.outputDir),
      (Config.variableNames.timeoutSecs, s.settings.timeoutSecs)].lookup name).join.map
        ByteString.ofText

theorem hold (s : Desk) : s.settings.Hold s := ⟨rfl, rfl, rfl, rfl, rfl⟩

/-- The file, the variables and the options of this desk compete for the fields. -/
def crowded : Desk where
  text :=
    "\x7b\"compiler\":\"cc\",\"linker\":\"cc\",\"timeout_secs\":7,\"context\":\x7b\"flags\":[\"-a\"]\x7d\x7d"
  settings := { linker := some "ld", outputDir := some "", timeoutSecs := some " +9 " }

end Desk

/-- Options with half a second over one. -/
def Toolchain.hasty : Toolchain where
  config := some "forge.json"
  timeout := some ⟨1, 500000000, by decide⟩
  context := { flags := ["-b"] }

/-- What is read from the file of that desk. -/
def Desk.crowdedBase : Config :=
  { compiler := "cc", linker := "cc", timeoutSecs := 7, context := { flags := ["-a"] } }

theorem crowded_loaded : Toolchain.hasty.loaded Desk.crowded
    = (.ok Desk.crowdedBase, Desk.crowded) := by
  with_unfolding_all rfl

/-- These options, this environment and this file contend for the same fields. -/
theorem crowded_desk_resolves :
    (∀ d, Toolchain.hasty.timeout = some d → d.ceilSeconds < 2 ^ 64) ∧
    Desk.crowded.settings.Hold (Toolchain.hasty.loaded Desk.crowded).2 ∧
    ∃ result, (Toolchain.hasty.resolve : Action Desk _ _).exec Desk.crowded
      = (result, Desk.crowded) ∧
      Resolves Toolchain.hasty Desk.crowded.settings (.ok Desk.crowdedBase) result := by
  have inRange : ∀ d, Toolchain.hasty.timeout = some d → d.ceilSeconds < 2 ^ 64 := by
    rintro _ ⟨⟩
    decide
  have hold : Desk.crowded.settings.Hold (Toolchain.hasty.loaded Desk.crowded).2 := by
    rw [crowded_loaded]
    exact Desk.crowded.hold
  obtain ⟨result, hexec, hresolves⟩ :=
    (resolve_layers Toolchain.hasty inRange Desk.crowded.settings Desk.crowded hold).1
  rw [crowded_loaded] at hexec hresolves
  exact ⟨inRange, hold, result, hexec, hresolves⟩

end ModuleForge.Cli
