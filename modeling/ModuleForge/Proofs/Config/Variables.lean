import ModuleForge.Proofs.Action
import ModuleForge.Proofs.Config.Amount
import ModuleForge.Proofs.Text.Shown

/-!
# Variables over a configuration

Each of five variables of the environment gives one field of a configuration (`Config.Variable`). A
variable is heeded if its value is a text: the field is then what the value says, or the limit among
the variables is no number, which is the only failure (`Config.overlay_error_iff`). Of a variable
whose value is no text nothing is seen, as if it were not set; `Config.settings_heeded` says both,
for any environment.
-/
namespace ModuleForge.Config

/-- The variables that overlay a configuration. -/
inductive Variable where
  | compiler
  | linker
  | language
  | outputDir
  | timeoutSecs
  deriving DecidableEq, Repr

namespace Variable

def name : Variable → String
  | compiler => variableNames.compiler
  | linker => variableNames.linker
  | language => variableNames.language
  | outputDir => variableNames.outputDir
  | timeoutSecs => variableNames.timeoutSecs

/-- The field of a variable is what a value says, byte for byte or as a number. -/
def Sets : Variable → ByteString → Config → Prop
  | compiler, v, c => c.compiler = ⟨v⟩
  | linker, v, c => c.linker = ⟨v⟩
  | language, v, c => ByteString.ofText c.language = v
  | outputDir, v, c => c.outputDir = some ⟨v⟩
  | timeoutSecs, v, c => ∃ text, v = ByteString.ofText text ∧ Amount text c.timeoutSecs

/-- The field of a variable is what it was. -/
def Keeps : Variable → Config → Config → Prop
  | compiler, c, c' => c'.compiler = c.compiler
  | linker, c, c' => c'.linker = c.linker
  | language, c, c' => c'.language = c.language
  | outputDir, c, c' => c'.outputDir = c.outputDir
  | timeoutSecs, c, c' => c'.timeoutSecs = c.timeoutSecs

/-- In the state `t` the variable is not set, and the others are as in `s`. -/
structure Unset {σ : Type} [Environment σ] (x : Variable) (s t : σ) : Prop where
  gone : Environment.valueOf x.name t = none
  others : ∀ y : Variable, y ≠ x → Environment.valueOf y.name t = Environment.valueOf y.name s

end Variable

/-! ## Overlaying -/

/-- Only the values of the variables count. -/
theorem overlay_congr {value value' : String → Option String}
    (h : ∀ x : Variable, value x.name = value' x.name) (c : Config) :
    c.overlay value = c.overlay value' := by
  have hcompiler : value variableNames.compiler = value' variableNames.compiler := h .compiler
  have hlinker : value variableNames.linker = value' variableNames.linker := h .linker
  have hlanguage : value variableNames.language = value' variableNames.language := h .language
  have houtputDir : value variableNames.outputDir = value' variableNames.outputDir := h .outputDir
  have htimeoutSecs : value variableNames.timeoutSecs = value' variableNames.timeoutSecs :=
    h .timeoutSecs
  unfold overlay
  rw [hcompiler, hlinker, hlanguage, houtputDir, htimeoutSecs]

/-- Only a limit that is no number is an error. -/
theorem overlay_error_iff {value : String → Option String} {c : Config} {e : ConfigError} :
    c.overlay value = .error e ↔ ∃ text, value Variable.timeoutSecs.name = some text ∧
      (∀ n, ¬ Amount text n) ∧
      e = .invalidEnv Variable.timeoutSecs.name text := by
  show c.overlay value = _ ↔ ∃ text, value variableNames.timeoutSecs = some text ∧ _
  unfold overlay
  cases value variableNames.timeoutSecs with
  | none => simp
  | some secs =>
    have hread : readNatural? (Text.trim secs) = none ↔ ∀ n, ¬ Amount secs n := by
      simp only [Option.eq_none_iff_forall_ne_some, ne_eq, readNatural?_trim]
    dsimp only
    cases hsecs : readNatural? (Text.trim secs) with
    | none => simp [hread.mp hsecs, eq_comm, Variable.name]
    | some n => simp [← hread, hsecs]

/-- The fields but for the limit are given by their variables, or left. -/
theorem overlay_ok_eq {value : String → Option String} {c c' : Config}
    (h : c.overlay value = .ok c') :
    ∃ n, c' = { c with
        compiler := (value Variable.compiler.name).elim c.compiler Path.ofText
        linker := (value Variable.linker.name).elim c.linker Path.ofText
        language := (value Variable.language.name).getD c.language
        outputDir := (value Variable.outputDir.name).elim c.outputDir fun dir =>
    some (Path.ofText dir)
        timeoutSecs := n } ∧
      match value Variable.timeoutSecs.name with
      | none => n = c.timeoutSecs
      | some text => Amount text n := by
  show ∃ n, _ ∧ match value variableNames.timeoutSecs with
    | none => _
    | some text => _
  unfold overlay at h
  cases hsecs : value variableNames.timeoutSecs with
  | none =>
    rw [hsecs] at h
    cases h
    exact ⟨_, rfl, rfl⟩
  | some secs =>
    rw [hsecs] at h
    dsimp only at h
    cases hread : readNatural? (Text.trim secs) with
    | none => rw [hread] at h; cases h
    | some n =>
      rw [hread] at h
      cases h
      exact ⟨n, rfl, readNatural?_trim.mp hread⟩

/-- A variable with a value gives its field, and one without leaves it; the context is left in any
case. -/
theorem overlay_ok {value : String → Option String} {c c' : Config} (h : c.overlay value = .ok c') :
    c'.context = c.context ∧ ∀ x : Variable,
      (∀ text, value x.name = some text → x.Sets (ByteString.ofText text) c') ∧
        (value x.name = none → x.Keeps c c') := by
  obtain ⟨n, rfl, hlimit⟩ := overlay_ok_eq h
  refine ⟨rfl, fun x => ⟨fun text hvalue => ?_, fun hvalue => ?_⟩⟩
  · cases x with
    | timeoutSecs =>
      rw [hvalue] at hlimit
      exact ⟨text, rfl, hlimit⟩
    | _ => simp only [Variable.Sets, hvalue, Option.elim_some, Option.getD_some, Path.ofText]
  · cases x with
    | timeoutSecs =>
      rw [hvalue] at hlimit
      exact hlimit
    | _ => simp only [Variable.Keeps, hvalue, Option.elim_none, Option.getD_none]

/-! ## The environment -/

variable {σ : Type} [Environment σ]

theorem setting?_eq_some {s : σ} {name text : String} :
    setting? s name = some text ↔ Environment.valueOf name s = some (ByteString.ofText text) ∧
      text ≠ "" := by
  rw [setting?, Option.filter_eq_some_iff, Option.bind_eq_some_iff]
  simp only [Text.text?_eq_some, decide_eq_true_eq]
  constructor
  · rintro ⟨⟨_, h, rfl⟩, hne⟩
    exact ⟨h, hne⟩
  · rintro ⟨h, hne⟩
    exact ⟨⟨_, h, rfl⟩, hne⟩

/-- What is no text is as good as not set. -/
theorem setting?_of_broken {s : σ} {name : String} {v : ByteString}
    (set : Environment.valueOf name s = some v)
    (broken : ¬ v.IsText) : setting? s name = none := by
  refine Option.eq_none_iff_forall_ne_some.mpr fun text h => broken ?_
  rw [setting?_eq_some, set] at h
  exact ByteString.isText_iff.mpr ⟨text, Option.some.inj h.1⟩

/-- **Variables that are heeded.** Let a variable be set to something that is not empty, in whatever
environment. The environment overlays a configuration with that, unless the limit in it is a text
that says no number, which is then the error; no state is left but the one that was. If the value of
the variable is a text, its field is what that says. If it is not, its field is left, and nothing
would be different if the variable were not set. The context is left in any case. -/
theorem settings_heeded (c : Config) (x : Variable) {s : σ} {v : ByteString}
    (set : Environment.valueOf x.name s = some v) (filled : v ≠ []) :
    ∃ result, (c.withEnvironment : Action σ ConfigError Config).exec s = (result, s) ∧
      (∀ e, result = .error e ↔ ∃ text,
        Environment.valueOf Variable.timeoutSecs.name s
          = some (ByteString.ofText text) ∧ text ≠ "" ∧
          (∀ n, ¬ Amount text n) ∧ e = .invalidEnv Variable.timeoutSecs.name text) ∧
      (∀ c', result = .ok c' → c'.context = c.context ∧ (v.IsText → x.Sets v c') ∧
      (¬ v.IsText → x.Keeps c c')) ∧
      (¬ v.IsText → ∀ t : σ, x.Unset s t →
        ((c.withEnvironment : Action σ ConfigError Config).exec t).1 = result) := by
  refine ⟨c.overlay (setting? s), rfl, fun e => ?_, fun c' h => ?_, fun hbroken t hunset => ?_⟩
  · simp only [overlay_error_iff, setting?_eq_some, and_assoc]
  · obtain ⟨hcontext, hfields⟩ := overlay_ok h
    refine ⟨hcontext, fun htext => ?_, fun hbroken =>
      (hfields x).2 (setting?_of_broken set hbroken)⟩
    obtain ⟨text, rfl⟩ := ByteString.isText_iff.mp htext
    exact (hfields x).1 text
      (setting?_eq_some.mpr ⟨set, fun hempty => filled (by rw [hempty]; rfl)⟩)
  · show c.overlay (setting? t) = c.overlay (setting? s)
    refine overlay_congr (fun y => ?_) c
    by_cases hy : y = x
    · rw [hy, setting?_of_broken set hbroken, setting?, hunset.gone]
      rfl
    · rw [setting?, setting?, hunset.others y hy]

/-! ## A shell -/

/-- A machine with variables and nothing else. -/
structure Shell where
  valueOf : String → Option ByteString

instance : Environment Shell where
  valueOf name s := s.valueOf name

namespace Shell

/-- One variable is set. -/
def setting (x : Variable) (v : ByteString) : Shell where
  valueOf name := if name = x.name then some v else none

end Shell

/-- A compiler that is named by a text is the one that is used. -/
theorem named_compiler_used :
    ∃ c', (({} : Config).withEnvironment : Action Shell ConfigError Config).exec
        (.setting .compiler (ByteString.ofText "größe/cc"))
        = (.ok c', .setting .compiler (ByteString.ofText "größe/cc")) ∧
      c'.compiler = "größe/cc" := by
  obtain ⟨result, hrun, herror, hok, -⟩ := settings_heeded {} .compiler (σ := Shell)
    (s := .setting .compiler (ByteString.ofText "größe/cc"))
      (v := ByteString.ofText "größe/cc") rfl (by decide)
  cases result with
  | error e =>
    obtain ⟨text, hset, -⟩ := (herror e).mp rfl
    cases hset
  | ok c' => exact ⟨c', hrun, (hok c' rfl).2.1 (ByteString.isText_ofText _)⟩

/-- A limit that is no text at all says no number, and yet it is no error: it is as if no limit were
set. -/
theorem broken_limit_ignored :
    (({} : Config).withEnvironment : Action Shell ConfigError Config).exec
      (.setting .timeoutSecs [0xFF])
        = (.ok {}, .setting .timeoutSecs [0xFF]) ∧
      ∀ text n, Amount text n → ([0xFF] : ByteString) ≠ ByteString.ofText text := by
  have hbroken : ¬ ByteString.IsText [0xFF] := Text.not_isText_high (by decide)
  have hsetting (name : String) : setting? (Shell.setting .timeoutSecs [0xFF]) name = none := by
    by_cases hname : name = Variable.timeoutSecs.name
    · exact setting?_of_broken (if_pos hname) hbroken
    · have hunset : Environment.valueOf name (Shell.setting .timeoutSecs [0xFF]) = none :=
        if_neg hname
      rw [setting?, hunset]
      rfl
  refine ⟨?_, fun text n _ heq => hbroken (ByteString.isText_iff.mpr ⟨text, heq⟩)⟩
  show (overlay (setting? (Shell.setting .timeoutSecs [0xFF])) {}, _) = _
  rw [funext hsetting]
  rfl

end ModuleForge.Config
