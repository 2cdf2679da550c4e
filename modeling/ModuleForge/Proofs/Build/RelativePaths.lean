import ModuleForge.Proofs.Arguments
import ModuleForge.Proofs.Build.Handover

/-!
# Relative paths of a configuration

A configuration names directories and tools by paths. A builder passes them on as they stand there,
the directories by the texts that show them (`Config.Gives`), and its tools run in the output
directory, so that is where they look for what a relative path names.
`Builder.relative_paths_kept_iff` says exactly when this is the path that the caller means: the
output directory is where the caller is, and the path is a text or that of a program. A path that is
no text never leads there, since what shows it has other steps (`Path.same_join_shown_iff`). Paths
are compared by their components (`Path.same`), with `..` kept and no link followed.
-/
namespace ModuleForge

/-! ## Paths as they are shown -/

namespace Path

theorem separator_not_mem_shown {bs : ByteString} (h : separator ∉ bs) :
    separator ∉ Text.shown bs :=
  fun hmem => h (Text.mem_of_mem_shown (by decide) hmem)

theorem shown_eq_nil {bs : ByteString} : Text.shown bs = [] ↔ bs = [] :=
  Text.shown_eq_ascii (by simp)

theorem shown_eq_dot {bs : ByteString} : Text.shown bs = [dot] ↔ bs = [dot] :=
  Text.shown_eq_ascii (by simp [dot])

/-- What is shown of a path is cut where the path is. -/
theorem pieces_shown (bs : ByteString) : pieces (Text.shown bs) = (pieces bs).map Text.shown := by
  induction hn : bs.length using Nat.strongRecOn generalizing bs with
  | ind n ih =>
    by_cases hmem : separator ∈ bs
    · obtain ⟨a, c, rfl, ha⟩ := List.eq_append_cons_of_mem hmem
      have hc : pieces (Text.shown c) = (pieces c).map Text.shown :=
        ih c.length (by simp at hn; omega) c rfl
      rw [Text.shown_append_ascii (by decide), pieces_append_separator, pieces_append_separator, hc,
        pieces_of_not_mem ha, pieces_of_not_mem (separator_not_mem_shown ha)]
      rfl
    · rw [pieces_of_not_mem hmem, pieces_of_not_mem (separator_not_mem_shown hmem)]
      rfl

/-- The pieces tell the bytes. -/
theorem intercalate_pieces (bs : ByteString) : [separator].intercalate (pieces bs) = bs := by
  induction bs with
  | nil => rfl
  | cons b rest ih =>
    obtain ⟨piece, more, hpieces⟩ := List.exists_cons_of_ne_nil (pieces_ne_nil rest)
    rw [hpieces] at ih
    by_cases hb : b = separator
    · rw [pieces, if_pos hb, hpieces, List.intercalate_cons_cons, ih, hb]
      rfl
    · rw [pieces, if_neg hb, hpieces]
      cases more with
      | nil => simpa using ih
      | cons next more =>
        rw [List.intercalate_cons_cons] at ih ⊢
        rw [← ih]
        rfl

theorem component_inj {p q : ByteString} : component p = component q ↔ p = q := by
  refine ⟨fun h => ?_, congrArg component⟩
  unfold component at h
  grind

/-- A relative path is shown as a relative path. -/
theorem isAbsolute_shown {bs : ByteString} (h : (⟨bs⟩ : Path).isAbsolute = false) :
    (⟨Text.shown bs⟩ : Path).isAbsolute = false := by
  have hhead : bs.head? ≠ some separator := by simpa [isAbsolute] using h
  by_cases hnil : bs = []
  · rw [shown_eq_nil.mpr hnil]
    rfl
  obtain ⟨b, piece, more, hpieces⟩ := pieces_of_relative hnil hhead
  -- A path from the root has nothing before its first separator; the first piece here is shown by
  -- something.
  have hfirst : pieces (Text.shown bs) = Text.shown (b :: piece) :: more.map Text.shown := by
    rw [pieces_shown, hpieces, List.map_cons]
  rw [isAbsolute, beq_eq_false_iff_ne]
  intro hroot
  obtain ⟨rest, hrest⟩ : ∃ rest, Text.shown bs = separator :: rest :=
    List.head?_eq_some_iff.mp hroot
  rw [hrest, pieces, if_pos rfl] at hfirst
  exact List.cons_ne_nil b piece (shown_eq_nil.mp (List.cons.inj hfirst).1.symm)

theorem steps_shown (bs : ByteString) :
    (⟨Text.shown bs⟩ : Path).steps = (⟨bs⟩ : Path).steps.map Text.shown := by
  simp only [steps, pieces_shown, List.filter_map, Function.comp_def, ne_eq, shown_eq_nil]

theorem later_shown (ss : List ByteString) :
    later (ss.map Text.shown) = (ss.filter (· ≠ [dot])).map fun s => component (Text.shown s) := by
  simp only [later, List.filter_map, Function.comp_def, ne_eq, shown_eq_dot, List.map_map]

/-- Steps that are shown by what they lead to are shown as they are. -/
theorem later_shown_eq_iff (ss : List ByteString) :
    later (ss.map Text.shown) = later ss ↔ ∀ s ∈ ss, Text.shown s = s := by
  rw [later_shown, later, List.map_inj_left]
  constructor
  · intro h s hs
    by_cases hdot : s = [dot]
    · rw [hdot, shown_eq_dot.mpr rfl]
    · exact component_inj.mp (h s (by simp [hs, hdot]))
  · exact fun h s hs => congrArg component (h s (List.mem_of_mem_filter hs))

theorem shown_steps_iff (bs : ByteString) :
    (∀ s ∈ (⟨bs⟩ : Path).steps, Text.shown s = s) ↔ Text.shown bs = bs := by
  constructor
  · intro h
    have hpieces : (pieces bs).map Text.shown = (pieces bs).map id := by
      refine List.map_inj_left.mpr fun piece hpiece => ?_
      by_cases hnil : piece = []
      · rw [hnil, shown_eq_nil.mpr rfl, id]
      · exact h piece (by simp [steps, hpiece, hnil])
    rw [List.map_id, ← pieces_shown] at hpieces
    rw [← intercalate_pieces (Text.shown bs), hpieces, intercalate_pieces]
  · intro h
    have hpieces : (pieces bs).map Text.shown = (pieces bs).map id := by
      rw [← pieces_shown, h, List.map_id]
    exact fun s hs => List.map_inj_left.mp hpieces s (List.mem_of_mem_filter hs)

/-! ## One way from two directories -/

/-- One relative way leads to the same file only from the same directory. -/
theorem same_join_iff {a b p : Path} (ha : a.isAbsolute = true) (hb : b.isAbsolute = true)
    (hp : p.isAbsolute = false) : (a.join p).same (b.join p) = true ↔ a.same b = true := by
  rw [same_iff, same_iff, components_join (bytes_ne_nil ha) hp,
    components_join (bytes_ne_nil hb) hp, List.append_left_inj]

/-- A way that is shown leads to where the way itself leads only from the same directory, and if it
is shown as it is. -/
theorem same_join_shown_iff {a b p : Path} (ha : a.isAbsolute = true) (hb : b.isAbsolute = true)
    (hp : p.isAbsolute = false) :
    (a.join ⟨Text.shown p.bytes⟩).same (b.join p) = true ↔ a.same b = true ∧
      Text.shown p.bytes = p.bytes := by
  have hbelow : (⟨Text.shown p.bytes⟩ : Path).below = p.below ↔ Text.shown p.bytes = p.bytes := by
    rw [below_of_relative (isAbsolute_shown hp), below_of_relative hp, steps_shown,
      later_shown_eq_iff, shown_steps_iff]
  have hlength : (⟨Text.shown p.bytes⟩ : Path).below.length = p.below.length := by
    rw [below_of_relative (isAbsolute_shown hp), below_of_relative hp, steps_shown,
      later_shown, later, List.length_map, List.length_map]
  rw [same_iff, same_iff, components_join (bytes_ne_nil ha) (isAbsolute_shown hp),
    components_join (bytes_ne_nil hb) hp, ← hbelow]
  exact ⟨fun h => List.append_inj' h hlength, fun h => by rw [h.1, h.2]⟩

end Path

/-! ## What runs are given -/

variable {σ η : Type}

/-- How a run is given a path of a configuration: behind an option in its place, or as its program.
A program that is named without a separator is no path. -/
inductive Config.Gives (c : Config) (run : Invocation) : Path → ByteString → Prop
  | includeDir {n : Nat} {dir : Path} {given : ByteString}
    (listed : c.context.includeDirs[n]? = some dir)
      (stands : run.arguments[n]? = some (ByteString.ofText "-I" ++ given)) : Gives c run dir given
  | libraryDir {n : Nat} {dir : Path} {given : ByteString}
    (listed : c.context.libraryDirs[n]? = some dir)
      (stands : run.arguments[c.context.includeDirs.length + n]?
        = some (ByteString.ofText "-L" ++ given)) :
      Gives c run dir given
  | program (named : Path.separator ∈ run.program.bytes) : Gives c run run.program run.program.bytes

namespace Config

variable {c : Config} {dir : Path}

theorem compileRun_arguments (c : Config) (dir : Path) (t : Target) : ∃ rest : List ByteString,
    (c.compileRun dir t).arguments
      = c.context.includeDirs.map (fun d => ByteString.ofText "-I" ++ Text.shown d.bytes)
        ++ (c.context.libraryDirs.map (fun d => ByteString.ofText "-L" ++ Text.shown d.bytes)
          ++ rest) := by
  simp only [compileRun, Context.arguments, List.map_append, List.map_map, Function.comp_def,
    Path.ofText_display, List.append_assoc]
  exact ⟨_, rfl⟩

theorem compileRun_includeDir {n : Nat} {d : Path} (t : Target)
    (listed : c.context.includeDirs[n]? = some d) :
    (c.compileRun dir t).arguments[n]? = some (ByteString.ofText "-I" ++ Text.shown d.bytes) := by
  obtain ⟨rest, h⟩ := c.compileRun_arguments dir t
  have hn : n < c.context.includeDirs.length := (List.getElem?_eq_some_iff.mp listed).1
  rw [h, List.getElem?_append_left (by simpa using hn), List.getElem?_map, listed]
  rfl

theorem compileRun_libraryDir {n : Nat} {d : Path} (t : Target)
    (listed : c.context.libraryDirs[n]? = some d) :
    (c.compileRun dir t).arguments[c.context.includeDirs.length + n]?
      = some (ByteString.ofText "-L" ++ Text.shown d.bytes) := by
  obtain ⟨rest, h⟩ := c.compileRun_arguments dir t
  have hn : n < c.context.libraryDirs.length := (List.getElem?_eq_some_iff.mp listed).1
  rw [h, List.getElem?_append_right (by simp), List.getElem?_append_left (by simpa using hn),
    List.length_map, Nat.add_sub_cancel_left, List.getElem?_map, listed]
  rfl

/-- A compilation is given every directory of the context. -/
theorem compileRun_gives (t : Target) {d : Path}
    (h : d ∈ c.context.includeDirs ++ c.context.libraryDirs) :
    c.Gives (c.compileRun dir t) d (Text.shown d.bytes) := by
  rcases List.mem_append.mp h with h | h
  · obtain ⟨n, hn⟩ := List.mem_iff_getElem?.mp h
    exact .includeDir hn (compileRun_includeDir t hn)
  · obtain ⟨n, hn⟩ := List.mem_iff_getElem?.mp h
    exact .libraryDir hn (compileRun_libraryDir t hn)

/-- Its directories are given by what shows them, and its program as it is. -/
theorem compileRun_given {t : Target} {p : Path} {given : ByteString}
    (h : c.Gives (c.compileRun dir t) p given) :
    given = Text.shown p.bytes ∨ given = p.bytes := by
  cases h with
  | includeDir listed stands =>
    rw [compileRun_includeDir t listed] at stands
    exact .inl (List.append_cancel_left (Option.some.inj stands)).symm
  | libraryDir listed stands =>
    rw [compileRun_libraryDir t listed] at stands
    exact .inl (List.append_cancel_left (Option.some.inj stands)).symm
  | program => exact .inr rfl

/-- No argument of a linking is one of these options. -/
theorem linkRun_argument (absolute : dir.isAbsolute = true) {process number : Nat} {ts : Targets}
    {argument : ByteString}
    (h : argument ∈ (c.linkRun dir (moduleName process number) ts).arguments) :
    argument.take 2 ≠ ByteString.ofText "-I" ∧ argument.take 2 ≠ ByteString.ofText "-L" := by
  have hrooted {b : ByteString} (hb : b.head? = some Path.separator) :
      b.take 2 ≠ ByteString.ofText "-I" ∧ b.take 2 ≠ ByteString.ofText "-L" := by
    obtain ⟨rest, rfl⟩ := List.head?_eq_some_iff.mp hb
    have hdash : Path.separator ≠ 45 := by decide
    exact ⟨fun h => hdash (List.cons.inj h).1, fun h => hdash (List.cons.inj h).1⟩
  rw [linkRun] at h
  simp only [List.mem_append, List.mem_cons, List.not_mem_nil, or_false, List.mem_map] at h
  obtain (rfl | rfl | rfl | rfl | rfl) | ⟨t, -, rfl⟩ := h
  · decide
  · decide
  · decide
  · decide
  · have hname : ByteString.ofText (moduleName process number)
        = ByteString.ofText "exec_" ++ ByteString.ofText
          (toString process ++ "_" ++ toString number ++ ".so") := by
      simp only [moduleName, ← ByteString.ofText_append, String.append_assoc]
    rw [hname, List.take_append_of_le_length (by decide)]
    decide
  · have hjoined : (dir.join t.objectName).isAbsolute = true := by
      cases hname : t.objectName.isAbsolute with
      | true => rw [Path.join_of_isAbsolute hname, hname]
      | false => rw [Path.isAbsolute_join (Path.bytes_ne_nil absolute) hname, absolute]
    exact hrooted (by simpa [Path.isAbsolute] using hjoined)

/-- A linking is given no directories. -/
theorem linkRun_given (absolute : dir.isAbsolute = true) {process number : Nat}
    {ts : Targets} {p : Path}
    {given : ByteString} (h : c.Gives (c.linkRun dir (moduleName process number) ts) p given) :
    given = p.bytes := by
  cases h with
  | includeDir _ stands =>
    exact absurd rfl (linkRun_argument absolute (List.mem_of_getElem? stands)).1
  | libraryDir _ stands =>
    exact absurd rfl (linkRun_argument absolute (List.mem_of_getElem? stands)).2
  | program => rfl

end Config

/-- A build runs nothing but compilations of its targets and linkings of them. -/
theorem Proceeds.runs [Logging σ] [Loading σ η] {c : Config} {dir : Path} {ts : Targets}
    {answer : Except BuildError (Library η)} {deeds : List (Deed η)}
    (h : Proceeds (σ := σ) c dir ts answer deeds) {run : Invocation}
    {ran : Except ProcessError Output}
    (mem : .ran run ran ∈ deeds) :
    (∃ t ∈ ts, run = c.compileRun dir t) ∨
      ∃ process number, run = c.linkRun dir (moduleName process number) ts := by
  cases h with
  | stops compiling =>
    obtain ⟨t, ht, _, hdeed⟩ | ⟨_, hdeed⟩ := Config.compiling_runs_compiler compiling _ mem
    · exact .inl ⟨t, ht, (Deed.ran.inj hdeed).1⟩
    · cases hdeed
  | links compiling linking =>
    rcases List.mem_append.mp mem with mem | mem
    · obtain ⟨t, ht, _, hdeed⟩ | ⟨_, hdeed⟩ := Config.compiling_runs_compiler compiling _ mem
      · exact .inl ⟨t, ht, (Deed.ran.inj hdeed).1⟩
      · cases hdeed
    cases linking with
    | refused fault => simp at mem
    | stops h =>
      obtain ⟨rfl, -⟩ : run = _ ∧ _ := by simpa using mem
      exact .inr ⟨_, _, rfl⟩
    | opens u zero =>
      rcases List.mem_append.mp mem with h | h
      · obtain ⟨rfl, -⟩ : run = _ ∧ _ := by simpa using h
        exact .inr ⟨_, _, rfl⟩
      · exact absurd h (ran_not_mem_loadDeeds _ _ _ _)

/-- What a path that a run is given means for a caller in `here`, compared with the path as seen
from there and with what the same run would mean by it in another directory. -/
theorem Invocation.meant_same_iff {run : Invocation} {here dir p : Path} {given : ByteString}
    (rooted : here.isAbsolute = true) (absolute : dir.isAbsolute = true)
    (inside : run.directory here = dir)
    (shown : given = Text.shown p.bytes ∨ given = p.bytes) (relative : p.isAbsolute = false) :
    ((run.meant here given).same (here.join p) = true ↔ dir.same here = true ∧ given = p.bytes) ∧
      ∀ other : Path, other.isAbsolute = true →
        ((run.meant here given).same
          (({ run with workingDir := some other } : Invocation).meant here given) = true
          ↔ dir.same other = true) := by
  have hmeant : run.meant here given = dir.join ⟨given⟩ := by rw [Invocation.meant, inside]
  have hrelative : (⟨given⟩ : Path).isAbsolute = false := by
    rcases shown with rfl | rfl
    · exact Path.isAbsolute_shown relative
    · exact relative
  rw [hmeant]
  refine ⟨?_, fun other hother => ?_⟩
  · rcases shown with rfl | rfl
    · exact Path.same_join_shown_iff absolute rooted relative
    · rw [and_iff_left rfl]
      exact Path.same_join_iff absolute rooted relative
  · have helsewhere : ({ run with workingDir := some other } : Invocation).meant here given
      = other.join ⟨given⟩ :=
      congrArg (Path.join · ⟨given⟩) (Path.join_of_isAbsolute hother)
    rw [helsewhere]
    exact Path.same_join_iff absolute hother hrelative

namespace Builder

variable [Logging σ] [Files σ] [Numbering σ] [Spawning σ] [Loading σ η]

/-- **What the paths of a configuration mean.** A caller in an absolute directory makes a builder
from a configuration whose output directory resolves to `dir`, and builds whatever targets. Every
run works in `dir`; each compilation is given all directories of the context. A relative path that a
run is given, be it that of a directory or of its program, means a path with the components of what
it means to the caller exactly if `dir` has those of where the caller is and the path is given as it
is; and the same run in another directory means the same by it only if that has the components of
`dir`. That `..` or a link may lead from two such paths to one file is left out of account. -/
theorem relative_paths_kept_iff (c : Config) {here dir : Path} {s s' : σ}
    (rooted : here.isAbsolute = true)
    (resolved : (c.resolveOutputDir : Action σ ConfigError Path).exec s = (.ok dir, s'))
    (absolute : dir.isAbsolute = true) :
    ∃ (b : Builder σ η) (w : Builder (Watched σ η) η),
      (ofConfig c : Action σ ConfigError (Builder σ η)).exec s = (.ok b, s') ∧
      (ofConfig c : Action (Watched σ η) ConfigError (Builder (Watched σ η) η)).exec ⟨s, []⟩
        = (.ok w, ⟨s', []⟩) ∧
      ∀ (ts : Targets) (t : σ), ∃ result after deeds,
        { b with targets := ts }.build.exec t = (result, after) ∧
        { w with targets := ts }.build.exec ⟨t, []⟩ = (result, ⟨after, deeds⟩) ∧
        ∀ run ran, .ran run ran ∈ deeds →
          run.directory here = dir ∧
          ((∃ target ∈ ts, run = c.compileRun dir target ∧
              ∀ d ∈ c.context.includeDirs ++ c.context.libraryDirs,
                c.Gives run d (Text.shown d.bytes)) ∨
            ∃ process number, run = c.linkRun dir (moduleName process number) ts) ∧
          ∀ p given, c.Gives run p given → p.isAbsolute = false →
            ((run.meant here given).same (here.join p) = true ↔ dir.same here = true ∧
            given = p.bytes) ∧
            ∀ other : Path, other.isAbsolute = true →
              ((run.meant here given).same
                (({ run with workingDir := some other } : Invocation).meant here given)
                = true ↔ dir.same other = true) := by
  refine ⟨configured c dir [], configured c dir [], ?_, ?_, fun ts t => ?_⟩
  · unfold ofConfig
    rw [Action.exec_bind, resolved]
    rfl
  · obtain ⟨answer, after, deeds, hplain, hwatched, hnone⟩ := c.resolveOutputDir_traces s []
    rw [resolved] at hplain
    cases hplain
    rw [hnone dir rfl] at hwatched
    unfold ofConfig
    rw [Action.exec_bind, hwatched]
    rfl
  · obtain ⟨result, after, deeds, hplain, hwatched, hproceeds⟩ :=
      configured_proceeds c absolute ts t []
    refine ⟨result, after, deeds, hplain, hwatched, fun run ran hran => ?_⟩
    obtain ⟨target, htarget, rfl⟩ | ⟨process, number, rfl⟩ := hproceeds.runs hran
    · have hinside : (c.compileRun dir target).directory here = dir :=
        Path.join_of_isAbsolute absolute
      exact ⟨hinside, .inl ⟨target, htarget, rfl, fun d hd => Config.compileRun_gives target hd⟩,
        fun p given hgives hrelative =>
          Invocation.meant_same_iff rooted absolute hinside
            (Config.compileRun_given hgives) hrelative⟩
    · have hinside : (c.linkRun dir (moduleName process number) ts).directory here = dir :=
        Path.join_of_isAbsolute absolute
      exact ⟨hinside, .inr ⟨process, number, rfl⟩, fun p given hgives hrelative =>
        Invocation.meant_same_iff rooted absolute hinside
          (.inr (Config.linkRun_given absolute hgives)) hrelative⟩

end Builder

/-! ## A configuration with relative paths -/

/-- Tools and headers below the directory of the caller, modules in `dir`. -/
def Config.workshop (dir : Path) : Config where
  compiler := "tools/cc"
  outputDir := some dir
  context := { includeDirs := ["include"] }

theorem shown_include : Text.shown (Path.ofText "include").bytes = (Path.ofText "include").bytes :=
  (Text.shown_eq_iff _).mpr (ByteString.isText_ofText "include")

/-- When the modules are put where the caller is, the headers are found. -/
theorem headers_kept :
    ∃ (w : Builder (Watched Rehearsal Unit) Unit) (result : Except BuildError (Library Unit))
      (after : Rehearsal) (deeds : List (Deed Unit)) (run : Invocation)
      (ran : Except ProcessError Output),
      (Builder.ofConfig (.workshop "/") : Action (Watched Rehearsal Unit) _ _).exec ⟨.smooth, []⟩
        = (.ok w, ⟨.smooth, []⟩) ∧
      { w with targets := [⟨⟨0, "a"⟩, "a.o"⟩] }.build.exec ⟨.smooth, []⟩
        = (result, ⟨after, deeds⟩) ∧
      .ran run ran ∈ deeds ∧
      (Config.workshop "/").Gives run "include" (Path.ofText "include").bytes ∧
      (run.meant "/" (Path.ofText "include").bytes).same ((Path.ofText "/").join "include")
        = true := by
  have rooted : (Path.ofText "/").isAbsolute = true := by decide
  obtain ⟨b, w, -, hw, hruns⟩ := Builder.relative_paths_kept_iff (σ := Rehearsal) (η := Unit)
    (.workshop "/")
    (s := .smooth) rooted rfl rooted
  obtain ⟨result, after, deeds, -, hwatched, hrun⟩ := hruns [⟨⟨0, "a"⟩, "a.o"⟩] .smooth
  obtain rfl : w = .configured (.workshop "/") "/" [] := (Except.ok.inj (congrArg Prod.fst hw)).symm
  have hfirst :
      deeds[0]? = some (.ran ((Config.workshop "/").compileRun "/" ⟨⟨0, "a"⟩, "a.o"⟩) (.ok _)) :=
    (congrArg (·.2.trace[0]?) hwatched).symm.trans rfl
  have hmem := List.mem_of_getElem? hfirst
  have hgives :
      (Config.workshop "/").Gives ((Config.workshop "/").compileRun "/" ⟨⟨0, "a"⟩, "a.o"⟩) "include"
      (Path.ofText "include").bytes := shown_include ▸ Config.compileRun_gives _ (by decide)
  obtain ⟨-, -, hmeans⟩ := hrun _ _ hmem
  exact ⟨_, result, after, deeds, _, _, hw, hwatched, hmem, hgives,
    (hmeans _ _ hgives (by decide)).1.mpr ⟨by decide, rfl⟩⟩

/-- When the modules are put elsewhere, neither the headers nor the compiler are those of the
caller. -/
theorem headers_sought_elsewhere :
    ∃ (w : Builder (Watched Rehearsal Unit) Unit) (result : Except BuildError (Library Unit))
      (after : Rehearsal) (run : Invocation) (ran : Except ProcessError Output)
      (more : List (Deed Unit)),
      (Builder.ofConfig (.workshop "/build") : Action (Watched Rehearsal Unit) _ _).exec
        ⟨.smooth, []⟩
        = (.ok w, ⟨.smooth, []⟩) ∧
      { w with targets := [⟨⟨0, "a"⟩, "a.o"⟩] }.build.exec ⟨.smooth, []⟩
        = (result, ⟨after, .ran run ran :: more⟩) ∧
      (Config.workshop "/build").Gives run "include" (Path.ofText "include").bytes ∧
      run.meant "/" (Path.ofText "include").bytes = "/build/include" ∧
      (Config.workshop "/build").Gives run "tools/cc" (Path.ofText "tools/cc").bytes ∧
      run.meant "/" (Path.ofText "tools/cc").bytes = "/build/tools/cc" ∧
      (Path.ofText "/build/include").same ((Path.ofText "/").join "include") = false ∧
      (Path.ofText "/build/tools/cc").same ((Path.ofText "/").join "tools/cc") = false := by
  have hgives : (Config.workshop "/build").Gives
      ((Config.workshop "/build").compileRun "/build" ⟨⟨0, "a"⟩, "a.o"⟩) "include"
        (Path.ofText "include").bytes :=
    shown_include ▸ Config.compileRun_gives _ (by decide)
  exact ⟨_, _, _, _, _, _, rfl, rfl, hgives, rfl, .program (by decide), rfl, by decide, by decide⟩

end ModuleForge
