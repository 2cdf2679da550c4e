import ModuleForge.Proofs.Build.Runs
import ModuleForge.Proofs.ModuleName

/-!
# From the compiler to the linker

A compiler is told on its argument line what to write, and a linker what to read. Each takes that as
seen from its own working directory, and a working directory as seen from the caller
(`Invocation.meant`). The object that passes between them names the file as the compilation found it
(`CompilerCommand.objectPath`), which is no absolute path when the working directory of the compiler
is not: a linker in another directory than the caller then looks elsewhere. `objects_met_iff` says
exactly when the path that is read is the one that was written, for all directories and names. Paths
are compared by their components (`Path.same`): `..` is kept and links are not followed, so paths
that differ may still lead to one file where there are links or `..`.
-/
namespace ModuleForge

/-! ## Directories of runs -/

namespace Invocation

/-- The working directory of a run for a caller in `here`. -/
def directory (i : Invocation) (here : Path) : Path := i.workingDir.elim here here.join

/-- What an argument means as a path when a caller in `here` runs the program. -/
def meant (i : Invocation) (here : Path) (argument : ByteString) : Path :=
  (i.directory here).join ⟨argument⟩

/-- The argument line of a run says to compile to `target`. -/
def Writes (i : Invocation) (target : ByteString) : Prop :=
  ∃ (context : List ByteString) (language : ByteString),
    i.arguments = context ++ (["-fPIC", "-o", target, "-c", language, "-"] : List ByteString)

end Invocation

theorem CompilerCommand.invocation_writes (k : CompilerCommand) (source : Source) (name : Path)
    (context : Option Context) : (k.invocation source name context).Writes name.bytes := ⟨_, _, rfl⟩

namespace LinkerCommand

/-- The directory for modules, for a caller in `here`. -/
def home (l : LinkerCommand) (here : Path) : Path := l.outputDir.elim here here.join

theorem directory_eq (l : LinkerCommand) (here : Path) :
    l.directory (.ok here) = .ok (l.home here) := by
  unfold directory home
  cases l.outputDir with
  | none => rfl
  | some dir =>
    by_cases habs : dir.isAbsolute = true
    · simp [habs, Path.join_of_isAbsolute habs]
    · simp only [habs]
      rfl

theorem home_isAbsolute (l : LinkerCommand) {here : Path} (rooted : here.isAbsolute = true) :
    (l.home here).isAbsolute = true := by
  unfold home
  cases l.outputDir with
  | none => exact rooted
  | some dir =>
    cases habs : dir.isAbsolute with
    | true => exact (congrArg Path.isAbsolute (Path.join_of_isAbsolute habs)).trans habs
    | false => exact (Path.isAbsolute_join (Path.bytes_ne_nil rooted) habs).trans rooted

/-- A linking by a caller in `here` is one in its absolute output directory. -/
theorem link_home [Logging σ] [Files σ] [Numbering σ] [Spawning σ] [Loading σ η] (l : LinkerCommand)
    (objects : List Object) {here : Path} {s : σ} (stands : Files.currentDir s = .ok here)
    (rooted : here.isAbsolute = true) : (l.link objects : Action σ BuildError (Library η)).exec s
      = ({ l with outputDir := some (l.home here) }.link objects :
          Action σ BuildError (Library η)).exec s := by
  have hprepare : l.prepare.exec s
      = ({ l with outputDir := some (l.home here) } : LinkerCommand).prepare.exec s := by
    have hdirectory :
        ({ l with outputDir := some (l.home here) } : LinkerCommand).directory (.ok here)
        = .ok (l.home here) := by
      simp [directory, l.home_isAbsolute rooted]
    simp only [prepare, Action.exec_bind, Action.exec_reads, stands, directory_eq l, hdirectory]
  rw [link_eq, link_eq, Action.exec_bind, Action.exec_bind, hprepare]
  rfl

end LinkerCommand

/-! ## When the file is met -/

/-- Objects are found where they were put: their name is absolute, or the compiler has no directory
of its own or an absolute one, or the linker works where the caller is. -/
def Aligned (here : Path) (k : CompilerCommand) (l : LinkerCommand) (name : Path) : Prop :=
  name.isAbsolute = true ∨ (∀ dir, k.workingDir = some dir → dir.isAbsolute = true) ∨
    (l.home here).same here = true

/-- As seen from the linker's directory the object is the file that the compiler was told to write
exactly if the tools are aligned. -/
theorem objectPath_met_iff {here : Path} (rooted : here.isAbsolute = true) (k : CompilerCommand)
    (l : LinkerCommand) (name : Path) :
    ((l.home here).join (k.objectPath (.ok here) name)).same
      ((k.workingDir.elim here here.join).join name) = true
      ↔ Aligned here k l name := by
  unfold Aligned
  have hhere := Path.bytes_ne_nil rooted
  cases hname : name.isAbsolute with
  | true =>
    rw [CompilerCommand.objectPath, if_pos hname, Path.join_of_isAbsolute hname,
      Path.join_of_isAbsolute hname]
    exact iff_of_true (Path.same_iff.mpr rfl) (.inl rfl)
  | false =>
  cases hdir : k.workingDir with
  | none =>
    have hobject : k.objectPath (.ok here) name = here.join name := by
      simp [CompilerCommand.objectPath, hname, hdir]
    have habs : (here.join name).isAbsolute = true :=
      (Path.isAbsolute_join hhere hname).trans rooted
    rw [hobject, Path.join_of_isAbsolute habs]
    exact iff_of_true (Path.same_iff.mpr rfl) (.inr (.inl nofun))
  | some dir =>
    rw [CompilerCommand.objectPath_eq hdir, Option.elim_some]
    cases habs : dir.isAbsolute with
    | true =>
      have hjoined : (dir.join name).isAbsolute = true :=
        (Path.isAbsolute_join (Path.bytes_ne_nil habs) hname).trans habs
      rw [Path.join_of_isAbsolute habs, Path.join_of_isAbsolute hjoined]
      refine iff_of_true (Path.same_iff.mpr rfl) (.inr (.inl ?_))
      rintro _ ⟨⟩
      exact habs
    | false =>
      rw [Path.same_join_join (l.home_isAbsolute rooted) rooted habs hname]
      refine ⟨fun h => .inr (.inr h), ?_⟩
      rintro (h | h | h)
      · cases h
      · exact absurd (h dir rfl) (by rw [habs]; decide)
      · exact h

/-! ## The two runs -/

section Runs

variable {σ η : Type} [Logging σ] [Files σ] [Spawning σ]

/-- A compilation that succeeds is one run, and its object lies where the compilation expects it. -/
theorem CompilerCommand.compile_watched {k : CompilerCommand} {source : Source} {name : Path}
    {context : Option Context} {s t : σ} {o : Object} {before deeds : List (Deed η)}
    (compiled : (k.compile source name context : Action (Watched σ η) _ _).exec ⟨s, before⟩
      = (.ok o, ⟨t, before ++ deeds⟩)) :
    o.path = k.objectPath (Files.currentDir s) name ∧
      ∃ output, deeds = [.ran (k.invocation source name context) (.ok output)] := by
  obtain ⟨answer, after, entries, -, hwatched, hcompiles⟩ := k.compileInto_traces (η := η)
    (k.objectPath (Files.currentDir s) name) source name context s before
  have hhere : Files.currentDir (⟨s, before⟩ : Watched σ η) = Files.currentDir s := rfl
  rw [compile_eq, Action.exec_bind, Action.exec_get] at compiled
  simp only [hhere] at compiled
  obtain ⟨rfl, hstate⟩ := Prod.mk.inj (hwatched.symm.trans compiled)
  obtain rfl : entries = deeds := List.append_cancel_left (Traced.mk.inj hstate).2
  cases hcompiles with
  | passes diagnostics zero => exact ⟨rfl, _, rfl⟩

variable [Numbering σ] [Loading σ η]

omit [Logging σ] [Files σ] [Spawning σ] [Numbering σ] in
theorem ran_not_mem_loadDeeds (path : Path) (s : σ) (run : Invocation)
    (answer : Except ProcessError Output) :
    .ran run answer ∉ (loadDeeds path s : List (Deed η)) := by
  unfold loadDeeds
  split <;> simp

/-- A linking runs nothing but the linker, on its objects. -/
theorem LinkerCommand.link_watched {l : LinkerCommand} {objects : List Object}
    {here : Path} {s t : σ}
    (stands : Files.currentDir s = .ok here) (rooted : here.isAbsolute = true)
    {answer : Except BuildError (Library η)} {before deeds : List (Deed η)}
    (linked : (l.link objects : Action (Watched σ η) _ _).exec ⟨s, before⟩
      = (answer, ⟨t, before ++ deeds⟩))
    {run : Invocation}
    {ran : Except ProcessError Output} (mem : .ran run ran ∈ deeds) :
    ∃ module, run = l.invocation (l.home here) module objects := by
  have stands' : Files.currentDir (⟨s, before⟩ : Watched σ η) = .ok here := stands
  rw [link_home l objects stands' rooted] at linked
  obtain ⟨answer', after, entries, -, hwatched, hlinks⟩ :=
    link_traces (σ := σ) (η := η) (k := { l with outputDir := some (l.home here) }) rfl
      (l.home_isAbsolute rooted) objects s before
  obtain ⟨-, hstate⟩ := Prod.mk.inj (hwatched.symm.trans linked)
  obtain rfl : entries = deeds := List.append_cancel_left (Traced.mk.inj hstate).2
  cases hlinks with
  | refused fault => simp at mem
  | stops h =>
    obtain ⟨rfl, -⟩ : run = _ ∧ _ := by simpa using mem
    exact ⟨_, rfl⟩
  | opens u zero =>
    rcases List.mem_append.mp mem with h | h
    · obtain ⟨rfl, -⟩ : run = _ ∧ _ := by simpa using h
      exact ⟨_, rfl⟩
    · exact absurd h (ran_not_mem_loadDeeds _ _ _ _)

/-- **What is linked was compiled.** A caller in an absolute directory compiles to a name, and later
links objects with that object among them. Then the compiler has run once, with an argument that
says what to write; the linker has an argument for the object in its place; and the path that this
means in the directory of the linker has the components of the one that was meant in the directory
of the compiler exactly if the tools are aligned. What is compared is paths: `..` is kept and no
link is followed. -/
theorem objects_met_iff {here : Path} (rooted : here.isAbsolute = true) (k : CompilerCommand)
    (l : LinkerCommand)
    {source : Source} {name : Path} {context : Option Context} {s t : σ} {o : Object}
    {before deeds : List (Deed η)} (stands : Files.currentDir s = .ok here)
    (compiled : (k.compile source name context : Action (Watched σ η) _ _).exec ⟨s, before⟩
      = (.ok o, ⟨t, before ++ deeds⟩))
    {u v : σ} {objects : List Object} {answer : Except BuildError (Library η)}
    {earlier more : List (Deed η)}
    (stays : Files.currentDir u = .ok here)
    (linked : (l.link objects : Action (Watched σ η) _ _).exec ⟨u, earlier⟩
      = (answer, ⟨v, earlier ++ more⟩))
    {run : Invocation}
    {ran : Except ProcessError Output} (mem : .ran run ran ∈ more) {n : Nat}
    (given : objects[n]? = some o) :
    ∃ (writing : Invocation) (output : Output) (target argument : ByteString),
      deeds = [.ran writing (.ok output)] ∧ writing.Writes target ∧
      run.arguments[5 + n]? = some argument ∧
      ((run.meant here argument).same (writing.meant here target) = true ↔
        Aligned here k l name) := by
  obtain ⟨hpath, output, hdeeds⟩ := CompilerCommand.compile_watched compiled
  obtain ⟨module, rfl⟩ := LinkerCommand.link_watched stays rooted linked mem
  refine ⟨_, output, name.bytes, o.path.bytes, hdeeds,
    k.invocation_writes source name context, ?_, ?_⟩
  · rw [LinkerCommand.invocation, LinkerCommand.arguments, List.getElem?_append_right (by simp)]
    simp [given]
  · have hread : (l.invocation (l.home here) module objects).meant here o.path.bytes
        = (l.home here).join (k.objectPath (.ok here) name) := by
      rw [← stands, ← hpath]
      show (here.join (l.home here)).join o.path = _
      rw [Path.join_of_isAbsolute (l.home_isAbsolute rooted)]
    rw [hread]
    exact objectPath_met_iff rooted k l name

end Runs

/-! ## Two directories -/

namespace Rehearsal

/-- Both runs exit with code 0. -/
def smooth : Rehearsal where
  outcomes := List.replicate 2 (.finished ⟨.ofWord 0, ByteArray.empty, ByteArray.empty⟩)

/-- A compiler in a directory of its own. -/
def compiler (dir : Path) : CompilerCommand where
  program := "cc"
  workingDir := some dir

/-- A linker in a directory below that of the caller. -/
def linker : LinkerCommand where
  program := "ld"
  outputDir := some "out"

end Rehearsal

/-- From another directory than the caller's, the linker meets what was compiled in an absolute
one. -/
theorem absolute_directory_met :
    ∃ (o : Object) (t v : Rehearsal) (answer : Except BuildError (Library Unit))
      (deeds more : List (Deed Unit)) (run writing : Invocation) (output : Output)
      (target argument : ByteString),
      ((Rehearsal.compiler "/obj").compile ⟨0, "int a;"⟩ "a.o" none : Action
        (Watched Rehearsal Unit) _ _).exec
        ⟨.smooth, []⟩ = (.ok o, ⟨t, deeds⟩) ∧
      (Rehearsal.linker.link [o] : Action (Watched Rehearsal Unit) _ _).exec ⟨t, []⟩
        = (answer, ⟨v, more⟩) ∧
      .ran run (.ok output) ∈ more ∧ deeds = [.ran writing (.ok output)] ∧
      writing.Writes target ∧ run.arguments[5]? = some argument ∧
      (run.meant "/" argument).same (writing.meant "/" target) = true := by
  have rooted : ("/" : Path).isAbsolute = true := by decide
  have hcompile : ((Rehearsal.compiler "/obj").compile ⟨0, "int a;"⟩ "a.o" none :
      Action (Watched Rehearsal Unit) _ _).exec ⟨.smooth, []⟩ = (.ok ⟨"/obj/a.o", ""⟩, _) := rfl
  have hlink : (Rehearsal.linker.link [⟨"/obj/a.o", ""⟩] : Action (Watched Rehearsal Unit) _ _).exec
      ⟨⟨[.finished ⟨.ofWord 0, ByteArray.empty, ByteArray.empty⟩], 0⟩, []⟩ = (.ok _, _) := rfl
  obtain ⟨writing, output, target, argument, hdeeds, hwrites, hargument, hmet⟩ :=
    objects_met_iff rooted (Rehearsal.compiler "/obj") Rehearsal.linker rfl hcompile rfl hlink
      (.tail _ (.head _)) (n := 0) rfl
  obtain ⟨-, hanswer⟩ := Deed.ran.inj (List.cons.inj hdeeds).1
  cases hanswer
  refine ⟨_, _, _, _, _, _, _, writing, _, target, argument, hcompile, hlink, .tail _ (.head _),
    hdeeds, hwrites, hargument, hmet.mpr (.inr (.inl ?_))⟩
  rintro _ ⟨⟩
  decide

/-- From there it does not meet what was compiled in a relative one: it looks for that below its own
directory. -/
theorem relative_directory_missed :
    ∃ (t v : Rehearsal) (answer : Except BuildError (Library Unit)) (writing reading : Invocation)
      (output : Output) (rest : List (Deed Unit)),
      ((Rehearsal.compiler "obj").compile ⟨0, "int a;"⟩ "a.o" none : Action
        (Watched Rehearsal Unit) _ _).exec
        ⟨.smooth, []⟩ = (.ok ⟨"obj/a.o", ""⟩, ⟨t, [.ran writing (.ok output)]⟩) ∧
      (Rehearsal.linker.link [⟨"obj/a.o", ""⟩] : Action (Watched Rehearsal Unit) _ _).exec ⟨t, []⟩
        = (answer, ⟨v, .numbered 1 0 :: .ran reading (.ok output) :: rest⟩) ∧
      writing.Writes (Path.ofText "a.o").bytes ∧ reading.arguments[5]?
        = some (Path.ofText "obj/a.o").bytes ∧
      writing.meant "/" (Path.ofText "a.o").bytes = "/obj/a.o" ∧
      reading.meant "/" (Path.ofText "obj/a.o").bytes = "/out/obj/a.o" :=
  ⟨_, _, _, _, _, _, _, rfl, rfl, CompilerCommand.invocation_writes .., rfl, rfl, rfl⟩

end ModuleForge
