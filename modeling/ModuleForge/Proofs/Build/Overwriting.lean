import ModuleForge.Proofs.Build.Shop
import ModuleForge.Proofs.Library.Symbols

/-!
# Modules that are there already

The name of a new module is new within its process. Across processes it is not: it tells the id of
the process, which the system gives again after the process has ended, and a number that starts
over. Nothing looks whether there is such a file.

A machine (`Yard`) keeps what stands in its directories, to which processes come one after the
other; those that run at one time have different ids and do not meet. Each run of a linker is
written down as it starts (`Linking`), with what stands at the path of its module by then. Processes
do nothing else here: they ask for names and link (`Event`), and no other program puts files into
the directories or takes them away after the start. Which directory a path leads to is given by its
components (`Ground.place`), by links or not. `Yard.Kept` is the invariant: what stands somewhere
was there before all or was left by a run, and no process has given out a number twice.
`Yard.link_finds_iff` tells for any link after any such history whether there is a file at the path
of the module, and what is loaded then.
-/
namespace ModuleForge

/-- Where a file comes from: it was there before all, or was left by a run of a linker. -/
inductive Origin where
  | before
  | left (run : Nat)
  deriving DecidableEq, Repr

/-- A run of a linker: whose it is, the number in the name of the module, the directory and the path
of the module, what stood there when it started, and whether the run has left a file there. -/
structure Linking where
  process : Nat
  number : Nat
  dir : Path
  module : Path
  found : Option Origin
  leaves : Bool
  deriving DecidableEq, Repr

/-- Where a file stands: a directory, and a name in it. -/
abbrev Spot := Nat × Option Path.Component

/-- What is given of a machine. -/
structure Ground where
  /-- The ids that the processes were given, which need not be different. -/
  ids : Nat → Nat
  /-- The current directory of each process. -/
  here : Nat → Except IoError Path
  /-- Which directory it is that has a path. -/
  place : List Path.Component → Nat
  /-- What creating a directory comes to. -/
  creates : Path → Except IoError Unit
  /-- Where there are files before all. -/
  holds : Spot → Bool
  /-- How runs end, one after the other, and which of them leave a module. -/
  fates : Nat → Outcome
  leaves : Nat → Bool
  /-- Why the loader refuses a file, if it does. -/
  refuses : Origin → Option String

/-- Where a path leads. -/
def Ground.spot (g : Ground) (path : Path) : Spot :=
  (g.place path.components.dropLast, path.components.getLast?)

/-- A machine on which processes link. -/
structure Yard where
  ground : Ground
  /-- Whose turn it is. -/
  process : Nat := 0
  counters : Nat → UInt64 := fun _ => 0
  files : Spot → Option Origin
  runs : List Linking := []

namespace Yard

/-- The machine before all. -/
def start (g : Ground) : Yard where
  ground := g
  files spot := if g.holds spot then some .before else none

/-- The machine when it is the turn of a process. -/
def turn (s : Yard) (process : Nat) : Yard := { s with process := process }

/-- One more number is taken. -/
def counted (s : Yard) : Yard :=
  { s with counters := Function.update s.counters s.process (s.counters s.process + 1) }

/-- The run of a linker that starts now. -/
def next (s : Yard) (i : Invocation) : Linking :=
  let module := i.located (i.arguments[4]?.getD [])
  { process := s.process
    number := (s.counters s.process).toNat
    dir := i.workingDir.getD ⟨[]⟩
    module
    found := s.files (s.ground.spot module)
    leaves := s.ground.leaves s.runs.length }

/-- The machine after one more run. -/
def ran (s : Yard) (r : Linking) : Yard :=
  { s with
    files := if r.leaves then
        Function.update s.files (s.ground.spot r.module) (some (.left s.runs.length))
      else s.files
    runs := s.runs ++ [r] }

/-- What opening a file comes to. -/
def opens (s : Yard) (path : Path) : Except String Origin :=
  match s.files (s.ground.spot path) with
  | none => .error "cannot open shared object file"
  | some origin => match s.ground.refuses origin with
    | none => .ok origin
    | some reason => .error reason

instance : Logging Yard where
  log _ s := s

instance : Files Yard where
  currentDir s := s.ground.here s.process
  createDirs path := Action.reads fun s => s.ground.creates path
  canonical path _ := .ok path
  readText _ _ := .ok ""

instance : Numbering Yard where
  processId s := s.ground.ids s.process
  nextNumber := modifyGet fun s => ((s.counted.counters s.process).toNat, s.counted)

instance : Spawning Yard where
  exchange i := modifyGet fun s => (s.ground.fates s.runs.length, s.ran (s.next i))

instance : Loading Yard Origin where
  openModule path := fun s => (s.opens path, s)
  lookUp _ _ := return .ok 0
  close _ := return .ok ()

/-- What a process does: it asks for a name by itself, or links. -/
inductive Event where
  | asks (process : Nat)
  | links (process : Nat) (linker : LinkerCommand) (objects : List Object)

def step (s : Yard) : Event → Yard
  | .asks process => ((nextModuleName : StateM Yard String).run (s.turn process)).2
  | .links process linker objects =>
    ((linker.link objects : Action Yard BuildError (Library Origin)).exec (s.turn process)).2

/-- The machine after what processes have done one after the other. -/
def after (g : Ground) (history : List Event) : Yard := history.foldl step (start g)

/-! ## What one link does -/

theorem quiet : Quiet Yard := ⟨fun _ _ => rfl, fun _ _ => rfl⟩

@[simp] theorem counted_counters_self (s : Yard) :
    s.counted.counters s.process = s.counters s.process + 1 := Function.update_self ..

theorem counted_counters_of_ne (s : Yard) {p : Nat} (h : p ≠ s.process) :
    s.counted.counters p = s.counters p := Function.update_of_ne h ..

theorem nextModuleName_run (s : Yard) : (nextModuleName : StateM Yard String).run s
    = (moduleName (s.ground.ids s.process) (s.counters s.process + 1).toNat, s.counted) := by
  rw [← counted_counters_self]
  rfl

theorem exchange_run (s : Yard) (i : Invocation) :
    (Spawning.exchange i).run s = (s.ground.fates s.runs.length, s.ran (s.next i)) := rfl

/-- The run for the next module of the process whose turn it is. -/
def linking (s : Yard) (dir : Path) : Linking :=
  let number := (s.counters s.process + 1).toNat
  let module := dir.join (Path.ofText (moduleName (s.ground.ids s.process) number))
  { process := s.process
    number
    dir
    module
    found := s.files (s.ground.spot module)
    leaves := s.ground.leaves s.runs.length }

theorem linking_module (s : Yard) (dir : Path) : (s.linking dir).module
    = dir.join (Path.ofText (moduleName (s.ground.ids s.process) (s.linking dir).number)) := rfl

theorem linking_number (s : Yard) (dir : Path) :
    (s.linking dir).number = (s.counters s.process + 1).toNat := rfl

theorem linking_found (s : Yard) (dir : Path) :
    (s.linking dir).found = s.files (s.ground.spot (s.linking dir).module) := rfl

/-- Once the number is taken, that is the run that the linker makes. -/
theorem next_counted (s : Yard) (l : LinkerCommand) (dir : Path) (objects : List Object) :
    s.counted.next (l.invocation dir
      (moduleName (s.ground.ids s.process) (s.counters s.process + 1).toNat) objects)
      = s.linking dir := by
  rw [linking, ← counted_counters_self]
  rfl

theorem ran_files (s : Yard) (r : Linking) (spot : Spot) : (s.ran r).files spot =
    if r.leaves = true ∧ s.ground.spot r.module = spot then some (.left s.runs.length)
      else s.files spot := by
  unfold ran
  by_cases hleaves : r.leaves = true
  · by_cases hspot : s.ground.spot r.module = spot
    · simp [hleaves, hspot]
    · simp [hleaves, hspot, Function.update_of_ne (Ne.symm hspot)]
  · simp [hleaves]

theorem prepare_exec (l : LinkerCommand) (s : Yard) : (∃ e, l.prepare.exec s = (.error e, s)) ∨
    ∃ dir, l.directory (s.ground.here s.process) = .ok dir ∧ l.prepare.exec s = (.ok dir, s) := by
  have hdirectory : l.directory (Files.currentDir s) = l.directory (s.ground.here s.process) := rfl
  unfold LinkerCommand.prepare
  simp only [Action.exec_bind, Action.exec_reads, hdirectory]
  cases l.directory (s.ground.here s.process) with
  | error fault => exact .inl ⟨_, rfl⟩
  | ok dir =>
    have hcreate : (Files.createDirs dir : Action Yard IoError Unit).exec s
        = (s.ground.creates dir, s) := rfl
    simp only [mapError_ok, Action.exec_mapError, hcreate]
    cases s.ground.creates dir with
    | error fault => exact .inl ⟨_, rfl⟩
    | ok _ => exact .inr ⟨dir, rfl, rfl⟩

/-- Loading changes nothing; what is loaded is what stands at the path. -/
theorem load_exec {path : Path} (ends : path.bytes.getLast? ≠ some 0) (s : Yard) :
    ∃ library : Library Origin, (Library.load path).run s = (library, s) ∧ library.path = path ∧
      ∀ origin, library.handle = some origin → s.files (s.ground.spot path) = some origin := by
  unfold Library.load
  cases hterminated : terminated path.bytes with
  | error reason => exact ⟨_, rfl, rfl, nofun⟩
  | ok bytes =>
    obtain ⟨-, hbytes⟩ := (spells_of_getLast? ends).mp (terminated_eq_ok.mp hterminated)
    obtain rfl : path = ⟨bytes⟩ := congrArg Path.mk hbytes
    have hopen : (Loading.openModule ⟨bytes⟩).run s = (s.opens ⟨bytes⟩, s) := rfl
    simp only [StateT.run_bind, hopen]
    cases hopens : s.opens ⟨bytes⟩ with
    | error reason => exact ⟨_, rfl, rfl, nofun⟩
    | ok origin =>
      refine ⟨_, rfl, rfl, ?_⟩
      rintro _ ⟨⟩
      unfold opens at hopens
      split at hopens
      · cases hopens
      · split at hopens <;> cases hopens
        assumption

theorem module_ends (dir : Path) (p n : Nat) :
    (dir.join (Path.ofText (moduleName p n))).bytes.getLast? ≠ some 0 := by
  obtain ⟨front, hjoin⟩ := dir.join_ends (Path.ofText (moduleName p n))
  have hlast : (ByteString.ofText ".so").getLast? = some 111 := by decide
  rw [hjoin, Path.ofText, moduleName_bytes, List.getLast?_append, List.getLast?_append, hlast]
  simp

/-- What a link does: nothing if there is no directory for its module, else it takes a number and is
one run. What is loaded is what the run has left, or else what it has found. -/
theorem link_cases (l : LinkerCommand) (objects : List Object) (s : Yard) :
    (∃ e, (l.link objects : Action Yard BuildError (Library Origin)).exec s = (.error e, s)) ∨
    ∃ (dir : Path) (answer : Except BuildError (Library Origin)),
      l.directory (s.ground.here s.process) = .ok dir ∧
      (l.link objects).exec s = (answer, s.counted.ran (s.linking dir)) ∧
      ∀ library, answer = .ok library → library.path = (s.linking dir).module ∧
        ∀ origin, library.handle = some origin →
          if (s.linking dir).leaves then origin = .left s.runs.length
          else (s.linking dir).found = some origin := by
  rw [LinkerCommand.link_eq, Action.exec_bind]
  rcases prepare_exec l s with ⟨e, hprepare⟩ | ⟨dir, hdir, hprepare⟩
  · exact .inl ⟨e, by rw [hprepare]⟩
  · right
    simp only [hprepare, Action.exec_bind, Action.exec_lift, nextModuleName_run]
    have hrun := s.counted.exchange_run
      (l.invocation dir
        (moduleName (s.ground.ids s.process) (s.counters s.process + 1).toNat) objects)
    rw [next_counted] at hrun
    rcases l.complete_cases quiet objects dir _ hrun with hloaded | ⟨e, herror⟩
    · obtain ⟨library, hload, hpath, hhandle⟩ :=
        load_exec (module_ends dir _ _) (s.counted.ran (s.linking dir))
      refine ⟨dir, .ok library, hdir, by rw [hloaded, hload], ?_⟩
      rintro _ ⟨⟩
      refine ⟨hpath, fun origin horigin => ?_⟩
      have hfile : (s.counted.ran (s.linking dir)).files (s.ground.spot (s.linking dir).module)
          = some origin :=
        hhandle origin horigin
      rw [ran_files] at hfile
      split at hfile <;> rename_i hleaves
      · rw [if_pos hleaves.1, ← Option.some.inj hfile]
        rfl
      · rw [if_neg fun h => hleaves ⟨h, rfl⟩]
        exact hfile
    · exact ⟨dir, .error e, hdir, herror, nofun⟩

/-! ## Histories -/

/-- What holds when processes have done `n` things on some ground. -/
structure Kept (g : Ground) (n : Nat) (s : Yard) : Prop where
  ground : s.ground = g
  few (p : Nat) : (s.counters p).toNat ≤ n
  /-- No process has come to a number that it gives out later. -/
  numbered : ∀ q ∈ s.runs, q.number ≤ (s.counters q.process).toNat
  named : ∀ q ∈ s.runs, q.module = q.dir.join (Path.ofText (moduleName (g.ids q.process) q.number))
  files (spot : Spot) : (s.files spot).isSome = true ↔
    g.holds spot = true ∨ ∃ q ∈ s.runs, q.leaves = true ∧ g.spot q.module = spot

theorem kept_start (g : Ground) : Kept g 0 (start g) where
  ground := rfl
  few _ := Nat.le_refl 0
  numbered := nofun
  named := nofun
  files spot := by simp [start]

namespace Kept

variable {g : Ground} {n : Nat} {s : Yard}

theorem turn (h : Kept g n s) (p : Nat) : Kept g n (s.turn p) :=
  ⟨h.ground, h.few, h.numbered, h.named, h.files⟩

theorem mono (h : Kept g n s) : Kept g (n + 1) s :=
  ⟨h.ground, fun p => Nat.le_succ_of_le (h.few p), h.numbered, h.named, h.files⟩

/-- The counter of a process does not come round. -/
theorem counters_succ (h : Kept g n s) (few : n + 1 < 2 ^ 64) (p : Nat) :
    (s.counters p + 1).toNat = (s.counters p).toNat + 1 := by
  have hle := h.few p
  rw [UInt64.toNat_add, UInt64.toNat_one]
  omega

theorem counted (h : Kept g n s) (few : n + 1 < 2 ^ 64) : Kept g (n + 1) s.counted := by
  have hnext := h.counters_succ few s.process
  have hcounters (p : Nat) : (s.counters p).toNat ≤ (s.counted.counters p).toNat ∧
      (s.counted.counters p).toNat ≤ (s.counters p).toNat + 1 := by
    by_cases hp : p = s.process
    · subst hp
      rw [counted_counters_self]
      omega
    · rw [counted_counters_of_ne s hp]
      omega
  exact ⟨h.ground, fun p => Nat.le_trans (hcounters p).2 (Nat.succ_le_succ (h.few p)),
    fun q hq => Nat.le_trans (h.numbered q hq) (hcounters q.process).1, h.named, h.files⟩

/-- The run for a module takes the number that comes next. -/
theorem ran (h : Kept g n s) (few : n + 1 < 2 ^ 64) (dir : Path) :
    Kept g (n + 1) (s.counted.ran (s.linking dir)) := by
  obtain rfl := h.ground
  have hcounted := h.counted few
  refine ⟨rfl, hcounted.few, fun q hq => ?_, fun q hq => ?_, fun spot => ?_⟩
  · rcases List.mem_append.mp hq with hq | hq
    · exact hcounted.numbered q hq
    · obtain rfl := List.mem_singleton.mp hq
      exact Nat.le_of_eq (congrArg UInt64.toNat s.counted_counters_self.symm)
  · rcases List.mem_append.mp hq with hq | hq
    · exact hcounted.named q hq
    · obtain rfl := List.mem_singleton.mp hq
      exact s.linking_module dir
  · have hold := h.files spot
    have hnew : (∃ q ∈ (s.counted.ran (s.linking dir)).runs, q.leaves = true ∧
        s.ground.spot q.module = spot) ↔
        (∃ q ∈ s.runs, q.leaves = true ∧ s.ground.spot q.module = spot) ∨
          (s.linking dir).leaves = true ∧ s.ground.spot (s.linking dir).module = spot := by
      show (∃ q ∈ s.runs ++ [s.linking dir], _) ↔ _
      simp [or_and_right, exists_or]
    rw [ran_files, hnew, ← or_assoc, ← hold]
    split <;> rename_i hleaves
    · exact iff_of_true rfl (.inr hleaves)
    · exact (or_iff_left hleaves).symm

theorem step (h : Kept g n s) (few : n + 1 < 2 ^ 64) (e : Event) : Kept g (n + 1) (s.step e) := by
  cases e with
  | asks p =>
    rw [Yard.step, nextModuleName_run]
    exact (h.turn p).counted few
  | links p l objects =>
    rw [Yard.step]
    rcases link_cases l objects (s.turn p) with ⟨e, hlink⟩ | ⟨dir, answer, -, hlink, -⟩
    · rw [hlink]
      exact (h.turn p).mono
    · rw [hlink]
      exact (h.turn p).ran few dir

end Kept

theorem after_kept (g : Ground) (history : List Event) (few : history.length < 2 ^ 64) :
    Kept g history.length (after g history) := by
  have hrun (n : Nat) (s : Yard) (h : Kept g n s) (few : n + history.length < 2 ^ 64) :
      Kept g (n + history.length) (history.foldl step s) := by
    induction history generalizing n s with
    | nil => exact h
    | cons e history ih =>
      rw [List.length_cons] at few ⊢
      have hstep := ih (by omega) (n + 1) (s.step e) (h.step (by omega) e) (by omega)
      rwa [Nat.add_assoc, Nat.add_comm 1] at hstep
  have hall := hrun 0 (start g) (kept_start g) (by omega)
  rwa [Nat.zero_add] at hall

/-! ## What a link finds -/

theorem spot_module (g : Ground) (dir : Path) (p n : Nat) :
    g.spot (dir.join (Path.ofText (moduleName p n)))
    = (g.place dir.components, some (.name (ByteString.ofText (moduleName p n)))) := by
  rw [Ground.spot, Path.components_join_name (components_moduleName p n), List.dropLast_concat,
    List.getLast?_concat]

/-- Paths of modules lead to one file exactly if the directories, the ids and the numbers are the
same. -/
theorem spot_module_eq_iff (g : Ground) {dir dir' : Path} {p p' n n' : Nat} :
    g.spot (dir.join (Path.ofText (moduleName p n)))
        = g.spot (dir'.join (Path.ofText (moduleName p' n'))) ↔
      g.place dir.components = g.place dir'.components ∧ p = p' ∧ n = n' := by
  rw [spot_module, spot_module, Prod.mk.injEq, Option.some.injEq, Path.Component.name.injEq,
    ByteString.ofText_inj, moduleName_inj]

/-- **When a module is there already.** Let processes ask for names and link, one after the other,
on any ground and with any ends of the runs, and let one of them link once more. Either there is no
directory for the module, and no linker runs; or one runs for a module in the directory, whose name
tells the id of the process and a number. There is a file at that path exactly if one was there
before all, or a run of another process has left it that was given the same id and had come to the
same number, in the same directory. What is loaded is what the run has left, or else the file that
was there already. So it is for histories of asks and links; what else may put a file there or take
it away meanwhile is not among the events. -/
theorem link_finds_iff (g : Ground) (history : List Event)
    (few : history.length + 1 < 2 ^ 64) (p : Nat)
    (l : LinkerCommand) (objects : List Object) :
    ∃ (answer : Except BuildError (Library Origin)) (t : Yard),
      (l.link objects).exec ((after g history).turn p) = (answer, t) ∧
      ((∃ e, answer = .error e) ∧ t.runs = (after g history).runs ∨
      ∃ r : Linking, t.runs = (after g history).runs ++ [r] ∧ l.directory (g.here p) = .ok r.dir ∧
        r.module = r.dir.join (Path.ofText (moduleName (g.ids p) r.number)) ∧
        r.found = (after g history).files (g.spot r.module) ∧
        (r.found.isSome = true ↔ g.holds (g.spot r.module) = true ∨
          ∃ q ∈ (after g history).runs, q.leaves = true ∧ q.process ≠ p ∧
            g.ids q.process = g.ids p ∧
            q.number = r.number ∧ g.place q.dir.components = g.place r.dir.components) ∧
        ∀ library, answer = .ok library → library.path = r.module ∧
          ∀ origin, library.handle = some origin →
            if r.leaves then origin = .left (after g history).runs.length
            else r.found = some origin) := by
  have hkept := (after_kept g history (by omega)).turn p
  rcases link_cases l objects ((after g history).turn p) with
    ⟨e, hlink⟩ | ⟨dir, answer, hdir, hlink, hloaded⟩
  · exact ⟨_, _, hlink, .inl ⟨⟨e, rfl⟩, rfl⟩⟩
  · rw [hkept.ground] at hdir
    refine ⟨answer, _, hlink, .inr ⟨_, rfl, hdir, ?_, ?_, ?_, hloaded⟩⟩
    · rw [linking_module, hkept.ground]
      rfl
    · rw [linking_found, hkept.ground]
      rfl
    · rw [linking_found, hkept.files, hkept.ground]
      refine or_congr_right (exists_congr fun q => and_congr_right fun hq =>
        and_congr_right fun _ => ?_)
      have hle := hkept.numbered q hq
      rw [hkept.named q hq, linking_module, hkept.ground, spot_module_eq_iff]
      constructor
      · rintro ⟨hplace, hid, hnumber⟩
        refine ⟨?_, hid, hnumber, hplace⟩
        -- the process itself has given out smaller numbers only
        rintro rfl
        have hnext : (((after g history).turn q.process).linking dir).number
            = (((after g history).turn q.process).counters q.process).toNat + 1 :=
          hkept.counters_succ few q.process
        omega
      · rintro ⟨-, hid, hnumber, hplace⟩
        exact ⟨hplace, hid, hnumber⟩

/-! ## Two processes in one directory -/

/-- Ground without files at first, on which all runs end with code 0. -/
def bare (ids : Nat → Nat) (leaves : Nat → Bool) : Ground where
  ids := ids
  here _ := .ok "/out"
  place := List.length
  creates _ := .ok ()
  holds _ := false
  fates _ := .finished ⟨.exited 0, ByteArray.empty, ByteArray.empty⟩
  leaves := leaves
  refuses _ := none

/-- The link of process 1 after one of process 0. -/
def secondLink (g : Ground) : Except BuildError (Library Origin) × Yard :=
  (({ program := "ld" } : LinkerCommand).link []).exec
    ((after g [.links 0 { program := "ld" } []]).turn 1)

/-- Processes with ids of their own keep apart. -/
theorem separate_ids_find_nothing : [Event.links 0 { program := "ld" } []].length + 1 < 2 ^ 64 ∧
    ∃ r, (secondLink (bare id fun _ => true)).2.runs.getLast? = some r ∧
      r.module = r.dir.join (Path.ofText (moduleName 1 r.number)) ∧ r.found = none := by
  obtain ⟨answer, t, hlink, hcases⟩ := link_finds_iff (bare id fun _ => true)
    [.links 0 { program := "ld" } []] (by decide) 1 { program := "ld" } []
  have ht : (secondLink (bare id fun _ => true)).2 = t := congrArg Prod.snd hlink
  refine ⟨by decide, ?_⟩
  rw [ht]
  rcases hcases with ⟨-, hruns⟩ | ⟨r, hruns, -, hmodule, -, hfound, -⟩
  · have hlength : (secondLink (bare id fun _ => true)).2.runs.length = 2 := by decide +kernel
    rw [ht, hruns] at hlength
    exact absurd hlength (by decide +kernel)
  · refine ⟨r, by rw [hruns, List.getLast?_concat], hmodule, ?_⟩
    rw [← Option.not_isSome_iff_eq_none, hfound]
    rintro (hheld | ⟨q, -, -, hother, hid, -⟩)
    · cases hheld
    · exact hother hid

/-- The run for the first module of a process with id 7. -/
def firstOfSeven (process : Nat) (found : Option Origin) (leaves : Bool) : Linking :=
  { process, number := 1, dir := "/out", module := "/out/exec_7_1.so", found, leaves }

/-- Processes that were given one id come to the same path: the second overwrites the module of the
first, and if its own linker leaves nothing, loads it. -/
theorem recycled_id_overwrites :
    (secondLink (bare (fun _ => 7) fun _ => true)).2.runs
      = [firstOfSeven 0 none true, firstOfSeven 1 (some (.left 0)) true] ∧
    (secondLink (bare (fun _ => 7) (· = 0))).2.runs
      = [firstOfSeven 0 none true, firstOfSeven 1 (some (.left 0)) false] ∧
    (secondLink (bare (fun _ => 7) (· = 0))).1.toOption.bind (·.handle) = some (.left 0) := by
  decide +kernel

end Yard
end ModuleForge
