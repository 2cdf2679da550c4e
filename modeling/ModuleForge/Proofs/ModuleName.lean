import Mathlib.Data.List.Basic
import Mathlib.Data.List.Nodup
import ModuleForge.Proofs.Build.Runs
import ModuleForge.Proofs.Text.Bytes

/-!
# The names of modules

The name of a module tells its process and its number (`moduleName_inj`). The numbers come from one
counter of 64 bits for each process, which all threads of the process share; taking a number is one
step.

A linking has three parts (`LinkerCommand.link_eq`), of which only the middle one takes a name.
Threads of any processes link, fail and ask for names in turns (`Crew.Step`). What is handed out
then is counted (`Register.Numbered`, `Reachable.numbered`): each process gets the numbers from 1 on
without a gap, and no name comes twice (`names_are_numbered`).
-/
namespace ModuleForge

/-! ## Spelling -/

theorem underscore_not_mem_toDigits (n : Nat) : '_' ∉ Nat.toDigits 10 n := fun h =>
  absurd (Nat.isDigit_of_mem_toDigits (by decide) (by decide) h) (by decide)

theorem toDigits_inj {n m : Nat} (h : Nat.toDigits 10 n = Nat.toDigits 10 m) : n = m :=
  calc
    n = Nat.ofDigitChars 10 (Nat.toDigits 10 n) 0 := Nat.ofDigitChars_ten_toDigits.symm
    _ = Nat.ofDigitChars 10 (Nat.toDigits 10 m) 0 := by rw [h]
    _ = m := Nat.ofDigitChars_ten_toDigits

theorem moduleName_toList (process n : Nat) : (moduleName process n).toList
    = "exec_".toList
      ++ (Nat.toDigits 10 process ++ '_' :: (Nat.toDigits 10 n ++ ".so".toList)) := by
  simp [moduleName, String.toList_append]

/-- A name tells the process and the number. -/
theorem moduleName_inj {p q n m : Nat} : moduleName p n = moduleName q m ↔ p = q ∧ n = m := by
  refine ⟨fun h => ?_, fun ⟨hp, hn⟩ => by rw [hp, hn]⟩
  have hchars := congrArg String.toList h
  rw [moduleName_toList, moduleName_toList, List.append_right_inj] at hchars
  have hrest : '_' ∉ Nat.toDigits 10 n ++ ".so".toList := by
    rw [List.mem_append, not_or]
    exact ⟨underscore_not_mem_toDigits n, by decide⟩
  obtain ⟨hp, -, hn⟩ :=
    (List.append_cons_inj_of_notMem (underscore_not_mem_toDigits p) hrest).mp hchars
  exact ⟨toDigits_inj hp, toDigits_inj (List.append_cancel_right hn)⟩

theorem separator_not_mem_decimal (n : Nat) : Path.separator ∉ ByteString.ofText (toString n) := by
  rw [Nat.toString_eq_ofList_toDigits, ByteString.ofText_ofList, List.mem_flatMap]
  rintro ⟨c, hc, hsep⟩
  obtain ⟨hlow, hhigh⟩ : 48 ≤ c.toNat ∧ c.toNat ≤ 57 :=
    Char.isDigit_iff_toNat.mp (Nat.isDigit_of_mem_toDigits (by decide) (by decide) hc)
  rw [Text.encode_ascii (by omega), List.mem_singleton, ← UInt8.toNat_inj,
    UInt8.toNat_ofNat_of_lt' (by show c.toNat < 256; omega)] at hsep
  exact absurd hsep.symm (Nat.ne_of_gt hlow)

theorem moduleName_bytes (p n : Nat) : ByteString.ofText (moduleName p n)
    = ByteString.ofText "exec_" ++ ByteString.ofText (toString p) ++ ByteString.ofText "_"
      ++ ByteString.ofText (toString n) ++ ByteString.ofText ".so" := by
  simp only [moduleName, ByteString.ofText_append]

/-- The name of a module is a path of one component. -/
theorem components_moduleName (p n : Nat) :
    (Path.ofText (moduleName p n)).components = [.name (ByteString.ofText (moduleName p n))] := by
  have hsep : Path.separator ∉ ByteString.ofText (moduleName p n) := by
    simp only [moduleName_bytes, List.mem_append, not_or, separator_not_mem_decimal,
      not_false_eq_true]
    decide
  have hlong : 3 ≤ (Path.ofText (moduleName p n)).bytes.length := by
    rw [Path.ofText, moduleName_bytes, List.length_append]
    exact Nat.le_add_left 3 _
  refine Path.components_of_plain hsep ?_ ?_ ?_ <;> intro h <;> rw [h] at hlong <;>
    exact absurd hlong (by decide)

/-! ## Parts of a linking -/

namespace LinkerCommand

variable {σ η : Type}

/-- What comes before the name: the directory is made ready. -/
def prepare [Files σ] (l : LinkerCommand) : Action σ BuildError Path := do
  let dir ← Action.reads fun s => (l.directory (Files.currentDir s)).mapError BuildError.io
  (Files.createDirs dir).mapError BuildError.io
  return dir

/-- What comes after it: the linker runs, and the module is loaded. -/
def complete [Logging σ] [Spawning σ] [Loading σ η] (l : LinkerCommand) (objects : List Object)
    (dir : Path) (name : String) : Action σ BuildError (Library η) := do
  let module := dir.join (Path.ofText name)
  let run := l.invocation dir name objects
  log ⟨.info, Part.linker, "linking", [("linker", l.program.display), ("module", module.display),
    ("objects", toString objects.length)]⟩
  log ⟨.debug, Part.linker, "linker arguments",
    [("args", Text.bracketed (run.arguments.map Text.quoteBytes))]⟩
  let output ← run.start.mapError BuildError.process
  if !output.status.success then
    throw (.link module output.status (Text.lossyData output.stderr))
  (Library.load module : StateM σ (Library η))

/-- A linking takes one name, between two parts that take none. -/
theorem link_eq [Logging σ] [Files σ] [Numbering σ] [Spawning σ] [Loading σ η] (l : LinkerCommand)
    (objects : List Object) :
    (l.link objects : Action σ BuildError (Library η)) = (do
      let dir ← l.prepare
      let name ← (nextModuleName : StateM σ String)
      l.complete objects dir name) := by
  simp only [link, prepare, complete, bind_assoc, pure_bind]

/-- On a quiet machine what comes after the name is one run, and loading the module if that ends
with code 0. -/
theorem complete_cases [Logging σ] [Spawning σ] [Loading σ η] (quiet : Quiet σ) (l : LinkerCommand)
    (objects : List Object) (dir : Path) (name : String) {s t : σ} {outcome : Outcome}
    (h : (Spawning.exchange (l.invocation dir name objects)).run s = (outcome, t)) :
    ((l.complete objects dir name : Action σ BuildError (Library η)).exec s
      = (.ok ((Library.load (dir.join (Path.ofText name))).run t).1,
        ((Library.load (dir.join (Path.ofText name)) : StateM σ (Library η)).run t).2)) ∨
    ∃ e, (l.complete objects dir name : Action σ BuildError (Library η)).exec s
      = (.error e, t) := by
  unfold complete
  simp only [Action.exec_bind, Action.exec_log, quiet.log, Action.exec_mapError,
    Invocation.exec_start_of_quiet _ quiet, h]
  cases outcome with
  | finished output =>
    cases hzero : output.status.success with
    | true => exact .inl (by simp [Invocation.answer, hzero])
    | false => exact .inr ⟨.link _ output.status _,
      by simp only [Invocation.answer, mapError_ok, hzero]; rfl⟩
  | notStarted fault => exact .inr ⟨_, rfl⟩
  | failed fault => exact .inr ⟨_, rfl⟩
  | timedOut reaped => exact .inr ⟨_, rfl⟩

end LinkerCommand

/-! ## Counters -/

/-- The counters of all processes, as one of them finds them. -/
structure Teller where
  process : Nat
  counters : Nat → UInt64

/-- Taking a number is one step, on the counter of the process itself. -/
instance : Numbering Teller where
  processId t := t.process
  nextNumber := modifyGet fun t =>
    let next := t.counters t.process + 1
    (next.toNat, { t with counters := Function.update t.counters t.process next })

/-- The counters, and the names that were handed out, each beside the process that has asked. -/
structure Register where
  counters : Nat → UInt64 := fun _ => 0
  issued : List (Nat × String) := []

namespace Register

/-- A name is handed out to a process. -/
def issue (r : Register) (process : Nat) : String × Register :=
  let (name, teller) := (nextModuleName : StateM Teller String).run ⟨process, r.counters⟩
  (name, { counters := teller.counters, issued := r.issued ++ [(process, name)] })

/-- The names that a process was handed out. -/
def namesOf (r : Register) (process : Nat) : List String :=
  (r.issued.filter (·.1 = process)).map (·.2)

/-- No process has asked so often that its counter has come round. -/
def Few (r : Register) : Prop := ∀ p, (r.namesOf p).length < 2 ^ 64

/-- The counters tell how many names were handed out, and these are numbered from 1 on. -/
structure Numbered (r : Register) : Prop where
  counter (p : Nat) : (r.counters p).toNat = (r.namesOf p).length
  names (p : Nat) : r.namesOf p = (List.range' 1 (r.namesOf p).length).map (moduleName p)
  distinct : (r.issued.map (·.2)).Nodup

theorem Few.of_length {r : Register} (h : r.issued.length < 2 ^ 64) : r.Few := fun p => by
  have hle := List.length_filter_le (·.1 = p) r.issued
  rw [namesOf, List.length_map]
  omega

theorem numbered_empty : ({} : Register).Numbered := ⟨fun _ => rfl, fun _ => rfl, List.nodup_nil⟩

@[simp] theorem issue_issued (r : Register) (p : Nat) :
    (r.issue p).2.issued = r.issued ++ [(p, moduleName p (r.counters p + 1).toNat)] := rfl

@[simp] theorem issue_counters (r : Register) (p : Nat) :
    (r.issue p).2.counters = Function.update r.counters p (r.counters p + 1) := rfl

theorem namesOf_issue (r : Register) (p : Nat) :
    (r.issue p).2.namesOf p = r.namesOf p ++ [moduleName p (r.counters p + 1).toNat] := by
  simp [namesOf]

theorem namesOf_issue_of_ne (r : Register) {p q : Nat} (h : q ≠ p) :
    (r.issue p).2.namesOf q = r.namesOf q := by
  simp [namesOf, Ne.symm h]

theorem Few.of_issue {r : Register} {p : Nat} (h : (r.issue p).2.Few) : r.Few := fun q => by
  have hq := h q
  by_cases hp : q = p
  · subst hp
    rw [namesOf_issue, List.length_append] at hq
    omega
  · rwa [namesOf_issue_of_ne r hp] at hq

/-- The number in a name that was handed out has been counted. -/
theorem Numbered.le_of_mem {r : Register} (h : r.Numbered) {p n : Nat}
    (hmem : moduleName p n ∈ r.issued.map (·.2)) : n ≤ (r.namesOf p).length := by
  obtain ⟨⟨q, name⟩, hissued, hname⟩ := List.mem_map.mp hmem
  have hq : name ∈ r.namesOf q := List.mem_map.mpr ⟨(q, name), by simpa using hissued, rfl⟩
  rw [h.names q] at hq
  obtain ⟨m, hm, hspelled⟩ := List.mem_map.mp hq
  obtain ⟨rfl, rfl⟩ := moduleName_inj.mp (hspelled.trans hname)
  rw [List.mem_range'_1] at hm
  omega

theorem Numbered.issue {r : Register} (h : r.Numbered) {p : Nat} (few : (r.issue p).2.Few) :
    (r.issue p).2.Numbered := by
  have hlength : ((r.issue p).2.namesOf p).length = (r.namesOf p).length + 1 := by
    rw [namesOf_issue, List.length_append]
    rfl
  -- the counter does not come round
  have hnext : (r.counters p + 1).toNat = (r.namesOf p).length + 1 := by
    have hfew := few p
    have hcounter := h.counter p
    rw [UInt64.toNat_add, UInt64.toNat_one]
    omega
  refine ⟨fun q => ?_, fun q => ?_, ?_⟩
  · by_cases hq : q = p
    · subst hq
      rw [issue_counters, Function.update_self, hlength, hnext]
    · rw [issue_counters, Function.update_of_ne hq, namesOf_issue_of_ne r hq]
      exact h.counter q
  · by_cases hq : q = p
    · subst hq
      rw [hlength, List.range'_1_concat, List.map_append, ← h.names q, namesOf_issue, hnext,
        Nat.add_comm 1]
      rfl
    · rw [namesOf_issue_of_ne r hq]
      exact h.names q
  · have hfresh : moduleName p (r.counters p + 1).toNat ∉ r.issued.map (·.2) := fun hmem => by
      have hle := h.le_of_mem hmem
      omega
    rw [issue_issued, List.map_append]
    exact List.nodup_append_comm.mp (List.nodup_cons.mpr ⟨hfresh, h.distinct⟩)

end Register

/-! ## Threads -/

/-- What a thread is at. -/
inductive Phase (η : Type) where
  | idle
  | begun (linker : LinkerCommand) (objects : List Object)
  | prepared (linker : LinkerCommand) (objects : List Object) (dir : Path)
  | named (linker : LinkerCommand) (objects : List Object) (dir : Path) (name : String)
  | ended (result : Except BuildError (Library η))

/-- Whether a thread is not in the middle of a linking. -/
def Phase.isFree : Phase η → Bool
  | idle | ended _ => true
  | _ => false

/-- Threads of any processes on one machine. -/
structure Crew (σ η : Type) where
  machine : σ
  register : Register := {}
  phases : Nat → Phase η := fun _ => .idle

namespace Crew

variable {σ η : Type}

def setPhase (c : Crew σ η) (thread : Nat) (phase : Phase η) : Crew σ η :=
  { c with phases := Function.update c.phases thread phase }

variable [Logging σ] [Files σ] [Spawning σ] [Loading σ η]

/-- One step of one of the threads, where `processOf` tells whose each of them is; or anything else
that changes the machine. -/
inductive Step (processOf : Nat → Nat) (c : Crew σ η) : Crew σ η → Prop where
  /-- A thread asks for a name by itself. -/
  | asks (thread : Nat) (free : (c.phases thread).isFree = true) :
      Step processOf c { c with register := (c.register.issue (processOf thread)).2 }
  | begins (thread : Nat) (free : (c.phases thread).isFree = true) (linker : LinkerCommand)
      (objects : List Object) : Step processOf c (c.setPhase thread (.begun linker objects))
  | prepares {thread : Nat} {linker : LinkerCommand} {objects : List Object} {dir : Path} {m : σ}
      (stage : c.phases thread = .begun linker objects)
      (run : linker.prepare.exec c.machine = (.ok dir, m)) :
      Step processOf c ({ c with machine := m }.setPhase thread (.prepared linker objects dir))
  | givesUp {thread : Nat} {linker : LinkerCommand} {objects : List Object} {e : BuildError} {m : σ}
      (stage : c.phases thread = .begun linker objects)
      (run : linker.prepare.exec c.machine = (.error e, m)) :
      Step processOf c ({ c with machine := m }.setPhase thread (.ended (.error e)))
  | names {thread : Nat} {linker : LinkerCommand} {objects : List Object} {dir : Path}
    {name : String}
      {r : Register} (stage : c.phases thread = .prepared linker objects dir)
      (issue : c.register.issue (processOf thread) = (name, r)) :
      Step processOf c ({ c with register := r }.setPhase thread (.named linker objects dir name))
  /-- The linker runs, and fails or not. -/
  | completes {thread : Nat} {linker : LinkerCommand} {objects : List Object} {dir : Path}
      {name : String} {result : Except BuildError (Library η)} {m : σ}
      (stage : c.phases thread = .named linker objects dir name)
      (run : (linker.complete objects dir name).exec c.machine = (result, m)) :
      Step processOf c ({ c with machine := m }.setPhase thread (.ended result))
  | elsewhere (m : σ) : Step processOf c { c with machine := m }

/-- What comes about when nobody has asked for a name before. -/
inductive Reachable (processOf : Nat → Nat) : Crew σ η → Prop where
  | start (m : σ) : Reachable processOf { machine := m }
  | step {c c' : Crew σ η} (reachable : Reachable processOf c) (step : Step processOf c c') :
      Reachable processOf c'

/-- A step hands out one name, or none. -/
theorem Step.register_cases {processOf : Nat → Nat} {c c' : Crew σ η} (h : Step processOf c c') :
    c'.register = c.register ∨ ∃ p, c'.register = (c.register.issue p).2 := by
  cases h with
  | asks thread free => exact .inr ⟨_, rfl⟩
  | names stage issue => exact .inr ⟨_, (congrArg Prod.snd issue).symm⟩
  | begins | prepares | givesUp | completes | elsewhere => exact .inl rfl

theorem Reachable.numbered {processOf : Nat → Nat} {c : Crew σ η} (h : Reachable processOf c)
    (few : c.register.Few) : c.register.Numbered := by
  induction h with
  | start m => exact Register.numbered_empty
  | step _ step ih =>
    rcases step.register_cases with hsame | ⟨p, hissue⟩
    · rw [hsame] at few ⊢
      exact ih few
    · rw [hissue] at few ⊢
      exact (ih few.of_issue).issue few

/-- **Names of modules are unique.** Let threads of any processes ask for names and link, in any
order and with any failures, and no process ask 2^64 times. Then the names that a process was handed
out carry the numbers from 1 on, in this order and without a gap; all names that were handed out are
different, those of one process and those of several; and a name determines the process and the
number. -/
theorem names_are_numbered {processOf : Nat → Nat} {c : Crew σ η} (h : Reachable processOf c)
    (few : c.register.Few) :
    (∀ p, c.register.namesOf p
      = (List.range' 1 (c.register.namesOf p).length).map (moduleName p)) ∧
    (c.register.issued.map (·.2)).Nodup ∧
    ∀ p n q m, moduleName p n = moduleName q m ↔ p = q ∧ n = m :=
  ⟨(h.numbered few).names, (h.numbered few).distinct, fun _ _ _ _ => moduleName_inj⟩

/-- A thread can link to the end while the others rest. -/
theorem Reachable.links {processOf : Nat → Nat} {c : Crew σ η} (h : Reachable processOf c)
    (thread : Nat)
    (free : (c.phases thread).isFree = true) (linker : LinkerCommand) (objects : List Object)
    {dir : Path} {name : String} {r : Register} {result : Except BuildError (Library η)} {m m' : σ}
    (prepare : linker.prepare.exec c.machine = (.ok dir, m))
    (issue : c.register.issue (processOf thread) = (name, r))
    (complete : (linker.complete objects dir name).exec m = (result, m')) :
    Reachable processOf
      (({ machine := m', register := r, phases := c.phases } : Crew σ η).setPhase thread
      (.ended result)) := by
  have hprepared := (h.step (.begins thread free linker objects)).step
    (.prepares (Function.update_self ..) prepare)
  have hnamed := hprepared.step (.names (Function.update_self ..) issue)
  have hended := hnamed.step (.completes (Function.update_self ..) complete)
  simpa [setPhase, Function.update_idem] using hended

/-- In process 7 one thread links, which fails at the limit, and another asks for a name; so does a
thread of process 8. -/
theorem failed_link_keeps_number : ∃ c : Crew Rehearsal Unit,
    Reachable (fun thread => if thread < 2 then 7 else 8) c ∧
      (∃ e, c.phases 0 = .ended (.error e)) ∧ c.register.Few ∧
      c.register.namesOf 7 = ["exec_7_1.so", "exec_7_2.so"] ∧
      c.register.namesOf 8 = ["exec_8_1.so"] ∧ (c.register.issued.map (·.2)).Nodup := by
  let processOf : Nat → Nat := fun thread => if thread < 2 then 7 else 8
  let error : BuildError := .process (.timeout (Path.ofText "ld").display (.ofSeconds 120))
  have hstart : Reachable processOf ({ machine := { outcomes := [] } } : Crew Rehearsal Unit) :=
    .start _
  have hlinked := hstart.links 0 rfl { program := "ld" } [] rfl rfl rfl
  have hasked := (hlinked.step (.asks 1 rfl)).step (.asks 2 rfl)
  refine ⟨_, hasked, ⟨error, rfl⟩, .of_length (by decide), by decide, by decide, ?_⟩
  exact (names_are_numbered hasked (.of_length (by decide))).2.1

end Crew
end ModuleForge
