import ModuleForge.Builder
import ModuleForge.Proofs.Trace

/-!
# The calls of a build

A builder is observed by putting recorders in place of its compiler and its linker, which pass every
call on and write it down with its answer (`Builder.observed`). What the two do is open: they act on
any state, so each answer may depend on all calls before it.

`build_calls`: observing changes neither the answer of a build nor the state that it leaves, and the
calls are the compilations of the targets in order, up to the first that fails, and then one linking
of the objects that these have returned.
-/
namespace ModuleForge

/-!
## Compiling one target after the other

Whatever one compilation writes down, those of many targets write down one after the other, up to
the first that fails (`Compiling`). `compileAll_traces` is the induction over the targets; what a
particular compiler writes down is a parameter.
-/

/-- The entries and the result of compiling targets in order, where `P` tells what one compilation
answers and writes down. -/
inductive Compiling {ι : Type} (P : Target → Except BuildError Object → List ι → Prop) :
    Targets → List ι → Except BuildError (List Object) → Prop where
  | nil : Compiling P [] [] (.ok [])
  | stops {t : Target} {rest : Targets} {e : BuildError} {entries : List ι}
      (h : P t (.error e) entries) : Compiling P (t :: rest) entries (.error e)
  | passes {t : Target} {rest : Targets} {object : Object} {entries more : List ι}
      {result : Except BuildError (List Object)} (h : P t (.ok object) entries)
      (hrest : Compiling P rest more result) :
      Compiling P (t :: rest) (entries ++ more) (result.map (object :: ·))

theorem Builder.compileAll_traces {ι σ : Type} [Logging σ]
    {P : Target → Except BuildError Object → List ι → Prop}
    {compiler : Compiler σ} {traced : Compiler (Traced ι σ)} {context : Option Context}
    (hcompile : ∀ t : Target, Traces (P t) (compiler.compile t.source t.objectName context)
      (traced.compile t.source t.objectName context))
    (ts : Targets) (index : Nat) :
    Traces (fun result entries => Compiling P ts entries result)
      (compileAll compiler context index ts) (compileAll traced context index ts) := by
  induction ts generalizing index with
  | nil => exact .pure _ .nil
  | cons t ts ih =>
    refine .log_bind (.bind (hcompile t) (fun e entries h => .stops h) fun object entries h => ?_)
    refine .bind (ih (index + 1)) (fun e more hmore => .passes h hmore) fun objects more hmore => ?_
    refine .pure _ ?_
    rw [List.append_nil]
    exact .passes h hmore

/-! ## Calls -/

variable {σ η : Type}

/-- A call of a compiler or a linker, and its answer. -/
inductive Call (η : Type) where
  | compiled (source : Source) (objectName : Path) (context : Option Context)
      (answer : Except BuildError Object)
  | linked (objects : List Object) (answer : Except BuildError (Library η))

def Compiler.observed (c : Compiler σ) : Compiler (Traced (Call η) σ) where
  compile source name context :=
    Traced.recorded (fun answer => [.compiled source name context answer])
      (c.compile source name context)

def Linker.observed (l : Linker σ η) : Linker (Traced (Call η) σ) η where
  link objects := Traced.recorded (fun answer => [.linked objects answer]) (l.link objects)

theorem Compiler.observed_traces (c : Compiler σ) (source : Source) (name : Path)
    (context : Option Context) :
    Traces (fun answer calls => calls = [.compiled source name context answer])
      (c.compile source name context)
      ((c.observed : Compiler (Traced (Call η) σ)).compile source name context) :=
  .recorded _ _

theorem Linker.observed_traces (l : Linker σ η) (objects : List Object) :
    Traces (fun answer calls => calls = [.linked objects answer]) (l.link objects)
      (l.observed.link objects) :=
  .recorded _ _

namespace Builder

def observed (b : Builder σ η) : Builder (Traced (Call η) σ) η where
  compiler := b.compiler.map (·.observed)
  linker := b.linker.map (·.observed)
  context := b.context
  targets := b.targets

/-- The calls that have compiled targets into objects. -/
def compilations (context : Option Context) (ts : Targets) (objects : List Object) :
    List (Call η) :=
  List.zipWith (fun t object => .compiled t.source t.objectName context (.ok object)) ts objects

/-- Compiling passes over the targets that compile and stops at the first that does not. -/
theorem compiling_calls {context : Option Context} {ts : Targets} {calls : List (Call η)}
    {result : Except BuildError (List Object)}
    (h : Compiling (fun t answer calls => calls = [.compiled t.source t.objectName context answer])
      ts calls result) :
    (∃ done t rest objects e, ts = done ++ t :: rest ∧ objects.length = done.length ∧
        calls = compilations context done objects
          ++ [.compiled t.source t.objectName context (.error e)] ∧ result = .error e) ∨
      ∃ objects, objects.length = ts.length ∧ calls = compilations context ts objects ∧
        result = .ok objects := by
  induction h with
  | nil => exact .inr ⟨[], rfl, rfl, rfl⟩
  | @stops t rest e calls h => exact .inl ⟨[], t, rest, [], e, rfl, rfl, h, rfl⟩
  | @passes t ts object calls more result h _ ih =>
    subst h
    rcases ih with ⟨done, u, rest, objects, e, rfl, hlen, rfl, rfl⟩ | ⟨objects, hlen, rfl, rfl⟩
    · exact .inl ⟨t :: done, u, rest, object :: objects, e, rfl, by simp [hlen], rfl, rfl⟩
    · exact .inr ⟨object :: objects, by simp [hlen], rfl, rfl⟩

/-- **Fail-fast.** Without a compiler, or else without a linker, a build makes no call and says so.
With both it compiles the targets in order up to the first that fails, whose error is its answer;
when none fails it links the objects that the compilations have returned, once, and its answer is
that of the linker. -/
theorem build_calls [Logging σ] (b : Builder σ η) (s : σ) :
    ∃ result after calls,
      b.build.exec s = (result, after) ∧
      b.observed.build.exec ⟨s, []⟩ = (result, ⟨after, calls⟩) ∧
      match b.compiler, b.linker with
      | none, _ => calls = [] ∧ result = .error (.config .missingCompiler)
      | some _, none => calls = [] ∧ result = .error (.config .missingLinker)
      | some _, some _ =>
        (∃ done t rest objects e, b.targets = done ++ t :: rest ∧ objects.length = done.length ∧
            calls = compilations b.context done objects
              ++ [.compiled t.source t.objectName b.context (.error e)] ∧ result = .error e) ∨
          ∃ objects, objects.length = b.targets.length ∧
            calls = compilations b.context b.targets objects ++ [.linked objects result] := by
  obtain ⟨compiler?, linker?, context, targets⟩ := b
  cases compiler? with
  | none => exact ⟨_, s, [], rfl, rfl, rfl, rfl⟩
  | some compiler =>
    cases linker? with
    | none => exact ⟨_, s, [], rfl, rfl, rfl, rfl⟩
    | some linker =>
      refine (?_ : Traces _ (build _) (build _)) s []
      refine .log_bind
        (.bind (compileAll_traces (fun t => compiler.observed_traces _ _ _) targets 0)
        (fun e calls h => ?_) fun objects calls h => ?_)
      · rcases compiling_calls h with
          ⟨done, t, rest, objects, e', hts, hlen, rfl, he⟩ | ⟨_, _, _, he⟩
        · cases he
          exact .inl ⟨done, t, rest, objects, e, hts, hlen, rfl, rfl⟩
        · cases he
      · rcases compiling_calls h with ⟨_, _, _, _, _, _, _, _, ho⟩ | ⟨_, hlen, rfl, ho⟩
        · cases ho
        · cases ho
          refine .bind (linker.observed_traces objects) (fun e more hmore => ?_)
            fun library more hmore => ?_
          · exact .inr ⟨objects, hlen, by rw [hmore]⟩
          · exact .log_bind (.pure _ (.inr ⟨objects, hlen, by rw [hmore, List.append_nil]⟩))

end Builder
end ModuleForge
