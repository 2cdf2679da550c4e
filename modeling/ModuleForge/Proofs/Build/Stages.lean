import ModuleForge.Builder
import ModuleForge.Proofs.Action

/-!
# A build in steps

A build can be halted between two calls of its compiler or its linker and gone on with later,
perhaps on a machine that others have changed meanwhile (`Builder.advance`). Gone on with at once,
the steps are the build (`Builder.build_exec_advances`).
-/
namespace ModuleForge

/-- What a build is at between two of its steps. -/
inductive Stage (σ η : Type) where
  | ready
  | compiling (compiler : Compiler σ) (linker : Linker σ η) (index : Nat) (rest : Targets)
      (objects : List Object)
  | ended (result : Except BuildError (Library η))

namespace Builder

variable {σ η : Type} [Logging σ]

/-- The log entry for a target that is about to be compiled. -/
def targetEvent (index : Nat) (t : Target) : Event :=
  ⟨.debug, Part.builder, "compiling target",
    [("index", toString index), ("object", t.objectName.display)]⟩

/-- The log entry for a module that was built. -/
def finishedEvent (library : Library η) : Event :=
  ⟨.info, Part.builder, "build finished",
    [("module", library.path.display), ("loaded", toString library.isLoaded)]⟩

/-- One step: the tools are looked for, a target is compiled, or all objects are linked. -/
def advance (b : Builder σ η) : Stage σ η → StateM σ (Stage σ η)
  | .ready =>
    match b.compiler, b.linker with
    | none, _ => return .ended (.error (.config .missingCompiler))
    | some _, none => return .ended (.error (.config .missingLinker))
    | some compiler, some linker => do
      log ⟨.info, Part.builder, "building", [("targets", toString b.targets.length)]⟩
      return .compiling compiler linker 0 b.targets []
  | .compiling compiler linker index (t :: rest) objects => do
    log (targetEvent index t)
    match ← (compiler.compile t.source t.objectName b.context).run with
    | .ok object => return .compiling compiler linker (index + 1) rest (objects ++ [object])
    | .error e => return .ended (.error e)
  | .compiling _ linker _ [] objects => do
    match ← (linker.link objects).run with
    | .ok library =>
      log (finishedEvent library)
      return .ended (.ok library)
    | .error e => return .ended (.error e)
  | .ended result => return .ended result

/-- Some steps one after the other. -/
def advances (b : Builder σ η) : Nat → Stage σ η → StateM σ (Stage σ η)
  | 0, stage => return stage
  | n + 1, stage => do b.advances n (← b.advance stage)

theorem advances_succ {b : Builder σ η} {n : Nat} {stage next last : Stage σ η} {s t after : σ}
    (h : (b.advance stage).run s = (next, t)) (hrest : (b.advances n next).run t = (last, after)) :
    (b.advances (n + 1) stage).run s = (last, after) :=
  (run_bind_of_run h).trans hrest

theorem advances_ended (b : Builder σ η) (n : Nat)
    (result : Except BuildError (Library η)) (s : σ) :
    (b.advances n (.ended result)).run s = (.ended result, s) := by
  induction n with
  | zero => rfl
  | succ n ih => exact advances_succ rfl ih

section Steps

variable {compiler : Compiler σ} {linker : Linker σ η}

theorem advance_compiles {b : Builder σ η} {index : Nat} {t : Target} {rest : Targets}
    {objects : List Object} {object : Object} {s after : σ}
    (h : (compiler.compile t.source t.objectName b.context).exec
      (Logging.log (targetEvent index t) s)
      = (.ok object, after)) :
    (b.advance (.compiling compiler linker index (t :: rest) objects)).run s
      = (.compiling compiler linker (index + 1) rest (objects ++ [object]), after) :=
  (run_bind_of_run rfl).trans (run_bind_of_run h)

theorem advance_stops {b : Builder σ η} {index : Nat} {t : Target} {rest : Targets}
    {objects : List Object} {e : BuildError} {s after : σ}
    (h : (compiler.compile t.source t.objectName b.context).exec
      (Logging.log (targetEvent index t) s)
      = (.error e, after)) :
    (b.advance (.compiling compiler linker index (t :: rest) objects)).run s
      = (.ended (.error e), after) :=
  (run_bind_of_run rfl).trans (run_bind_of_run h)

theorem advance_links {b : Builder σ η} {index : Nat} {objects : List Object} {library : Library η}
    {s after : σ} (h : (linker.link objects).exec s = (.ok library, after)) :
    (b.advance (.compiling compiler linker index [] objects)).run s
      = (.ended (.ok library), Logging.log (finishedEvent library) after) :=
  run_bind_of_run h

theorem advance_links_not {b : Builder σ η} {index : Nat} {objects : List Object} {e : BuildError}
    {s after : σ} (h : (linker.link objects).exec s = (.error e, after)) :
    (b.advance (.compiling compiler linker index [] objects)).run s = (.ended (.error e), after) :=
  run_bind_of_run h

/-- What is left of a build after some compilations. -/
def remainder (b : Builder σ η) (compiler : Compiler σ) (linker : Linker σ η) (index : Nat)
    (rest : Targets) (objects : List Object) : Action σ BuildError (Library η) := do
  let more ← compileAll compiler b.context index rest
  let library ← linker.link (objects ++ more)
  log (finishedEvent library)
  return library

theorem compileAll_cons (compiler : Compiler σ) (context : Option Context) (index : Nat)
    (t : Target)
    (rest : Targets) : compileAll compiler context index (t :: rest) = (do
      log (targetEvent index t)
      let object ← compiler.compile t.source t.objectName context
      return object :: (← compileAll compiler context (index + 1) rest)) := rfl

theorem exec_remainder_cons (b : Builder σ η) (index : Nat) (t : Target) (rest : Targets)
    (objects : List Object) (s : σ) :
    (b.remainder compiler linker index (t :: rest) objects).exec s =
      match (compiler.compile t.source t.objectName b.context).exec
          (Logging.log (targetEvent index t) s) with
      | (.ok object, after) =>
        (b.remainder compiler linker (index + 1) rest (objects ++ [object])).exec after
      | (.error e, after) => (.error e, after) := by
  unfold remainder
  rw [compileAll_cons]
  simp only [Action.exec_bind, Action.exec_log]
  cases (compiler.compile t.source t.objectName b.context).exec _ with
  | mk answer after =>
    cases answer with
    | error e => rfl
    | ok object =>
      dsimp only
      cases (compileAll compiler b.context (index + 1) rest).exec after with
      | mk more last => cases more <;> simp

/-- The steps that are left do the rest of the build. -/
theorem advances_remainder (b : Builder σ η) (compiler : Compiler σ) (linker : Linker σ η)
    (index : Nat)
    (rest : Targets) (objects : List Object)
    (s : σ) : ∃ result after,
    (b.remainder compiler linker index rest objects).exec s = (result, after) ∧
      (b.advances (rest.length + 1) (.compiling compiler linker index rest objects)).run s
        = (.ended result, after) := by
  induction rest generalizing index objects s with
  | nil =>
    cases hlink : (linker.link objects).exec s with
    | mk answer after =>
      cases answer with
      | ok library =>
        refine ⟨.ok library, Logging.log (finishedEvent library) after, ?_,
          advances_succ (advance_links hlink) rfl⟩
        simp only [remainder, compileAll, Action.exec_bind, Action.exec_pure, Action.exec_log,
          List.append_nil, hlink]
      | error e =>
        refine ⟨.error e, after, ?_, advances_succ (advance_links_not hlink) rfl⟩
        simp only [remainder, compileAll, Action.exec_bind, Action.exec_pure,
          List.append_nil, hlink]
  | cons t rest ih =>
    rw [exec_remainder_cons]
    cases hcompile : (compiler.compile t.source t.objectName b.context).exec
        (Logging.log (targetEvent index t) s) with
    | mk answer after =>
      cases answer with
      | error e =>
        exact ⟨_, _, rfl, advances_succ (advance_stops hcompile) (advances_ended ..)⟩
      | ok object =>
        obtain ⟨result, last, hrest, hsteps⟩ := ih (index + 1) (objects ++ [object]) after
        exact ⟨result, last, hrest, advances_succ (advance_compiles hcompile) hsteps⟩

end Steps

/-- A build is its steps, gone on with at once. -/
theorem build_exec_advances (b : Builder σ η) (s : σ) : ∃ result after,
    b.build.exec s = (result, after) ∧
      (b.advances (b.targets.length + 2) .ready).run s = (.ended result, after) := by
  obtain ⟨compiler?, linker?, context, targets⟩ := b
  cases compiler? with
  | none => exact ⟨_, s, rfl, advances_succ rfl (advances_ended ..)⟩
  | some compiler =>
    cases linker? with
    | none => exact ⟨_, s, rfl, advances_succ rfl (advances_ended ..)⟩
    | some linker =>
      obtain ⟨result, after, hbuild, hsteps⟩ := advances_remainder
        ⟨some compiler, some linker, context, targets⟩ compiler linker 0 targets [] _
      exact ⟨result, after, hbuild, advances_succ rfl hsteps⟩

end Builder
end ModuleForge
