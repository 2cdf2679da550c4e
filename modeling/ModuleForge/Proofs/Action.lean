import ModuleForge.Log
import ModuleForge.Surroundings

/-!
# Running actions

What an action answers in a state and the state that it leaves (`Action.exec`), with one equation
for each way of making an action. An action that has failed is not gone on with (`exec_bind`).
-/
namespace ModuleForge

variable {σ ε ε' α β : Type}

/-- A step goes on from the answer of the first part, in the state that it has left. -/
theorem run_bind_of_run {m : StateM σ α} {f : α → StateM σ β} {x : α} {s t : σ}
    (h : m.run s = (x, t)) :
    (m >>= f).run s = (f x).run t := by
  rw [StateT.run_bind, h]
  rfl

@[simp] theorem mapError_ok (f : ε → ε') (x : α) : (Except.ok x).mapError f = .ok x := rfl

theorem mapError_eq_ok {x : Except ε α} {f : ε → ε'} {a : α} :
    x.mapError f = .ok a ↔ x = .ok a := by
  cases x with
  | error e => exact iff_of_false nofun nofun
  | ok b => rw [mapError_ok, Except.ok.injEq, Except.ok.injEq]

theorem ok_bind_iff {x : Except ε α} {f : α → Except ε β} {b : β} :
    (x >>= f) = .ok b ↔ ∃ a, x = .ok a ∧ f a = .ok b := by
  cases x <;> simp [bind, Except.bind]

theorem ok_map_iff {x : Except ε α} {f : α → β} {b : β} :
    (f <$> x) = .ok b ↔ ∃ a, x = .ok a ∧ f a = b := by
  cases x <;> simp [Functor.map, Except.map]

namespace Action

/-- The answer of an action, and the state that it leaves. -/
def exec (a : Action σ ε α) (s : σ) : Except ε α × σ := a.run.run s

@[simp] theorem exec_pure (x : α) (s : σ) : exec (pure x : Action σ ε α) s = (.ok x, s) := rfl

@[simp] theorem exec_throw (e : ε) (s : σ) : exec (throw e : Action σ ε α) s = (.error e, s) := rfl

theorem exec_bind (a : Action σ ε α) (f : α → Action σ ε β) (s : σ) :
    exec (a >>= f) s = match exec a s with
      | (.ok x, t) => exec (f x) t
      | (.error e, t) => (.error e, t) := by
  simp only [exec, ExceptT.run_bind, StateT.run_bind]
  cases h : a.run.run s with
  | mk answer t => cases answer <;> rfl

@[simp] theorem exec_lift (m : StateM σ α) (s : σ) :
    exec (liftM m : Action σ ε α) s = (.ok (m.run s).1, (m.run s).2) := rfl

@[simp] theorem exec_get (s : σ) : exec (get : Action σ ε σ) s = (.ok s, s) := rfl

@[simp] theorem exec_log [Logging σ] (e : Event) (s : σ) :
    exec (log e : Action σ ε PUnit) s = (.ok ⟨⟩, Logging.log e s) := rfl

@[simp] theorem exec_reads (f : σ → Except ε α) (s : σ) : exec (reads f) s = (f s, s) := rfl

@[simp] theorem exec_mapError (f : ε → ε') (a : Action σ ε α) (s : σ) :
    exec (a.mapError f) s = ((exec a s).1.mapError f, (exec a s).2) := rfl

end Action
end ModuleForge
