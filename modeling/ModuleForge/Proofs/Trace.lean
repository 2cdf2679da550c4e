import ModuleForge.Proofs.Action

/-!
# Programs that write down what they do

A state with a list beside it (`Traced`), to which a program appends, and the relation between a
program on the plain state and one on the state with the list: they answer alike and leave the same
state, and what the second appends suits the answer (`Traces`). The rules follow the way programs
are put together, and the ones for binding and logging carry what is known so far (`Traces.bind`).
-/
namespace ModuleForge

/-- A state beside a list of what has happened. -/
structure Traced (ι σ : Type) where
  state : σ
  trace : List ι

variable {ι σ ε ε' α β : Type}

namespace Traced

instance [Logging σ] : Logging (Traced ι σ) where
  log e s := { s with state := Logging.log e s.state }

/-- Does a step on the state and appends what it comes to. -/
def step (entries : α → σ → List ι) (m : StateM σ α) : StateM (Traced ι σ) α := fun s =>
  let (answer, state) := m.run s.state
  (answer, ⟨state, s.trace ++ entries answer state⟩)

/-- Does an action and appends what its answer comes to. -/
def recorded (entries : Except ε α → List ι) (a : Action σ ε α) : Action (Traced ι σ) ε α :=
  ExceptT.mk (step (fun answer _ => entries answer) a.run)

@[simp] theorem log_mk [Logging σ] (e : Event) (s : σ) (before : List ι) :
    Logging.log e (⟨s, before⟩ : Traced ι σ) = ⟨Logging.log e s, before⟩ := rfl

@[simp] theorem run_step (f : α → σ → List ι) (m : StateM σ α) (s : σ) (before : List ι) :
    (step f m).run ⟨s, before⟩
      = ((m.run s).1, ⟨(m.run s).2, before ++ f (m.run s).1 (m.run s).2⟩) := rfl

end Traced

/-- `b` does what `a` does and appends entries that suit the answer, as `P` says. -/
def Traces (P : Except ε α → List ι → Prop) (a : Action σ ε α) (b : Action (Traced ι σ) ε α) :
    Prop :=
  ∀ s before, ∃ answer after entries,
    a.exec s = (answer, after) ∧ b.exec ⟨s, before⟩ = (answer, ⟨after, before ++ entries⟩) ∧
      P answer entries

namespace Traces

variable {P R : Except ε α → List ι → Prop} {a : Action σ ε α} {b : Action (Traced ι σ) ε α}

theorem weaken (h : Traces P a b) (hR : ∀ answer entries, P answer entries → R answer entries) :
    Traces R a b := fun s before =>
  let ⟨answer, after, entries, ha, hb, hP⟩ := h s before
  ⟨answer, after, entries, ha, hb, hR answer entries hP⟩

theorem pure (x : α) (h : P (.ok x) []) :
    Traces P (Pure.pure x : Action σ ε α) (Pure.pure x : Action (Traced ι σ) ε α) := fun s before =>
  ⟨.ok x, s, [], rfl, by simp, h⟩

/-- A failure of the first part is that of the whole; else the second part appends to what the first
has appended. -/
theorem bind {Q : Except ε β → List ι → Prop} {f : α → Action σ ε β}
    {g : α → Action (Traced ι σ) ε β}
    (h : Traces P a b) (herror : ∀ e entries, P (.error e) entries → Q (.error e) entries)
    (hok : ∀ x entries, P (.ok x) entries →
      Traces (fun answer more => Q answer (entries ++ more)) (f x) (g x)) :
    Traces Q (a >>= f) (b >>= g) := by
  intro s before
  obtain ⟨answer, after, entries, ha, hb, hP⟩ := h s before
  simp only [Action.exec_bind, ha, hb]
  cases answer with
  | error e => exact ⟨.error e, after, entries, rfl, rfl, herror e entries hP⟩
  | ok x =>
    obtain ⟨last, done, more, hf, hg, hQ⟩ := hok x entries hP after (before ++ entries)
    exact ⟨last, done, entries ++ more, hf, by simp only [hg, List.append_assoc], hQ⟩

/-- What comes after a failure does not happen. -/
theorem throw_bind {f : β → Action σ ε α} {g : β → Action (Traced ι σ) ε α} {e : ε}
    (h : P (.error e) []) :
    Traces P (throw e >>= f : Action σ ε α) (throw e >>= g : Action (Traced ι σ) ε α) :=
  fun s before => ⟨.error e, s, [], by simp, by simp, h⟩

theorem throw {e : ε} (h : P (.error e) []) :
    Traces P (throw e : Action σ ε α) (throw e : Action (Traced ι σ) ε α) := fun s before =>
  ⟨.error e, s, [], rfl, by simp, h⟩

/-- Logging appends nothing. -/
theorem log_bind [Logging σ] {e : Event} (h : Traces P a b) :
    Traces P (do log e; a) (do log e; b) := fun s before => by
  simpa [Action.exec_bind] using h (Logging.log e s) before

/-- Looking at the state appends nothing. -/
theorem get_bind {f : σ → Action σ ε α} {g : Traced ι σ → Action (Traced ι σ) ε α}
    (h : ∀ s before, Traces P (f s) (g ⟨s, before⟩)) :
    Traces P (get >>= f) (get >>= g) := fun s before => by
  simpa [Action.exec_bind] using h s before s before

theorem reads {f : σ → Except ε α} {g : Traced ι σ → Except ε α}
    (h : ∀ s before, g ⟨s, before⟩ = f s ∧ P (f s) []) :
    Traces P (Action.reads f) (Action.reads g) := fun s before =>
  ⟨f s, s, [], rfl, by simp [(h s before).1], (h s before).2⟩

theorem mapError {f : ε → ε'} {Q : Except ε' α → List ι → Prop} (h : Traces P a b)
    (hQ : ∀ answer entries, P answer entries → Q (answer.mapError f) entries) :
    Traces Q (a.mapError f) (b.mapError f) := fun s before =>
  let ⟨answer, after, entries, ha, hb, hP⟩ := h s before
  ⟨answer.mapError f, after, entries, by simp [ha], by simp [hb], hQ answer entries hP⟩

/-- A step that only answers. -/
theorem lift {m : StateM σ α} {n : StateM (Traced ι σ) α}
    (h : ∀ s before, ∃ entries, n.run ⟨s, before⟩
      = ((m.run s).1, ⟨(m.run s).2, before ++ entries⟩) ∧
      P (.ok (m.run s).1) entries) :
    Traces P (liftM m : Action σ ε α) (liftM n : Action (Traced ι σ) ε α) := fun s before =>
  let ⟨entries, hn, hP⟩ := h s before
  ⟨.ok (m.run s).1, (m.run s).2, entries, rfl, by simp [hn], hP⟩

theorem recorded (entries : Except ε α → List ι) (a : Action σ ε α) :
    Traces (fun answer new => new = entries answer) a (Traced.recorded entries a) := fun _ _ =>
  ⟨_, _, _, rfl, rfl, rfl⟩

end Traces
end ModuleForge
