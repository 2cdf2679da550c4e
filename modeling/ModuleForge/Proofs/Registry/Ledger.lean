import ModuleForge.Proofs.Action
import ModuleForge.Proofs.Registry

/-!
# The registry as a ledger

Every addition that a builder accepts is entered in a ledger and stays there; to take a target out
is to strike its entry. The registered targets are those of the entries that stand
(`Ledger.targets`). `Step` tells what a change does to the ledger and what it answers, `Struck` how
the two ways of removing find their entry.

* `takeFirst_struck`: taking a target out of the registry strikes the earliest entry that stands and
  matches.
* `change_steps`: a change of a builder is a step of its ledger.
* `Step.namesApart`: of two entries that stand and have one name, the later goes by the name that
  its text yields.
* `registry_keeps_ledger`: the three together, for any changes from an empty registry.
-/
namespace ModuleForge

/-- How a target has come by its name. -/
inductive Naming where
  | derived
  | given
  deriving DecidableEq, Repr

/-- An addition to a registry, and whether the target is still registered. -/
structure Entry where
  target : Target
  naming : Naming
  standing : Bool := true
  deriving DecidableEq, Repr

/-- The additions to a registry in their order. -/
abbrev Ledger := List Entry

/-- The answer to a change. -/
inductive Reply where
  | named (name : Path)
  | accepted
  | refused (error : ConfigError)
  | removed (target : Option Target)
  | cleared

/-- The addition that a change was, if it was accepted as one. -/
def addition? : Change × Reply → Option (Target × Naming)
  | (.add source, .named name) => some (⟨source, name⟩, .derived)
  | (.addNamed source name, .accepted) => some (⟨source, name⟩, .given)
  | _ => none

/-! ## Changing a builder -/

namespace Builder

variable {σ η : Type} [Logging σ]

def change (b : Builder σ η) : Change → StateM σ (Reply × Builder σ η)
  | .add source => do
    let (name, b) ← b.addTarget source
    return (.named name, b)
  | .addNamed source name => do
    match ← (b.addNamedTarget source name).run with
    | .ok b => return (.accepted, b)
    | .error e => return (.refused e, b)
  | .remove source =>
    let (found, targets) := b.targets.remove source
    return (.removed found, { b with targets })
  | .removeNamed name =>
    let (found, targets) := b.targets.removeNamed name
    return (.removed found, { b with targets })
  | .clear => return (.cleared, { b with targets := [] })

def changeAll (b : Builder σ η) : List Change → StateM σ (List Reply × Builder σ η)
  | [] => return ([], b)
  | change :: changes => do
    let (reply, b) ← b.change change
    let (replies, b) ← b.changeAll changes
    return (reply :: replies, b)

end Builder

/-! ## Keeping the ledger -/

namespace Ledger

/-- The entries that are not struck. -/
def upright (l : Ledger) : Ledger := l.filter (·.standing)

/-- The targets that are registered. -/
def targets (l : Ledger) : Targets := l.upright.map (·.target)

/-- The earliest entry that stands and matches is struck, or there is none. -/
inductive Struck (p : Target → Bool) : Ledger → Option Target → Ledger → Prop where
  | found {before after : Ledger} {e : Entry} (standing : e.standing = true)
      (suits : p e.target = true)
      (earliest : ∀ d ∈ before, d.standing = true → p d.target = false) :
      Struck p (before ++ e :: after) (some e.target)
        (before ++ { e with standing := false } :: after)
  | missed {l : Ledger} (none : ∀ d ∈ l, d.standing = true → p d.target = false) :
      Struck p l .none l

/-- What a change does to the ledger, and its answer. -/
inductive Step (l : Ledger) : Change → Reply → Ledger → Prop where
  | added (source : Source) :
      Step l (.add source) (.named source.objectName)
        (l ++ [{ target := ⟨source, source.objectName⟩, naming := .derived }])
  | accepted (source : Source) {name : Path}
      (free : ∀ t ∈ l.targets, t.objectName.same name = false) :
      Step l (.addNamed source name) .accepted
        (l ++ [{ target := ⟨source, name⟩, naming := .given }])
  | refused (source : Source) {name : Path}
      (taken : ∃ t ∈ l.targets, t.objectName.same name = true) :
      Step l (.addNamed source name) (.refused (.duplicateTarget name)) l
  | removed {source : Source} {found : Option Target} {l' : Ledger}
      (struck : Struck (fun t => t.source.identity == source.identity) l found l') :
      Step l (.remove source) (.removed found) l'
  | removedNamed {name : Path} {found : Option Target} {l' : Ledger}
      (struck : Struck (fun t => t.objectName.same name) l found l') :
      Step l (.removeNamed name) (.removed found) l'
  | cleared : Step l .clear .cleared (l.map fun e => { e with standing := false })

/-- What changes do one after the other. -/
inductive Steps : Ledger → List (Change × Reply) → Ledger → Prop where
  | nil (l : Ledger) : Steps l [] l
  | cons {l m n : Ledger} {change : Change} {reply : Reply} {rest : List (Change × Reply)}
      (step : Step l change reply m) (steps : Steps m rest n) :
      Steps l ((change, reply) :: rest) n

/-- Of two entries that stand and have one name, the later goes by the name that its text yields. -/
def NamesApart (l : Ledger) : Prop :=
  List.Pairwise (fun d e : Entry => d.target.objectName.same e.target.objectName = true →
    e.naming = .derived) l.upright

/-- The additions, whatever became of them. -/
def additions (l : Ledger) : List (Target × Naming) := l.map fun e => (e.target, e.naming)

@[simp] theorem upright_nil : upright [] = [] := rfl

@[simp] theorem upright_append (l m : Ledger) : upright (l ++ m) = l.upright ++ m.upright :=
  List.filter_append ..

theorem upright_cons_standing {e : Entry} (h : e.standing = true) (l : Ledger) :
    upright (e :: l) = e :: l.upright := List.filter_cons_of_pos h

theorem upright_cons_struck {e : Entry} (h : e.standing = false) (l : Ledger) :
    upright (e :: l) = l.upright := List.filter_cons_of_neg (by simp [h])

@[simp] theorem targets_append (l m : Ledger) : targets (l ++ m) = l.targets ++ m.targets := by
  simp [targets]

/-- Striking every entry leaves none that stands. -/
theorem upright_strike (l : Ledger) :
    upright (l.map fun e => { e with standing := false }) = [] := by
  simp [upright, List.filter_map, Function.comp_def]

/-! ## Striking -/

/-- An entry in front that is struck already or does not match changes nothing. -/
theorem Struck.cons {p : Target → Bool} {l l' : Ledger} {found : Option Target} {d : Entry}
    (hd : d.standing = true → p d.target = false) (h : Struck p l found l') :
    Struck p (d :: l) found (d :: l') := by
  cases h with
  | @found before after e standing hmatch earliest =>
    rw [← List.cons_append, ← List.cons_append]
    refine .found standing hmatch fun c hc hstands => ?_
    rcases List.mem_cons.mp hc with rfl | hc
    · exact hd hstands
    · exact earliest c hc hstands
  | missed none =>
    refine .missed fun c hc hstands => ?_
    rcases List.mem_cons.mp hc with rfl | hc
    · exact hd hstands
    · exact none c hc hstands

/-- An entry in front that stands and matches is the earliest. -/
theorem Struck.head {p : Target → Bool} {e : Entry} (hstands : e.standing = true)
    (hmatch : p e.target = true) (l : Ledger) :
    Struck p (e :: l) (some e.target) ({ e with standing := false } :: l) := by
  rw [← List.nil_append (e :: l), ← List.nil_append (_ :: l)]
  exact .found hstands hmatch (by simp)

/-- Taking the first match out of the registered targets strikes the earliest entry that matches. -/
theorem takeFirst_struck (p : Target → Bool) (l : Ledger) :
    ∃ l', Struck p l (Targets.takeFirst p l.targets).1 l' ∧
      l'.targets = (Targets.takeFirst p l.targets).2 := by
  induction l with
  | nil => exact ⟨[], .missed (by simp), rfl⟩
  | cons e l ih =>
    obtain ⟨l', hstruck, htargets⟩ := ih
    by_cases hstands : e.standing = true
    · have hcons (m : Ledger) : targets (e :: m) = e.target :: m.targets := by
        rw [targets, upright_cons_standing hstands]
        rfl
      rw [hcons, Targets.takeFirst]
      by_cases hmatch : p e.target = true
      · rw [if_pos hmatch]
        refine ⟨{ e with standing := false } :: l, Struck.head hstands hmatch l, ?_⟩
        rw [targets, upright_cons_struck rfl]
        rfl
      · rw [if_neg hmatch]
        exact ⟨e :: l', hstruck.cons fun _ => by simpa using hmatch, by rw [hcons, htargets]⟩
    · have hcons (m : Ledger) : targets (e :: m) = m.targets := by
        rw [targets, upright_cons_struck (by simpa using hstands)]
        rfl
      rw [hcons]
      exact ⟨e :: l', hstruck.cons fun h => absurd h hstands, by rw [hcons, htargets]⟩

theorem Struck.upright_sublist {p : Target → Bool} {l l' : Ledger} {found : Option Target}
    (h : Struck p l found l') : List.Sublist l'.upright l.upright := by
  cases h with
  | @found before after e standing _ _ =>
    rw [upright_append, upright_append, upright_cons_struck rfl, upright_cons_standing standing]
    exact (List.sublist_cons_self e _).append_left _
  | missed _ => exact List.Sublist.refl _

theorem Struck.additions_eq {p : Target → Bool} {l l' : Ledger} {found : Option Target}
    (h : Struck p l found l') : l'.additions = l.additions := by
  cases h <;> simp [additions]

/-! ## Steps -/

theorem NamesApart.append {l : Ledger} {e : Entry} (h : l.NamesApart) (hstands : e.standing = true)
    (hnew : ∀ t ∈ l.targets, t.objectName.same e.target.objectName = true → e.naming = .derived) :
    NamesApart (l ++ [e]) := by
  unfold NamesApart
  rw [upright_append, upright_cons_standing hstands, upright_nil]
  refine List.pairwise_append.mpr ⟨h, List.pairwise_singleton _ _, fun d hd u hu => ?_⟩
  rw [List.mem_singleton.mp hu]
  exact hnew d.target (List.mem_map_of_mem hd)

theorem Step.namesApart {l l' : Ledger} {change : Change} {reply : Reply}
    (h : Step l change reply l') (hapart : l.NamesApart) : l'.NamesApart := by
  cases h with
  | added source => exact hapart.append rfl fun _ _ _ => rfl
  | accepted source free =>
    refine hapart.append rfl fun t ht hsame => ?_
    rw [free t ht] at hsame
    cases hsame
  | refused source taken => exact hapart
  | removed struck => exact List.Pairwise.sublist struck.upright_sublist hapart
  | removedNamed struck => exact List.Pairwise.sublist struck.upright_sublist hapart
  | cleared =>
    unfold NamesApart
    rw [upright_strike]
    exact List.Pairwise.nil

/-- A step enters what was accepted, and nothing else. -/
theorem Step.additions_eq {l l' : Ledger} {change : Change} {reply : Reply}
    (h : Step l change reply l') :
    l'.additions = l.additions ++ (addition? (change, reply)).toList := by
  cases h with
  | added source => simp [additions, addition?]
  | accepted source free => simp [additions, addition?]
  | refused source taken => simp [addition?]
  | removed struck => simp [struck.additions_eq, addition?]
  | removedNamed struck => simp [struck.additions_eq, addition?]
  | cleared => simp [additions, addition?, Function.comp_def]

theorem Steps.namesApart {l l' : Ledger} {done : List (Change × Reply)} (h : Steps l done l')
    (hapart : l.NamesApart) : l'.NamesApart := by
  induction h with
  | nil l => exact hapart
  | cons step _ ih => exact ih (step.namesApart hapart)

theorem Steps.additions_eq {l l' : Ledger} {done : List (Change × Reply)} (h : Steps l done l') :
    l'.additions = l.additions ++ done.filterMap addition? := by
  induction h with
  | nil l => simp
  | cons step _ ih =>
    rw [ih, step.additions_eq, List.append_assoc, List.filterMap_cons]
    split <;> simp [*]

end Ledger

/-! ## The registry of a builder -/

namespace Builder

variable {σ η : Type} [Logging σ]

theorem addTarget_run (b : Builder σ η) (source : Source) (s : σ) :
    ∃ after, (b.addTarget source).run s
      = ((source.objectName, { b with targets := b.targets ++ [⟨source, source.objectName⟩] }),
        after) :=
  ⟨_, rfl⟩

theorem addNamedTarget_taken (b : Builder σ η) (source : Source) {name : Path}
    (h : b.targets.hasName name = true) (s : σ) :
    (b.addNamedTarget source name).exec s = (.error (.duplicateTarget name), s) := by
  simp [addNamedTarget, Action.exec_bind, Targets.addNamed, h]

theorem addNamedTarget_free (b : Builder σ η) (source : Source) {name : Path}
    (h : b.targets.hasName name = false) (s : σ) : ∃ after,
    (b.addNamedTarget source name).exec s
      = (.ok { b with targets := b.targets ++ [⟨source, name⟩] }, after) :=
  ⟨_, by simp [addNamedTarget, Action.exec_bind, Targets.addNamed, h]; rfl⟩

open Ledger in
/-- A change of a builder is a step of its ledger. -/
theorem change_steps (b : Builder σ η) (l : Ledger) (change : Change) (s : σ) :
    ∃ reply l' after, (Builder.change { b with targets := l.targets } change).run s
        = ((reply, { b with targets := l'.targets }), after) ∧ Step l change reply l' := by
  cases change with
  | add source =>
    obtain ⟨after, hadd⟩ := addTarget_run { b with targets := l.targets } source s
    refine ⟨_, _, after, ?_, .added source⟩
    rw [targets_append]
    unfold Builder.change
    rw [run_bind_of_run hadd]
    rfl
  | addNamed source name =>
    cases hname : l.targets.hasName name with
    | true =>
      have htaken : ∃ t ∈ l.targets, t.objectName.same name = true := List.any_eq_true.mp hname
      have hadd := addNamedTarget_taken { b with targets := l.targets } source hname s
      exact ⟨_, _, s, run_bind_of_run hadd, .refused source htaken⟩
    | false =>
      have hfree : ∀ t ∈ l.targets, t.objectName.same name = false := by
        simpa [Targets.hasName] using hname
      obtain ⟨after, hadd⟩ := addNamedTarget_free { b with targets := l.targets } source hname s
      refine ⟨_, _, after, ?_, .accepted source hfree⟩
      rw [targets_append]
      exact run_bind_of_run hadd
  | remove source =>
    obtain ⟨l', hstruck, htargets⟩ := takeFirst_struck (·.source.same source) l
    exact ⟨_, l', s, by rw [htargets]; rfl, .removed hstruck⟩
  | removeNamed name =>
    obtain ⟨l', hstruck, htargets⟩ := takeFirst_struck (·.objectName.same name) l
    exact ⟨_, l', s, by rw [htargets]; rfl, .removedNamed hstruck⟩
  | clear =>
    have hnone : Ledger.targets (l.map fun e => { e with standing := false }) = [] := by
      rw [Ledger.targets, upright_strike]
      rfl
    exact ⟨_, _, s, by rw [hnone]; rfl, .cleared⟩

open Ledger in
theorem changeAll_steps (changes : List Change) (b : Builder σ η) (l : Ledger) (s : σ) :
    ∃ replies l' after, (Builder.changeAll { b with targets := l.targets } changes).run s
        = ((replies, { b with targets := l'.targets }), after) ∧
      replies.length = changes.length ∧ Steps l (changes.zip replies) l' := by
  induction changes generalizing l s with
  | nil => exact ⟨[], l, s, rfl, rfl, .nil l⟩
  | cons change changes ih =>
    obtain ⟨reply, m, t, hchange, hstep⟩ := b.change_steps l change s
    obtain ⟨replies, n, after, hall, hlen, hsteps⟩ := ih m t
    refine ⟨reply :: replies, n, after, ?_, by simp [hlen], .cons hstep hsteps⟩
    unfold Builder.changeAll
    rw [run_bind_of_run hchange]
    exact run_bind_of_run hall

/-- **The registry is an ordered list.** Whatever changes are made to a builder that has no targets,
there is a ledger such that

* the targets of the builder are those of the entries that stand, in their order;
* the entries are the additions that were accepted, in the order in which they were made, each with
  the source and the name that it was given;
* each change, with its answer, is a step of the ledger: a given name is refused exactly if a
  registered target has it, a removal strikes the earliest entry that stands and matches, and
  nothing else changes what is registered;
* of two registered targets with one name the later was not given its name. -/
theorem registry_keeps_ledger (b : Builder σ η) (changes : List Change) (s : σ) :
    ∃ (replies : List Reply) (ledger : Ledger) (after : σ),
      (Builder.changeAll { b with targets := [] } changes).run s
        = ((replies, { b with targets := ledger.targets }), after) ∧
      replies.length = changes.length ∧
      ledger.additions = (changes.zip replies).filterMap addition? ∧
      Ledger.Steps [] (changes.zip replies) ledger ∧
      ledger.NamesApart := by
  obtain ⟨replies, ledger, after, hrun, hlen, hsteps⟩ := b.changeAll_steps changes [] s
  exact ⟨replies, ledger, after, hrun, hlen, hsteps.additions_eq, hsteps,
    hsteps.namesApart List.Pairwise.nil⟩

end Builder
end ModuleForge
