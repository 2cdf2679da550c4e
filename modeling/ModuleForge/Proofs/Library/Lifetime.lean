import ModuleForge.Library
import ModuleForge.Proofs.Trace

/-!
# The life of a library

A library is opened once and then used: names are looked up in it and it is unloaded, in any order
and any number of times (`Library.live`). The loader is open; it acts on any state, so it may answer
anything to each request, whatever it has answered before. A use is observed with what it asks of
the loader (`Library.Use`).

* `Library.observe_cases` tells all that one use can do, to the answer, to the loader and to the
  library.
* `Library.observeAll_follows` is the induction over the uses: each one suits the handle that those
  before it have left (`Library.Fit`), and the library is what they make of it (`Library.Follows`).
* `Library.live_follows` puts opening before it.
-/
namespace ModuleForge

/-- What is asked of a loader, and its answer. -/
inductive LoaderCall (η : Type) where
  | opened (path : Path) (answer : Except String η)
  | lookedUp (handle : η) (name : ByteString) (answer : Except String Nat)
  | closed (handle : η) (answer : Except String Unit)

namespace LoaderCall

def isClosing : LoaderCall η → Bool
  | closed .. => true
  | _ => false

instance {σ η : Type} [Loading σ η] : Loading (Traced (LoaderCall η) σ) η where
  openModule path := Traced.step (fun answer _ => [.opened path answer]) (Loading.openModule path)
  lookUp handle name :=
    Traced.step (fun answer _ => [.lookedUp handle name answer]) (Loading.lookUp handle name)
  close handle := Traced.step (fun answer _ => [.closed handle answer]) (Loading.close handle)
  ended? s := Loading.ended? s.state
  finish := Traced.step (fun _ _ => []) Loading.finish

end LoaderCall

namespace Library

/-! ## Uses -/

/-- What can be done with a library once it was opened. -/
inductive Operation where
  | resolve (name : String)
  | resolveFunction (name : String)
  | unload
  deriving DecidableEq, Repr

inductive Answer where
  | symbol (found : Except SymbolError Nat)
  | unloaded (wasLoaded : Bool)

/-- An operation, its answer, and what it asked of the loader. -/
structure Use (η : Type) where
  operation : Operation
  answer : Answer
  asked : List (LoaderCall η)

variable {σ η : Type}

section Running

variable [Logging σ] [Loading σ η]

def perform (l : Library η) : Operation → StateM σ (Answer × Library η)
  | .resolve name => do
    let (found, l) ← l.resolve name
    return (.symbol found, l)
  | .resolveFunction name => do
    let (found, l) ← l.resolveFunction name
    return (.symbol found, l)
  | .unload => do
    let (wasLoaded, l) ← l.unload
    return (.unloaded wasLoaded, l)

def performAll (l : Library η) : List Operation → StateM σ (List Answer × Library η)
  | [] => return ([], l)
  | op :: ops => do
    let (answer, l) ← l.perform op
    let (answers, l) ← l.performAll ops
    return (answer :: answers, l)

/-- Does an operation and tells what it asked of the loader. -/
def observe (l : Library η) (op : Operation) : StateM σ (Use η × Library η) := fun s =>
  let ((answer, l), t) := (l.perform op).run (⟨s, []⟩ : Traced (LoaderCall η) σ)
  ((⟨op, answer, t.trace⟩, l), t.state)

def observeAll (l : Library η) : List Operation → StateM σ (List (Use η) × Library η)
  | [] => return ([], l)
  | op :: ops => do
    let (use, l) ← l.observe op
    let (uses, l) ← l.observeAll ops
    return (use :: uses, l)

/-- Opens a library and uses it: what opening asked of the loader, the uses, and the library in the
end. -/
def live (path : Path) (ops : List Operation) :
    StateM σ (List (LoaderCall η) × List (Use η) × Library η) := fun s =>
  let (l, t) := (load path).run (⟨s, []⟩ : Traced (LoaderCall η) σ)
  let ((uses, l), s) := (l.observeAll ops).run t.state
  ((t.trace, uses, l), s)

end Running

/-! ## What uses may do -/

/-- What looking up a name asks of the loader, and what that finds. A name with a NUL inside is not
put to the loader. -/
def LookedUp (handle : η) (name : String) (asked : List (LoaderCall η))
    (found : Except String Nat) :
    Prop :=
  match terminated (ByteString.ofText name) with
  | .ok bytes => asked = [.lookedUp handle bytes found]
  | .error reason => asked = [] ∧ found = .error reason

/-- An address that must not be 0. -/
def nonNull (name : String) : Except SymbolError Nat → Except SymbolError Nat
  | .ok 0 => .error (.notFound name nullAddress)
  | found => found

/-- What looking up a name in a library asks and finds. Without a handle nothing is asked. -/
def Found (handle : Option η) (name : String) (asked : List (LoaderCall η))
    (found : Except SymbolError Nat) : Prop :=
  match handle with
  | some h => ∃ answer, LookedUp h name asked answer ∧ found = answer.mapError (.notFound name)
  | none => asked = [] ∧ found = .error (.notLoaded name)

/-- A use suits the handle of its library: it asks the loader only through the handle, to look up
one name or to close the module, and its answer tells what came of that. -/
def Use.Fits (handle : Option η) (u : Use η) : Prop :=
  match u.operation with
  | .resolve name =>
    ∃ found, Found handle name u.asked found ∧ u.answer = .symbol (nonNull name found)
  | .resolveFunction name => ∃ found, Found handle name u.asked found ∧ u.answer = .symbol found
  | .unload =>
    match handle with
    | some h => (∃ closing, u.asked = [.closed h closing]) ∧ u.answer = .unloaded true
    | none => u.asked = [] ∧ u.answer = .unloaded false

/-- The text of the failure that a use has met. -/
def Use.failure? (u : Use η) : Option String :=
  match u.answer, u.asked with
  | .symbol (.error e), _ => some e.message
  | .unloaded _, [.closed _ (.error reason)] => some reason
  | _, _ => none

/-- What is left of a handle after some uses: it is gone with the first that unloads. -/
def handleAfter (handle : Option η) (uses : List (Use η)) : Option η :=
  if uses.any (·.operation = .unload) then none else handle

/-- The text of the last failure, which is `earlier` if no use has met one. -/
def lastFailure (earlier : Option String) (uses : List (Use η)) : Option String :=
  (uses.filterMap (·.failure?)).getLast?.or earlier

/-- Each use suits the handle that those before it have left. -/
def Fit (handle : Option η) (uses : List (Use η)) : Prop :=
  ∀ before u rest, uses = before ++ u :: rest → u.Fits (handleAfter handle before)

/-- What a library is after some uses. -/
structure Follows (l : Library η) (uses : List (Use η)) (l' : Library η) : Prop where
  path : l'.path = l.path
  handle : l'.handle = handleAfter l.handle uses
  loadError : l'.loadError = l.loadError
  lastError : l'.lastError = lastFailure l.lastError uses

theorem handleAfter_cons (handle : Option η) (u : Use η) (uses : List (Use η)) :
    handleAfter handle (u :: uses) = handleAfter (handleAfter handle [u]) uses := by
  by_cases h : u.operation = .unload <;> simp [handleAfter, h]

theorem lastFailure_cons (earlier : Option String) (u : Use η) (uses : List (Use η)) :
    lastFailure earlier (u :: uses) = lastFailure (lastFailure earlier [u]) uses := by
  cases h : u.failure? with
  | none => simp [lastFailure, h]
  | some text => cases hlast : (uses.filterMap (·.failure?)).getLast? <;>
      simp [lastFailure, h, hlast, List.getLast?_cons]

theorem Follows.nil (l : Library η) : l.Follows [] l := ⟨rfl, rfl, rfl, rfl⟩

theorem Follows.cons {l m n : Library η} {u : Use η} {uses : List (Use η)} (h : l.Follows [u] m)
    (hrest : m.Follows uses n) : l.Follows (u :: uses) n where
  path := hrest.path.trans h.path
  handle := by rw [hrest.handle, h.handle, ← handleAfter_cons]
  loadError := hrest.loadError.trans h.loadError
  lastError := by rw [hrest.lastError, h.lastError, ← lastFailure_cons]

theorem Fit.nil (handle : Option η) : Fit handle [] := fun before u rest h => by
  simp at h

theorem fit_cons {handle : Option η} {u : Use η} {uses : List (Use η)} :
    Fit handle (u :: uses) ↔ u.Fits handle ∧ Fit (handleAfter handle [u]) uses := by
  refine ⟨fun h => ⟨h [] u uses rfl, fun before v rest hv => ?_⟩,
    fun ⟨hu, hrest⟩ before v rest hv => ?_⟩
  · rw [← handleAfter_cons]
    exact h (u :: before) v rest (by rw [hv]; rfl)
  · cases before with
    | nil => cases hv; exact hu
    | cons w before =>
      cases hv
      rw [handleAfter_cons]
      exact hrest before v rest rfl

theorem Found.closings {handle : Option η} {name : String} {asked : List (LoaderCall η)}
    {found : Except SymbolError Nat} (h : Found handle name asked found) :
    asked.countP (·.isClosing) = 0 := by
  unfold Found LookedUp at h
  split at h
  · obtain ⟨answer, hlooked, -⟩ := h
    split at hlooked
    · rw [hlooked]; rfl
    · rw [hlooked.1]; rfl
  · rw [h.1]; rfl

/-- Only unloading closes a module, and only one that is loaded. -/
theorem Use.Fits.closings {handle : Option η} {u : Use η} (h : u.Fits handle) :
    u.asked.countP (·.isClosing) = if handle.isSome ∧ u.operation = .unload then 1 else 0 := by
  unfold Use.Fits at h
  split at h <;> rename_i hop
  · obtain ⟨found, hfound, -⟩ := h
    simp [hop, hfound.closings]
  · obtain ⟨found, hfound, -⟩ := h
    simp [hop, hfound.closings]
  · split at h
    · obtain ⟨⟨closing, hasked⟩, -⟩ := h
      simp [hop, hasked, LoaderCall.isClosing]
    · simp [h.1]

/-- Uses that suit close the module once if it is loaded and one of them unloads it. -/
theorem Fit.closings {handle : Option η} {uses : List (Use η)} (h : Fit handle uses) :
    (uses.flatMap (·.asked)).countP (·.isClosing)
      = if handle.isSome ∧ ∃ u ∈ uses, u.operation = .unload then 1 else 0 := by
  induction uses generalizing handle with
  | nil => simp
  | cons u uses ih =>
    obtain ⟨hu, hrest⟩ := fit_cons.mp h
    rw [List.flatMap_cons, List.countP_append, hu.closings, ih hrest]
    by_cases hop : u.operation = .unload
    · simp [handleAfter, hop]
    · simp [handleAfter, hop]

/-! ## What one use does -/

/-- The library after an answer to a look-up: a failure is remembered. -/
def remember (l : Library η) : Except SymbolError Nat → Library η
  | .ok _ => l
  | .error e => { l with lastError := some e.message }

section Running

variable [Loading σ η]

/-- What putting a name to the loader comes to. -/
def find (handle : η) (name : String) : StateM σ (Except String Nat) :=
  match terminated (ByteString.ofText name) with
  | .ok bytes => Loading.lookUp handle bytes
  | .error reason => pure (.error reason)

theorem find_observed (handle : η) (name : String) (s : σ) : ∃ answer t asked,
    (find handle name).run s = (answer, t) ∧
      (find handle name).run (⟨s, []⟩ : Traced (LoaderCall η) σ) = (answer, ⟨t, asked⟩) ∧
      LookedUp handle name asked answer := by
  unfold find LookedUp
  cases terminated (ByteString.ofText name) with
  | error reason => exact ⟨_, s, [], rfl, rfl, rfl, rfl⟩
  | ok bytes => exact ⟨_, _, _, rfl, rfl, rfl⟩

variable [Logging σ]

/-- The log entry of a failed look-up. -/
def failureEvent (e : SymbolError) : Event :=
  ⟨.debug, Part.library, "symbol resolution failed", [("error", e.message)]⟩

theorem resolveFunction_unloaded (l : Library η) (name : String) (h : l.handle = none) (s : σ) :
    (l.resolveFunction name).run s =
      ((.error (.notLoaded name), l.remember (.error (.notLoaded name))),
        Logging.log (failureEvent (.notLoaded name)) s) := by
  unfold resolveFunction
  rw [h]
  rfl

theorem resolveFunction_loaded (l : Library η) (name : String) {handle : η}
    (h : l.handle = some handle) (s : σ) : (l.resolveFunction name).run s =
      match (find handle name).run s with
      | (.ok address, t) => ((.ok address, l), Logging.log
          ⟨.debug, Part.library, "symbol resolved", [("name", name), ("path", l.path.display)]⟩ t)
      | (.error reason, t) =>
        ((.error (.notFound name reason), l.remember (.error (.notFound name reason))),
          Logging.log (failureEvent (.notFound name reason)) t) := by
  unfold resolveFunction find
  rw [h]
  cases terminated (ByteString.ofText name) with
  | error reason => rfl
  | ok bytes =>
    simp only [StateT.run_bind]
    cases (Loading.lookUp handle bytes).run s with
    | mk answer t => cases answer <;> rfl

/-- A look-up answers what was found, and the library remembers it if that is a failure. -/
theorem resolveFunction_observed (l : Library η) (name : String) (s : σ) : ∃ found t asked,
    (l.resolveFunction name).run s = ((found, l.remember found), t) ∧
      (l.resolveFunction name).run (⟨s, []⟩ : Traced (LoaderCall η) σ)
        = ((found, l.remember found), ⟨t, asked⟩) ∧
      Found l.handle name asked found := by
  cases h : l.handle with
  | none =>
    rw [l.resolveFunction_unloaded name h, l.resolveFunction_unloaded name h]
    exact ⟨_, _, [], rfl, rfl, rfl, rfl⟩
  | some handle =>
    obtain ⟨answer, t, asked, hplain, htraced, hlooked⟩ := find_observed handle name s
    rw [l.resolveFunction_loaded name h, l.resolveFunction_loaded name h, hplain, htraced]
    cases answer with
    | ok address => exact ⟨.ok address, _, asked, rfl, rfl, .ok address, hlooked, rfl⟩
    | error reason => exact ⟨_, _, asked, rfl, rfl, .error reason, hlooked, rfl⟩

theorem resolve_run (l : Library η) (name : String) (s : σ) : (l.resolve name).run s =
    match (l.resolveFunction name).run s with
    | ((.ok 0, l), t) => ((.error (.notFound name nullAddress),
        l.remember (.error (.notFound name nullAddress))),
        Logging.log (failureEvent (.notFound name nullAddress)) t)
    | found => found := by
  unfold resolve
  rw [StateT.run_bind]
  cases (l.resolveFunction name).run s with
  | mk found t =>
    obtain ⟨found | address, l⟩ := found
    · rfl
    · cases address <;> rfl

/-- Resolving is looking up, where the address 0 is a failure. -/
theorem resolve_observed (l : Library η) (name : String) (s : σ) : ∃ found t asked,
    (l.resolve name).run s = ((nonNull name found, l.remember (nonNull name found)), t) ∧
      (l.resolve name).run (⟨s, []⟩ : Traced (LoaderCall η) σ)
        = ((nonNull name found, l.remember (nonNull name found)), ⟨t, asked⟩) ∧
      Found l.handle name asked found := by
  obtain ⟨found, t, asked, hplain, htraced, hfound⟩ := l.resolveFunction_observed name s
  rw [resolve_run, resolve_run, hplain, htraced]
  cases found with
  | error e => exact ⟨_, t, asked, rfl, rfl, hfound⟩
  | ok address =>
    cases address with
    | zero => exact ⟨_, _, asked, rfl, rfl, hfound⟩
    | succ n => exact ⟨_, t, asked, rfl, rfl, hfound⟩

theorem unload_unloaded (l : Library η) (h : l.handle = none) (s : σ) :
    l.unload.run s = ((false, l), s) := by
  unfold unload
  rw [h]
  rfl

theorem unload_loaded (l : Library η) {handle : η} (h : l.handle = some handle) (s : σ) :
    l.unload.run s = match (Loading.close handle).run s with
      | (.ok _, t) => ((true, { l with handle := none }),
          Logging.log ⟨.info, Part.library, "module unloaded", [("path", l.path.display)]⟩ t)
      | (.error reason, t) => ((true, { l with handle := none, lastError := some reason }),
          Logging.log ⟨.warn, Part.library, "failed to close module",
            [("path", l.path.display), ("error", reason)]⟩ t) := by
  unfold unload
  rw [h]
  simp only [StateT.run_bind]
  cases (Loading.close handle).run s with
  | mk answer t => cases answer <;> rfl

/-- The library remembers what the use of it has met. -/
theorem follows_remember (l : Library η) {u : Use η} {found : Except SymbolError Nat}
    (hop : u.operation ≠ .unload) (hanswer : u.answer = .symbol found) :
    l.Follows [u] (l.remember found) := by
  cases found with
  | ok address => exact ⟨rfl, by simp [handleAfter, hop, remember], rfl,
      by simp [lastFailure, Use.failure?, hanswer, remember]⟩
  | error e => exact ⟨rfl, by simp [handleAfter, hop, remember], rfl,
      by simp [lastFailure, Use.failure?, hanswer, remember]⟩

theorem perform_resolve {l m : Library η} {name : String} {found : Except SymbolError Nat} {s t : σ}
    (h : (l.resolve name).run s = ((found, m), t)) :
    (l.perform (.resolve name)).run s = ((.symbol found, m), t) := by
  unfold perform
  rw [run_bind_of_run h]
  rfl

theorem perform_resolveFunction {l m : Library η} {name : String} {found : Except SymbolError Nat}
    {s t : σ} (h : (l.resolveFunction name).run s = ((found, m), t)) :
    (l.perform (.resolveFunction name)).run s = ((.symbol found, m), t) := by
  unfold perform
  rw [run_bind_of_run h]
  rfl

theorem perform_unload {l m : Library η} {wasLoaded : Bool} {s t : σ}
    (h : l.unload.run s = ((wasLoaded, m), t)) :
    (l.perform .unload).run s = ((.unloaded wasLoaded, m), t) := by
  unfold perform
  rw [run_bind_of_run h]
  rfl

theorem observe_eq {l m : Library η} {op : Operation} {answer : Answer} {s t : σ}
    {asked : List (LoaderCall η)}
    (h : (l.perform op).run (⟨s, []⟩ : Traced (LoaderCall η) σ) = ((answer, m), ⟨t, asked⟩)) :
    (l.observe op).run s = ((⟨op, answer, asked⟩, m), t) := by
  show (match (l.perform op).run (⟨s, []⟩ : Traced (LoaderCall η) σ) with
    | ((answer, l), t) => (((⟨op, answer, t.trace⟩, l), t.state) : (Use η × Library η) × σ)) = _
  rw [h]

/-- Unloading answers whether the module was loaded, whatever closing it comes to. -/
theorem unload_observed (l : Library η) (s : σ) : ∃ u l' t,
    (l.observe .unload).run s = ((u, l'), t) ∧ (l.perform .unload).run s = ((u.answer, l'), t) ∧
      u.operation = .unload ∧ u.Fits l.handle ∧ l.Follows [u] l' := by
  cases h : l.handle with
  | none =>
    refine ⟨⟨.unload, .unloaded false, []⟩, l, s, observe_eq (perform_unload ?_), perform_unload ?_,
      rfl, ⟨rfl, rfl⟩, ⟨rfl, by simp [handleAfter, h], rfl, rfl⟩⟩
    · exact l.unload_unloaded h _
    · exact l.unload_unloaded h _
  | some handle =>
    have hplain := l.unload_loaded h s
    have htraced := l.unload_loaded h (⟨s, []⟩ : Traced (LoaderCall η) σ)
    have hclose : (Loading.close handle).run (⟨s, []⟩ : Traced (LoaderCall η) σ) = _ :=
      Traced.run_step _ _ s []
    rw [hclose] at htraced
    cases hc : (Loading.close handle).run s with
    | mk closing t =>
      rw [hc] at hplain htraced
      cases closing with
      | ok _ =>
        exact ⟨⟨.unload, .unloaded true, [.closed handle (.ok ())]⟩, { l with handle := none }, _,
          observe_eq (perform_unload htraced), perform_unload hplain, rfl, ⟨⟨_, rfl⟩, rfl⟩,
          ⟨rfl, rfl, rfl, rfl⟩⟩
      | error reason =>
        exact ⟨⟨.unload, .unloaded true, [.closed handle (.error reason)]⟩,
          { l with handle := none, lastError := some reason }, _,
          observe_eq (perform_unload htraced), perform_unload hplain, rfl, ⟨⟨_, rfl⟩, rfl⟩,
          ⟨rfl, rfl, rfl, rfl⟩⟩

/-- All that one use can do: observing it changes neither its answer nor what it leaves, it suits
the handle, and the library is what it makes of it. -/
theorem observe_cases (l : Library η) (op : Operation) (s : σ) : ∃ u l' t,
    (l.observe op).run s = ((u, l'), t) ∧ (l.perform op).run s = ((u.answer, l'), t) ∧
      u.operation = op ∧ u.Fits l.handle ∧ l.Follows [u] l' := by
  cases op with
  | resolve name =>
    obtain ⟨found, t, asked, hplain, htraced, hfound⟩ := l.resolve_observed name s
    exact ⟨_, _, t, observe_eq (perform_resolve htraced), perform_resolve hplain, rfl,
      ⟨found, hfound, rfl⟩, l.follows_remember nofun rfl⟩
  | resolveFunction name =>
    obtain ⟨found, t, asked, hplain, htraced, hfound⟩ := l.resolveFunction_observed name s
    exact ⟨_, _, t, observe_eq (perform_resolveFunction htraced),
      perform_resolveFunction hplain, rfl, ⟨found, hfound, rfl⟩, l.follows_remember nofun rfl⟩
  | unload => exact l.unload_observed s

/-! ## What uses do one after the other -/

theorem observeAll_cons {l m n : Library η} {op : Operation} {ops : List Operation} {u : Use η}
    {uses : List (Use η)} {s t after : σ} (h : (l.observe op).run s = ((u, m), t))
    (hrest : (m.observeAll ops).run t = ((uses, n), after)) :
    (l.observeAll (op :: ops)).run s = ((u :: uses, n), after) := by
  unfold observeAll
  rw [run_bind_of_run h]
  exact run_bind_of_run hrest

theorem performAll_cons {l m n : Library η} {op : Operation} {ops : List Operation}
    {answer : Answer}
    {answers : List Answer} {s t after : σ} (h : (l.perform op).run s = ((answer, m), t))
    (hrest : (m.performAll ops).run t = ((answers, n), after)) :
    (l.performAll (op :: ops)).run s = ((answer :: answers, n), after) := by
  unfold performAll
  rw [run_bind_of_run h]
  exact run_bind_of_run hrest

theorem observeAll_follows (ops : List Operation) (l : Library η) (s : σ) : ∃ uses l' t,
    (l.observeAll ops).run s = ((uses, l'), t) ∧
      (l.performAll ops).run s = ((uses.map (·.answer), l'), t) ∧
      uses.map (·.operation) = ops ∧ Fit l.handle uses ∧ l.Follows uses l' := by
  induction ops generalizing l s with
  | nil => exact ⟨[], l, s, rfl, rfl, rfl, .nil _, .nil l⟩
  | cons op ops ih =>
    obtain ⟨u, m, t, hobserve, hperform, hop, hfits, hfollows⟩ := l.observe_cases op s
    obtain ⟨uses, n, after, hall, hplain, hops, hfit, hrest⟩ := ih m t
    rw [hfollows.handle] at hfit
    exact ⟨u :: uses, n, after, observeAll_cons hobserve hall, performAll_cons hperform hplain,
      by simp [hop, hops], fit_cons.mpr ⟨hfits, hfit⟩, hfollows.cons hrest⟩

/-! ## Opening -/

/-- What opening asks of the loader, and what that comes to. A path with a NUL inside is not put to
the loader. -/
def Opened (path : Path) (asked : List (LoaderCall η)) (opening : Except String η) : Prop :=
  match terminated path.bytes with
  | .ok bytes => asked = [.opened ⟨bytes⟩ opening]
  | .error reason => asked = [] ∧ opening = .error reason

/-- Why opening has failed. -/
def refusal? : Except String η → Option String
  | .ok _ => none
  | .error reason => some reason

/-- A library right after it was opened. -/
def ofOpening (path : Path) (opening : Except String η) : Library η where
  path := path
  handle := opening.toOption
  loadError := (refusal? opening).map (⟨path, ·⟩)
  lastError := refusal? opening

theorem load_observed (path : Path) (s : σ) : ∃ (opening : Except String η) (t : σ)
    (asked : List (LoaderCall η)), (load path).run s = (ofOpening path opening, t) ∧
      (load path).run (⟨s, []⟩ : Traced (LoaderCall η) σ) = (ofOpening path opening, ⟨t, asked⟩) ∧
      Opened path asked opening := by
  unfold load Opened
  cases terminated path.bytes with
  | error reason => exact ⟨.error reason, _, [], rfl, rfl, rfl, rfl⟩
  | ok bytes =>
    have hopen : (Loading.openModule ⟨bytes⟩).run (⟨s, []⟩ : Traced (LoaderCall η) σ) = _ :=
      Traced.run_step _ _ s []
    simp only [StateT.run_bind, hopen]
    cases (Loading.openModule ⟨bytes⟩ : StateM σ (Except String η)).run s with
    | mk opening t =>
      cases opening with
      | ok handle => exact ⟨.ok handle, _, _, rfl, rfl, rfl⟩
      | error reason => exact ⟨.error reason, _, _, rfl, rfl, rfl⟩

theorem live_eq {path : Path} {ops : List Operation} {l m : Library η} {s t after : σ}
    {asked : List (LoaderCall η)} {uses : List (Use η)}
    (h : (load path).run (⟨s, []⟩ : Traced (LoaderCall η) σ) = (l, ⟨t, asked⟩))
    (hrest : (l.observeAll ops).run t = ((uses, m), after)) :
    (live path ops).run s = ((asked, uses, m), after) := by
  show (match (load path).run (⟨s, []⟩ : Traced (LoaderCall η) σ) with
    | (l, t) => match (l.observeAll ops).run t.state with
      | ((uses, l), s) => (((t.trace, uses, l), s) : (List (LoaderCall η) × _ × Library η) × σ)) = _
  rw [h]
  dsimp only
  rw [hrest]

theorem handleAfter_isSome {handle : Option η} {uses : List (Use η)} :
    (handleAfter handle uses).isSome = true ↔
      handle.isSome = true ∧ .unload ∉ uses.map (·.operation) := by
  unfold handleAfter
  split <;> rename_i h <;> simp_all

/-- **The life of a library.** However a library is used after it was opened, and whatever the
loader answers to each request:

* observing it changes neither the answers nor the library nor the machine;
* it is loaded exactly if opening it has worked and it was not unloaded since;
* its load error is why opening has failed, with the path, and stays so;
* its last error is the text of the last failure, that of opening it among them;
* each use asks the loader, and answers, as the handle requires that those before it have left:
  nothing is looked up or closed without one, and only the first unloading closes the module and
  answers that it was loaded, even if closing fails;
* so the module is closed once if it was loaded and then unloaded, and never else. -/
theorem live_follows (path : Path) (ops : List Operation) (s : σ) :
    ∃ (opening : Except String η) (asked : List (LoaderCall η)) (uses : List (Use η))
      (l : Library η) (after : σ),
      (live path ops).run s = ((asked, uses, l), after) ∧
      (load path >>= (·.performAll ops)).run s = ((uses.map (·.answer), l), after) ∧
      uses.map (·.operation) = ops ∧ Opened path asked opening ∧
      l.path = path ∧
      (l.isLoaded = true ↔ opening.isOk = true ∧ .unload ∉ ops) ∧
      l.loadError = (refusal? opening).map (⟨path, ·⟩) ∧
      l.lastError = lastFailure (refusal? opening) uses ∧
      Fit opening.toOption uses ∧
      (uses.flatMap (·.asked)).countP (·.isClosing)
        = if opening.isOk = true ∧ .unload ∈ ops then 1 else 0 := by
  obtain ⟨opening, t, asked, hplain, htraced, hopened⟩ := load_observed (η := η) path s
  obtain ⟨uses, l, after, hall, hperform, hops, hfit, hfollows⟩ :=
    observeAll_follows ops (ofOpening path opening) t
  have hloaded : (ofOpening path opening).handle.isSome = opening.isOk := by cases opening <;> rfl
  refine ⟨opening, asked, uses, l, after, live_eq htraced hall,
    (run_bind_of_run hplain).trans hperform, hops, hopened, hfollows.path, ?_, hfollows.loadError,
    hfollows.lastError, hfit, ?_⟩
  · rw [isLoaded, hfollows.handle, handleAfter_isSome, hops]
    exact and_congr_left' (Bool.eq_iff_iff.mp hloaded)
  · rw [hfit.closings, hloaded]
    simp only [← hops, List.mem_map]

end Running

end Library
end ModuleForge
