import ModuleForge.Proofs.Cli.FailFast
import ModuleForge.Proofs.Library.Symbols

/-!
# Symbols at the address 0

A library looks a name up in two ways, for a use that the caller vouches for and as what must not be
null. Both are what the loader answers (`Library.resolveFunction_answer`, `Library.resolve_answer`),
and they differ only in the address 0. A call looks up in the first way and calls what it finds
(`runCall_calls`); a probe looks up in the second and reports that (`runProbe_reports`,
`lookUpAll_entry`). `symbols_agree_iff` puts the two beside each other.
-/
namespace ModuleForge

variable {σ η : Type}

/-! ## Looking up when observed -/

namespace Cli

section Looking

variable [Logging σ] [Loading σ η]

/-- A look-up answers alike when it is observed, and is all that is seen of it. -/
theorem resolveFunction_seen (l : Library η) (name : String) (s : σ) (before : List (Act η)) :
    ∃ acts, (l.resolveFunction name).run (⟨s, before⟩ : Observed σ η)
        = (((l.resolveFunction name).run s).1,
          ⟨((l.resolveFunction name).run s).2, before ++ acts⟩) ∧
      ∀ act ∈ acts, ∃ bytes answer, act = .lookedUp bytes answer := by
  cases h : l.handle with
  | none =>
    refine ⟨[], ?_, by simp⟩
    rw [l.resolveFunction_unloaded name h, l.resolveFunction_unloaded name h, List.append_nil]
    rfl
  | some handle =>
    obtain ⟨found, t, acts, hplain, hobserved, hlooked⟩ := resolveFunction_lookedUp h name s before
    exact ⟨acts, by rw [hplain, hobserved], hlooked.lookedUp⟩

theorem resolve_seen (l : Library η) (name : String) (s : σ) (before : List (Act η)) :
    ∃ acts, (l.resolve name).run (⟨s, before⟩ : Observed σ η)
        = (((l.resolve name).run s).1, ⟨((l.resolve name).run s).2, before ++ acts⟩) ∧
      ∀ act ∈ acts, ∃ bytes answer, act = .lookedUp bytes answer := by
  obtain ⟨acts, hobserved, hlooked⟩ := resolveFunction_seen l name s before
  refine ⟨acts, ?_, hlooked⟩
  rw [Library.resolve_run, Library.resolve_run, hobserved]
  cases (l.resolveFunction name).run s with
  | mk pair t =>
    obtain ⟨e | address, next⟩ := pair
    · rfl
    · cases address <;> rfl

theorem lookUpAll_seen (symbols : List String) (l : Library η) (s : σ) (before : List (Act η)) :
    ∃ acts, (lookUpAll l symbols).run (⟨s, before⟩ : Observed σ η)
      = (((lookUpAll l symbols).run s).1, ⟨((lookUpAll l symbols).run s).2, before ++ acts⟩) := by
  induction symbols generalizing l s before with
  | nil => exact ⟨[], by rw [List.append_nil]; rfl⟩
  | cons symbol symbols ih =>
    obtain ⟨acts, hobserved, -⟩ := resolve_seen l symbol s before
    cases hplain : (l.resolve symbol).run s with
    | mk pair t =>
      obtain ⟨found, next⟩ := pair
      rw [hplain] at hobserved
      obtain ⟨more, hmore⟩ := ih next t (before ++ acts)
      refine ⟨acts ++ more, ?_⟩
      rw [lookUpAll_cons hobserved hmore, lookUpAll_cons hplain (Prod.eta _).symm,
        List.append_assoc]

/-- A symbol is reported as it is found after those before it were looked up. -/
theorem lookUpAll_entry (earlier : List String) (name : String) (later : List String)
    (l : Library η) (s : σ) :
    ((lookUpAll l (earlier ++ name :: later)).run s).1[earlier.length]? = some (name, obstacle?
      (Library.nonNull name
        (Library.outcome name (l.answer? name ((lookUpAll l earlier).run s).2)))) := by
  induction earlier generalizing l s with
  | nil =>
    cases hplain : (l.resolve name).run s with
    | mk pair t =>
      obtain ⟨found, next⟩ := pair
      have hpair := l.resolve_answer name s
      rw [hplain] at hpair
      rw [List.nil_append, lookUpAll_cons hplain (Prod.eta _).symm, List.length_nil,
        List.getElem?_cons_zero, (Prod.mk.inj hpair).1]
      rfl
  | cons symbol earlier ih =>
    cases hplain : (l.resolve symbol).run s with
    | mk pair t =>
      obtain ⟨found, next⟩ := pair
      have hnext : next.handle = l.handle := by
        have hpair := l.resolve_answer symbol s
        rw [hplain] at hpair
        rw [(Prod.mk.inj hpair).2, remember_handle]
      have hanswer (u : σ) : next.answer? name u = l.answer? name u := by
        rw [Library.answer?, Library.answer?, hnext]
      rw [List.cons_append, lookUpAll_cons hplain (Prod.eta _).symm,
        lookUpAll_cons hplain (Prod.eta _).symm, List.length_cons, List.getElem?_cons_succ,
        ih, hanswer]

end Looking

/-! ## Calls and probes -/

section Jobs

variable [Console σ]

/-- What a call does with what it has found. -/
def callFound [Calling σ] (r : Request) (symbol : String) :
    Except SymbolError Nat → Action σ Failure Unit
  | .error e => throw (.symbol e)
  | .ok address => do
    match ← (Calling.call address r.arguments : StateM σ _) with
    | .error status => throw (.ended status)
    | .ok result => callReport r symbol result

/-- Only an address is called, and only the one that was found. -/
theorem callFound_calls [Calling σ] (r : Request) (symbol : String)
    (found : Except SymbolError Nat) :
    Traces (fun _ acts => ∀ address,
        (∃ returned, .called address r.arguments returned ∈ acts) ↔ found = .ok address)
      (callFound r symbol found : Action σ Failure Unit)
      (callFound r symbol found : Action (Observed σ η) Failure Unit) := by
  cases found with
  | error e => exact .throw (by simp)
  | ok address =>
    refine .bind (call_traces address r.arguments) (fun f acts h => ?_) fun returned acts h => ?_
    · obtain ⟨_, hf, _⟩ := h
      cases hf
    obtain ⟨_, -, rfl⟩ := h
    cases returned with
    | error status => exact .throw (by simp [eq_comm])
    | ok result =>
      refine (callReport_traces r symbol result).weaken fun answer more h => ?_
      rw [h.2]
      simp [eq_comm]

variable [Loading σ η]

omit [Console σ] in
/-- Letting go of the module changes nothing that is seen. -/
theorem holding_seen {l : Library η} {act : Action (Observed σ η) Failure Unit} {s : Observed σ η}
    {answer : Except Failure Unit} {after : σ} {acts : List (Act η)}
    (h : act.exec s = (answer, ⟨after, acts⟩)) :
    (holding l act).exec s = (answer, ⟨(l.drop.run after).2, acts⟩) := by
  show ((act.exec s).1, (l.drop.run (act.exec s).2).2) = _
  rw [h, drop_silent]

variable [Logging σ] [Files σ] [Environment σ] [Numbering σ] [Spawning σ]

/-- A call of a module that was loaded calls what the loader finds, and nothing else. -/
theorem runCall_calls [Calling σ] {r : Request} (symbol : String) {l : Library η}
    {start : Observed σ η} {s : σ}
    {before : List (Act η)} (few : r.arguments.length ≤ maxArguments)
    (loaded : (loadedModule r : Action (Observed σ η) Failure (Library η)).exec start
      = (.ok l, ⟨s, before⟩)) :
    ∃ result after acts, (runCall (η := η) r symbol : Action (Observed σ η) _ _).exec start
        = (result, ⟨after, before ++ acts⟩) ∧
      ∀ address, (∃ returned, .called address r.arguments returned ∈ acts) ↔
        l.answer? symbol s = some (.ok address) := by
  obtain ⟨looking, hlooks, hlooking⟩ := resolveFunction_seen l symbol s before
  rw [l.resolveFunction_answer] at hlooks
  obtain ⟨result, after, acts, -, hcalls, hacts⟩ :=
    callFound_calls (σ := σ) r symbol (Library.outcome symbol (l.answer? symbol s))
      ((l.resolveFunction symbol).run s).2 (before ++ looking)
  rw [List.append_assoc] at hcalls
  refine ⟨result, (l.drop.run after).2, looking ++ acts, ?_, fun address => ?_⟩
  · unfold runCall
    simp only [if_neg (Nat.not_lt.mpr few), Action.exec_bind, loaded]
    refine holding_seen ?_
    rw [Action.exec_bind, Action.exec_lift, hlooks]
    generalize Library.outcome symbol (l.answer? symbol s) = found at hcalls
    cases found <;> exact hcalls
  · have hcalled (returned : Except WaitStatus Int) :
      .called address r.arguments returned ∉ looking := by
      intro hmem
      obtain ⟨_, _, habsurd⟩ := hlooking _ hmem
      cases habsurd
    rw [← Library.outcome_eq_ok symbol, ← hacts]
    simp only [List.mem_append, hcalled, false_or]

/-- A probe of a module that was loaded reports each symbol as it is found. -/
theorem runProbe_reports {q : Request} {l : Library η} {start : Observed σ η} {t : σ}
    {before : List (Act η)}
    (loaded : (loadedModule q : Action (Observed σ η) Failure (Library η)).exec start
      = (.ok l, ⟨t, before⟩)) :
    ∃ after acts, (runProbe (η := η) q : Action (Observed σ η) _ _).exec start
      = (.ok (), ⟨after, before ++ acts
      ++ (probeTexts q.format ((lookUpAll l q.symbols).run t).1).map .printed⟩) := by
  obtain ⟨acts, hlooks⟩ := lookUpAll_seen q.symbols l t before
  obtain ⟨answer, after, texts, -, hreports, rfl, rfl⟩ :=
    probeReport_traces (σ := σ) q.format ((lookUpAll l q.symbols).run t).1
      ((lookUpAll l q.symbols).run t).2
      (before ++ acts)
  refine ⟨(l.drop.run after).2, acts, ?_⟩
  unfold runProbe
  rw [Action.exec_bind, loaded]
  refine holding_seen ?_
  rw [Action.exec_bind, Action.exec_lift, hlooks]
  exact hreports

/-- **Two ways to a symbol.** When the loader answers the same to both, looking up a name for a use
that is vouched for and looking it up as what must not be null come to the same, in what they answer
and in the library that they leave, exactly if the answer is not the address 0; that is found by the
one and a failure of the other, which never yields it. So when a call and a probe have loaded
modules in which they look up the same symbol with the same answer, the call calls what the probe
reports as not found exactly if the symbol stands at the address 0. -/
theorem symbols_agree_iff [Calling σ] (name : String) :
    (∀ (l : Library η) (s t : σ), l.answer? name s = l.answer? name t →
      (((l.resolveFunction name).run s).1 = ((l.resolve name).run t).1 ↔
        l.answer? name s ≠ some (.ok 0)) ∧
      (l.answer? name s = some (.ok 0) → ((l.resolveFunction name).run s).1 = (.ok 0, l) ∧
        ((l.resolve name).run t).1 = (.error (.notFound name nullAddress),
          { l with lastError := some (SymbolError.notFound name nullAddress).message })) ∧
      ∀ address, ((l.resolve name).run t).1.1 = .ok address → address ≠ 0) ∧
    ∀ (r q : Request) (earlier later : List String) (l m : Library η) (first second : Observed σ η)
      (s t : σ) (before others : List (Act η)), r.arguments.length ≤ maxArguments →
        q.symbols = earlier ++ name :: later →
      (loadedModule r : Action (Observed σ η) Failure (Library η)).exec first
        = (.ok l, ⟨s, before⟩) →
      (loadedModule q : Action (Observed σ η) Failure (Library η)).exec second
        = (.ok m, ⟨t, others⟩) →
      l.answer? name s = m.answer? name ((lookUpAll m earlier).run t).2 →
      ∃ (result : Except Failure Unit) (after ended : σ) (acts looking : List (Act η))
        (entries : List (String × Option SymbolError)) (obstacle : Option SymbolError),
        (runCall (η := η) r name : Action (Observed σ η) _ _).exec first
          = (result, ⟨after, before ++ acts⟩) ∧
        (runProbe (η := η) q : Action (Observed σ η) _ _).exec second
          = (.ok (), ⟨ended, others ++ looking ++ (probeTexts q.format entries).map .printed⟩) ∧
        entries[earlier.length]? = some (name, obstacle) ∧
        ∀ address, (∃ returned, .called address r.arguments returned ∈ acts) ∧ obstacle.isSome ↔
          address = 0 ∧ l.answer? name s = some (.ok 0) := by
  refine ⟨fun l s t same => ⟨Library.resolutions_eq_iff same, fun hnull => ?_, fun address h => ?_⟩,
    ?_⟩
  · rw [l.resolveFunction_answer, l.resolve_answer, ← same, hnull]
    exact ⟨rfl, rfl⟩
  · rw [l.resolve_answer] at h
    exact (Library.nonNull_eq_ok.mp h).2
  · intro r q earlier later l m first second s t before others few listed loaded probed same
    obtain ⟨result, after, acts, hcall, hcalls⟩ := runCall_calls name few loaded
    obtain ⟨ended, looking, hprobe⟩ := runProbe_reports probed
    have hentry := lookUpAll_entry earlier name later m t
    rw [← listed, ← same] at hentry
    refine ⟨result, after, ended, acts, looking, _, _, hcall, hprobe, hentry, fun address => ?_⟩
    rw [hcalls]
    rcases l.answer? name s with _ | reason | found
    · simp
    · simp
    · cases found <;> simp [Library.nonNull, obstacle?, eq_comm]

end Jobs

/-! ## A hollow module -/

/-- A machine on which files are empty, programs exit with code 0, modules open and all symbols
stand at one address; calling the address 0 ends the program by a signal. -/
structure Hollow where
  address : Nat

namespace Hollow

instance : Logging Hollow where
  log _ s := s

instance : Files Hollow where
  currentDir _ := .ok "/"
  createDirs _ := return
  canonical _ _ := .ok "/out"
  readText _ _ := .ok ""

instance : Environment Hollow where
  valueOf _ _ := none

instance : Numbering Hollow where
  processId _ := 1
  nextNumber := return 0

instance : Spawning Hollow where
  exchange _ := return .finished ⟨.ofWord 0, ByteArray.empty, ByteArray.empty⟩

instance : Loading Hollow Unit where
  openModule _ := return .ok ()
  lookUp _ _ := do return .ok (← get).address
  close _ := return .ok ()

instance : Console Hollow where
  out _ s := s
  err _ s := s
  listen _ s := s

instance : Calling Hollow where
  call address _ := return if address = 0 then .error (.signaled 11) else .ok 7

/-- What is asked for: to call a symbol, or to probe it. -/
def request (job : Job) : Request where
  job := job
  verbose := false
  format := .text
  files := ["s.cpp"]
  symbols := ["hollow"]
  arguments := []
  toolchain := { outDir := some "out" }

theorem answer?_eq {l : Library Unit} (h : l.handle = some ()) (s : Hollow) :
    l.answer? "hollow" s = some (.ok s.address) := by
  have hname : terminated (ByteString.ofText "hollow") = .ok (ByteString.ofText "hollow") := rfl
  rw [Library.answer?, h, Option.map_some, Library.find, hname]
  rfl

/-- Both jobs load their module. -/
theorem loads (job : Job) (hjob : job ≠ .build) : ∃ (l : Library Unit) (before : List (Act Unit)),
    l.handle = some () ∧
      (loadedModule (request job) : Action (Observed Hollow Unit) Failure (Library Unit)).exec
        ⟨⟨1⟩, []⟩
        = (.ok l, ⟨⟨1⟩, before⟩) := by
  have hloads :
      ((loadedModule (request job) : Action (Observed Hollow Unit) Failure (Library Unit)).exec
        ⟨⟨1⟩, []⟩).1.toOption.map Library.handle = some (some ()) ∧
      ((loadedModule (request job) : Action (Observed Hollow Unit) Failure (Library Unit)).exec
        ⟨⟨1⟩, []⟩).2.state.address = 1 := by
    cases job with
    | build => exact absurd rfl hjob
    | call => decide +kernel
    | probe => decide +kernel
  cases h : (loadedModule (request job) : Action (Observed Hollow Unit) Failure (Library Unit)).exec
    ⟨⟨1⟩, []⟩ with
  | mk answer after =>
    rw [h] at hloads
    obtain ⟨hhandle, haddress⟩ := hloads
    obtain ⟨⟨address⟩, before⟩ := after
    obtain rfl : address = 1 := haddress
    cases answer with
    | error f => cases hhandle
    | ok l => exact ⟨l, before, Option.some.inj hhandle, rfl⟩

/-- The command line for that. -/
def arguments (job : String) : List ByteString :=
  [job, "s.cpp", "-s", "hollow", "--out-dir", "out"].map ByteString.ofText

end Hollow

/-- An address that was called. -/
def Act.called? : Act η → Option Nat
  | .called address .. => some address
  | _ => none

/-- What is called where a symbol is found is not reported as not found. -/
theorem solid_symbol_found :
    ∃ (l m : Library Unit) (before others acts looking : List (Act Unit))
      (result : Except Failure Unit)
      (after ended : Hollow) (entries : List (String × Option SymbolError))
        (obstacle : Option SymbolError),
      (loadedModule (Hollow.request .call) : Action (Observed Hollow Unit) _ _).exec ⟨⟨1⟩, []⟩
        = (.ok l, ⟨⟨1⟩, before⟩) ∧
      (loadedModule (Hollow.request .probe) : Action (Observed Hollow Unit) _ _).exec ⟨⟨1⟩, []⟩
        = (.ok m, ⟨⟨1⟩, others⟩) ∧
      l.answer? "hollow" (⟨1⟩ : Hollow) = m.answer? "hollow" (⟨1⟩ : Hollow) ∧
      ((l.resolveFunction "hollow").run (⟨1⟩ : Hollow)).1
        = ((l.resolve "hollow").run (⟨1⟩ : Hollow)).1 ∧
      (runCall (η := Unit) (Hollow.request .call) "hollow" : Action (Observed Hollow Unit) _ _).exec
        ⟨⟨1⟩, []⟩
        = (result, ⟨after, before ++ acts⟩) ∧
      (runProbe (η := Unit) (Hollow.request .probe) : Action (Observed Hollow Unit) _ _).exec
        ⟨⟨1⟩, []⟩
        = (.ok (), ⟨ended, others ++ looking ++ (probeTexts .text entries).map .printed⟩) ∧
      entries[0]? = some ("hollow", obstacle) ∧
      ¬ ((∃ address returned, .called address [] returned ∈ acts) ∧ obstacle.isSome) := by
  obtain ⟨l, before, hl, hcall⟩ := Hollow.loads .call (by decide)
  obtain ⟨m, others, hm, hprobe⟩ := Hollow.loads .probe (by decide)
  obtain ⟨hlibrary, hjobs⟩ := symbols_agree_iff (σ := Hollow) (η := Unit) "hollow"
  have hfound : l.answer? "hollow" (⟨1⟩ : Hollow) = some (.ok 1) := Hollow.answer?_eq hl _
  have hsame : l.answer? "hollow" (⟨1⟩ : Hollow) = m.answer? "hollow" (⟨1⟩ : Hollow) :=
    hfound.trans (Hollow.answer?_eq hm _).symm
  have hsolid : l.answer? "hollow" (⟨1⟩ : Hollow) ≠ some (.ok 0) := by simp [hfound]
  obtain ⟨result, after, ended, acts, looking, entries, obstacle, hcalled, hprobed,
      hentry, hnull⟩ :=
    hjobs (Hollow.request .call) (Hollow.request .probe) [] [] l m _ _ ⟨1⟩
      ⟨1⟩ before others (by decide) rfl
      hcall hprobe hsame
  refine ⟨l, m, before, others, acts, looking, result, after, ended, entries, obstacle, hcall,
    hprobe, hsame, (hlibrary l ⟨1⟩ ⟨1⟩ rfl).1.mpr hsolid, hcalled, hprobed, hentry, ?_⟩
  rintro ⟨⟨address, hreturned⟩, hobstacle⟩
  exact hsolid ((hnull address).mp ⟨hreturned, hobstacle⟩).2

/-- A symbol at the address 0: looked up in one way it is found, in the other it is not. Calling it
ends the program by a signal, while a probe reports that it was not found. -/
theorem hollow_symbol_called :
    let l : Library Unit := { path := "/out/m.so", handle := some () }
    ((l.resolveFunction "hollow").run (⟨0⟩ : Hollow)).1.1 = .ok 0 ∧
    ((l.resolve "hollow").run (⟨0⟩ : Hollow)).1.1 = .error (.notFound "hollow" nullAddress) ∧
    ((run (η := Unit) (Hollow.arguments "call") : StateM (Observed Hollow Unit) _).run ⟨⟨0⟩, []⟩).1
      = .signaled 11 ∧
    ((run (η := Unit) (Hollow.arguments "call") : StateM (Observed Hollow Unit) _).run
      ⟨⟨0⟩, []⟩).2.trace.filterMap Act.called? = [0] ∧
    ((run (η := Unit) (Hollow.arguments "probe") : StateM (Observed Hollow Unit) _).run
      ⟨⟨0⟩, []⟩).2.trace.filterMap Act.printed? = ["✗ hollow (not found)\n"] := by
  refine ⟨rfl, rfl, ?_, ?_, ?_⟩ <;> decide +kernel

end Cli
end ModuleForge
