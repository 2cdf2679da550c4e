import ModuleForge.Proofs.Cli.Opening
import ModuleForge.Proofs.Library.Lifetime
import ModuleForge.Proofs.Text.Bytes

/-!
# Using the module

What a job does with the module that was made (`Uses`): a build reports it, a call looks up one
symbol and calls what it finds, a probe looks up symbols and reports what it finds. Calls and probes
stop at a module that was not loaded, before anything is looked up; a build reports such a module
and then fails.
-/
namespace ModuleForge.Cli

variable {σ η : Type}

/-! ## What is printed -/

def buildTexts (format : Format) (library : Library η) (targets : Targets) :
    Except Json.Refusal (List String) :=
  match format with
  | .json => (buildReport library targets).map fun j => [j.pretty 0 ++ "\n"]
  | .text => .ok [success "Build complete" ++ "\n", "  Module: " ++ library.path.display ++ "\n",
      "  Targets: " ++ toString targets.length ++ "\n"]

def callText (r : Request) (symbol : String) (result : Int) : String :=
  match r.format with
  | .json => (Json.object [("symbol", .string symbol),
      ("args", .array (r.arguments.map fun n => .number (.whole n))),
      ("result", .number (.whole result))]).pretty 0 ++ "\n"
  | .text =>
    let arguments := ", ".intercalate (r.arguments.map toString)
    success (symbol ++ "(" ++ arguments ++ ") = " ++ toString result) ++ "\n"

def probeTexts (format : Format) (entries : List (String × Option SymbolError)) : List String :=
  match format with
  | .json => [(probeReport entries).pretty 0 ++ "\n"]
  | .text => entries.map fun (symbol, error) =>
      (if error.isNone then success symbol else absence (symbol ++ " (not found)")) ++ "\n"

/-! ## What is done -/

/-- Looking up a name in a module that is loaded. A name with a NUL inside is not put to the
loader. -/
inductive LooksUp (name : String) : Except SymbolError Nat → List (Act η) → Prop where
  | refused {reason : String} (h : terminated (ByteString.ofText name) = .error reason) :
      LooksUp name (.error (.notFound name reason)) []
  | missing {bytes : ByteString} (h : terminated (ByteString.ofText name) = .ok bytes)
    (reason : String) :
      LooksUp name (.error (.notFound name reason)) [.lookedUp bytes (.error reason)]
  | found {bytes : ByteString} (h : terminated (ByteString.ofText name) = .ok bytes)
    (address : Nat) :
      LooksUp name (.ok address) [.lookedUp bytes (.ok address)]

/-- The symbol that a call is about. -/
def Request.symbol (r : Request) : String := r.symbols.headD ""

/-- What a job does with the module that was made of targets. -/
inductive Uses (r : Request) (library : Library η) (targets : Targets) :
    Except Failure Unit → List (Act η) → Prop where
  | unprintable {refusal : Json.Refusal} (job : r.job = .build) (json : r.format = .json)
      (path : Text.text? library.path.bytes = none) :
      Uses r library targets (.error (.notWritable refusal)) []
  | builds {texts : List String} (job : r.job = .build)
      (report : buildTexts r.format library targets = .ok texts)
        (loaded : library.loadError = none) :
      Uses r library targets (.ok ()) (texts.map .printed)
  | buildsUnloadable {texts : List String} {e : LoadError} (job : r.job = .build)
      (report : buildTexts r.format library targets = .ok texts)
        (unloaded : library.loadError = some e) :
      Uses r library targets (.error .unloadable)
        (texts.map .printed ++ [.complained (warning e.message ++ "\n")])
  | unloaded {e : LoadError} (job : r.job ≠ .build) (unloaded : library.loadError = some e) :
      Uses r library targets (.error (.load e)) []
  | unresolved {e : SymbolError} {acts : List (Act η)} (job : r.job = .call)
      (loaded : library.loadError = none) (lookUp : LooksUp r.symbol (.error e) acts) :
      Uses r library targets (.error (.symbol e)) acts
  | callEnds {address : Nat} {acts : List (Act η)} {status : WaitStatus} (job : r.job = .call)
      (loaded : library.loadError = none) (lookUp : LooksUp r.symbol (.ok address) acts) :
      Uses r library targets (.error (.ended status))
        (acts ++ [.called address r.arguments (.error status)])
  | callReturns {address : Nat} {acts : List (Act η)} {result : Int} (job : r.job = .call)
      (loaded : library.loadError = none) (lookUp : LooksUp r.symbol (.ok address) acts) :
      Uses r library targets (.ok ())
        (acts ++ [.called address r.arguments (.ok result), .printed (callText r r.symbol result)])
  | probes {entries : List (String × Option SymbolError)} {acts : List (Act η)}
    (job : r.job = .probe)
      (loaded : library.loadError = none) (symbols : entries.map (·.1) = r.symbols)
      (lookUps : ∀ act ∈ acts, ∃ name answer, act = .lookedUp name answer) :
      Uses r library targets (.ok ()) (acts ++ (probeTexts r.format entries).map .printed)

/-! ## Printing -/

section Printing

variable [Console σ]

theorem printLine_traces (line : String) :
    Traces (fun answer acts => answer = .ok () ∧ acts = [.printed (line ++ "\n")])
      (printLine line : Action σ Failure Unit)
        (printLine line : Action (Observed σ η) Failure Unit) :=
  fun _ _ => ⟨.ok (), _, _, rfl, rfl, rfl, rfl⟩

theorem printJson_traces (value : Except Json.Refusal Json) :
    Traces (fun answer acts => match value with
        | .ok j => answer = .ok () ∧ acts = [.printed (j.pretty 0 ++ "\n")]
        | .error refusal => answer = .error (.notWritable refusal) ∧ acts = [])
      (printJson value : Action σ Failure Unit)
        (printJson value : Action (Observed σ η) Failure Unit) := by
  cases value with
  | ok j => exact printLine_traces _
  | error refusal => exact .throw ⟨rfl, rfl⟩

theorem complain_traces (text : String) :
    Traces (fun answer acts => answer = .ok ⟨⟩ ∧ acts = [.complained text])
      (modify (Console.err text) : Action σ Failure PUnit)
      (modify (Console.err text) : Action (Observed σ η) Failure PUnit) :=
  fun _ _ => ⟨.ok ⟨⟩, _, _, rfl, rfl, rfl, rfl⟩

/-- After a text was printed. -/
theorem printLine_bind {α : Type} {P : Except Failure α → List (Act η) → Prop} {line : String}
    {f : Unit → Action σ Failure α} {g : Unit → Action (Observed σ η) Failure α}
    (h : Traces (fun answer acts => P answer (.printed (line ++ "\n") :: acts)) (f ()) (g ())) :
    Traces P (printLine line >>= f) (printLine line >>= g) := by
  refine .bind (printLine_traces line) (fun e acts h => nomatch h.1) fun _ acts hprinted => ?_
  rw [hprinted.2]
  exact h

/-- What comes after the report of a build: a module that was not loaded is a failure. -/
theorem reportLoading_uses {r : Request} (job : r.job = .build) {library : Library η} {ts : Targets}
    {texts : List String} (report : buildTexts r.format library ts = .ok texts) :
    Traces (fun answer acts => Uses r library ts answer (texts.map .printed ++ acts))
      (match library.loadError with
        | none => pure ()
        | some e => do
          modify (Console.err (warning e.message ++ "\n"))
          throw .unloadable : Action σ Failure Unit)
      (match library.loadError with
        | none => pure ()
        | some e => do
          modify (Console.err (warning e.message ++ "\n"))
          throw .unloadable : Action (Observed σ η) Failure Unit) := by
  cases hload : library.loadError with
  | none => exact .pure () (by rw [List.append_nil]; exact .builds job report hload)
  | some e =>
    refine .bind (complain_traces _) (fun f acts h => nomatch h.1) fun _ acts h => ?_
    rw [h.2]
    exact .throw (.buildsUnloadable job report hload)

theorem callReport_traces (r : Request) (symbol : String) (result : Int) :
    Traces (fun answer acts => answer = .ok () ∧ acts = [.printed (callText r symbol result)])
      (callReport r symbol result : Action σ Failure Unit)
      (callReport r symbol result : Action (Observed σ η) Failure Unit) := by
  unfold callReport callText
  cases r.format with
  | json => exact printJson_traces (.ok _)
  | text => exact printLine_traces _

/-- Printing a line for each of some things. -/
theorem printEach_traces {α : Type} (line : α → String) (xs : List α) :
    Traces (fun answer acts => answer = .ok ⟨⟩ ∧ acts = xs.map fun x => .printed (line x ++ "\n"))
      (forIn xs PUnit.unit fun x _ => do
        printLine (line x)
        pure (.yield PUnit.unit) : Action σ Failure PUnit)
      (forIn xs PUnit.unit fun x _ => do
        printLine (line x)
        pure (.yield PUnit.unit) : Action (Observed σ η) Failure PUnit) := by
  induction xs with
  | nil => exact .pure _ ⟨rfl, rfl⟩
  | cons x xs ih =>
    simp only [List.forIn_cons, bind_assoc, pure_bind]
    refine printLine_bind (ih.weaken fun answer acts h => ⟨h.1, ?_⟩)
    rw [h.2]
    rfl

theorem probeReport_traces (format : Format) (entries : List (String × Option SymbolError)) :
    Traces (fun answer acts => answer = .ok () ∧ acts = (probeTexts format entries).map .printed)
      (match format with
        | .json => printJson (.ok (probeReport entries))
        | .text => do
          for (symbol, error) in entries do
            printLine
              (if error.isNone then success symbol else absence (symbol ++ " (not found)")) :
        Action σ Failure Unit)
      (match format with
        | .json => printJson (.ok (probeReport entries))
        | .text => do
          for (symbol, error) in entries do
            printLine
              (if error.isNone then success symbol else absence (symbol ++ " (not found)")) :
        Action (Observed σ η) Failure Unit) := by
  cases format with
  | json => exact printJson_traces (.ok _)
  | text =>
    refine .bind (printEach_traces _ entries) (fun f acts h => nomatch h.1) fun _ acts h =>
      .pure () ?_
    rw [List.append_nil, h.2, probeTexts, List.map_map]
    exact ⟨rfl, rfl⟩

end Printing

/-! ## Looking up -/

section Loading

variable [Loading σ η]

theorem find_lookedUp (handle : η) (name : String) (s : σ) (before : List (Act η)) :
    ∃ answer t acts,
    (Library.find handle name).run s = (answer, t) ∧
      (Library.find handle name).run (⟨s, before⟩ : Observed σ η) = (answer, ⟨t, before ++ acts⟩) ∧
      LooksUp name (answer.mapError (.notFound name)) acts := by
  unfold Library.find
  cases hname : terminated (ByteString.ofText name) with
  | error reason => exact ⟨.error reason, s, [], rfl, by rw [List.append_nil]; rfl, .refused hname⟩
  | ok bytes =>
    cases hlookUp : (Loading.lookUp handle bytes : StateM σ (Except String Nat)).run s with
    | mk answer t =>
      have hobserved : (Loading.lookUp handle bytes : StateM (Observed σ η) (Except String Nat)).run
          ⟨s, before⟩ = (answer, ⟨t, before ++ [.lookedUp bytes answer]⟩) := by
        rw [show (Loading.lookUp handle bytes : StateM (Observed σ η) (Except String Nat)).run
          ⟨s, before⟩ = _
          from Traced.run_step _ _ s before, hlookUp]
      refine ⟨answer, t, _, rfl, hobserved, ?_⟩
      cases answer with
      | ok address => exact .found hname address
      | error reason => exact .missing hname reason

theorem drop_silent (library : Library η) (s : σ) (before : List (Act η)) :
    library.drop.run (⟨s, before⟩ : Observed σ η) = ((), ⟨(library.drop.run s).2, before⟩) := by
  unfold Library.drop
  cases library.handle with
  | none => rfl
  | some handle =>
    show ((), (⟨_, before ++ []⟩ : Observed σ η)) = _
    rw [List.append_nil]
    rfl

/-- Letting go of the module is not observed. -/
theorem holding_traces {P : Except Failure Unit → List (Act η) → Prop} {a : Action σ Failure Unit}
    {b : Action (Observed σ η) Failure Unit} (library : Library η) (h : Traces P a b) :
    Traces P (holding library a) (holding library b) := by
  intro s before
  obtain ⟨answer, after, acts, ha, hb, hP⟩ := h s before
  have hplain : (holding library a).exec s = (answer, (library.drop.run after).2) := by
    show ((a.exec s).1, (library.drop.run (a.exec s).2).2) = _
    rw [ha]
  have hobserved : (holding library b).exec ⟨s, before⟩
      = (answer, ⟨(library.drop.run after).2, before ++ acts⟩) := by
    show ((b.exec ⟨s, before⟩).1, (library.drop.run (b.exec ⟨s, before⟩).2).2) = _
    rw [hb, drop_silent]
  exact ⟨answer, _, acts, hplain, hobserved, hP⟩

/-- To let go of a library without a module does nothing. -/
theorem holding_keeps {fresh : σ → Prop} {library : Library η} (hnone : library.handle = none)
    {act : Action σ Failure Unit} (h : Keeps fresh act) : Keeps fresh (holding library act) := by
  intro s hs
  show fresh (library.drop.run (act.exec s).2).2
  unfold Library.drop
  rw [hnone]
  exact h s hs

variable [Logging σ]

theorem resolveFunction_lookedUp {library : Library η} {handle : η}
    (h : library.handle = some handle)
    (name : String) (s : σ) (before : List (Act η)) : ∃ found t acts,
    (library.resolveFunction name).run s = ((found, library.remember found), t) ∧
      (library.resolveFunction name).run (⟨s, before⟩ : Observed σ η)
        = ((found, library.remember found), ⟨t, before ++ acts⟩) ∧
      LooksUp name found acts := by
  obtain ⟨answer, t, acts, hplain, hobserved, hlooked⟩ := find_lookedUp handle name s before
  rw [library.resolveFunction_loaded name h, library.resolveFunction_loaded name h,
    hplain, hobserved]
  cases answer with
  | ok address => exact ⟨.ok address, _, acts, rfl, rfl, hlooked⟩
  | error reason => exact ⟨.error (.notFound name reason), _, acts, rfl, rfl, hlooked⟩

/-- Looking up a symbol that must not be null is looking it up. -/
theorem resolve_lookedUp {library : Library η} {handle : η} (h : library.handle = some handle)
    (name : String) (s : σ) (before : List (Act η)) : ∃ found t acts,
    (library.resolve name).run s = ((found, library.remember found), t) ∧
      (library.resolve name).run (⟨s, before⟩ : Observed σ η)
        = ((found, library.remember found), ⟨t, before ++ acts⟩) ∧
      ∃ looked, LooksUp name looked acts := by
  obtain ⟨found, t, acts, hplain, hobserved, hlooked⟩ := resolveFunction_lookedUp h name s before
  rw [Library.resolve_run, Library.resolve_run, hplain, hobserved]
  cases found with
  | error e => exact ⟨.error e, t, acts, rfl, rfl, _, hlooked⟩
  | ok address =>
    cases address with
    | zero => exact ⟨_, _, acts, rfl, rfl, _, hlooked⟩
    | succ n => exact ⟨_, t, acts, rfl, rfl, _, hlooked⟩

theorem resolveFunction_traces {ε : Type} {library : Library η} {handle : η}
    (h : library.handle = some handle) (name : String) :
    Traces (fun answer acts => ∃ found next, answer = .ok (found, next) ∧ LooksUp name found acts)
      (liftM (library.resolveFunction name : StateM σ _) : Action σ ε _)
      (liftM (library.resolveFunction name : StateM (Observed σ η) _) : Action
        (Observed σ η) ε _) :=
  .lift fun s before => by
    obtain ⟨found, t, acts, hplain, hobserved, hlooked⟩ := resolveFunction_lookedUp h name s before
    exact ⟨acts, by rw [hplain, hobserved], found, _, by rw [hplain], hlooked⟩

theorem LooksUp.lookedUp {name : String} {found : Except SymbolError Nat} {acts : List (Act η)}
    (h : LooksUp name found acts) : ∀ act ∈ acts, ∃ bytes answer, act = .lookedUp bytes answer := by
  cases h <;> simp

theorem remember_handle (library : Library η) (found : Except SymbolError Nat) :
    (library.remember found).handle = library.handle := by
  cases found <;> rfl

/-- Why a symbol was not found, if it was not. -/
def obstacle? : Except SymbolError Nat → Option SymbolError
  | .ok _ => none
  | .error e => some e

theorem lookUpAll_cons {library next : Library η} {symbol : String} {symbols : List String}
    {found : Except SymbolError Nat} {entries : List (String × Option SymbolError)} {s t after : σ}
    (h : (library.resolve symbol).run s = ((found, next), t))
    (hrest : (lookUpAll next symbols).run t = (entries, after)) :
    (lookUpAll library (symbol :: symbols)).run s
      = ((symbol, obstacle? found) :: entries, after) := by
  unfold lookUpAll
  rw [run_bind_of_run h]
  cases found <;> exact run_bind_of_run hrest

theorem lookUpAll_lookedUp (symbols : List String) {library : Library η} {handle : η}
    (h : library.handle = some handle) (s : σ) (before : List (Act η)) :
    ∃ entries t acts,
      (lookUpAll library symbols).run s = (entries, t) ∧
      (lookUpAll library symbols).run (⟨s, before⟩ : Observed σ η)
        = (entries, ⟨t, before ++ acts⟩) ∧
      entries.map (·.1) = symbols ∧ ∀ act ∈ acts, ∃ name answer, act = .lookedUp name answer := by
  induction symbols generalizing library s before with
  | nil => exact ⟨[], s, [], rfl, by rw [List.append_nil]; rfl, rfl, by simp⟩
  | cons symbol symbols ih =>
    obtain ⟨found, t, acts, hplain, hobserved, looked, hlooked⟩ :=
      resolve_lookedUp h symbol s before
    obtain ⟨entries, u, more, hplain', hobserved', hsymbols, hmore⟩ :=
      ih ((remember_handle library found).trans h) t (before ++ acts)
    refine ⟨_, u, acts ++ more, lookUpAll_cons hplain hplain', ?_,
      by simp [hsymbols], fun act hact =>
      (List.mem_append.mp hact).elim (hlooked.lookedUp act) (hmore act)⟩
    rw [← List.append_assoc]
    exact lookUpAll_cons hobserved hobserved'

theorem lookUpAll_traces {ε : Type} {library : Library η} {handle : η}
    (h : library.handle = some handle) (symbols : List String) :
    Traces (fun answer acts => ∃ entries, answer = .ok entries ∧ entries.map (·.1) = symbols ∧
        ∀ act ∈ acts, ∃ name answer, act = .lookedUp name answer)
      (liftM (lookUpAll library symbols : StateM σ _) : Action σ ε _)
      (liftM (lookUpAll library symbols : StateM (Observed σ η) _) : Action (Observed σ η) ε _) :=
  .lift fun s before => by
    obtain ⟨entries, t, acts, hplain, hobserved, hsymbols, hacts⟩ :=
      lookUpAll_lookedUp symbols h s before
    exact ⟨acts, by rw [hplain, hobserved], entries, by rw [hplain], hsymbols, hacts⟩

end Loading

theorem call_traces [Calling σ] {ε : Type} (address : Nat) (arguments : List Int) :
    Traces (fun answer acts => ∃ returned, answer = .ok returned ∧
        acts = [.called address arguments returned])
      (liftM (Calling.call address arguments : StateM σ (Except WaitStatus Int)) : Action σ ε _)
      (liftM (Calling.call address arguments : StateM (Observed σ η) (Except WaitStatus Int)) :
        Action (Observed σ η) ε _) :=
  .lift fun _ _ => ⟨_, rfl, _, rfl, rfl⟩

/-! ## What is made -/

/-- The module was opened, or the library is without one. -/
theorem opened_or_absent [Logging σ] [Loading σ η] {c : Config} {dir : Path} {ts : Targets}
    {library : Library η} {deeds : List (Deed η)}
    (h : Proceeds (σ := σ) c dir ts (.ok library) deeds)
    {acts : List (Act η)} (doing : Observed.Does acts deeds) :
    Opened acts ∨ library.handle = none ∧ ∃ e, library.loadError = some e := by
  generalize hanswer : (Except.ok library : Except BuildError (Library η)) = answer at h
  cases h with
  | stops => cases hanswer
  | @links objects deeds more _ compiling linking =>
    cases linking with
    | refused => cases hanswer
    | stops => cases hanswer
    | @opens process number output s zero =>
      cases hanswer
      unfold Library.load
      cases hname : terminated (modulePath dir process number).bytes with
      | error reason => exact .inr ⟨rfl, _, rfl⟩
      | ok bytes =>
        have hdeed :
            .opened ⟨bytes⟩ ((Loading.openModule ⟨bytes⟩ : StateM σ (Except String η)).run s).1 ∈
            loadDeeds (modulePath dir process number) s := by simp [loadDeeds, hname]
        rcases doing.of_mem (List.mem_append_right _ (List.mem_append_right _ hdeed)) with
          hmem | ⟨_, habsurd⟩
        · exact .inl ⟨_, _, hmem⟩
        · cases habsurd

/-- A module that was loaded has a handle. -/
def Loaded (library : Library η) : Prop :=
  library.loadError = none → ∃ handle, library.handle = some handle

theorem load_loaded [Logging σ] [Loading σ η] (path : Path) (s : σ) :
    Loaded ((Library.load path).run s).1 := by
  intro hnone
  unfold Library.load at hnone ⊢
  cases hname : terminated path.bytes with
  | error reason => rw [hname] at hnone; cases hnone
  | ok bytes =>
    rw [hname] at hnone
    simp only [StateT.run_bind] at hnone ⊢
    cases hopen : (Loading.openModule ⟨bytes⟩ : StateM σ (Except String η)).run s with
    | mk answer t =>
      rw [hopen] at hnone
      cases answer with
      | ok handle => exact ⟨handle, rfl⟩
      | error reason => cases hnone

theorem loaded_of_proceeds [Logging σ] [Loading σ η] {c : Config} {dir : Path} {ts : Targets}
    {answer : Except BuildError (Library η)} {deeds : List (Deed η)}
    (h : Proceeds (σ := σ) c dir ts answer deeds) {library : Library η}
    (hanswer : answer = .ok library) :
    Loaded library := by
  cases h with
  | stops => cases hanswer
  | links compiling linking =>
    cases linking with
    | refused => cases hanswer
    | stops => cases hanswer
    | opens s zero => cases hanswer; exact load_loaded _ s

/-- Targets go by the names that their texts yield. -/
def Derived (ts : Targets) : Prop := ∀ t ∈ ts, t = t.source.target

theorem Reads.derived [Logging σ] [Files σ] {s : σ} {n : Nat} {files : List Path}
    {result : Except Failure Targets} (h : Reads s n files result) {ts : Targets}
    (hresult : result = .ok ts) : Derived ts := by
  induction h generalizing ts with
  | nil => cases hresult; exact fun t ht => nomatch ht
  | stops => cases hresult
  | @passes s n file files text result readable rest ih =>
    cases result with
    | error f => cases hresult
    | ok more =>
      cases hresult
      intro t ht
      rcases List.mem_cons.mp ht with rfl | ht
      · rfl
      · exact ih rfl t ht

theorem Settles.derived [Logging σ] [Files σ] [Environment σ] {r : Request} {s : σ}
    {answer : Except Failure Plan} {acts : List (Act η)} (h : Settles r s answer acts) {plan : Plan}
    (hanswer : answer = .ok plan) : Derived plan.targets := by
  cases h with
  | misconfigured => cases hanswer
  | noDirectory => cases hanswer
  | @reads c t u dir result configured created reading =>
    cases result with
    | error f => cases hanswer
    | ok targets => cases hanswer; exact reading.derived rfl

/-! ## The report of a build -/

theorem ofPath_objectName (s : Source) : ∃ j, Json.ofPath s.objectName = .ok j := by
  unfold Json.ofPath Source.objectName Path.ofText
  rw [Text.text?_ofText]
  exact ⟨_, rfl⟩

theorem mapM_ok {α β ε : Type} {f : α → Except ε β} {xs : List α} (h : ∀ x ∈ xs, ∃ y, f x = .ok y) :
    ∃ ys, xs.mapM f = .ok ys := by
  induction xs with
  | nil => exact ⟨[], rfl⟩
  | cons x xs ih =>
    obtain ⟨y, hy⟩ := h x (by simp)
    obtain ⟨ys, hys⟩ := ih fun x hx => h x (by simp [hx])
    exact ⟨y :: ys, by rw [List.mapM_cons, hy, hys]; rfl⟩

/-- A build is reported only if the path of the module is a text. -/
theorem buildTexts_json_ok {library : Library η} {ts : Targets} {texts : List String}
    (h : buildTexts .json library ts = .ok texts) : (Text.text? library.path.bytes).isSome := by
  cases hpath : Text.text? library.path.bytes with
  | some text => rfl
  | none =>
    unfold buildTexts buildReport Json.ofPath at h
    rw [hpath] at h
    cases h

/-- Only the path of the module can keep a build from being reported. -/
theorem buildReport_error {library : Library η} {ts : Targets} (derived : Derived ts)
    {refusal : Json.Refusal} (h : buildReport library ts = .error refusal) :
    Text.text? library.path.bytes = none := by
  have hobjects : ∃ js, ts.mapM (fun t => Json.ofPath t.objectName) = .ok js :=
    mapM_ok fun t ht => by rw [derived t ht]; exact ofPath_objectName t.source
  obtain ⟨js, hjs⟩ := hobjects
  cases hpath : Text.text? library.path.bytes with
  | none => rfl
  | some text =>
    unfold buildReport Json.ofPath at h
    rw [hpath] at h
    unfold Json.ofPath at hjs
    rw [hjs] at h
    cases h

/-! ## Jobs -/

section Jobs

variable [Logging σ] [Files σ] [Environment σ] [Numbering σ] [Spawning σ] [Loading σ η]

/-- What a job does: it makes a module and uses it. -/
inductive Runs (r : Request) (s : σ) : Except Failure Unit → List (Act η) → Prop where
  | stops {f : Failure} {t : σ} {acts : List (Act η)}
      (stopped : (buildModule r : Action σ Failure (Library η × Builder σ η)).exec s
        = (.error f, t))
      (making : Makes r s (.error f) acts) : Runs r s (.error f) acts
  | goesOn {library : Library η} {plan : Plan} {t : σ} {result : Except Failure Unit}
      {acts more : List (Act η)}
      (built : (buildModule r : Action σ Failure (Library η × Builder σ η)).exec s
        = (.ok (made (library, plan)), t))
      (making : Makes r s (.ok (library, plan)) acts)
        (usage : Uses r library plan.targets result more) :
      Runs r s result (acts ++ more)

/-- After the module was made, a call or a probe goes on if it was loaded. -/
theorem loadedModule_bind {r : Request} {α : Type} (k : Library η → Action σ Failure α) :
    loadedModule r >>= k = buildModule r >>= fun m => match m.1.loadError with
      | some e => throw (.load e)
      | none => k m.1 := by
  unfold loadedModule
  rw [bind_assoc]
  congr 1
  funext ⟨library, builder⟩
  dsimp only
  cases library.loadError with
  | none => exact pure_bind _ _
  | some e => rfl

/-- That code of the module has ended the program is told by the machine, or by the function that
was called. -/
def Told (r : Request) (acts : List (Act η)) (after : σ) (status : WaitStatus) : Prop :=
  Loading.ended? after = some status ∨ ∃ address, .called address r.arguments (.error status) ∈ acts

omit [Logging σ] [Files σ] [Environment σ] [Numbering σ] [Spawning σ] in
/-- While a module is used only a function that is called ends the program. -/
theorem Uses.told {r : Request} {library : Library η} {ts : Targets} {status : WaitStatus}
    {acts : List (Act η)} (h : Uses r library ts (.error (.ended status)) acts) (after : σ) :
    Told r acts after status := by
  cases h with
  | callEnds job loaded lookUp =>
    exact .inr ⟨_, List.mem_append_right _ (List.mem_singleton.mpr rfl)⟩

section Programs

variable [Console σ]

/-- What runs of a job on the machine and on the observed machine have in common. If it started
where no module had been opened, no module was opened until its end or nothing can have ended the
program. -/
def JobRuns (fresh : σ → Prop) (r : Request) (job : Action σ Failure Unit)
    (observed : Action (Observed σ η) Failure Unit) : Prop :=
  ∀ s, fresh s → ∃ result after acts, job.exec s = (result, after) ∧
    observed.exec ⟨s, []⟩ = (result, ⟨after, acts⟩) ∧ Runs r s result acts ∧
    Guarded fresh ⟨after, acts⟩ ∧ ∀ status, result = .error (.ended status) →
      Told r acts after status

/-- A job runs as told if all that it does with a module is to use it, and with none only what leads
from fresh states to fresh states. -/
theorem runs_of_uses (canonical : CanonicalAbsolute σ) {fresh : σ → Prop}
    (unopened : Unopened (η := η) fresh)
    {r : Request} (inRange : r.InRange) {k : Library η × Builder σ η → Action σ Failure Unit}
    {l : Library η × Builder (Observed σ η) η → Action (Observed σ η) Failure Unit}
    (h : ∀ (library : Library η) (plan : Plan), Loaded library → Derived plan.targets →
      Traces (Uses r library plan.targets) (k (made (library, plan))) (l (made (library, plan))))
    (habsent : ∀ (library : Library η) (plan : Plan) (e : LoadError), library.handle = none →
      library.loadError = some e → Keeps fresh (k (made (library, plan)))) :
    JobRuns fresh r (buildModule r >>= k) (buildModule r >>= l) := by
  intro s hs
  obtain ⟨answer, t, acts, hplain, hobserved, hmakes⟩ := buildModule_makes canonical inRange s []
  have hguarded :=
    buildModule_guarded unopened inRange (.inl hs : Guarded fresh (⟨s, []⟩ : Observed σ η))
  rw [hobserved] at hguarded
  rw [List.nil_append] at hguarded hobserved
  simp only [Action.exec_bind, hplain, hobserved]
  cases answer with
  | error f =>
    refine ⟨.error f, t, acts, rfl, rfl, .stops hplain hmakes, hguarded,
      fun status hresult => .inl ?_⟩
    cases hresult
    exact buildModule_ended inRange hplain
  | ok m =>
    obtain ⟨library, plan⟩ := m
    cases hmakes with
    | @makes _ _ settled more deeds settling doing building =>
      have makes := Makes.makes settling doing building
      obtain ⟨result, after, used, hk, hl, huses⟩ :=
        h library plan (loaded_of_proceeds building rfl) (settling.derived rfl) t (settled ++ more)
      refine ⟨result, after, settled ++ more ++ used, hk, hl, .goesOn hplain makes huses, ?_,
        fun status hresult => ?_⟩
      · rcases hguarded with hfresh | hopened
        · rcases opened_or_absent building doing with hopened | ⟨hnone, e, herror⟩
          · exact .inr (hopened.mono (by simp))
          · exact .inl
              (congrArg (fun x => fresh x.2) hk ▸ habsent library plan e hnone herror t hfresh)
        · exact .inr (hopened.mono (List.subset_append_left _ _))
      · subst hresult
        exact (huses.told after).imp_right fun ⟨address, hmem⟩ =>
          ⟨address, List.mem_append_right _ hmem⟩

theorem runBuild_runs (canonical : CanonicalAbsolute σ) {fresh : σ → Prop}
    (unopened : Unopened (η := η) fresh) {r : Request} (inRange : r.InRange)
    (job : r.job = .build) :
    JobRuns fresh r (runBuild (η := η) r : Action σ _ _)
      (runBuild (η := η) r : Action (Observed σ η) _ _) := by
  refine runs_of_uses canonical unopened inRange ?uses fun library plan e hnone herror => ?absent
  case absent =>
    have hend :
        Keeps fresh (do modify (Console.err (warning e.message ++ "\n")); throw .unloadable :
        Action σ Failure Unit) := .bind (fun _ hs => unopened.err _ hs) fun _ => .throw _
    refine holding_keeps hnone ?_
    simp only [herror]
    cases r.format with
    | json => exact .bind (printJson_keeps unopened _) fun _ => hend
    | text =>
      exact .bind (printLine_keeps unopened _) fun _ => .bind (printLine_keeps unopened _) fun _ =>
        .bind (printLine_keeps unopened _) fun _ => hend
  intro library plan loaded derived
  simp only [made]
  refine holding_traces library ?_
  cases hformat : r.format with
  | json =>
    refine .bind (printJson_traces (buildReport library plan.targets)) (fun f acts h => ?_)
      fun _ acts h => ?_
    · cases hreport : buildReport library plan.targets with
      | ok j => rw [hreport] at h; cases h.1
      | error refusal =>
        rw [hreport] at h
        obtain ⟨hf, rfl⟩ := h
        cases hf
        exact .unprintable job hformat (buildReport_error derived hreport)
    · cases hreport : buildReport library plan.targets with
      | error refusal => rw [hreport] at h; cases h.1
      | ok j =>
        rw [hreport] at h
        rw [h.2]
        have htexts : buildTexts r.format library plan.targets = .ok [j.pretty 0 ++ "\n"] := by
          rw [hformat, buildTexts, hreport]
          rfl
        exact reportLoading_uses job htexts
  | text =>
    have hreport : buildTexts r.format library plan.targets = .ok [success "Build complete" ++ "\n",
        "  Module: " ++ library.path.display ++ "\n",
        "  Targets: " ++ toString plan.targets.length ++ "\n"] := by
      rw [hformat]
      rfl
    exact printLine_bind (printLine_bind (printLine_bind (reportLoading_uses job hreport)))

theorem runCall_runs [Calling σ] (canonical : CanonicalAbsolute σ) {fresh : σ → Prop}
    (unopened : Unopened (η := η) fresh) {r : Request} (inRange : r.InRange) (job : r.job = .call)
    (few : r.arguments.length ≤ maxArguments) :
    JobRuns fresh r (runCall (η := η) r r.symbol : Action σ _ _)
      (runCall (η := η) r r.symbol : Action (Observed σ η) _ _) := by
  unfold runCall
  simp only [if_neg (Nat.not_lt.mpr few), loadedModule_bind]
  refine runs_of_uses canonical unopened inRange ?uses fun library plan e hnone herror => ?absent
  case absent => simp only [made, herror]; exact .throw _
  intro library plan loaded derived
  simp only [made]
  cases hload : library.loadError with
  | some e => exact .throw (.unloaded (by simp [job]) hload)
  | none =>
    obtain ⟨handle, hhandle⟩ := loaded hload
    refine holding_traces library
      (.bind (resolveFunction_traces hhandle r.symbol) (fun f acts h => ?_)
      fun found acts h => ?_)
    · obtain ⟨_, _, hf, _⟩ := h
      cases hf
    obtain ⟨found, _, hfound, hlooked⟩ := h
    cases hfound
    cases found with
    | error e => exact .throw (by rw [List.append_nil]; exact .unresolved job hload hlooked)
    | ok address =>
      refine .bind (call_traces address r.arguments) (fun f more h => ?_) fun returned more h => ?_
      · obtain ⟨_, hf, _⟩ := h
        cases hf
      obtain ⟨returned, hreturned, rfl⟩ := h
      cases hreturned
      cases returned with
      | error status => exact .throw (.callEnds job hload hlooked)
      | ok result =>
        refine (callReport_traces r r.symbol result).weaken fun answer last h => ?_
        rw [h.1, h.2]
        exact .callReturns job hload hlooked

theorem runProbe_runs (canonical : CanonicalAbsolute σ) {fresh : σ → Prop}
    (unopened : Unopened (η := η) fresh) {r : Request} (inRange : r.InRange)
    (job : r.job = .probe) :
    JobRuns fresh r (runProbe (η := η) r : Action σ _ _)
      (runProbe (η := η) r : Action (Observed σ η) _ _) := by
  unfold runProbe
  simp only [loadedModule_bind]
  refine runs_of_uses canonical unopened inRange ?uses fun library plan e hnone herror => ?absent
  case absent => simp only [made, herror]; exact .throw _
  intro library plan loaded derived
  simp only [made]
  cases hload : library.loadError with
  | some e => exact .throw (.unloaded (by simp [job]) hload)
  | none =>
    obtain ⟨handle, hhandle⟩ := loaded hload
    refine holding_traces library (.bind (lookUpAll_traces hhandle r.symbols) (fun f acts h => ?_)
      fun entries acts h => ?_)
    · obtain ⟨_, hf, _⟩ := h
      cases hf
    obtain ⟨entries, hentries, hsymbols, hacts⟩ := h
    cases hentries
    refine (probeReport_traces r.format entries).weaken fun answer more h => ?_
    rw [h.1, h.2]
    exact .probes job hload hsymbols hacts

end Programs

end Jobs

end ModuleForge.Cli
