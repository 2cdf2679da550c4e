import Mathlib.Data.List.Forall2
import ModuleForge.Cli.Request
import ModuleForge.Proofs.ArgumentOrder

/-!
# The order of options

A toolchain option is of one of eight kinds, and what it chooses is read off its value alone
(`Kind.Reads`, with one answer at most: `Kind.Reads.unique`). Putting a choice into a toolchain
changes what its kind has chosen and nothing else (`chosen_put_self`, `chosen_put_of_ne`), and a
toolchain is what each kind has chosen (`eq_of_chosen`).

Options with their values attached (`--name=value`) are taken up one after the other, and nothing is
pending between them (`Reading.Idle.step_attached`). What has been read then tells the options so
far, kind by kind (`Tells`), and each option adds to its own kind only (`Tells.step`). So such a
line is accepted exactly with the choices that its values read as, in order and no more than one
where there can be one only (`parse_eq_ok_iff`). That does not depend on how options of different
kinds are interleaved (`option_order_free`).
-/
namespace ModuleForge

namespace Context

/-- A context is its entries by group. -/
theorem eq_of_inGroup {c d : Context} (h : ∀ g, c.inGroup g = d.inGroup g) : c = d := by
  have hlist {α : Type} {f : α → Entry} (hf : Function.Injective f) {x y : List α}
      (hxy : x.map f = y.map f) :
      x = y := List.map_injective_iff.mpr hf hxy
  have hincludes : c.includeDirs = d.includeDirs :=
    hlist (fun _ _ => Entry.includeDir.inj) (h .includeDir)
  have hlibraryDirs : c.libraryDirs = d.libraryDirs :=
    hlist (fun _ _ => Entry.libraryDir.inj) (h .libraryDir)
  have hlibraries : c.libraries = d.libraries := hlist (fun _ _ => Entry.library.inj) (h .library)
  have hdefines : c.defines = d.defines := hlist (fun _ _ => Entry.define.inj) (h .define)
  have hflags : c.flags = d.flags := hlist (fun _ _ => Entry.flag.inj) (h .flag)
  cases c
  cases d
  subst hincludes hlibraryDirs hlibraries hdefines hflags
  rfl

end Context

namespace Cli

variable {ρ : Type}

namespace Toolchain

/-! ## Kinds and choices -/

/-- The kinds of toolchain options. -/
inductive Kind where
  | config
  | outDir
  | timeout
  | entry (group : Context.Group)
  deriving DecidableEq, Repr

namespace Kind

/-- The name behind `--`. -/
def name : Kind → String
  | config => "config"
  | outDir => "out-dir"
  | timeout => "timeout"
  | entry .includeDir => "include"
  | entry .libraryDir => "lib-dir"
  | entry .library => "lib"
  | entry .define => "define"
  | entry .flag => "flag"

/-- Whether an option of this kind is given once at most. -/
def single : Kind → Bool
  | entry _ => false
  | _ => true

theorem equals_not_mem_name (k : Kind) : 61 ∉ ByteString.ofText k.name := by
  cases k with
  | entry g => cases g <;> decide
  | config | outDir | timeout => decide

theorem name_inj {k k' : Kind} : k.name = k'.name ↔ k = k' := by
  refine ⟨fun h => ?_, fun h => congrArg name h⟩
  rcases k with _ | _ | _ | _ | _ | _ | _ | _ <;> rcases k' with _ | _ | _ | _ | _ | _ | _ | _ <;>
    first | rfl | exact absurd h (by decide)

end Kind

/-- What one option chooses. -/
inductive Choice where
  | config (path : Path)
  | outDir (path : Path)
  | timeout (limit : Duration)
  | entry (entry : Context.Entry)

namespace Choice

def kind : Choice → Kind
  | config _ => .config
  | outDir _ => .outDir
  | timeout _ => .timeout
  | entry e => .entry e.group

/-- Puts a choice into a toolchain, in place of an earlier one if there can be one only. -/
def put : Choice → Toolchain → Toolchain
  | config path, t => { t with config := some path }
  | outDir path, t => { t with outDir := some path }
  | timeout limit, t => { t with timeout := some limit }
  | entry e, t => { t with context := t.context.add e }

end Choice

/-- What a value chooses behind an option: a path is any bytes but none, a limit is a text that
reads as a duration, and all else is any text. -/
inductive Kind.Reads : Kind → ByteString → Choice → Prop where
  | config {v : ByteString} : v ≠ [] → Reads .config v (.config ⟨v⟩)
  | outDir {v : ByteString} : v ≠ [] → Reads .outDir v (.outDir ⟨v⟩)
  | timeout {v : ByteString} {text : String} {limit : Duration} : v = ByteString.ofText text →
      Duration.parse text = .ok limit → Reads .timeout v (.timeout limit)
  | includeDir {v : ByteString} : v ≠ [] → Reads (.entry .includeDir) v (.entry (.includeDir ⟨v⟩))
  | libraryDir {v : ByteString} : v ≠ [] → Reads (.entry .libraryDir) v (.entry (.libraryDir ⟨v⟩))
  | library {v : ByteString} {text : String} : v = ByteString.ofText text →
      Reads (.entry .library) v (.entry (.library text))
  | define {v : ByteString} {text : String} : v = ByteString.ofText text →
      Reads (.entry .define) v (.entry (.define text))
  | flag {v : ByteString} {text : String} : v = ByteString.ofText text →
      Reads (.entry .flag) v (.entry (.flag text))

theorem Kind.Reads.kind_eq {k : Kind} {v : ByteString} {c : Choice} (h : k.Reads v c) :
    c.kind = k := by
  cases h <;> rfl

theorem Kind.Reads.unique {k : Kind} {v : ByteString} {c d : Choice} (h : k.Reads v c)
    (h' : k.Reads v d) :
    c = d := by
  have htext {text text' : String} (h : v = ByteString.ofText text)
      (h' : v = ByteString.ofText text') :
      text = text' := ByteString.ofText_inj.mp (h.symm.trans h')
  cases h with
  | config | outDir | includeDir | libraryDir => cases h'; rfl
  | timeout h hparse => cases h' with
    | timeout h' hparse' =>
      rw [htext h h', hparse'] at hparse
      rw [Except.ok.inj hparse]
  | library h => cases h' with
    | library h' => rw [htext h h']
  | define h => cases h' with
    | define h' => rw [htext h h']
  | flag h => cases h' with
    | flag h' => rw [htext h h']

/-! ## What has been chosen -/

/-- What the options of a kind have chosen, in order. -/
def chosen (t : Toolchain) : Kind → List Choice
  | .config => t.config.toList.map .config
  | .outDir => t.outDir.toList.map .outDir
  | .timeout => t.timeout.toList.map .timeout
  | .entry g => (t.context.inGroup g).map .entry

theorem length_chosen_le (t : Toolchain) {k : Kind} (h : k.single = true) :
    (t.chosen k).length ≤ 1 := by
  have hoption {α : Type} (x : Option α) : x.toList.length ≤ 1 := by cases x <;> simp
  cases k with
  | config | outDir | timeout => exact (List.length_map _).trans_le (hoption _)
  | entry g => cases h

theorem chosen_put_self (t : Toolchain) (c : Choice)
    (h : c.kind.single = true → t.chosen c.kind = []) :
    (c.put t).chosen c.kind = t.chosen c.kind ++ [c] := by
  cases c with
  | entry e => simp [Choice.put, Choice.kind, chosen, Context.inGroup_add]
  | config path | outDir path | timeout limit =>
    rw [h rfl]
    rfl

theorem chosen_put_of_ne (t : Toolchain) {c : Choice} {k : Kind} (h : c.kind ≠ k) :
    (c.put t).chosen k = t.chosen k := by
  cases c with
  | entry e => cases k with
    | entry g =>
      have hgroup : e.group ≠ g := fun heq => h (congrArg Kind.entry heq)
      simp [Choice.put, chosen, Context.inGroup_add, hgroup]
    | config | outDir | timeout => rfl
  | config path | outDir path | timeout limit => cases k <;> first | rfl | exact absurd rfl h

/-- A toolchain is what the options of each kind have chosen. -/
theorem eq_of_chosen {t u : Toolchain} (h : ∀ k, t.chosen k = u.chosen k) : t = u := by
  have hoption {α : Type} {f : α → Choice} (hf : Function.Injective f) {x y : Option α}
      (hxy : x.toList.map f = y.toList.map f) : x = y := by
    have hlist : x.toList = y.toList := List.map_injective_iff.mpr hf hxy
    cases x <;> cases y <;> simp_all
  have hcontext : t.context = u.context := Context.eq_of_inGroup fun g =>
    List.map_injective_iff.mpr (fun _ _ => Choice.entry.inj) (h (.entry g))
  have hconfig : t.config = u.config := hoption (fun _ _ => Choice.config.inj) (h .config)
  have houtDir : t.outDir = u.outDir := hoption (fun _ _ => Choice.outDir.inj) (h .outDir)
  have htimeout : t.timeout = u.timeout := hoption (fun _ _ => Choice.timeout.inj) (h .timeout)
  cases t
  cases u
  subst hconfig houtDir htimeout hcontext
  rfl

/-! ## What options store -/

section Stored

variable {v : ByteString} {r r' : ρ}

theorem stored_eq_ok_iff {α : Type} {read : ByteString → Except ValueFault α} {set : α → ρ → ρ} :
    stored read set v r = .ok r' ↔ ∃ a, read v = .ok a ∧ r' = set a r := by
  rw [stored, ok_bind_iff]
  exact exists_congr fun a =>
    and_congr_right' ⟨fun h => (Except.ok.inj h).symm, fun h => congrArg Except.ok h.symm⟩

theorem stored_asPath {set : Path → ρ → ρ} : stored asPath set v r = .ok r' ↔ v ≠ [] ∧
    r' = set ⟨v⟩ r := by
  rw [stored_eq_ok_iff]
  cases v <;> simp [asPath]

theorem asText_eq_ok_iff {text : String} : asText v = .ok text ↔ v = ByteString.ofText text := by
  rw [← Text.text?_eq_some, asText]
  cases Text.text? v <;> simp

theorem stored_asText {set : String → ρ → ρ} :
    stored asText set v r = .ok r' ↔ ∃ text, v = ByteString.ofText text ∧ r' = set text r := by
  simp only [stored_eq_ok_iff, asText_eq_ok_iff]

theorem stored_asDuration {set : Duration → ρ → ρ} : stored asDuration set v r = .ok r' ↔
    ∃ text d, v = ByteString.ofText text ∧ Duration.parse text = .ok d ∧ r' = set d r := by
  simp only [stored_eq_ok_iff, asDuration, ok_bind_iff, asText_eq_ok_iff, mapError_eq_ok]
  constructor
  · rintro ⟨d, ⟨text, h, hparse⟩, hr⟩
    exact ⟨text, d, h, hparse, hr⟩
  · rintro ⟨text, d, h, hparse, hr⟩
    exact ⟨d, ⟨text, h, hparse⟩, hr⟩

end Stored

/-- The option of a kind. -/
def Kind.find? (k : Kind) (options : List (Spec ρ)) : Option (Spec ρ) :=
  options.find? fun o => o.long.toUTF8.data.toList == ByteString.ofText k.name

/-- An option puts what its values choose into the toolchain that `on` changes. -/
structure Kind.Serves (k : Kind) (on : (Toolchain → Toolchain) → ρ → ρ) (o : Spec ρ) : Prop where
  long : o.long = k.name
  repeats : o.repeats = !k.single
  valued : o.value.isSome
  store (v : ByteString) (r r' : ρ) : o.store v r = .ok r' ↔ ∃ c, k.Reads v c ∧ r' = on c.put r

theorem Kind.exists_serves (k : Kind) (on : (Toolchain → Toolchain) → ρ → ρ) :
    ∃ o, k.find? (options on) = some o ∧ k.Serves on o := by
  cases k with
  | config =>
    exact ⟨_, rfl, rfl, rfl, rfl, fun v r r' => stored_asPath.trans
      ⟨fun ⟨h, hr⟩ => ⟨_, .config h, hr⟩, fun ⟨_, .config h, hr⟩ => ⟨h, hr⟩⟩⟩
  | outDir =>
    exact ⟨_, rfl, rfl, rfl, rfl, fun v r r' => stored_asPath.trans
      ⟨fun ⟨h, hr⟩ => ⟨_, .outDir h, hr⟩, fun ⟨_, .outDir h, hr⟩ => ⟨h, hr⟩⟩⟩
  | timeout =>
    exact ⟨_, rfl, rfl, rfl, rfl, fun v r r' => stored_asDuration.trans
      ⟨fun ⟨_, _, h, hparse, hr⟩ => ⟨_, .timeout h hparse, hr⟩,
        fun ⟨_, .timeout h hparse, hr⟩ => ⟨_, _, h, hparse, hr⟩⟩⟩
  | entry g => cases g with
    | includeDir =>
      exact ⟨_, rfl, rfl, rfl, rfl, fun v r r' => stored_asPath.trans
        ⟨fun ⟨h, hr⟩ => ⟨_, .includeDir h, hr⟩, fun ⟨_, .includeDir h, hr⟩ => ⟨h, hr⟩⟩⟩
    | libraryDir =>
      exact ⟨_, rfl, rfl, rfl, rfl, fun v r r' => stored_asPath.trans
        ⟨fun ⟨h, hr⟩ => ⟨_, .libraryDir h, hr⟩, fun ⟨_, .libraryDir h, hr⟩ => ⟨h, hr⟩⟩⟩
    | library =>
      exact ⟨_, rfl, rfl, rfl, rfl, fun v r r' => stored_asText.trans
        ⟨fun ⟨_, h, hr⟩ => ⟨_, .library h, hr⟩, fun ⟨_, .library h, hr⟩ => ⟨_, h, hr⟩⟩⟩
    | define =>
      exact ⟨_, rfl, rfl, rfl, rfl, fun v r r' => stored_asText.trans
        ⟨fun ⟨_, h, hr⟩ => ⟨_, .define h, hr⟩, fun ⟨_, .define h, hr⟩ => ⟨_, h, hr⟩⟩⟩
    | flag =>
      exact ⟨_, rfl, rfl, rfl, rfl, fun v r r' => stored_asText.trans
        ⟨fun ⟨_, h, hr⟩ => ⟨_, .flag h, hr⟩, fun ⟨_, .flag h, hr⟩ => ⟨_, h, hr⟩⟩⟩

end Toolchain

/-! ## Attached values -/

/-- An option with its value behind `=`. -/
def attached (name value : ByteString) : ByteString := "--" ++ name ++ "=" ++ value

theorem attached_eq (name value : ByteString) :
    attached name value = 45 :: 45 :: (name ++ 61 :: value) := by
  rw [attached, show ByteString.ofText "--" = [45, 45] from rfl,
    show ByteString.ofText "=" = [61] from rfl, List.append_assoc, List.append_assoc]
  rfl

theorem splitAtEquals_append {name : ByteString} (plain : 61 ∉ name) (value : ByteString) :
    splitAtEquals (name ++ 61 :: value) = (name, some value) := by
  have hname : (name ++ 61 :: value).takeWhile (· ≠ 61) = name := by
    rw [List.takeWhile_append_of_pos fun b hb => decide_eq_true (ne_of_mem_of_not_mem hb plain)]
    simp
  rw [splitAtEquals, hname, List.drop_left]

/-- Whatever the value is, it begins behind the first `=`. -/
theorem Shape.of_attached {name : ByteString} (plain : 61 ∉ name) (value : ByteString) :
    Shape.of (attached name value) = .long name (some value) := by
  have hsplit := splitAtEquals_append plain value
  rw [attached_eq]
  -- an empty name is no terminator, for `=` stands behind it
  cases name with
  | nil =>
    simp only [List.nil_append, Shape.of] at hsplit ⊢
    rw [hsplit]
  | cons b name =>
    simp only [List.cons_append, Shape.of] at hsplit ⊢
    rw [hsplit]

namespace Reading

/-- No option is pending, and the next argument may be one. -/
structure Idle (st : Reading ρ) : Prop where
  settled : st.pending = none
  ready : st.waiting = false
  active : st.trailing = false

variable {g : Grammar ρ} {o : Spec ρ} {st st' : Reading ρ}

theorem Idle.settle_eq (idle : st.Idle) : st.settle = .ok st := by
  rw [settle, idle.settled]

theorem Idle.step_attached (idle : st.Idle) {name : ByteString} (plain : 61 ∉ name)
    (valued : o.value.isSome)
    (found : g.options.find? (fun o => o.long.toUTF8.data.toList == name) = some o)
    (value : ByteString) :
    st.step g (attached name value) = st.accept o [value] := by
  obtain ⟨label, hlabel⟩ := Option.isSome_iff_exists.mp valued
  unfold step
  rw [idle.active, idle.ready, Shape.of_attached plain]
  simp only [Bool.false_eq_true, if_false, Option.any_none, found, option, hlabel, idle.settle_eq]
  rfl

theorem storeAll_singleton {value : ByteString} {r r' : ρ} :
    storeAll o [value] r = .ok r' ↔ o.store value r = .ok r' := by
  have hnil (r : ρ) : storeAll o [] r = .ok r := rfl
  rw [storeAll]
  simp only [hnil]
  rw [ok_bind_iff]
  simp [mapError_eq_ok]

theorem accept_eq_ok_iff (valued : o.value.isSome) {value : ByteString} :
    st.accept o [value] = .ok st' ↔
    (o.repeats = false → o.long ∉ st.given) ∧ ∃ r, o.store value st.record = .ok r ∧
      st' = { st with
        record := r
        given := if o.repeats then st.given else o.long :: st.given } := by
  have hvalue : o.value.isNone = false := by simpa using valued
  unfold accept
  simp only [List.isEmpty_cons, Bool.and_false, Bool.false_eq_true, if_false, hvalue]
  by_cases hfree : o.repeats = false → o.long ∉ st.given
  · have hcheck : (!o.repeats && st.given.contains o.long) = false := by simpa using hfree
    rw [hcheck]
    show (_ <$> storeAll o [value] st.record) = _ ↔ _
    rw [ok_map_iff, and_iff_right hfree]
    simp only [storeAll_singleton, eq_comm (b := st')]
  · have hcheck : (!o.repeats && st.given.contains o.long) = true := by simpa using hfree
    rw [hcheck]
    exact iff_of_false nofun fun h => hfree h.1

end Reading

namespace Toolchain

/-! ## Lines of options -/

/-- A toolchain option with its value attached. -/
structure Attached where
  kind : Kind
  value : ByteString

def Attached.argument (a : Attached) : ByteString :=
  attached (ByteString.ofText a.kind.name) a.value

/-- The arguments of a line of options. -/
def arguments (line : List Attached) : List ByteString := line.map Attached.argument

/-- The values of the options of a kind, in order. -/
def valuesOf (line : List Attached) (k : Kind) : List ByteString :=
  (line.filter (·.kind = k)).map Attached.value

theorem valuesOf_append (line more : List Attached) (k : Kind) :
    valuesOf (line ++ more) k = valuesOf line k ++ valuesOf more k := by
  rw [valuesOf, List.filter_append, List.map_append]
  rfl

theorem valuesOf_singleton_self (a : Attached) : valuesOf [a] a.kind = [a.value] := by
  simp [valuesOf]

theorem valuesOf_singleton_of_ne {a : Attached} {k : Kind} (h : a.kind ≠ k) :
    valuesOf [a] k = [] := by
  simp [valuesOf, h]

/-- What the options of each kind have chosen is what the values of the line read as, in order. -/
def ChosenBy (t : Toolchain) (line : List Attached) : Prop :=
  ∀ k, List.Forall₂ k.Reads (valuesOf line k) (t.chosen k)

theorem chosenBy_nil : ChosenBy {} [] := by
  intro k
  cases k with
  | entry g => cases g <;> exact .nil
  | config | outDir | timeout => exact .nil

theorem ChosenBy.unique {t u : Toolchain} {line : List Attached} (ht : t.ChosenBy line)
    (hu : u.ChosenBy line) :
    t = u :=
  eq_of_chosen fun k => List.right_unique_forall₂' (R := k.Reads) (fun _ _ _ h h' => h.unique h')
    (ht k) (hu k)

/-! ## Toolchains as parts of records -/

/-- A toolchain within what the arguments of a command say. -/
structure Part (ρ : Type) where
  on : (Toolchain → Toolchain) → ρ → ρ
  of : ρ → Toolchain
  of_on (f : Toolchain → Toolchain) (r : ρ) : of (on f r) = f (of r)
  on_on (f f' : Toolchain → Toolchain) (r : ρ) : on f (on f' r) = on (f ∘ f') r
  on_of (r : ρ) : on (fun _ => of r) r = r

/-- The toolchain alone. -/
def Part.whole : Part Toolchain where
  on := id
  of := id
  of_on _ _ := rfl
  on_on _ _ _ := rfl
  on_of _ := rfl

/-- The toolchain of a job. -/
def Part.ofDetails : Part Details where
  on f d := { d with toolchain := f d.toolchain }
  of := Details.toolchain
  of_on _ _ := rfl
  on_on _ _ _ := rfl
  on_of _ := rfl

/-- The grammar has the toolchain options, and no commands. -/
structure Part.Offered (p : Part ρ) (g : Grammar ρ) : Prop where
  commands : g.commands = []
  option (k : Kind) : k.find? g.options = k.find? (options p.on)

theorem offered_grammar : Part.whole.Offered grammar where
  commands := rfl
  option k := by
    cases k with
    | entry g => cases g <;> rfl
    | config | outDir | timeout => rfl

theorem offered_jobGrammar (job : Job) : Part.ofDetails.Offered (jobGrammar job) where
  commands := rfl
  option k := by
    cases job <;> cases k with
    | entry g => cases g <;> rfl
    | config | outDir | timeout => rfl

/-! ## Reading -/

variable {p : Part ρ} {g : Grammar ρ} {start : ρ} {st st' : Reading ρ} {line more : List Attached}

theorem step_argument (offered : p.Offered g) (idle : st.Idle) (a : Attached) :
    st.step g a.argument = .ok st' ↔ (a.kind.single = true → a.kind.name ∉ st.given) ∧
      ∃ c, a.kind.Reads a.value c ∧ st' = { st with
        record := p.on c.put st.record
        given := if a.kind.single then a.kind.name :: st.given else st.given } := by
  obtain ⟨o, hfound, serves⟩ := a.kind.exists_serves p.on
  rw [← offered.option] at hfound
  rw [Attached.argument, idle.step_attached a.kind.equals_not_mem_name serves.valued hfound,
    Reading.accept_eq_ok_iff serves.valued, serves.long, serves.repeats]
  simp only [serves.store]
  constructor
  · rintro ⟨hfree, _, ⟨c, hreads, rfl⟩, rfl⟩
    refine ⟨by simpa using hfree, c, hreads, ?_⟩
    cases a.kind.single <;> rfl
  · rintro ⟨hfree, c, hreads, rfl⟩
    refine ⟨by simpa using hfree, _, ⟨c, hreads, rfl⟩, ?_⟩
    cases a.kind.single <;> rfl

/-- What has been read since `start` is the line, option by option. -/
structure Tells (p : Part ρ) (start : ρ) (st : Reading ρ) (line : List Attached) :
    Prop extends st.Idle where
  chosen : (p.of st.record).ChosenBy line
  rest : st.record = p.on (fun _ => p.of st.record) start
  given (k : Kind) : k.single = true → (k.name ∈ st.given ↔ valuesOf line k ≠ [])

theorem tells_nil (h : p.of start = {}) : Tells p start { record := start } [] where
  settled := rfl
  ready := rfl
  active := rfl
  chosen := h ▸ chosenBy_nil
  rest := (p.on_of start).symm
  given _ _ := iff_of_false List.not_mem_nil fun h => h rfl

/-- An option that is taken up adds its choice behind those of its kind. -/
theorem Tells.step (tells : Tells p start st line) (offered : p.Offered g) {a : Attached}
    (h : st.step g a.argument = .ok st') : Tells p start st' (line ++ [a]) := by
  obtain ⟨hfree, c, hreads, rfl⟩ := (step_argument offered tells.toIdle a).mp h
  have hkind : c.kind = a.kind := hreads.kind_eq
  refine ⟨⟨tells.settled, tells.ready, tells.active⟩, fun k => ?_, ?_, fun k hsingle => ?_⟩
  · rw [p.of_on]
    by_cases hk : a.kind = k
    · subst hk
      have hunset : c.kind.single = true → (p.of st.record).chosen c.kind = [] := fun hsingle => by
        rw [hkind] at hsingle ⊢
        have hnone : valuesOf line a.kind = [] :=
          not_not.mp fun hsome => hfree hsingle ((tells.given _ hsingle).mpr hsome)
        exact List.forall₂_nil_left_iff.mp (hnone ▸ tells.chosen a.kind)
      have hput := chosen_put_self (p.of st.record) c hunset
      rw [hkind] at hput
      rw [valuesOf_append, valuesOf_singleton_self, hput]
      exact List.rel_append (tells.chosen _) (.cons hreads .nil)
    · rw [valuesOf_append, valuesOf_singleton_of_ne hk, List.append_nil,
        chosen_put_of_ne _ (hkind ▸ hk)]
      exact tells.chosen k
  · show p.on c.put st.record = _
    rw [p.of_on]
    conv_lhs => rw [tells.rest, p.on_on]
    rfl
  · by_cases hk : a.kind = k
    · subst hk
      simp [hsingle, valuesOf_append, valuesOf_singleton_self]
    · have hname : k.name ≠ a.kind.name := fun h => hk (Kind.name_inj.mp h).symm
      rw [valuesOf_append, valuesOf_singleton_of_ne hk, List.append_nil, ← tells.given k hsingle]
      split
      · rw [List.mem_cons, or_iff_right hname]
      · rfl

/-- An option is taken up if some toolchain has what it chooses. -/
theorem Tells.exists_step (tells : Tells p start st line) (offered : p.Offered g) {a : Attached}
    {t : Toolchain}
    (h : t.ChosenBy (line ++ a :: more)) : ∃ st', st.step g a.argument = .ok st' := by
  have hvalues : valuesOf (line ++ a :: more) a.kind
      = valuesOf line a.kind ++ a.value :: valuesOf more a.kind := by
    rw [← List.singleton_append, valuesOf_append, valuesOf_append, valuesOf_singleton_self,
      List.singleton_append]
  have hread := hvalues ▸ h a.kind
  obtain ⟨c, _, hreads, -, -⟩ :=
    List.forall₂_cons_right_iff.mp (List.forall₂_drop_append _ _ _ hread.flip)
  refine ⟨_, (step_argument offered tells.toIdle a).mpr ⟨fun hsingle hgiven => ?_, c, hreads, rfl⟩⟩
  have hlength := hread.length_eq.trans_le (t.length_chosen_le hsingle)
  rw [List.length_append, List.length_cons] at hlength
  exact (tells.given _ hsingle).mp hgiven (List.length_eq_zero_iff.mp (by omega))

theorem readAll_cons (offered : p.Offered g) (st : Reading ρ) (a : Attached)
    (line : List Attached) :
    Reading.readAll g st (arguments (a :: line))
      = st.step g a.argument >>= fun st' => Reading.readAll g st' (arguments line) := by
  have hcommand : (if st.waiting || st.trailing then none
      else g.commands.find? fun c => c.toUTF8.data.toList == a.argument) = none := by
    rw [offered.commands, List.find?_nil, ite_self]
  rw [arguments, List.map_cons, Reading.readAll, hcommand]
  rfl

theorem Tells.readAll (tells : Tells p start st line) (offered : p.Offered g)
    {c : Option (String × List ByteString)}
    (h : Reading.readAll g st (arguments more) = .ok (st', c)) :
    Tells p start st' (line ++ more) := by
  induction more generalizing st line with
  | nil =>
    cases h
    rwa [List.append_nil]
  | cons a more ih =>
    rw [readAll_cons offered] at h
    obtain ⟨next, hstep, hrest⟩ := ok_bind_iff.mp h
    rw [← List.singleton_append, ← List.append_assoc]
    exact ih (tells.step offered hstep) hrest

theorem Tells.exists_readAll (tells : Tells p start st line) (offered : p.Offered g) {t : Toolchain}
    (h : t.ChosenBy (line ++ more)) :
    ∃ st', Reading.readAll g st (arguments more) = .ok (st', none) := by
  induction more generalizing st line with
  | nil => exact ⟨st, rfl⟩
  | cons a more ih =>
    obtain ⟨next, hstep⟩ := tells.exists_step offered h
    rw [← List.singleton_append, ← List.append_assoc] at h
    obtain ⟨st', hrest⟩ := ih (tells.step offered hstep) h
    exact ⟨st', by rw [readAll_cons offered, hstep]; exact hrest⟩

/-- A line of options is accepted with the toolchain that its values choose, and nothing else is
changed. -/
theorem parse_arguments_iff (offered : p.Offered g) (h : p.of start = {}) {r : ρ} :
    g.parse start (arguments line) = .ok r ↔ (p.of r).ChosenBy line ∧
      r = p.on (fun _ => p.of r) start := by
  have hparse {st : Reading ρ} {c : Option (String × List ByteString)}
      (hread : Reading.readAll g { record := start } (arguments line) = .ok (st, c)) :
      g.parse start (arguments line) = .ok st.record ∧ Tells p start st line := by
    have tells : Tells p start st ([] ++ line) := (tells_nil h).readAll offered hread
    refine ⟨?_, tells⟩
    unfold Grammar.parse
    rw [hread]
    show (st.settle >>= fun st => Except.ok st.record) = _
    rw [tells.settle_eq]
    rfl
  constructor
  · intro haccepted
    obtain ⟨⟨st, c⟩, hread, -⟩ := ok_bind_iff.mp haccepted
    obtain ⟨heq, tells⟩ := hparse hread
    rw [haccepted] at heq
    cases heq
    exact ⟨tells.chosen, tells.rest⟩
  · rintro ⟨hchosen, hrest⟩
    have hbehind : (p.of r).ChosenBy ([] ++ line) := hchosen
    obtain ⟨st, hread⟩ := (tells_nil h).exists_readAll offered hbehind
    obtain ⟨heq, tells⟩ := hparse hread
    rw [heq, tells.rest, tells.chosen.unique hchosen, ← hrest]

theorem parse_eq_ok_iff {t : Toolchain} : parse (arguments line) = .ok t ↔ t.ChosenBy line :=
  (parse_arguments_iff offered_grammar rfl).trans (and_iff_left rfl)

/-- A job reads a line of options as the toolchain alone does. -/
theorem parse_jobGrammar_iff {job : Job} {d : Details} :
    (jobGrammar job).parse {} (arguments line) = .ok d ↔
    ∃ t, parse (arguments line) = .ok t ∧ d = { toolchain := t } := by
  rw [parse_arguments_iff (offered_jobGrammar job) rfl]
  constructor
  · rintro ⟨hchosen, hrest⟩
    exact ⟨_, parse_eq_ok_iff.mpr hchosen, hrest⟩
  · rintro ⟨t, haccepted, rfl⟩
    exact ⟨parse_eq_ok_iff.mp haccepted, rfl⟩

/-! ## Interleavings -/

/-- Only the values of each kind count. -/
theorem parse_congr {line' : List Attached} (same : ∀ k, valuesOf line k = valuesOf line' k)
    {t : Toolchain} :
    parse (arguments line) = .ok t ↔ parse (arguments line') = .ok t := by
  rw [parse_eq_ok_iff, parse_eq_ok_iff, ChosenBy, ChosenBy, funext same]

/-- The context that options resolve to has their entries behind those of the file, as their values
read. -/
theorem ChosenBy.resolve_context {σ : Type} [Logging σ] [Files σ] [Environment σ] {t : Toolchain}
    (h : t.ChosenBy line) {s after : σ} {c : Config}
    (hresolve : (t.resolve : Action σ _ _).exec s = (.ok c, after)) :
    ∃ base, (t.loaded s).1 = .ok base ∧ ∀ g, ∃ added, c.context.inGroup g
      = base.context.inGroup g ++ added ∧
      List.Forall₂ (Kind.entry g).Reads (valuesOf line (.entry g)) (added.map .entry) := by
  obtain ⟨base, hbase, hcontext⟩ := t.resolve_context hresolve
  refine ⟨base, hbase, fun g => ⟨t.context.inGroup g, ?_, h (.entry g)⟩⟩
  rw [hcontext, Context.inGroup_append]

/-- Two lines of options with the same values in the same order for each option, whatever the values
look like and however the options are interleaved, are both accepted or both refused, and resolve
alike on every machine. What is accepted is what the values read as, so those of a repeated option
stay in their order, behind those of the file. Jobs read such lines alike as well. -/
theorem option_order_free {σ : Type} [Logging σ] [Files σ] [Environment σ]
    {line line' : List Attached}
    (same : ∀ k, valuesOf line k = valuesOf line' k) :
    ((∃ t, parse (arguments line) = .ok t) ↔ ∃ t, parse (arguments line') = .ok t) ∧
    (∀ t u, parse (arguments line) = .ok t → parse (arguments line') = .ok u →
      ∀ s : σ, (t.resolve : Action σ _ _).exec s = (u.resolve : Action σ _ _).exec s) ∧
    (∀ t, parse (arguments line) = .ok t ↔ t.ChosenBy line) ∧
    (∀ t c (s after : σ), parse (arguments line') = .ok t →
      (t.resolve : Action σ _ _).exec s = (.ok c, after) →
      ∃ base, (t.loaded s).1 = .ok base ∧ ∀ g, ∃ added,
        c.context.inGroup g = base.context.inGroup g ++ added ∧
        List.Forall₂ (Kind.entry g).Reads (valuesOf line (.entry g)) (added.map .entry)) ∧
    ∀ job d, (jobGrammar job).parse {} (arguments line) = .ok d ↔
      (jobGrammar job).parse {} (arguments line') = .ok d := by
  refine ⟨exists_congr fun t => parse_congr same, fun t u ht hu s => ?_, fun t => parse_eq_ok_iff,
    fun t c s after ht hresolve => ?_, fun job d => ?_⟩
  · rw [(parse_eq_ok_iff.mp ht).unique (parse_eq_ok_iff.mp ((parse_congr same).mpr hu))]
  · exact (parse_eq_ok_iff.mp ((parse_congr same).mpr ht)).resolve_context hresolve
  · rw [parse_jobGrammar_iff, parse_jobGrammar_iff]
    exact exists_congr fun t => and_congr_left' (parse_congr same)

/-- Options with values that look like options themselves, or have an `=` of their own. -/
def tangled : List Attached :=
  [⟨.entry .define, "A=1"⟩, ⟨.entry .flag, "--lib=m"⟩, ⟨.config, "forge.json"⟩,
    ⟨.entry .includeDir, "-I"⟩, ⟨.entry .flag, "-a"⟩, ⟨.timeout, "1s 1ns"⟩, ⟨.entry .define, "=B"⟩,
    ⟨.entry .includeDir, "a=b"⟩]

/-- The same options, interleaved the other way. -/
def retangled : List Attached :=
  [⟨.timeout, "1s 1ns"⟩, ⟨.entry .includeDir, "-I"⟩, ⟨.entry .includeDir, "a=b"⟩,
    ⟨.entry .define, "A=1"⟩, ⟨.entry .define, "=B"⟩, ⟨.config, "forge.json"⟩,
    ⟨.entry .flag, "--lib=m"⟩, ⟨.entry .flag, "-a"⟩]

/-- What these options choose. -/
def untangled : Toolchain where
  config := some "forge.json"
  timeout := some ⟨1, 1, by decide⟩
  context := { includeDirs := ["-I", "a=b"], defines := ["A=1", "=B"], flags := ["--lib=m", "-a"] }

/-- Both lines are accepted and resolve alike, with their flags behind that of the file. -/
theorem tangled_options_resolve :
    (∀ k, valuesOf tangled k = valuesOf retangled k) ∧
    parse (arguments tangled) = .ok untangled ∧ untangled.ChosenBy tangled ∧
    ∃ u c after, parse (arguments retangled) = .ok u ∧
      (untangled.resolve : Action Desk _ _).exec Desk.crowded = (.ok c, after) ∧
      (u.resolve : Action Desk _ _).exec Desk.crowded = (.ok c, after) ∧
      ∃ base added, (u.loaded Desk.crowded).1 = .ok base ∧
        c.context.inGroup .flag = base.context.inGroup .flag ++ added ∧
        List.Forall₂ (Kind.entry .flag).Reads ["--lib=m", "-a"] (added.map .entry) := by
  have same : ∀ k, valuesOf tangled k = valuesOf retangled k := by
    intro k
    cases k with
    | entry g => cases g <;> rfl
    | config | outDir | timeout => rfl
  have haccepted : parse (arguments tangled) = .ok untangled := by decide +kernel
  obtain ⟨haccepts, hresolve, hchosen, hcontext, -⟩ := option_order_free (σ := Desk) same
  obtain ⟨u, hu⟩ := haccepts.mp ⟨untangled, haccepted⟩
  obtain ⟨c, after, hexec⟩ : ∃ c after,
      (untangled.resolve : Action Desk _ _).exec Desk.crowded = (.ok c, after) :=
    ⟨_, _, by with_unfolding_all rfl⟩
  have hexec' := (hresolve untangled u haccepted hu Desk.crowded).symm.trans hexec
  obtain ⟨base, hbase, hgroups⟩ := hcontext u c Desk.crowded after hu hexec'
  obtain ⟨added, hflags, hreads⟩ := hgroups .flag
  exact ⟨same, haccepted, (hchosen untangled).mp haccepted, u, c, after, hu, hexec, hexec', base,
    added, hbase, hflags, hreads⟩

end Toolchain
end Cli
end ModuleForge
