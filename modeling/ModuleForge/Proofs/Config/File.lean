import Mathlib.Data.Set.List
import ModuleForge.Config
import ModuleForge.Proofs.Action
import ModuleForge.Proofs.Json.Shapes

/-!
# Configuration files

A configuration whose paths are texts has a form as JSON, an object with one member for each field.
A file may hold an edited form of it (`Edited`): fields left out, the others in any order, unknown
flat members between them, and the same in the object of the context. Reading such a file gives the
configuration with the default in place of each field that is left out (`load_edited`), so what was
written is read back unchanged.
-/
namespace ModuleForge

/-! ## Edited records -/

namespace Json

/-- An object with only the members that are kept, with unknown flat members, in any order. -/
def Edited (kept : String → Bool) (before after : List (String × Json)) : Prop :=
  ∃ more : List (String × Json), (∀ m ∈ more, m.1 ∉ before.map Prod.fst ∧ Flat m.2) ∧
    after.Perm (before.filter (fun m => kept m.1) ++ more)

theorem Edited.refl (before : List (String × Json)) : Edited (fun _ => true) before before :=
  ⟨[], nofun, by rw [List.append_nil, List.filter_eq_self.mpr fun _ _ => rfl]⟩

section Edits

variable {kept : String → Bool} {before after : List (String × Json)}

/-- Of the members that were there those are left that are kept. -/
theorem Edited.contains (edited : Edited kept before after) {key : String}
    (h : key ∈ before.map Prod.fst) :
    (after.map Prod.fst).contains key = kept key := by
  obtain ⟨more, hmore, hperm⟩ := edited
  rw [Bool.eq_iff_iff, List.contains_iff_mem, (hperm.map Prod.fst).mem_iff, List.map_append,
    List.mem_append]
  constructor
  · rintro (h' | h')
    · obtain ⟨m, hm, rfl⟩ := List.mem_map.mp h'
      exact (List.mem_filter.mp hm).2
    · obtain ⟨m, hm, rfl⟩ := List.mem_map.mp h'
      exact absurd h (hmore m hm).1
  · intro hkept
    obtain ⟨m, hm, rfl⟩ := List.mem_map.mp h
    exact .inl (List.mem_map_of_mem (List.mem_filter.mpr ⟨hm, hkept⟩))

variable {fields : List (Field ρ)}

theorem suits_field {shape : Shape α} {name : String} {set : α → ρ → ρ} {j : Json} {v : α}
    {change : ρ → ρ}
    (hfind : fields.find? (·.name == name) = some (.of name shape set))
    (hread : Reads shape.read (tokens j) v)
    (hset : set v = change) : Suits fields (name, j) change := by
  rw [Suits, hfind]
  exact hset ▸ hread.map set

theorem unknown_of_not_mem {key : String} (h : key ∉ fields.map (·.name)) : Unknown fields key := by
  rw [Unknown, List.find?_eq_none]
  intro f hf heq
  exact h (List.mem_map.mpr ⟨f, hf, beq_iff_eq.mp heq⟩)

end Edits

theorem cond_or {α : Type} (p q : Bool) (x y : α) :
    (bif q then x else bif p then x else y) = bif p || q then x else y := by
  cases p <;> cases q <;> rfl

/-- How a record takes fields from another: `onto c d chosen` has those of `c` that are chosen by
name, and the others of `d`. -/
structure Selection (ρ : Type) where
  names : List String
  onto : ρ → ρ → (String → Bool) → ρ
  nodup : names.Nodup
  onto_none (c d : ρ) : onto c d (fun _ => false) = d
  onto_onto (c d : ρ) (p q : String → Bool) :
    onto c (onto c d p) q = onto c d (fun key => p key || q key)
  onto_congr (c d : ρ) {p q : String → Bool} : (∀ key ∈ names, p key = q key) →
    onto c d p = onto c d q

namespace Selection

variable {k : Selection ρ} {fields : List (Field ρ)}

theorem foldl_onto (c d : ρ) (ms : List (String × Json)) :
    ms.foldl (fun d m => k.onto c d (· == m.1)) d = k.onto c d (ms.map Prod.fst).contains := by
  induction ms generalizing d with
  | nil => exact (k.onto_none c d).symm
  | cons m ms ih =>
    rw [List.foldl_cons, ih, k.onto_onto]
    exact congrArg (k.onto c d) (funext fun key => List.contains_cons.symm)

theorem onto_idle (c : ρ) {key : String} (h : key ∉ k.names) :
    (fun d => k.onto c d (· == key)) = id := by
  have hne : ∀ name ∈ k.names, (name == key) = false := fun name hname =>
    beq_eq_false_iff_ne.mpr fun heq => h (heq ▸ hname)
  funext d
  exact (k.onto_congr c d hne).trans (k.onto_none c d)

/-- Where each member of an object takes one field from `c`, every edited form of the object is read
as the fields of `c` that are kept, and the others as the record has them from the start. -/
theorem reads_edited {c : ρ} {before after : List (String × Json)} {kept : String → Bool}
    (hbefore : before.map Prod.fst = k.names) (hfields : fields.map (·.name) = k.names)
    (suits : ∀ m ∈ before, Suits fields m fun d => k.onto c d (· == m.1))
    (edited : Edited kept before after)
    (expected : String) (start : ρ) :
    Reads (Shape.record expected start fields).read (tokens (.object after))
      (k.onto c start kept) := by
  have hkept : ∀ key ∈ k.names, (after.map Prod.fst).contains key = kept key := fun key hkey =>
    edited.contains (hbefore ▸ hkey)
  rw [← k.onto_congr c start hkept, ← foldl_onto]
  obtain ⟨more, hmore, hperm⟩ := edited
  have hunknown : ∀ m ∈ more, m.1 ∉ k.names ∧ Unknown fields m.1 := fun m hm => by
    have hnew := (hmore m hm).1
    rw [hbefore] at hnew
    exact ⟨hnew, unknown_of_not_mem (hfields ▸ hnew)⟩
  have hsuits : ∀ m ∈ after, Suits fields m ((fun n d => k.onto c d (· == n.1)) m) := by
    intro m hm
    rcases List.mem_append.mp (hperm.mem_iff.mp hm) with hm | hm
    · exact suits m (List.mem_filter.mp hm).1
    · obtain ⟨hnew, hfind⟩ := hunknown m hm
      rw [Suits, show fields.find? (·.name == m.1) = none from hfind]
      exact ⟨(hmore m hm).2, k.onto_idle c hnew⟩
  have distinct : Distinct fields after := by
    refine (hperm.pairwise_iff fun h heq => heq ▸ h heq.symm).mpr
      (List.pairwise_append.mpr ⟨?_, ?_, ?_⟩)
    · have hpairs : before.Pairwise fun m n => m.1 ≠ n.1 := List.pairwise_map.mp (hbefore ▸ k.nodup)
      exact (hpairs.filter _).imp fun hne heq => absurd heq hne
    · exact List.pairwise_of_forall_mem_list fun m hm _ _ _ => (hunknown m hm).2
    · intro m _ n hn heq
      exact heq ▸ (hunknown n hn).2
  exact reads_record expected start hsuits distinct

end Selection

/-! ## Paths as JSON -/

theorem ofPath_ok {p : Path} {j : Json} : ofPath p = .ok j ↔ ∃ s, p = Path.ofText s ∧
    j = .string s := by
  unfold ofPath
  constructor
  · intro h
    split at h
    · rename_i s hs
      cases h
      exact ⟨s, congrArg Path.mk (Text.text?_eq_some.mp hs), rfl⟩
    · cases h
  · rintro ⟨s, rfl, rfl⟩
    rw [Path.ofText, Text.text?_ofText]

/-- A path as a JSON string, or `null` if there is none. -/
def ofOptionalPath : Option Path → Except Refusal Json
  | none => .ok .null
  | some p => ofPath p

theorem ofOptionalPath_ok {p : Option Path} {j : Json} : ofOptionalPath p = .ok j ↔
    ∃ s : Option String, p = s.map Path.ofText ∧ j = s.elim .null .string := by
  cases p with
  | none =>
    constructor
    · rintro ⟨⟩
      exact ⟨none, rfl, rfl⟩
    · rintro ⟨_ | s, hs, rfl⟩
      · rfl
      · cases hs
  | some p =>
    rw [ofOptionalPath, ofPath_ok]
    constructor
    · rintro ⟨s, rfl, rfl⟩
      exact ⟨some s, rfl, rfl⟩
    · rintro ⟨_ | s, hs, rfl⟩
      · cases hs
      · exact ⟨s, Option.some.inj hs, rfl⟩

theorem ofPaths_ok {ps : List Path} {js : List Json} :
    ps.mapM ofPath = .ok js ↔ ∃ ss : List String, ps = ss.map Path.ofText ∧
      js = ss.map .string := by
  induction ps generalizing js with
  | nil =>
    constructor
    · rintro ⟨⟩
      exact ⟨[], rfl, rfl⟩
    · rintro ⟨ss, hss, rfl⟩
      rw [List.map_eq_nil_iff.mp hss.symm]
      rfl
  | cons p ps ih =>
    rw [List.mapM_cons]
    simp only [ok_bind_iff, ofPath_ok, ih]
    constructor
    · rintro ⟨_, ⟨s, rfl, rfl⟩, _, ⟨ss, rfl, rfl⟩, h⟩
      cases h
      exact ⟨s :: ss, rfl, rfl⟩
    · rintro ⟨_ | ⟨s, ss⟩, hss, rfl⟩
      · cases hss
      · obtain ⟨rfl, rfl⟩ := List.cons.inj hss
        exact ⟨_, ⟨s, rfl, rfl⟩, _, ⟨ss, rfl, rfl⟩, rfl⟩

end Json

/-! ## Contexts -/

namespace Context

def fields : List (Json.Field Context) := [
  .of "include_dirs" (.list .path) fun v c => { c with includeDirs := v },
  .of "library_dirs" (.list .path) fun v c => { c with libraryDirs := v },
  .of "libraries" (.list .text) fun v c => { c with libraries := v },
  .of "defines" (.list .text) fun v c => { c with defines := v },
  .of "flags" (.list .text) fun v c => { c with flags := v }]

theorem shape_eq : shape = .record "struct BuildingContext" {} fields := rfl

/-- The members of a context whose directories are these texts. -/
def members (c : Context) (includeDirs libraryDirs : List String) : List (String × Json) := [
  ("include_dirs", .array (includeDirs.map .string)),
    ("library_dirs", .array (libraryDirs.map .string)),
  ("libraries", .array (c.libraries.map .string)), ("defines", .array (c.defines.map .string)),
  ("flags", .array (c.flags.map .string))]

theorem toJson_ok {c : Context} {j : Json} : c.toJson = .ok j ↔
    ∃ includeDirs libraryDirs : List String,
    c.includeDirs = includeDirs.map Path.ofText ∧ c.libraryDirs = libraryDirs.map Path.ofText ∧
      j = .object (c.members includeDirs libraryDirs) := by
  unfold toJson
  simp only [ok_bind_iff, ok_map_iff, Json.ofPaths_ok]
  constructor
  · rintro ⟨_, ⟨_, ⟨is, his, rfl⟩, rfl⟩, _, ⟨_, ⟨ls, hls, rfl⟩, rfl⟩, h⟩
    cases h
    exact ⟨is, ls, his, hls, rfl⟩
  · rintro ⟨is, ls, his, hls, rfl⟩
    exact ⟨_, ⟨_, ⟨is, his, rfl⟩, rfl⟩, _, ⟨_, ⟨ls, hls, rfl⟩, rfl⟩, rfl⟩

/-- The fields of `c` that are chosen, the others from `d`. -/
def onto (c d : Context) (chosen : String → Bool) : Context where
  includeDirs := bif chosen "include_dirs" then c.includeDirs else d.includeDirs
  libraryDirs := bif chosen "library_dirs" then c.libraryDirs else d.libraryDirs
  libraries := bif chosen "libraries" then c.libraries else d.libraries
  defines := bif chosen "defines" then c.defines else d.defines
  flags := bif chosen "flags" then c.flags else d.flags

def selection : Json.Selection Context where
  names := ["include_dirs", "library_dirs", "libraries", "defines", "flags"]
  onto := onto
  nodup := by decide
  onto_none _ _ := rfl
  onto_onto c d p q := by simp only [onto, Json.cond_or]
  onto_congr c d p q h := by
    simp only [List.mem_cons, List.not_mem_nil, or_false, forall_eq_or_imp, forall_eq] at h
    simp only [onto, h]

/-- The members of a context make their changes. -/
theorem suits_members {c : Context} {includeDirs libraryDirs : List String}
    (hinclude : c.includeDirs = includeDirs.map Path.ofText)
    (hlibrary : c.libraryDirs = libraryDirs.map Path.ofText) :
    ∀ m ∈ c.members includeDirs libraryDirs, Json.Suits fields m fun d =>
      selection.onto c d (· == m.1) := by
  have hpaths {ps : List Path} {ss : List String} (h : ps = ss.map Path.ofText) :
      Json.Reads (Json.Shape.list .path).read (Json.tokens (.array (ss.map .string))) ps :=
    h ▸ Json.reads_list (fun t => (Json.reads_string _ t).map Path.ofText) ss
  have htexts (ss : List String) :
      Json.Reads (Json.Shape.list .text).read (Json.tokens (.array (ss.map .string)))
      ss := by
    have h := Json.reads_list (s := .text) (f := id) (fun t => Json.reads_string _ t) ss
    rwa [List.map_id] at h
  intro m hm
  simp only [members, List.mem_cons, List.not_mem_nil, or_false] at hm
  rcases hm with rfl | rfl | rfl | rfl | rfl
  · exact Json.suits_field rfl (hpaths hinclude) rfl
  · exact Json.suits_field rfl (hpaths hlibrary) rfl
  · exact Json.suits_field rfl (htexts c.libraries) rfl
  · exact Json.suits_field rfl (htexts c.defines) rfl
  · exact Json.suits_field rfl (htexts c.flags) rfl

/-- Every edited form of a context is read as the context with defaults for what is left out. -/
theorem reads_edited {c : Context} {includeDirs libraryDirs : List String}
    (hinclude : c.includeDirs = includeDirs.map Path.ofText)
    (hlibrary : c.libraryDirs = libraryDirs.map Path.ofText)
    {kept : String → Bool} {after : List (String × Json)}
    (edited : Json.Edited kept (c.members includeDirs libraryDirs) after) :
    Json.Reads shape.read (Json.tokens (.object after)) (c.onto {} kept) := by
  rw [shape_eq]
  exact selection.reads_edited rfl rfl (suits_members hinclude hlibrary) edited _ _

end Context

/-! ## Configurations -/

namespace Config

def fields : List (Json.Field Config) := [
  .of "compiler" .path fun v c => { c with compiler := v },
  .of "linker" .path fun v c => { c with linker := v },
  .of "language" .text fun v c => { c with language := v },
  .of "output_dir" (.optional .path) fun v c => { c with outputDir := v },
  .of "timeout_secs" .natural fun v c => { c with timeoutSecs := v },
  .of "context" Context.shape fun v c => { c with context := v }]

theorem shape_eq : shape = .record "struct ToolchainConfig" {} fields := rfl

/-- The members of a configuration whose paths are these texts. -/
def members (c : Config) (compiler linker : String) (outputDir : Option String)
    (context : List (String × Json)) :
    List (String × Json) := [
  ("compiler", .string compiler), ("linker", .string linker), ("language", .string c.language),
  ("output_dir", outputDir.elim .null .string), ("timeout_secs", .number (.whole c.timeoutSecs)),
  ("context", .object context)]

theorem toJson_ok {c : Config} {j : Json} : c.toJson = .ok j ↔
    ∃ (compiler linker : String) (outputDir : Option String) (context : List (String × Json)),
      c.compiler = Path.ofText compiler ∧ c.linker = Path.ofText linker ∧
        c.outputDir = outputDir.map Path.ofText ∧
        c.context.toJson = .ok (.object context) ∧
          j = .object (c.members compiler linker outputDir context) := by
  have heq : c.toJson = Json.ofPath c.compiler >>= fun compiler =>
      Json.ofPath c.linker >>= fun linker =>
      Json.ofOptionalPath c.outputDir >>= fun dir => c.context.toJson >>= fun context =>
        .ok (.object [
        ("compiler", compiler), ("linker", linker), ("language", .string c.language),
          ("output_dir", dir),
        ("timeout_secs", .number (.whole c.timeoutSecs)), ("context", context)]) := by
    unfold toJson
    cases c.outputDir <;> rfl
  have hcontext {j : Json} : c.context.toJson = .ok j ↔ ∃ context,
      c.context.toJson = .ok (.object context) ∧
      j = .object context := by
    refine ⟨fun h => ?_, fun ⟨context, h, hj⟩ => hj ▸ h⟩
    obtain ⟨includeDirs, libraryDirs, -, -, rfl⟩ := Context.toJson_ok.mp h
    exact ⟨_, h, rfl⟩
  rw [heq]
  simp only [ok_bind_iff, Json.ofPath_ok, Json.ofOptionalPath_ok]
  constructor
  · rintro ⟨_, ⟨compiler, hcompiler, rfl⟩, _, ⟨linker, hlinker, rfl⟩, _, ⟨dir, hdir, rfl⟩,
      json, hjson, h⟩
    obtain ⟨context, hobject, rfl⟩ := hcontext.mp hjson
    cases h
    exact ⟨compiler, linker, dir, context, hcompiler, hlinker, hdir, hobject, rfl⟩
  · rintro ⟨compiler, linker, dir, context, hcompiler, hlinker, hdir, hobject, rfl⟩
    exact ⟨_, ⟨compiler, hcompiler, rfl⟩, _, ⟨linker, hlinker, rfl⟩, _, ⟨dir, hdir, rfl⟩, _,
      hobject, rfl⟩

/-- The fields of `c` that are chosen, the others from `d`. -/
def onto (c d : Config) (chosen : String → Bool) : Config where
  compiler := bif chosen "compiler" then c.compiler else d.compiler
  linker := bif chosen "linker" then c.linker else d.linker
  language := bif chosen "language" then c.language else d.language
  outputDir := bif chosen "output_dir" then c.outputDir else d.outputDir
  timeoutSecs := bif chosen "timeout_secs" then c.timeoutSecs else d.timeoutSecs
  context := bif chosen "context" then c.context else d.context

def selection : Json.Selection Config where
  names := ["compiler", "linker", "language", "output_dir", "timeout_secs", "context"]
  onto := onto
  nodup := by decide
  onto_none _ _ := rfl
  onto_onto c d p q := by simp only [onto, Json.cond_or]
  onto_congr c d p q h := by
    simp only [List.mem_cons, List.not_mem_nil, or_false, forall_eq_or_imp, forall_eq] at h
    simp only [onto, h]

/-- The members of a configuration make their changes; that of the context, whatever context it is
read as. -/
theorem suits_members {c : Config} {compiler linker : String} {outputDir : Option String}
    (hcompiler : c.compiler = Path.ofText compiler) (hlinker : c.linker = Path.ofText linker)
    (hdir : c.outputDir = outputDir.map Path.ofText) (fits : c.timeoutSecs < 2 ^ 64)
    {context : List (String × Json)}
    (hcontext : Json.Reads Context.shape.read (Json.tokens (.object context)) c.context) :
    ∀ m ∈ c.members compiler linker outputDir context, Json.Suits fields m fun d =>
      selection.onto c d (· == m.1) := by
  have hpath {p : Path} {s : String} (h : p = Path.ofText s) :
      Json.Reads Json.Shape.path.read (Json.tokens (.string s)) p :=
        h ▸ (Json.reads_string _ s).map Path.ofText
  have hoptional :
      Json.Reads (Json.Shape.optional .path).read (Json.tokens (outputDir.elim .null .string))
      c.outputDir := by
    rw [hdir]
    cases outputDir with
    | none => exact Json.reads_null _
    | some dir => exact (hpath rfl).optional
  intro m hm
  simp only [members, List.mem_cons, List.not_mem_nil, or_false] at hm
  rcases hm with rfl | rfl | rfl | rfl | rfl | rfl
  · exact Json.suits_field rfl (hpath hcompiler) rfl
  · exact Json.suits_field rfl (hpath hlinker) rfl
  · exact Json.suits_field rfl (Json.reads_string _ c.language) rfl
  · exact Json.suits_field rfl hoptional rfl
  · exact Json.suits_field rfl (Json.reads_natural fits) rfl
  · exact Json.suits_field rfl hcontext rfl

/-- The paths of a configuration are texts. -/
structure Textual (c : Config) : Prop where
  compiler : ∃ s, c.compiler = Path.ofText s
  linker : ∃ s, c.linker = Path.ofText s
  outputDir : ∀ dir, c.outputDir = some dir → ∃ s, dir = Path.ofText s
  includeDirs : ∀ dir ∈ c.context.includeDirs, ∃ s, dir = Path.ofText s
  libraryDirs : ∀ dir ∈ c.context.libraryDirs, ∃ s, dir = Path.ofText s

theorem texts_iff (ps : List Path) :
    (∃ ss : List String, ps = ss.map Path.ofText) ↔ ∀ p ∈ ps, ∃ s, p = Path.ofText s := by
  simpa [eq_comm] using Set.ext_iff.mp (Set.range_list_map Path.ofText) ps

theorem exists_toJson_iff {c : Config} : (∃ j, c.toJson = .ok j) ↔ c.Textual := by
  constructor
  · rintro ⟨j, h⟩
    obtain ⟨compiler, linker, dir, context, hcompiler, hlinker, hdir, hcontext, -⟩ := toJson_ok.mp h
    obtain ⟨is, ls, his, hls, -⟩ := Context.toJson_ok.mp hcontext
    refine ⟨⟨_, hcompiler⟩, ⟨_, hlinker⟩, fun p hp => ?_, (texts_iff _).mp ⟨is, his⟩,
      (texts_iff _).mp ⟨ls, hls⟩⟩
    rw [hdir, Option.map_eq_some_iff] at hp
    obtain ⟨s, -, rfl⟩ := hp
    exact ⟨s, rfl⟩
  · rintro ⟨⟨compiler, hcompiler⟩, ⟨linker, hlinker⟩, hdir, hinclude, hlibrary⟩
    obtain ⟨is, his⟩ := (texts_iff _).mpr hinclude
    obtain ⟨ls, hls⟩ := (texts_iff _).mpr hlibrary
    obtain ⟨dir, hdir⟩ : ∃ dir : Option String, c.outputDir = dir.map Path.ofText := by
      cases h : c.outputDir with
      | none => exact ⟨none, rfl⟩
      | some p =>
        obtain ⟨s, rfl⟩ := hdir p h
        exact ⟨some s, rfl⟩
    exact ⟨_, toJson_ok.mpr ⟨compiler, linker, dir, _, hcompiler, hlinker, hdir,
      Context.toJson_ok.mpr ⟨is, ls, his, hls, rfl⟩, rfl⟩⟩

/-! ## Loading -/

/-- What is logged when a configuration is read. -/
def loadedEvent (path : Path) : Event :=
  ⟨.debug, Part.config, "loaded toolchain config", [("path", path.display)]⟩

theorem load_exec [Files σ] [Logging σ] {path : Path} {s : σ} {text : String} {c : Config}
    (hread : Files.readText path s = .ok text) (hparse : ofText text = .ok c) :
    (load path : Action σ ConfigError Config).exec s
      = (.ok c, Logging.log (loadedEvent path) s) := by
  unfold load
  simp only [Action.exec_bind, Action.exec_reads, hread, mapError_ok, hparse, Action.exec_log]
  rfl

/-- An object with another context. -/
def withContext (context : List (String × Json)) (members : List (String × Json)) :
    List (String × Json) :=
  members.map fun m => if m.1 = "context" then ("context", .object context) else m

/-- Every edited form of a configuration is read as the configuration with defaults for what is left
out. -/
theorem ofText_edited {c : Config} (fits : c.timeoutSecs < 2 ^ 64) {compiler linker : String}
    {outputDir : Option String} (hcompiler : c.compiler = Path.ofText compiler)
    (hlinker : c.linker = Path.ofText linker) (hdir : c.outputDir = outputDir.map Path.ofText)
    {context inside after : List (String × Json)}
    (hcontext : c.context.toJson = .ok (.object context))
    {kept keptInside : String → Bool} (editedInside : Json.Edited keptInside context inside)
    (edited : Json.Edited kept
      (withContext inside (c.members compiler linker outputDir context)) after)
    {text : String} (laid : Json.Laid (Json.tokens (.object after)) (ByteString.ofText text)) :
    ofText text = .ok ({ c with context := c.context.onto {} keptInside }.onto {} kept) := by
  obtain ⟨includeDirs, libraryDirs, hinclude, hlibrary, hmembers⟩ := Context.toJson_ok.mp hcontext
  obtain rfl : context = c.context.members includeDirs libraryDirs := Json.object.inj hmembers
  let read : Config := { c with context := c.context.onto {} keptInside }
  have hinside : Json.Reads Context.shape.read (Json.tokens (.object inside)) read.context :=
    Context.reads_edited hinclude hlibrary editedInside
  have hedited : withContext inside
      (c.members compiler linker outputDir (c.context.members includeDirs libraryDirs))
      = read.members compiler linker outputDir inside := by
    simp [withContext, members, read]
  rw [hedited] at edited
  have suits := suits_members (c := read) hcompiler hlinker hdir fits hinside
  have hreads : Json.Reads shape.read (Json.tokens (.object after)) (read.onto {} kept) := by
    rw [shape_eq]
    exact selection.reads_edited rfl rfl suits edited _ _
  exact hreads.parse laid

/-- **Files give back what was written to them.** A configuration has a form as JSON exactly if its
paths are texts. A file that holds an edited form of it, with an edited form of its context, in
whatever layout, is read as the configuration with the default in place of each field that is left
out, in the context and outside. With nothing edited that is the configuration itself. -/
theorem load_edited [Files σ] [Logging σ] (c : Config) (fits : c.timeoutSecs < 2 ^ 64) :
    ((∃ j, c.toJson = .ok j) ↔ c.Textual) ∧
    ∀ j, c.toJson = .ok j → ∃ members context : List (String × Json),
      j = .object members ∧ c.context.toJson = .ok (.object context) ∧
      (∀ (kept keptInside : String → Bool) (inside after : List (String × Json)),
        Json.Edited keptInside context inside →
          Json.Edited kept (withContext inside members) after →
        ∀ (path : Path) (s : σ) (text : String), Files.readText path s = .ok text →
          Json.Laid (Json.tokens (.object after)) (ByteString.ofText text) →
          (load path : Action σ ConfigError Config).exec s
            = (.ok ({ c with context := c.context.onto {} keptInside }.onto {} kept),
              Logging.log (loadedEvent path) s)) ∧
      ∀ (path : Path) (s : σ), Files.readText path s = .ok j.write →
        (load path : Action σ ConfigError Config).exec s
          = (.ok c, Logging.log (loadedEvent path) s) := by
  refine ⟨exists_toJson_iff, fun j h => ?_⟩
  obtain ⟨compiler, linker, dir, context, hcompiler, hlinker, hdir, hcontext, rfl⟩ := toJson_ok.mp h
  refine ⟨_, context, rfl, hcontext, ?_, ?_⟩
  · intro kept keptInside inside after editedInside edited path s text hread laid
    exact load_exec hread
      (ofText_edited fits hcompiler hlinker hdir hcontext editedInside edited laid)
  · intro path s hread
    have hparse := ofText_edited fits hcompiler hlinker hdir hcontext (.refl context) (.refl _)
      (Json.laid_write _)
    exact load_exec hread hparse

/-! ## A shelf -/

/-- A machine whose files all hold one text. -/
structure Shelf where
  text : String

namespace Shelf

instance : Logging Shelf where
  log _ s := s

instance : Files Shelf where
  currentDir _ := .ok "/"
  createDirs _ := return
  canonical path _ := .ok path
  readText _ s := .ok s.text

end Shelf

/-- The longest time limit, and texts with quotes, backslashes, control characters and letters of
several bytes. -/
def odd : Config where
  compiler := "c\"c\\"
  language := "\t\x01\x1f\x7fµ語𝒞"
  outputDir := some ""
  timeoutSecs := 2 ^ 64 - 1
  context := { includeDirs := ["/\n"], flags := ["\"", "-Dé=\\u0041"] }

/-- The members of that configuration. -/
def oddMembers : List (String × Json) :=
  odd.members "c\"c\\" "c++" (some "") (odd.context.members ["/\n"] [])

/-- Some of these members, in the context too, in another order and with an unknown one. -/
def oddRest : List (String × Json) := [
  ("context", .object [("defines", .array []), ("include_dirs", .array [.string "/\n"])]),
  ("timeout_secs", .number (.whole odd.timeoutSecs)), ("note", .number (.whole (-1)))]

/-- The whole of this configuration is read back, and the rest of it with defaults. -/
theorem odd_kept : odd.timeoutSecs < 2 ^ 64 ∧ odd.toJson = .ok (.object oddMembers) ∧
    (load "forge.json" : Action Shelf _ _).exec ⟨(Json.object oddMembers).write⟩
      = (.ok odd, ⟨(Json.object oddMembers).write⟩) ∧
    (load "forge.json" : Action Shelf _ _).exec ⟨(Json.object oddRest).write⟩
      = (.ok { timeoutSecs := odd.timeoutSecs, context := { includeDirs := ["/\n"] } },
        ⟨(Json.object oddRest).write⟩) := by
  have fits : odd.timeoutSecs < 2 ^ 64 := by decide
  have hcontext : odd.context.toJson = .ok (.object (odd.context.members ["/\n"] [])) :=
    Context.toJson_ok.mpr ⟨["/\n"], [], rfl, rfl, rfl⟩
  have hjson : odd.toJson = .ok (.object oddMembers) :=
    toJson_ok.mpr ⟨_, _, some "", _, rfl, rfl, rfl, hcontext, rfl⟩
  obtain ⟨members, context, hmembers, hcontext', hedited, hwhole⟩ :=
    (load_edited (σ := Shelf) odd fits).2 _ hjson
  obtain rfl := Json.object.inj hmembers
  obtain rfl := Json.object.inj (Except.ok.inj (hcontext.symm.trans hcontext'))
  have inside : Json.Edited (fun key => key = "include_dirs" || key = "defines")
      (odd.context.members ["/\n"] [])
      [("defines", .array []), ("include_dirs", .array [.string "/\n"])] :=
    ⟨[], nofun, List.Perm.swap _ _ _⟩
  have outside : Json.Edited (fun key => key = "timeout_secs" || key = "context")
      (withContext [("defines", .array []), ("include_dirs", .array [.string "/\n"])] oddMembers)
        oddRest := by
    refine ⟨[("note", .number (.whole (-1)))], ?_, ?_⟩
    · simp [oddMembers, members, withContext, Json.Flat]
    · simpa [oddMembers, oddRest, members, withContext] using List.Perm.swap _ _ _
  exact ⟨fits, hjson, hwhole _ _ rfl, hedited _ _ _ _ inside outside _ _ _ rfl (Json.laid_write _)⟩

end Config
end ModuleForge
