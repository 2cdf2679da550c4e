import ModuleForge.Proofs.Arguments
import ModuleForge.Proofs.Cli.Precedence
import ModuleForge.Proofs.Config.Variables

/-!
# The order of arguments

Entries are added to a context in any order, and its arguments come group by group. A context is its
entries by group (`Context.inGroup`): adding an entry puts it at the end of its group, and appending
a context puts each of its groups behind the same group. So the arguments are those of the entries
in the order of a stable sort (`Context.entries_ofEntries`). `arguments_stably_sorted` says so for
any sequence of entries, together with what it means for two sequences and for a configuration under
options.
-/
namespace ModuleForge
namespace Context

/-! ## Groups -/

inductive Group where
  | includeDir
  | libraryDir
  | library
  | define
  | flag
  deriving DecidableEq, Repr

namespace Group

/-- The groups in the order of their arguments. -/
def all : List Group := [includeDir, libraryDir, library, define, flag]

/-- The place of a group in that order. -/
def place : Group → Nat
  | includeDir => 0
  | libraryDir => 1
  | library => 2
  | define => 3
  | flag => 4

/-- A group parts the others into earlier ones and the rest. -/
theorem all_eq_append (g : Group) :
    ∃ before after, all = before ++ g :: after ∧ (∀ b ∈ before, b.place < g.place) ∧ g ∉ after := by
  cases g with
  | includeDir => exact ⟨[], [libraryDir, library, define, flag], rfl, by decide, by decide⟩
  | libraryDir => exact ⟨[includeDir], [library, define, flag], rfl, by decide, by decide⟩
  | library => exact ⟨[includeDir, libraryDir], [define, flag], rfl, by decide, by decide⟩
  | define => exact ⟨[includeDir, libraryDir, library], [flag], rfl, by decide, by decide⟩
  | flag => exact ⟨[includeDir, libraryDir, library, define], [], rfl, by decide, by decide⟩

end Group

namespace Entry

def group : Entry → Group
  | includeDir _ => .includeDir
  | libraryDir _ => .libraryDir
  | library _ => .library
  | define _ => .define
  | flag _ => .flag

/-- Whether the group of an entry comes no later than that of another. -/
def le (e f : Entry) : Bool := e.group.place ≤ f.group.place

/-- An entry whose directory, if it is one, is a text. -/
def Textual : Entry → Prop
  | includeDir dir | libraryDir dir => dir.bytes.IsText
  | _ => True

/-- An entry behind its option, byte for byte. -/
def given : Entry → ByteString
  | includeDir dir => "-I" ++ dir.bytes
  | libraryDir dir => "-L" ++ dir.bytes
  | library name => "-l" ++ ByteString.ofText name
  | define text => "-D" ++ ByteString.ofText text
  | flag text => ByteString.ofText text

theorem le_trans (e f g : Entry) (hef : e.le f = true) (hfg : f.le g = true) : e.le g = true := by
  simp only [le, decide_eq_true_eq] at *
  omega

theorem le_total (e f : Entry) : (e.le f || f.le e) = true := by
  simp only [le, Bool.or_eq_true, decide_eq_true_eq]
  omega

/-- Textual entries are given byte for byte. -/
theorem ofText_argument {e : Entry} (h : e.Textual) : ByteString.ofText e.argument = e.given := by
  have hdir (letter : String) {dir : Path} (htext : dir.bytes.IsText) :
      ByteString.ofText (letter ++ dir.display) = ByteString.ofText letter ++ dir.bytes :=
    (dir.givenBehind_display letter).2.mpr htext
  cases e with
  | includeDir dir => exact hdir "-I" h
  | libraryDir dir => exact hdir "-L" h
  | library name => exact ByteString.ofText_append "-l" name
  | define text => exact ByteString.ofText_append "-D" text
  | flag text => rfl

end Entry

/-- The entries of a group, in the order in which they were added. -/
def inGroup (c : Context) : Group → List Entry
  | .includeDir => c.includeDirs.map .includeDir
  | .libraryDir => c.libraryDirs.map .libraryDir
  | .library => c.libraries.map .library
  | .define => c.defines.map .define
  | .flag => c.flags.map .flag

/-- All entries, group by group. -/
def entries (c : Context) : List Entry := Group.all.flatMap c.inGroup

/-- The context that comes of adding entries one after the other. -/
def ofEntries (es : List Entry) : Context := es.foldl add {}

/-- Entries sorted by group, where those of one group stay in their order. -/
def sorted (es : List Entry) : List Entry := es.mergeSort Entry.le

theorem arguments_eq (c : Context) : c.arguments = c.entries.map Entry.argument := by
  simp [arguments, entries, Group.all, inGroup, Function.comp_def, Entry.argument]

theorem entries_eq_nil_iff {c : Context} : c.entries = [] ↔ c.isEmpty = true := by
  simp [entries, Group.all, inGroup, isEmpty, and_assoc]

theorem inGroup_add (c : Context) (e : Entry) (g : Group) :
    (c.add e).inGroup g = c.inGroup g ++ [e].filter (·.group = g) := by
  cases e <;> cases g <;> simp [add, inGroup, Entry.group]

theorem inGroup_append (c d : Context) (g : Group) :
    (c.append d).inGroup g = c.inGroup g ++ d.inGroup g := by
  cases g <;> simp [append, inGroup]

theorem inGroup_foldl_add (es : List Entry) (c : Context) (g : Group) :
    (es.foldl add c).inGroup g = c.inGroup g ++ es.filter (·.group = g) := by
  induction es generalizing c with
  | nil => simp
  | cons e es ih => rw [List.foldl_cons, ih, inGroup_add, List.append_assoc, ← List.filter_append,
      List.singleton_append]

theorem inGroup_ofEntries (es : List Entry) (g : Group) :
    (ofEntries es).inGroup g = es.filter (·.group = g) := by
  rw [ofEntries, inGroup_foldl_add]
  cases g <;> rfl

/-! ## Sorting -/

/-- Entries that are sorted by group are those of each group, one group after the other. -/
theorem flatMap_filter_of_pairwise {es : List Entry} (h : es.Pairwise fun e f => e.le f = true) :
    Group.all.flatMap (fun g => es.filter (·.group = g)) = es := by
  induction es with
  | nil => rfl
  | cons e es ih =>
    obtain ⟨hfirst, hrest⟩ := List.pairwise_cons.mp h
    obtain ⟨before, after, hall, hbefore, hafter⟩ := e.group.all_eq_append
    -- the groups before that of the first entry are empty, and those behind it do not have the
    -- entry
    have hnone (fs : List Entry) (hfs : ∀ f ∈ fs, e.le f = true) :
        before.flatMap (fun g => fs.filter (·.group = g)) = [] := by
      refine List.flatMap_eq_nil_iff.mpr fun g hg => List.filter_eq_nil_iff.mpr fun f hf heq => ?_
      have hle := hfs f hf
      have hlt := hbefore g hg
      simp only [Entry.le, decide_eq_true_eq] at hle heq
      rw [heq] at hle
      omega
    have hsame : after.flatMap (fun g => (e :: es).filter (·.group = g))
        = after.flatMap (fun g => es.filter (·.group = g)) := by
      refine List.flatMap_congr fun g hg => List.filter_cons_of_neg ?_
      rintro heq
      rw [decide_eq_true_eq] at heq
      exact hafter (heq ▸ hg)
    have htail := ih hrest
    have hself : e.le e = true := by simp [Entry.le]
    rw [hall, List.flatMap_append, List.flatMap_cons] at htail ⊢
    rw [hnone es hfirst, List.nil_append] at htail
    rw [hnone (e :: es) (List.forall_mem_cons.mpr ⟨hself, hfirst⟩), hsame, List.nil_append,
      List.filter_cons_of_pos (by simp), List.cons_append, htail]

theorem sorted_pairwise (es : List Entry) : (sorted es).Pairwise fun e f => e.le f = true :=
  List.pairwise_mergeSort Entry.le_trans Entry.le_total es

theorem sorted_perm (es : List Entry) : (sorted es).Perm es := List.mergeSort_perm es Entry.le

/-- Sorting keeps the order within a group. -/
theorem filter_sorted (es : List Entry) (g : Group) :
    (sorted es).filter (·.group = g) = es.filter (·.group = g) := by
  have halike : (es.filter (·.group = g)).Pairwise fun e f => e.le f = true := by
    refine List.pairwise_of_forall_mem_list fun e he f hf => ?_
    simp only [List.mem_filter, decide_eq_true_eq] at he hf
    simp [Entry.le, he.2, hf.2]
  have hsublist : (es.filter (·.group = g)).Sublist (sorted es) :=
    List.sublist_mergeSort Entry.le_trans Entry.le_total halike List.filter_sublist
  have hfiltered := hsublist.filter (·.group = g)
  rw [List.filter_filter] at hfiltered
  simp only [Bool.and_self] at hfiltered
  exact (hfiltered.eq_of_length ((sorted_perm es).filter _).length_eq.symm).symm

/-- `fs` are the entries `es`, sorted by group and in their own order within each group. -/
structure IsStableSort (es fs : List Entry) : Prop where
  perm : fs.Perm es
  ordered : fs.Pairwise fun e f => e.le f = true
  stable (g : Group) : fs.filter (·.group = g) = es.filter (·.group = g)

theorem isStableSort_iff {es fs : List Entry} : IsStableSort es fs ↔ fs = sorted es := by
  constructor
  · intro h
    rw [← flatMap_filter_of_pairwise h.ordered, ← flatMap_filter_of_pairwise (sorted_pairwise es)]
    simp only [h.stable, filter_sorted]
  · rintro rfl
    exact ⟨sorted_perm es, sorted_pairwise es, filter_sorted es⟩

/-- The entries of a context are those that were added, sorted. -/
theorem entries_ofEntries (es : List Entry) : (ofEntries es).entries = sorted es := by
  rw [entries, ← flatMap_filter_of_pairwise (sorted_pairwise es)]
  simp only [filter_sorted, funext (inGroup_ofEntries es)]

/-- Contexts with the same entries in each group have the same arguments. -/
theorem arguments_congr {c d : Context} (h : ∀ g, c.inGroup g = d.inGroup g) :
    c.arguments = d.arguments := by
  rw [arguments_eq, arguments_eq, entries, entries, funext h]

theorem arguments_append (c d : Context) :
    (c.append d).arguments = (Group.all.flatMap fun g => c.inGroup g ++ d.inGroup g).map
      Entry.argument := by
  rw [arguments_eq, entries, funext (inGroup_append c d)]

end Context

namespace Cli.Toolchain

theorem overlay_context {t : Toolchain} {c c' : Config} (h : t.overlay c = .ok c') :
    c'.context = c.context.append t.context := by
  unfold overlay at h
  split at h
  · obtain ⟨_, -, h⟩ := ok_bind_iff.mp h
    cases h
    rfl
  · cases h
    rfl

/-- Options add their context to that of the file, which the environment leaves as it is. -/
theorem resolve_context [Logging σ] [Files σ] [Environment σ] {t : Toolchain} {s after : σ}
    {c : Config}
    (h : (t.resolve : Action σ _ _).exec s = (.ok c, after)) :
    ∃ base, (t.loaded s).1 = .ok base ∧ c.context = base.context.append t.context := by
  rw [resolve_exec] at h
  obtain ⟨base, hbase, hrest⟩ := ok_bind_iff.mp (Prod.mk.inj h).1
  obtain ⟨covered, hcovered, hoptions⟩ := ok_bind_iff.mp hrest
  exact ⟨base, mapError_eq_ok.mp hbase,
    (Config.overlay_ok (mapError_eq_ok.mp hcovered)).1 ▸ overlay_context hoptions⟩

end Cli.Toolchain

namespace Context

/-- Entries that are added one after the other give the arguments of the stable sort by group, byte
for byte where directories are texts, and there are none exactly if nothing was added. Entries that
are the same group by group give the same arguments, however the groups are interleaved. A context
that another one is appended to has the groups of both, one behind the other, and so has the context
of a file under that of options. -/
theorem arguments_stably_sorted {σ : Type} [Logging σ] [Files σ] [Environment σ] (es : List Entry) :
    (∀ fs, IsStableSort es fs ↔ fs = sorted es) ∧
    (ofEntries es).arguments = (sorted es).map Entry.argument ∧
    ((∀ e ∈ es, e.Textual) → (ofEntries es).arguments.map ByteString.ofText
      = (sorted es).map Entry.given) ∧
    ((ofEntries es).isEmpty = true ↔ es = []) ∧
    (∀ fs : List Entry, (∀ g, fs.filter (·.group = g) = es.filter (·.group = g)) →
      (ofEntries fs).arguments = (ofEntries es).arguments) ∧
    (∀ (c d : Context) (g : Group), (c.append d).inGroup g = c.inGroup g ++ d.inGroup g) ∧
    ∀ (t : Cli.Toolchain) (c : Config) (s after : σ), t.context = ofEntries es →
      (t.resolve : Action σ _ _).exec s = (.ok c, after) →
      ∃ base, (t.loaded s).1 = .ok base ∧ c.context.arguments =
        (Group.all.flatMap fun g => base.context.inGroup g ++ es.filter (·.group = g)).map
          Entry.argument := by
  refine ⟨fun fs => isStableSort_iff, ?_, fun htextual => ?_, ?_, fun fs hfs => ?_, inGroup_append,
    fun t c s after ht hresolve => ?_⟩
  · rw [arguments_eq, entries_ofEntries]
  · rw [arguments_eq, entries_ofEntries, List.map_map]
    exact List.map_congr_left fun e he =>
      e.ofText_argument (htextual e ((sorted_perm es).mem_iff.mp he))
  · rw [← entries_eq_nil_iff, entries_ofEntries, ← List.length_eq_zero_iff,
      (sorted_perm es).length_eq, List.length_eq_zero_iff]
  · exact arguments_congr fun g => by rw [inGroup_ofEntries, inGroup_ofEntries, hfs]
  · obtain ⟨base, hbase, hcontext⟩ := t.resolve_context hresolve
    refine ⟨base, hbase, ?_⟩
    simp only [hcontext, ht, arguments_append, inGroup_ofEntries]

/-- Entries of all groups, as they might be given on one line. -/
def jumbled : List Entry :=
  [.flag "-O2", .includeDir "größe", .define "A=1", .library "m", .includeDir "b c", .flag "",
    .libraryDir "lib"]

/-- The same entries group by group, but with the groups interleaved the other way. -/
def rejumbled : List Entry :=
  [.libraryDir "lib", .library "m", .define "A=1", .flag "-O2", .flag "", .includeDir "größe",
    .includeDir "b c"]

/-- Options that add these entries to the context of a file with a flag of its own. -/
def jumbledOptions : Cli.Toolchain := { Cli.Toolchain.hasty with context := ofEntries jumbled }

theorem jumbled_sorted :
    (ofEntries jumbled).arguments.map ByteString.ofText = (sorted jumbled).map Entry.given ∧
    (ofEntries rejumbled).arguments = (ofEntries jumbled).arguments ∧
    ∃ c after, (jumbledOptions.resolve : Action Cli.Desk _ _).exec Cli.Desk.crowded
      = (.ok c, after) ∧
      c.context.arguments
        = ["-Igröße", "-Ib c", "-Llib", "-lm", "-DA=1", "-a", "-O2", ""] := by
  have htextual : ∀ e ∈ jumbled, e.Textual := by
    simp [jumbled, Entry.Textual, Path.ofText, ByteString.isText_ofText]
  have hgroups (g : Group) : rejumbled.filter (·.group = g) = jumbled.filter (·.group = g) := by
    cases g <;> rfl
  obtain ⟨-, -, hgiven, -, hsame, -, hresolve⟩ := arguments_stably_sorted (σ := Cli.Desk) jumbled
  refine ⟨hgiven htextual, hsame rejumbled hgroups, ?_⟩
  obtain ⟨c, after, hexec⟩ : ∃ c after,
      (jumbledOptions.resolve : Action Cli.Desk _ _).exec Cli.Desk.crowded = (.ok c, after) :=
    ⟨_, _, by with_unfolding_all rfl⟩
  obtain ⟨base, hbase, harguments⟩ := hresolve jumbledOptions c _ _ rfl hexec
  have hloaded : jumbledOptions.loaded Cli.Desk.crowded
      = (.ok Cli.Desk.crowdedBase, Cli.Desk.crowded) :=
    Cli.crowded_loaded
  rw [hloaded] at hbase
  cases hbase
  have htext (s : String) : (Path.ofText s).display = s := Text.lossy_ofText s
  refine ⟨c, after, hexec, harguments.trans ?_⟩
  simp [Group.all, inGroup, jumbled, Entry.group, Entry.argument, Cli.Desk.crowdedBase, htext]

end Context
end ModuleForge
