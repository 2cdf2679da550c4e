import Mathlib.Data.List.Forall2
import ModuleForge.Compiler
import ModuleForge.Proofs.Text.Shown

/-!
# Contexts as arguments

A compiler is told of a context by its arguments, group by group, and then what to do with the
source. The name of the object and the language are given as they are. A directory is given by the
text that shows it, so it reaches the compiler byte for byte exactly if it is a text
(`Path.givenBehind_display`), and two contexts with lists of the same lengths become the same
arguments exactly if their directories are shown alike and all else in them is the same
(`Context.arguments_inj`).
-/
namespace ModuleForge

/-- How a directory is given behind an option, and when that is byte for byte. -/
def Path.GivenBehind (letter : String) (dir : Path) (argument : ByteString) : Prop :=
  argument = ByteString.ofText letter ++ Text.shown dir.bytes ∧
    (argument = ByteString.ofText letter ++ dir.bytes ↔ dir.bytes.IsText)

/-- Paths that one text shows. -/
def Path.ShownAlike (p q : Path) : Prop := p.display = q.display

theorem Path.ofText_display (letter : String) (dir : Path) :
    ByteString.ofText (letter ++ dir.display) = ByteString.ofText letter ++ Text.shown dir.bytes :=
  ByteString.ofText_append letter dir.display

theorem Path.givenBehind_display (letter : String) (dir : Path) :
    dir.GivenBehind letter (ByteString.ofText (letter ++ dir.display)) := by
  rw [ofText_display]
  exact ⟨rfl, by rw [List.append_cancel_left_eq, Text.shown_eq_iff]⟩

/-- Only texts can be told from one another by what shows them. -/
theorem Path.ShownAlike.eq {p q : Path} (h : p.ShownAlike q) (hp : p.bytes.IsText)
    (hq : q.bytes.IsText) :
    p = q := by
  have hshown : Text.shown p.bytes = Text.shown q.bytes := congrArg ByteString.ofText h
  rw [(Text.shown_eq_iff _).mpr hp, (Text.shown_eq_iff _).mpr hq] at hshown
  cases p
  cases q
  exact congrArg Path.mk hshown

namespace Context

/-- Contexts whose lists have the same lengths. -/
structure AsLong (c d : Context) : Prop where
  includeDirs : c.includeDirs.length = d.includeDirs.length
  libraryDirs : c.libraryDirs.length = d.libraryDirs.length
  libraries : c.libraries.length = d.libraries.length
  defines : c.defines.length = d.defines.length
  flags : c.flags.length = d.flags.length

/-- Contexts that are the same but for directories that are shown alike. -/
structure ShownAlike (c d : Context) : Prop where
  includeDirs : List.Forall₂ Path.ShownAlike c.includeDirs d.includeDirs
  libraryDirs : List.Forall₂ Path.ShownAlike c.libraryDirs d.libraryDirs
  libraries : c.libraries = d.libraries
  defines : c.defines = d.defines
  flags : c.flags = d.flags

/-- Contexts whose directories are texts. -/
def Textual (c : Context) : Prop := ∀ dir ∈ c.includeDirs ++ c.libraryDirs, dir.bytes.IsText

theorem map_display_inj {letter : String} {ps qs : List Path} :
    ps.map (fun d => letter ++ d.display) = qs.map (fun d => letter ++ d.display) ↔
      List.Forall₂ Path.ShownAlike ps qs := by
  rw [← List.forall₂_eq_eq_eq, List.forall₂_map_left_iff, List.forall₂_map_right_iff]
  simp only [String.append_right_inj]
  rfl

theorem map_letter_inj {letter : String} {ss ts : List String} :
    ss.map (letter ++ ·) = ts.map (letter ++ ·) ↔ ss = ts :=
  (List.map_injective_iff.mpr fun _ _ => (String.append_right_inj letter).mp).eq_iff

/-- The arguments of contexts as long as one another are the same group by group. -/
theorem arguments_inj {c d : Context} (h : c.AsLong d) :
    c.arguments = d.arguments ↔ c.ShownAlike d := by
  constructor
  · intro heq
    obtain ⟨heq, hflags⟩ := List.append_inj' heq h.flags
    obtain ⟨heq, hdefines⟩ := List.append_inj' heq (by simpa using h.defines)
    obtain ⟨heq, hlibraries⟩ := List.append_inj' heq (by simpa using h.libraries)
    obtain ⟨hincludeDirs, hlibraryDirs⟩ := List.append_inj' heq (by simpa using h.libraryDirs)
    exact ⟨map_display_inj.mp hincludeDirs, map_display_inj.mp hlibraryDirs,
      map_letter_inj.mp hlibraries, map_letter_inj.mp hdefines, hflags⟩
  · intro halike
    rw [arguments, arguments, map_display_inj.mpr halike.includeDirs,
      map_display_inj.mpr halike.libraryDirs, halike.libraries, halike.defines, halike.flags]

theorem eq_of_forall₂_shownAlike {ps qs : List Path} (h : List.Forall₂ Path.ShownAlike ps qs)
    (hps : ∀ p ∈ ps, p.bytes.IsText) (hqs : ∀ q ∈ qs, q.bytes.IsText) : ps = qs := by
  induction h with
  | nil => rfl
  | cons hpq _ ih =>
    obtain ⟨hp, hps⟩ := List.forall_mem_cons.mp hps
    obtain ⟨hq, hqs⟩ := List.forall_mem_cons.mp hqs
    rw [hpq.eq hp hq, ih hps hqs]

theorem ShownAlike.refl (c : Context) : c.ShownAlike c where
  includeDirs := List.forall₂_same.mpr fun _ _ => rfl
  libraryDirs := List.forall₂_same.mpr fun _ _ => rfl
  libraries := rfl
  defines := rfl
  flags := rfl

theorem ShownAlike.eq {c d : Context} (h : c.ShownAlike d) (hc : c.Textual) (hd : d.Textual) :
    c = d := by
  obtain ⟨hc, hc'⟩ := List.forall_mem_append.mp hc
  obtain ⟨hd, hd'⟩ := List.forall_mem_append.mp hd
  obtain ⟨hincludeDirs, hlibraryDirs, hlibraries, hdefines, hflags⟩ := h
  cases c
  cases d
  simp only [mk.injEq]
  exact ⟨eq_of_forall₂_shownAlike hincludeDirs hc hd, eq_of_forall₂_shownAlike hlibraryDirs hc' hd',
    hlibraries, hdefines, hflags⟩

end Context

namespace CompilerCommand

theorem map_ofText_inj {ss ts : List String} :
    ss.map ByteString.ofText = ts.map ByteString.ofText ↔ ss = ts :=
  (List.map_injective_iff.mpr fun _ _ => ByteString.ofText_inj.mp).eq_iff

theorem arguments_inj {k k' : CompilerCommand} {name name' : Path} {c d : Context}
    (h : c.AsLong d) :
    k.arguments name (some c) = k'.arguments name' (some d) ↔
      k.language = k'.language ∧ name = name' ∧ c.ShownAlike d := by
  constructor
  · intro heq
    obtain ⟨hcontext, htarget⟩ := List.append_inj' heq rfl
    simp only [List.cons.injEq, ByteString.ofText_inj, String.append_right_inj] at htarget
    obtain ⟨_, _, hname, _, hlanguage, _⟩ := htarget
    exact ⟨hlanguage, congrArg Path.mk hname,
      (Context.arguments_inj h).mp (map_ofText_inj.mp hcontext)⟩
  · rintro ⟨hlanguage, rfl, halike⟩
    simp only [arguments, Option.elim, (Context.arguments_inj h).mpr halike, hlanguage]

/-- What a compiler is told of a context, the name of the object and the language. Each directory is
given in its place, byte for byte exactly if it is a text; the name of the object always is. Two
lines of arguments for contexts with lists of the same lengths are the same exactly if the languages
and the names are, and the contexts are but for directories that are shown alike; where all
directories are texts the contexts are the same. -/
theorem arguments_carry_context (k : CompilerCommand) (name : Path) (c : Context) :
    (∃ includes libraries : List ByteString,
      k.arguments name (some c) = includes ++ libraries
        ++ (c.libraries.map ("-l" ++ ·) ++ c.defines.map ("-D" ++ ·) ++ c.flags).map
          ByteString.ofText
        ++ (["-fPIC", "-o", name.bytes, "-c", ("-x" ++ k.language : String), "-"] : List
          ByteString) ∧
      List.Forall₂ (Path.GivenBehind "-I") c.includeDirs includes ∧
      List.Forall₂ (Path.GivenBehind "-L") c.libraryDirs libraries) ∧
    ∀ (k' : CompilerCommand) (name' : Path) (d : Context), c.AsLong d →
      (k.arguments name (some c) = k'.arguments name' (some d) ↔
        k.language = k'.language ∧ name = name' ∧ c.ShownAlike d) ∧
      (c.Textual → d.Textual → (c.ShownAlike d ↔ c = d)) := by
  refine ⟨⟨c.includeDirs.map fun d => ByteString.ofText ("-I" ++ d.display),
    c.libraryDirs.map fun d => ByteString.ofText ("-L" ++ d.display), ?_, ?_, ?_⟩,
      fun k' name' d h => ⟨?_, ?_⟩⟩
  · simp [arguments, Context.arguments]
    rfl
  · exact List.forall₂_map_right_iff.mpr
      (List.forall₂_same.mpr fun d _ => d.givenBehind_display "-I")
  · exact List.forall₂_map_right_iff.mpr
      (List.forall₂_same.mpr fun d _ => d.givenBehind_display "-L")
  · exact arguments_inj h
  · exact fun hc hd => ⟨fun halike => halike.eq hc hd, fun heq => heq ▸ .refl c⟩

/-- Directories with texts for names make different arguments, whatever the object is called. -/
theorem textual_directories_told_apart :
    let k : CompilerCommand := { program := "c++" }
    let c : Context := { includeDirs := ["größe"], libraryDirs := ["lib"] }
    let d : Context := { includeDirs := ["lib"], libraryDirs := ["größe"] }
    c.AsLong d ∧ c.Textual ∧ d.Textual ∧
      k.arguments ⟨[0xFF]⟩ (some c) ≠ k.arguments ⟨[0xFF]⟩ (some d) := by
  intro k c d
  have hlong : c.AsLong d := ⟨rfl, rfl, rfl, rfl, rfl⟩
  have htext (s : String) : (Path.ofText s).bytes.IsText := ByteString.isText_ofText s
  have hc : c.Textual := by simp [Context.Textual, c, htext]
  have hd : d.Textual := by simp [Context.Textual, d, htext]
  obtain ⟨-, hlines⟩ := arguments_carry_context k ⟨[0xFF]⟩ c
  obtain ⟨hsame, halike⟩ := hlines k ⟨[0xFF]⟩ d hlong
  refine ⟨hlong, hc, hd, fun heq => ?_⟩
  have hcd : c = d := (halike hc hd).mp (hsame.mp heq).2.2
  exact absurd hcd (by decide)

/-- Directories that are no texts: they are not given byte for byte, and they make the same
arguments. -/
theorem broken_directories_confused :
    let k : CompilerCommand := { program := "c++" }
    let c : Context := { includeDirs := [⟨[0xFF]⟩] }
    let d : Context := { includeDirs := [⟨[0xFE]⟩] }
    c.AsLong d ∧ c.includeDirs ≠ d.includeDirs ∧ ByteString.ofText "-I" ++ [0xFF]
      ∉ k.arguments "a.o" (some c) ∧
      k.arguments "a.o" (some c) = k.arguments "a.o" (some d) := by
  intro k c d
  have hc : Text.lossy [0xFF] = "\ufffd" := Text.lossy_high (by decide)
  have hd : Text.lossy [0xFE] = "\ufffd" := Text.lossy_high (by decide)
  have hline : c.arguments = ["-I\ufffd"] := by simp [Context.arguments, Path.display, c, hc]
  have hline' : d.arguments = ["-I\ufffd"] := by simp [Context.arguments, Path.display, d, hd]
  refine ⟨⟨rfl, rfl, rfl, rfl, rfl⟩, by decide, ?_, ?_⟩
  · rw [arguments, Option.elim, hline]
    decide
  · rw [arguments, arguments, Option.elim, Option.elim, hline, hline']

end CompilerCommand
end ModuleForge
