import ModuleForge.Builder
import ModuleForge.Proofs.ObjectName

/-!
# The registry of targets

Targets are registered and taken out in any order (`Targets.registered`). A name that is given is
refused if a target has it; a name that a text yields is not. So of two targets with the same name
the later goes by the name that its text yields (`Change.apply_namesApart`), and two targets whose
texts yield different names share an object in two cases only (`shared_object_cases`): the earlier
was given the name that the later yields, or their names are two spellings of one path.
-/
namespace ModuleForge

/-- What can be done to a registry. -/
inductive Change where
  | add (source : Source)
  | addNamed (source : Source) (name : Path)
  | remove (source : Source)
  | removeNamed (name : Path)
  | clear
  deriving DecidableEq, Repr

/-- A source under the name that its text yields. -/
def Source.target (s : Source) : Target := ⟨s, s.objectName⟩

namespace Targets

/-- The registry after a change; one that is refused changes nothing. -/
def apply (ts : Targets) : Change → Targets
  | .add source => ts.add source
  | .addNamed source name =>
    match ts.addNamed source name with
    | .ok more => more
    | .error _ => ts
  | .remove source => (ts.remove source).2
  | .removeNamed name => (ts.removeNamed name).2
  | .clear => []

/-- What is registered after some changes. -/
def registered (changes : List Change) : Targets := changes.foldl apply []

/-- Taking out a target leaves the others in their order. -/
theorem takeFirst_sublist (p : Target → Bool) (ts : Targets) :
    List.Sublist (takeFirst p ts).2 ts := by
  induction ts with
  | nil => exact List.Sublist.slnil
  | cons t ts ih =>
    unfold takeFirst
    split
    · exact List.sublist_cons_self t ts
    · exact ih.cons_cons t

theorem addNamed_eq_ok {ts more : Targets} {source : Source} {name : Path}
    (h : ts.addNamed source name = .ok more) :
    ts.hasName name = false ∧ more = ts ++ [⟨source, name⟩] := by
  unfold addNamed at h
  split at h
  · cases h
  · rename_i hname
    cases h
    exact ⟨by simpa using hname, rfl⟩

/-- Of two targets with the same name the later goes by the name that its text yields. -/
def NamesApart (ts : Targets) : Prop :=
  List.Pairwise (fun t u : Target => t.objectName.same u.objectName = true →
    u.objectName = u.source.objectName) ts

theorem NamesApart.append {ts : Targets} {t : Target} (h : ts.NamesApart)
    (hnew : ∀ earlier ∈ ts, earlier.objectName.same t.objectName = true →
      t.objectName = t.source.objectName) : NamesApart (ts ++ [t]) := by
  refine List.pairwise_append.mpr ⟨h, List.pairwise_singleton _ _, fun earlier hmem u hu => ?_⟩
  rw [List.mem_singleton.mp hu]
  exact hnew earlier hmem

theorem apply_namesApart {ts : Targets} (h : ts.NamesApart) (change : Change) :
    (ts.apply change).NamesApart := by
  cases change with
  | add source => exact h.append fun _ _ _ => rfl
  | addNamed source name =>
    simp only [apply]
    split
    · rename_i more hadded
      obtain ⟨hfree, rfl⟩ := addNamed_eq_ok hadded
      refine h.append fun earlier hmem hsame => ?_
      have htaken : ts.hasName name = true := List.any_eq_true.mpr ⟨earlier, hmem, hsame⟩
      rw [hfree] at htaken
      cases htaken
    · exact h
  | remove source => exact List.Pairwise.sublist (takeFirst_sublist _ ts) h
  | removeNamed name => exact List.Pairwise.sublist (takeFirst_sublist _ ts) h
  | clear => exact List.Pairwise.nil

theorem registered_namesApart (changes : List Change) : (registered changes).NamesApart := by
  have hrun (ts : Targets) (h : ts.NamesApart) : NamesApart (changes.foldl apply ts) := by
    induction changes generalizing ts with
    | nil => exact h
    | cons change changes ih => exact ih _ (apply_namesApart h change)
  exact hrun [] List.Pairwise.nil

/-- **When two targets share an object.** Take two registered targets whose texts yield different
names, the earlier one first. If their objects come to lie at the same path, then the earlier was
given the name that the text of the later yields and by which that goes, or their names differ in
spelling. -/
theorem shared_object_cases (c : CompilerCommand) (here : Except IoError Path)
    (changes : List Change) :
    List.Pairwise (fun t u : Target => t.source.digest.short ≠ u.source.digest.short →
      (c.objectPath here t.objectName).same (c.objectPath here u.objectName) = true →
      (u.objectName = u.source.objectName ∧ t.objectName.same u.objectName = true ∧
        t.objectName ≠ t.source.objectName) ∨
      t.objectName.Respelled u.objectName) (registered changes) := by
  refine (registered_namesApart changes).imp fun {t u} hnames hdigest hpath => ?_
  rw [c.objectPath_eq_join, c.objectPath_eq_join] at hpath
  rcases Path.same_or_respelled_of_join hpath with hsame | hrespelled
  · have hlater : u.objectName = u.source.objectName := hnames hsame
    refine .inl ⟨hlater, hsame, fun hearlier => hdigest ?_⟩
    rw [hlater, hearlier] at hsame
    exact Source.same_objectName_iff.mp hsame
  · exact .inr hrespelled

theorem short_int_ne :
    (⟨0, "int a;"⟩ : Source).digest.short ≠ (⟨1, "int b;"⟩ : Source).digest.short := by
  decide +kernel

/-- Two names that are free beside each other, and one object. -/
theorem leading_dot_shares_object :
    ∃ (c : CompilerCommand) (here : Except IoError Path) (t u : Target),
    registered [.addNamed t.source t.objectName, .addNamed u.source u.objectName] = [t, u] ∧
      t.source.digest.short ≠ u.source.digest.short ∧
      (c.objectPath here t.objectName).same (c.objectPath here u.objectName) = true ∧
      t.objectName.Respelled u.objectName := by
  let c : CompilerCommand := { program := "cc", workingDir := some "/work" }
  let t : Target := ⟨⟨0, "int a;"⟩, "x.o"⟩
  let u : Target := ⟨⟨1, "int b;"⟩, "./x.o"⟩
  have hregistered :
      registered [.addNamed t.source t.objectName, .addNamed u.source u.objectName] = [t, u] := by
    decide +kernel
  have hdigest : t.source.digest.short ≠ u.source.digest.short := short_int_ne
  have hsame : (c.objectPath (.ok "/") t.objectName).same (c.objectPath (.ok "/") u.objectName)
      = true := by
    decide +kernel
  have hcases := shared_object_cases c (.ok "/")
    [.addNamed t.source t.objectName, .addNamed u.source u.objectName]
  rw [hregistered] at hcases
  refine ⟨c, .ok "/", t, u, hregistered, hdigest, hsame, ?_⟩
  rcases List.rel_of_pairwise_cons hcases (List.mem_singleton.mpr rfl) hdigest hsame with
    ⟨-, hname, -⟩ | h
  · exact absurd hname (by decide +kernel)
  · exact h

/-- A name that was given does not keep a text that yields it from going by it as well: the objects
of two different texts come to lie at one path. -/
theorem given_name_shares_object : ∃ t u : Target,
    registered [.addNamed t.source u.source.objectName, .add u.source] = [t, u] ∧
      t.source.content ≠ u.source.content ∧ t.source.digest.short ≠ u.source.digest.short ∧
      ∀ (c : CompilerCommand) (here : Except IoError Path),
        c.objectPath here t.objectName = c.objectPath here u.objectName :=
  let b : Source := ⟨1, "int b;"⟩
  ⟨⟨⟨0, "int a;"⟩, b.objectName⟩, ⟨b, b.objectName⟩, rfl, by decide, short_int_ne, fun _ _ => rfl⟩

end Targets
end ModuleForge
