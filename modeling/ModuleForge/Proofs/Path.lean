import ModuleForge.Path

/-!
# Joining paths

The pieces of a path are cut at separators (`pieces_append_separator`), so joining a relative path
to one that is not empty appends its components, less a leading `.` (`components_join`). Two
relative paths that are the same when joined to a directory are therefore the same, or differ in a
leading `.` (`same_or_respelled_of_join`).
-/
namespace ModuleForge.Path

theorem same_iff {p q : Path} : p.same q = true ↔ p.components = q.components := beq_iff_eq

/-! ## Pieces -/

theorem pieces_ne_nil (bs : ByteString) : pieces bs ≠ [] := by
  cases bs with
  | nil => simp [pieces]
  | cons b rest =>
    unfold pieces
    split
    · simp
    · split <;> simp

theorem pieces_append_separator (a b : ByteString) :
    pieces (a ++ separator :: b) = pieces a ++ pieces b := by
  induction a with
  | nil => simp [pieces]
  | cons c a ih =>
    by_cases hc : c = separator
    · simp [pieces, hc, ih]
    · cases hp : pieces a with
      | nil => exact absurd hp (pieces_ne_nil a)
      | cons piece more => simp [pieces, hc, ih, hp]

theorem pieces_of_not_mem {bs : ByteString} (h : separator ∉ bs) : pieces bs = [bs] := by
  induction bs with
  | nil => rfl
  | cons b rest ih =>
    simp only [List.mem_cons, not_or] at h
    simp [pieces, Ne.symm h.1, ih h.2]

/-- A first byte that is no separator stands in the first piece. -/
theorem pieces_of_relative {bs : ByteString} (hne : bs ≠ []) (h : bs.head? ≠ some separator) :
    ∃ b piece more, pieces bs = (b :: piece) :: more := by
  cases bs with
  | nil => exact absurd rfl hne
  | cons b rest =>
    have hb : b ≠ separator := fun hb => h (by simp [hb])
    cases hp : pieces rest with
    | nil => exact absurd hp (pieces_ne_nil rest)
    | cons piece more => exact ⟨b, piece, more, by simp [pieces, hb, hp]⟩

/-- The pieces that count. -/
def steps (p : Path) : List ByteString := (pieces p.bytes).filter (· ≠ [])

/-- The components of steps after the first. -/
def later (steps : List ByteString) : List Component := (steps.filter (· ≠ [dot])).map component

theorem later_append (ss ts : List ByteString) : later (ss ++ ts) = later ss ++ later ts := by
  simp [later]

theorem components_of_isAbsolute {p : Path} (h : p.isAbsolute = true) :
    p.components = .root :: later p.steps := by
  simp [components, h, later, steps]

theorem components_of_relative {p : Path} (h : p.isAbsolute = false) :
    p.components = match p.steps with
      | [] => []
      | first :: more => component first :: later more := by
  simp only [components, h, Bool.false_eq_true, if_false]
  rfl

theorem component_eq_here {piece : ByteString} : component piece = .here ↔ piece = [dot] := by
  unfold component
  split
  · simp [*]
  · split <;> simp [*]

/-- A path of one piece, which is neither `.` nor `..`, has that as its only component. -/
theorem components_of_plain {p : Path} (hsep : separator ∉ p.bytes) (hne : p.bytes ≠ [])
    (hhere : p.bytes ≠ [dot]) (hup : p.bytes ≠ [dot, dot]) : p.components = [.name p.bytes] := by
  have hrelative : p.isAbsolute = false := by
    rw [isAbsolute, beq_eq_false_iff_ne]
    exact fun h => hsep (List.mem_of_head? h)
  rw [components_of_relative hrelative, steps, pieces_of_not_mem hsep]
  simp [hne, component, hhere, hup, later]

/-! ## Joining -/

theorem join_of_isAbsolute {p q : Path} (h : q.isAbsolute = true) : p.join q = q := by
  simp [join, h]

theorem nil_join (q : Path) : (⟨[]⟩ : Path).join q = q := by
  unfold join
  split <;> rfl

theorem join_ends (p q : Path) : ∃ front, (p.join q).bytes = front ++ q.bytes := by
  unfold join
  split
  · exact ⟨[], rfl⟩
  · split
    · exact ⟨[], rfl⟩
    · split
      · exact ⟨p.bytes, rfl⟩
      · exact ⟨p.bytes ++ [separator], by simp⟩

/-- Joining puts a separator between the two paths, unless there is one. -/
theorem join_bytes {p q : Path} (hp : p.bytes ≠ []) (hq : q.isAbsolute = false) :
    (p.join q).bytes = p.bytes ++ separator :: q.bytes ∨
      ∃ front, p.bytes = front ++ [separator] ∧ (p.join q).bytes = front ++ separator
        :: q.bytes := by
  have hlast := List.dropLast_concat_getLast hp
  unfold join
  rw [if_neg (by simp [hq]), List.getLast?_eq_some_getLast hp]
  dsimp only
  split
  · rename_i hsep
    rw [hsep] at hlast
    exact .inr ⟨p.bytes.dropLast, hlast.symm, by rw [← hlast]; simp⟩
  · exact .inl rfl

theorem steps_join {p q : Path} (hp : p.bytes ≠ []) (hq : q.isAbsolute = false) :
    (p.join q).steps = p.steps ++ q.steps := by
  unfold steps
  rcases join_bytes hp hq with h | ⟨front, hfront, h⟩
  · rw [h, pieces_append_separator, List.filter_append]
  · rw [h, hfront, pieces_append_separator, pieces_append_separator]
    simp [pieces]

theorem isAbsolute_join {p q : Path} (hp : p.bytes ≠ []) (hq : q.isAbsolute = false) :
    (p.join q).isAbsolute = p.isAbsolute := by
  unfold isAbsolute
  rcases join_bytes hp hq with h | ⟨front, hfront, h⟩
  · obtain ⟨b, rest, hbytes⟩ := List.exists_cons_of_ne_nil hp
    rw [h, hbytes]
    rfl
  · rw [h, hfront]
    cases front <;> rfl

/-- What a relative path adds to the one that it is joined to. -/
def below (p : Path) : List Component :=
  match p.components with
  | .here :: rest => rest
  | cs => cs

theorem below_of_relative {p : Path} (h : p.isAbsolute = false) : p.below = later p.steps := by
  unfold below
  rw [components_of_relative h]
  cases p.steps with
  | nil => rfl
  | cons first more =>
    dsimp only
    split
    · rename_i rest heq
      obtain ⟨hfirst, rfl⟩ := List.cons.inj heq
      simp [later, component_eq_here.mp hfirst]
    · rename_i hnot
      have hfirst : first ≠ [dot] := fun hdot => hnot _ (by rw [component_eq_here.mpr hdot])
      simp [later, hfirst]

/-- Joining appends components. -/
theorem components_join {p q : Path} (hp : p.bytes ≠ []) (hq : q.isAbsolute = false) :
    (p.join q).components = p.components ++ q.below := by
  rw [below_of_relative hq]
  cases habs : p.isAbsolute with
  | true =>
    rw [components_of_isAbsolute habs,
      components_of_isAbsolute ((isAbsolute_join hp hq).trans habs), steps_join hp hq, later_append,
      List.cons_append]
  | false =>
    have hhead : p.bytes.head? ≠ some separator := by simpa [isAbsolute] using habs
    obtain ⟨b, piece, more, hpieces⟩ := pieces_of_relative hp hhead
    have hsteps : p.steps = (b :: piece) :: more.filter (· ≠ []) := by simp [steps, hpieces]
    rw [components_of_relative habs, components_of_relative ((isAbsolute_join hp hq).trans habs),
      steps_join hp hq, hsteps]
    simp only [List.cons_append, later_append]

/-- A name lies directly in the directory that it is joined to. -/
theorem components_join_name {dir name : Path} {bytes : ByteString}
    (h : name.components = [.name bytes]) :
    (dir.join name).components = dir.components ++ [.name bytes] := by
  have hrelative : name.isAbsolute = false := by
    refine Bool.eq_false_iff.mpr fun habs => ?_
    rw [components_of_isAbsolute habs] at h
    cases h
  by_cases hnil : dir.bytes = []
  · obtain rfl : dir = ⟨[]⟩ := by cases dir; exact congrArg Path.mk hnil
    rw [nil_join, h]
    rfl
  · rw [components_join hnil hrelative, below, h]

theorem bytes_ne_nil {p : Path} (h : p.isAbsolute = true) : p.bytes ≠ [] := by
  rintro heq
  rw [isAbsolute, heq] at h
  cases h

/-- What joined relative paths add is what the first adds and then what the second does. -/
theorem below_join {p q : Path} (hp : p.isAbsolute = false) (hq : q.isAbsolute = false) :
    (p.join q).below = p.below ++ q.below := by
  by_cases hnil : p.bytes = []
  · obtain rfl : p = ⟨[]⟩ := by cases p; exact congrArg Path.mk hnil
    rw [nil_join]
    rfl
  · rw [below_of_relative ((isAbsolute_join hnil hq).trans hp), below_of_relative hp,
      below_of_relative hq, steps_join hnil hq, later_append]

/-- The same relative way leads to the same place only from the same directory. -/
theorem same_join_join {p q r s : Path} (hp : p.isAbsolute = true) (hq : q.isAbsolute = true)
    (hr : r.isAbsolute = false) (hs : s.isAbsolute = false) :
    (p.join (r.join s)).same ((q.join r).join s) = true ↔ p.same q = true := by
  have hbelow : (r.join s).isAbsolute = false := by
    by_cases hnil : r.bytes = []
    · obtain rfl : r = ⟨[]⟩ := by cases r; exact congrArg Path.mk hnil
      rwa [nil_join]
    · exact (isAbsolute_join hnil hs).trans hr
  have hmiddle : (q.join r).isAbsolute = true := (isAbsolute_join (bytes_ne_nil hq) hr).trans hq
  have hleft : (p.join (r.join s)).components = p.components ++ (r.below ++ s.below) := by
    rw [components_join (bytes_ne_nil hp) hbelow, below_join hr hs]
  have hright : ((q.join r).join s).components = q.components ++ (r.below ++ s.below) := by
    rw [components_join (bytes_ne_nil hmiddle) hs, components_join (bytes_ne_nil hq) hr,
      List.append_assoc]
  rw [same_iff, hleft, hright, List.append_left_inj, ← same_iff]

/-- Two spellings of what may be one file: one path is absolute and the other is not, or one has a
leading `.` more. -/
def Respelled (p q : Path) : Prop :=
  p.isAbsolute ≠ q.isAbsolute ∨ p.components = .here :: q.components ∨
    q.components = .here :: p.components

theorem components_eq_below (p : Path) : p.components = p.below ∨
    p.components = .here :: p.below := by
  unfold below
  split
  · exact .inr ‹_›
  · exact .inl rfl

/-- Paths that are the same when joined to one directory are the same or differ in their
spelling. -/
theorem same_or_respelled_of_join {dir p q : Path} (h : (dir.join p).same (dir.join q) = true) :
    p.same q = true ∨ Respelled p q := by
  rw [same_iff] at h ⊢
  by_cases hrooted : p.isAbsolute = q.isAbsolute
  · by_cases habs : p.isAbsolute = true
    · rw [join_of_isAbsolute habs, join_of_isAbsolute (hrooted ▸ habs)] at h
      exact .inl h
    · rw [Bool.not_eq_true] at habs
      by_cases hdir : dir.bytes = []
      · obtain rfl : dir = ⟨[]⟩ := by cases dir; exact congrArg Path.mk hdir
        rw [nil_join, nil_join] at h
        exact .inl h
      · rw [components_join hdir habs, components_join hdir (hrooted ▸ habs)] at h
        have hbelow : p.below = q.below := List.append_cancel_left h
        rcases p.components_eq_below with hp | hp <;> rcases q.components_eq_below with hq | hq
        · exact .inl (by rw [hp, hq, hbelow])
        · exact .inr (.inr (.inr (by rw [hq, hp, hbelow])))
        · exact .inr (.inr (.inl (by rw [hp, hq, hbelow])))
        · exact .inl (by rw [hp, hq, hbelow])
  · exact .inr (.inl hrooted)

end ModuleForge.Path
