import ModuleForge.Proofs.Library.Lifetime
import ModuleForge.Proofs.Text.Bytes

/-!
# Looking up symbols

A library looks a name up in two ways, and both are what the loader answers
(`Library.resolveFunction_answer`, `Library.resolve_answer`).

The loader is given a name as a text that ends at a NUL (`terminated`). No symbol has a NUL in its
name, so a name with a NUL inside finds nothing and is not even put to the loader. But a NUL at the
end of a name is taken for the end of the text: the name spells the symbol without it (`Spells`),
and the loader cannot tell the two apart (`spell_alike_iff`). `Library.symbols_found_iff` tells from
the symbols that the loader has which names are found.
-/
namespace ModuleForge

/-! ## Spelling -/

/-- A name spells a symbol: it is the symbol's own, or that with a NUL behind it. -/
def Spells (name symbol : ByteString) : Prop := 0 ∉ symbol ∧ (name = symbol ∨ name = symbol ++ [0])

theorem spells_concat {front symbol : ByteString} :
    Spells (front ++ [0]) symbol ↔ 0 ∉ front ∧ front = symbol := by
  rw [Spells, List.append_left_inj]
  constructor
  · rintro ⟨hplain, rfl | rfl⟩
    · exact absurd (List.mem_append_right _ (List.mem_singleton_self 0)) hplain
    · exact ⟨hplain, rfl⟩
  · rintro ⟨hplain, rfl⟩
    exact ⟨hplain, .inr rfl⟩

theorem spells_of_getLast? {name symbol : ByteString} (h : name.getLast? ≠ some 0) :
    Spells name symbol ↔ 0 ∉ name ∧ name = symbol := by
  rw [Spells]
  constructor
  · rintro ⟨hplain, rfl | rfl⟩
    · exact ⟨hplain, rfl⟩
    · exact absurd List.getLast?_concat h
  · rintro ⟨hplain, rfl⟩
    exact ⟨hplain, .inl rfl⟩

/-- The loader is given the symbol that a name spells. -/
theorem terminated_eq_ok {name symbol : ByteString} : terminated name = .ok symbol ↔
    Spells name symbol := by
  have hchecked {name symbol : ByteString} {reason : String} :
      (if name.contains 0 then Except.error reason else .ok name) = .ok symbol ↔ 0 ∉ name ∧
        name = symbol := by
    by_cases h : 0 ∈ name <;> simp [h]
  by_cases hlast : name.getLast? = some 0
  · obtain ⟨front, rfl⟩ := List.getLast?_eq_some_iff.mp hlast
    have hended : terminated (front ++ [0]) = if front.contains 0 then
        .error "could not create a C string from bytes with trailing null" else .ok front := by
      simp [terminated]
    rw [spells_concat, hended]
    exact hchecked
  · rw [spells_of_getLast? hlast]
    unfold terminated
    split
    · exact absurd ‹_› hlast
    · exact hchecked

theorem Spells.unique {name symbol symbol' : ByteString} (h : Spells name symbol)
    (h' : Spells name symbol') :
    symbol = symbol' :=
  Except.ok.inj ((terminated_eq_ok.mpr h).symm.trans (terminated_eq_ok.mpr h'))

/-- A name spells a symbol unless there is a NUL before its end. -/
theorem exists_spells_iff {name : ByteString} : (∃ symbol, Spells name symbol) ↔
    0 ∉ name.dropLast := by
  by_cases hlast : name.getLast? = some 0
  · obtain ⟨front, rfl⟩ := List.getLast?_eq_some_iff.mp hlast
    simp [spells_concat]
  · simp only [spells_of_getLast? hlast, exists_and_left, exists_eq', and_true]
    rcases List.eq_nil_or_concat name with rfl | ⟨front, last, rfl⟩
    · simp
    · have hlast' : last ≠ 0 := by simpa using hlast
      simp [hlast'.symm]

/-- Names that spell one symbol are the same but for a NUL at the end. -/
theorem spell_alike_iff {name name' : String} :
    (∃ symbol, Spells (ByteString.ofText name) symbol ∧ Spells (ByteString.ofText name') symbol) ↔
      0 ∉ (ByteString.ofText name).dropLast ∧ 0 ∉ (ByteString.ofText name').dropLast ∧
        (name = name' ∨ name = name' ++ "\x00" ∨ name' = name ++ "\x00") := by
  have hended (text text' : String) : ByteString.ofText text = ByteString.ofText text' ++ [0] ↔
      text = text' ++ "\x00" := by
    rw [← ByteString.ofText_inj, ByteString.ofText_append]
    rfl
  constructor
  · rintro ⟨symbol, h, h'⟩
    refine ⟨exists_spells_iff.mp ⟨symbol, h⟩, exists_spells_iff.mp ⟨symbol, h'⟩, ?_⟩
    rw [← hended, ← hended, ← ByteString.ofText_inj]
    obtain ⟨-, heq | heq⟩ := h <;> obtain ⟨-, heq' | heq'⟩ := h' <;> simp [heq, heq']
  · rintro ⟨h, h', heq⟩
    obtain ⟨symbol, hspells⟩ := exists_spells_iff.mpr h
    rcases heq with rfl | hend | hend
    · exact ⟨symbol, hspells, hspells⟩
    · rw [← hended] at hend
      rw [hend, List.dropLast_concat] at h
      exact ⟨_, ⟨h, .inr hend⟩, ⟨h, .inl rfl⟩⟩
    · rw [← hended] at hend
      rw [hend, List.dropLast_concat] at h'
      exact ⟨_, ⟨h', .inl rfl⟩, ⟨h', .inr hend⟩⟩

variable {σ η : Type}

/-! ## Two ways to look up -/

namespace Library

/-- What the loader answers to a look-up of a name in a state, if the module is loaded. -/
def answer? [Loading σ η] (l : Library η) (name : String) (s : σ) : Option (Except String Nat) :=
  l.handle.map fun handle => ((find handle name).run s).1

/-- What a look-up of a name comes to, by the answer of the loader. -/
def outcome (name : String) : Option (Except String Nat) → Except SymbolError Nat
  | none => .error (.notLoaded name)
  | some answer => answer.mapError (.notFound name)

@[simp] theorem outcome_none (name : String) : outcome name none = .error (.notLoaded name) := rfl

@[simp] theorem outcome_error (name reason : String) :
    outcome name (some (.error reason)) = .error (.notFound name reason) := rfl

@[simp] theorem outcome_ok (name : String) (address : Nat) :
    outcome name (some (.ok address)) = .ok address := rfl

theorem outcome_eq_ok (name : String) {answer : Option (Except String Nat)} {address : Nat} :
    outcome name answer = .ok address ↔ answer = some (.ok address) := by
  rcases answer with _ | reason | found <;> simp

theorem nonNull_eq_ok {name : String} {found : Except SymbolError Nat} {address : Nat} :
    nonNull name found = .ok address ↔ found = .ok address ∧ address ≠ 0 := by
  unfold nonNull
  split
  · simp
    omega
  · rename_i hnull
    refine (and_iff_left_of_imp ?_).symm
    rintro rfl rfl
    exact hnull rfl

/-- Only the address 0 makes a difference. -/
theorem nonNull_eq_iff (name : String) {found : Except SymbolError Nat} :
    nonNull name found = found ↔ found ≠ .ok 0 := by
  unfold nonNull
  split <;> simp_all

variable [Logging σ] [Loading σ η]

theorem resolveFunction_answer (l : Library η) (name : String) (s : σ) :
    ((l.resolveFunction name).run s).1
      = (outcome name (l.answer? name s), l.remember (outcome name (l.answer? name s))) := by
  unfold answer?
  cases h : l.handle with
  | none => rw [l.resolveFunction_unloaded name h]; rfl
  | some handle =>
    rw [l.resolveFunction_loaded name h, Option.map_some]
    cases (find handle name).run s with
    | mk answer t => cases answer <;> rfl

theorem resolve_answer (l : Library η) (name : String) (s : σ) :
    ((l.resolve name).run s).1 = (nonNull name (outcome name (l.answer? name s)),
      l.remember (nonNull name (outcome name (l.answer? name s)))) := by
  have h := l.resolveFunction_answer name s
  rw [resolve_run]
  generalize outcome name (l.answer? name s) = found at h ⊢
  cases hrun : (l.resolveFunction name).run s with
  | mk pair t =>
    rw [hrun] at h
    cases h
    rcases found with e | address
    · rfl
    · cases address <;> rfl

/-- The two ways agree, in what they answer and in what they leave, unless the loader answers the
address 0. -/
theorem resolutions_eq_iff {l : Library η} {name : String} {s t : σ}
    (same : l.answer? name s = l.answer? name t) :
    ((l.resolveFunction name).run s).1 = ((l.resolve name).run t).1 ↔
      l.answer? name s ≠ some (.ok 0) := by
  rw [resolveFunction_answer, resolve_answer, ← same, ne_eq, ← outcome_eq_ok name, ← ne_eq,
    ← nonNull_eq_iff name]
  constructor
  · exact fun h => (Prod.mk.inj h).1.symm
  · exact fun h => by rw [h]

end Library

/-! ## What is found -/

namespace Library

/-- The name that an operation looks up. -/
def Operation.name? : Operation → Option String
  | resolve name | resolveFunction name => some name
  | unload => none

/-- The text that a use has put to the loader. -/
def Use.text? (u : Use η) : Option ByteString :=
  match u.asked with
  | [.lookedUp _ text _] => some text
  | _ => none

/-- The symbols behind a handle, those of other modules that its module needs among them: the loader
finds these and no other, and no symbol has a NUL in its name. -/
structure Lists [Loading σ η] (s : σ) (handle : η) (symbols : List ByteString) : Prop where
  found (text : ByteString) :
    (∃ address, ((Loading.lookUp handle text).run s).1 = .ok address) ↔ text ∈ symbols
  plain : ∀ symbol ∈ symbols, 0 ∉ symbol

/-- A look-up in a loaded module answers what it finds, or else that the name was not found. -/
theorem Use.Fits.lookedUp {handle : η} {u : Use η} {name : String} (h : u.Fits (some handle))
    (hname : u.operation.name? = some name) : ∃ answer found, LookedUp handle name u.asked answer ∧
      u.answer = .symbol found ∧
      (∀ reason, answer = .error reason → found = .error (.notFound name reason)) ∧
      ∀ e, found = .error e → ∃ reason, e = .notFound name reason := by
  unfold Use.Fits at h
  split at h <;> rename_i hop <;> rw [hop] at hname <;> cases hname
  · obtain ⟨_, ⟨answer, hlooked, rfl⟩, hanswer⟩ := h
    refine ⟨answer, _, hlooked, hanswer, ?_, ?_⟩
    · rintro reason rfl
      rfl
    · intro e he
      rcases answer with reason | _ | address <;> cases he <;> exact ⟨_, rfl⟩
  · obtain ⟨_, ⟨answer, hlooked, rfl⟩, hanswer⟩ := h
    refine ⟨answer, _, hlooked, hanswer, ?_, ?_⟩
    · rintro reason rfl
      rfl
    · intro e he
      cases answer <;> cases he
      exact ⟨_, rfl⟩

/-- What a look-up puts to the loader is the symbol that the name spells. -/
theorem LookedUp.text?_eq_some {handle : η} {u : Use η} {name : String} {answer : Except String Nat}
    (h : LookedUp handle name u.asked answer) {text : ByteString} :
    u.text? = some text ↔ Spells (ByteString.ofText name) text := by
  rw [← terminated_eq_ok]
  unfold LookedUp at h
  unfold Use.text?
  split at h <;> rename_i hterminated <;> rw [hterminated]
  · rw [h, Option.some.injEq, Except.ok.injEq]
  · rw [h.1]
    exact iff_of_false nofun nofun

/-- A name with a NUL before the end is not put to the loader. -/
theorem LookedUp.refused {handle : η} {name : String} {asked : List (LoaderCall η)}
    {answer : Except String Nat}
    (h : LookedUp handle name asked answer) (hnul : 0 ∈ (ByteString.ofText name).dropLast) :
    asked = [] ∧ ∃ reason, answer = .error reason := by
  unfold LookedUp at h
  split at h
  · exact absurd hnul (exists_spells_iff.mp ⟨_, terminated_eq_ok.mp ‹_›⟩)
  · exact ⟨h.1, _, h.2⟩

section Running

variable [Loading σ η]

/-- Which names a loader finds. -/
theorem Lists.find_eq_ok {s : σ} {handle : η} {symbols : List ByteString}
    (lists : Lists s handle symbols)
    (name : String) : (∃ address, ((find handle name).run s).1 = .ok address) ↔
      ByteString.ofText name ∈ symbols ∨ ∃ symbol ∈ symbols,
        ByteString.ofText name = symbol ++ [0] := by
  have hspelled : (∃ address, ((find handle name).run s).1 = .ok address) ↔
      ∃ symbol ∈ symbols, Spells (ByteString.ofText name) symbol := by
    unfold find
    cases hterminated : terminated (ByteString.ofText name) with
    | ok text =>
      have hspells := terminated_eq_ok.mp hterminated
      refine (lists.found text).trans ⟨fun h => ⟨text, h, hspells⟩, ?_⟩
      rintro ⟨symbol, hmem, h⟩
      exact hspells.unique h ▸ hmem
    | error reason =>
      refine iff_of_false nofun ?_
      rintro ⟨symbol, -, h⟩
      rw [terminated_eq_ok.mpr h] at hterminated
      cases hterminated
  rw [hspelled]
  constructor
  · rintro ⟨symbol, hmem, -, heq | heq⟩
    · exact .inl (heq ▸ hmem)
    · exact .inr ⟨symbol, hmem, heq⟩
  · rintro (hmem | ⟨symbol, hmem, heq⟩)
    · exact ⟨_, hmem, lists.plain _ hmem, .inl rfl⟩
    · exact ⟨symbol, hmem, lists.plain symbol hmem, .inr heq⟩

variable [Logging σ]

/-- **Which names are found.** In a library that is loaded, looking up a name succeeds exactly if it
is the name of one of the loader's symbols, or that with a NUL behind it; for `resolve` the address
must not be 0 as well. Otherwise it was not found; a name with a NUL before the end is not even put
to the loader. Two names are put to the loader as one exactly if neither has a NUL before the end
and they are the same but for one there. -/
theorem symbols_found_iff (l : Library η) {handle : η} (loaded : l.handle = some handle) {s : σ}
    {symbols : List ByteString} (lists : Lists s handle symbols) (name : String) :
    ((∃ address, ((l.resolveFunction name).run s).1.1 = .ok address) ↔
      ByteString.ofText name ∈ symbols ∨ ∃ symbol ∈ symbols,
        ByteString.ofText name = symbol ++ [0]) ∧
    (∀ address, ((l.resolve name).run s).1.1 = .ok address ↔
      ((l.resolveFunction name).run s).1.1 = .ok address ∧ address ≠ 0) ∧
    ∀ op, op.name? = some name → ∃ u l' t, (l.observe op).run s = ((u, l'), t) ∧
      (l.perform op).run s = ((u.answer, l'), t) ∧
      (∀ e, u.answer = .symbol (.error e) → ∃ reason, e = .notFound name reason) ∧
      (0 ∈ (ByteString.ofText name).dropLast →
        u.asked = [] ∧ ∃ reason, u.answer = .symbol (.error (.notFound name reason))) ∧
      ∀ other otherName, other.name? = some otherName → ∃ v m t,
        (l.observe other).run s = ((v, m), t) ∧
        ((∃ text, u.text? = some text ∧ v.text? = some text) ↔
          0 ∉ (ByteString.ofText name).dropLast ∧ 0 ∉ (ByteString.ofText otherName).dropLast ∧
            (name = otherName ∨ name = otherName ++ "\x00" ∨ otherName = name ++ "\x00")) := by
  have hlookUp (op : Operation) {name : String} (hname : op.name? = some name) :
      ∃ u l' t, (l.observe op).run s = ((u, l'), t) ∧ (l.perform op).run s = ((u.answer, l'), t) ∧
        u.Fits (some handle) ∧ u.operation.name? = some name := by
    obtain ⟨u, l', t, hobserve, hperform, rfl, hfits, -⟩ := l.observe_cases op s
    exact ⟨u, l', t, hobserve, hperform, loaded ▸ hfits, hname⟩
  refine ⟨?_, fun address => ?_, fun op hname => ?_⟩
  · rw [resolveFunction_answer, answer?, loaded]
    simp only [outcome_eq_ok, Option.map_some, Option.some.injEq]
    exact lists.find_eq_ok name
  · rw [resolve_answer, resolveFunction_answer]
    exact nonNull_eq_ok
  · obtain ⟨u, l', t, hobserve, hperform, hfits, hop⟩ := hlookUp op hname
    obtain ⟨answer, found, hlooked, hanswer, hfailed, herror⟩ := hfits.lookedUp hop
    refine ⟨u, l', t, hobserve, hperform, fun e he => ?_, fun hnul => ?_,
      fun other otherName hother => ?_⟩
    · rw [hanswer, Answer.symbol.injEq] at he
      exact herror e he
    · obtain ⟨hasked, reason, hreason⟩ := hlooked.refused hnul
      exact ⟨hasked, reason, by rw [hanswer, hfailed reason hreason]⟩
    · obtain ⟨v, m, t', hobserve', -, hfits', hop'⟩ := hlookUp other hother
      obtain ⟨_, _, hlooked', -⟩ := hfits'.lookedUp hop'
      refine ⟨v, m, t', hobserve', ?_⟩
      simp only [hlooked.text?_eq_some, hlooked'.text?_eq_some]
      exact spell_alike_iff

end Running

/-! ## A table of symbols -/

/-- A machine whose loader has the same symbols behind every handle, all at one address. -/
structure Table where
  symbols : List ByteString

namespace Table

instance : Logging Table where
  log _ s := s

instance : Loading Table Unit where
  openModule _ := return .ok ()
  lookUp _ name s := (if name ∈ s.symbols then .ok 4096 else .error "undefined symbol", s)
  close _ := return .ok ()

theorem lists {s : Table} (plain : ∀ symbol ∈ s.symbols, 0 ∉ symbol) : Lists s () s.symbols where
  found name := by
    show (∃ address, (if name ∈ s.symbols then Except.ok 4096 else _) = Except.ok address) ↔ _
    split <;> simp [*]
  plain := plain

/-- A table of one symbol. -/
def one : Table := ⟨["one"]⟩

theorem one_lists : Lists one () one.symbols := lists (by decide)

/-- A library that is loaded there. -/
def library : Library Unit := { path := "m.so", handle := some () }

end Table

/-- With a NUL behind it the name of a symbol is found, and with a NUL inside it is not. -/
theorem one_found : Table.library.handle = some () ∧ Lists Table.one () Table.one.symbols ∧
    (∃ address, ((Table.library.resolveFunction "one\x00").run Table.one).1.1 = .ok address) ∧
    ∃ reason, ((Table.library.perform (.resolve "o\x00ne")).run Table.one).1.1
      = .symbol (.error (.notFound "o\x00ne" reason)) := by
  obtain ⟨hfound, -⟩ := symbols_found_iff Table.library rfl Table.one_lists "one\x00"
  obtain ⟨-, -, hop⟩ := symbols_found_iff Table.library rfl Table.one_lists "o\x00ne"
  obtain ⟨u, l', t, -, hperform, -, hinside, -⟩ := hop (.resolve "o\x00ne") rfl
  refine ⟨rfl, Table.one_lists, hfound.mpr (.inr ⟨_, List.mem_singleton_self _, rfl⟩), ?_⟩
  rw [hperform]
  exact (hinside (by decide)).2

/-- A name that no symbol has is found, at the address of another. -/
theorem ended_name_found : Table.library.isLoaded = true ∧ Lists Table.one () Table.one.symbols ∧
    ByteString.ofText "one\x00" ∉ Table.one.symbols ∧
    ((Table.library.resolve "one\x00").run Table.one).1.1 = .ok 4096 ∧
    ((Table.library.resolveFunction "one\x00").run Table.one).1.1 = .ok 4096 ∧
    ((Table.library.observe (.resolve "one\x00")).run Table.one).1.1.text?
      = some (ByteString.ofText "one") ∧
    ((Table.library.observe (.resolve "one")).run Table.one).1.1.text?
      = some (ByteString.ofText "one") :=
  ⟨rfl, Table.one_lists, by decide, rfl, rfl, rfl, rfl⟩

end Library
end ModuleForge
