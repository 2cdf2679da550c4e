import Mathlib.Data.Nat.Digits.Defs
import ModuleForge.Config

/-!
# Amounts

An amount is a natural number of 64 bits in decimal digits, perhaps behind a plus sign, with white
space around it (`Amount`). Trimming a text and reading a number from it accepts exactly the amounts
(`readNatural?_trim`).
-/
namespace ModuleForge

/-- The number that some digits make, the first of them counting most. -/
def Digits (cs : List Char) (n : Nat) : Prop :=
  ∃ ds : List Nat, ds ≠ [] ∧ (∀ d ∈ ds, d < 10) ∧ cs = ds.map Nat.digitChar ∧
    n = Nat.ofDigits 10 ds.reverse

/-- A natural number of 64 bits as it is written: digits, perhaps behind a plus sign. -/
def Numeral (cs : List Char) (n : Nat) : Prop :=
  n < 2 ^ 64 ∧ (Digits cs n ∨ ∃ rest, cs = '+' :: rest ∧ Digits rest n)

/-- A text that holds a natural number of 64 bits, with white space around it. -/
def Amount (text : String) (n : Nat) : Prop :=
  ∃ before number after : List Char, text.toList = before ++ number ++ after ∧
    (∀ c ∈ before, Text.isBlank c = true) ∧ (∀ c ∈ after, Text.isBlank c = true) ∧ Numeral number n

theorem digitChar_digit {d : Nat} (h : d < 10) :
    (Nat.digitChar d).isDigit = true ∧ (Nat.digitChar d).toNat - '0'.toNat = d ∧
      Text.isBlank (Nat.digitChar d) = false ∧ Nat.digitChar d ≠ '+' := by
  revert d
  decide

theorem digitChar_of_isDigit {c : Char} (h : c.isDigit = true) :
    c.toNat - '0'.toNat < 10 ∧ Nat.digitChar (c.toNat - '0'.toNat) = c := by
  have hrange : 48 ≤ c.toNat ∧ c.toNat ≤ 57 := by
    simpa [Char.isDigit, UInt32.le_iff_toNat_le] using h
  have hc : Char.ofNat c.toNat = c := Char.ofNat_toNat c
  obtain ⟨d, hd, hnat⟩ : ∃ d, d < 10 ∧ c.toNat = 48 + d := ⟨c.toNat - 48, by omega, by omega⟩
  rw [hnat] at hc ⊢
  subst hc
  revert d
  decide

/-- Digits make the number that reading them one by one comes to. -/
theorem digits_iff {cs : List Char} {n : Nat} : Digits cs n ↔
    cs ≠ [] ∧ cs.all Char.isDigit = true ∧
      n = cs.foldl (fun n c => n * 10 + (c.toNat - '0'.toNat)) 0 := by
  have hvalue (ds : List Nat) : Nat.ofDigits 10 ds.reverse
      = ds.foldl (fun n d => n * 10 + d) 0 := by
    rw [Nat.ofDigits_eq_foldr, List.foldr_reverse]
    simp [Nat.mul_comm, Nat.add_comm]
  constructor
  · rintro ⟨ds, hne, hlt, rfl, rfl⟩
    have hback : (ds.map Nat.digitChar).map (fun c => c.toNat - '0'.toNat) = ds := by
      rw [List.map_map]
      exact (List.map_congr_left fun d hd => (digitChar_digit (hlt d hd)).2.1).trans
        (List.map_id ds)
    refine ⟨by simpa using hne, ?_, ?_⟩
    · rw [List.all_eq_true]
      intro c hc
      obtain ⟨d, hd, rfl⟩ := List.mem_map.mp hc
      exact (digitChar_digit (hlt d hd)).1
    · rw [hvalue, ← List.foldl_map (f := fun c : Char => c.toNat - '0'.toNat)
        (g := fun n d => n * 10 + d), hback]
  · rintro ⟨hne, hall, rfl⟩
    have hdigit (c : Char) (hc : c ∈ cs) := digitChar_of_isDigit (List.all_eq_true.mp hall c hc)
    refine ⟨cs.map fun c => c.toNat - '0'.toNat, by simpa using hne, ?_, ?_, ?_⟩
    · intro d hd
      obtain ⟨c, hc, rfl⟩ := List.mem_map.mp hd
      exact (hdigit c hc).1
    · rw [List.map_map]
      exact ((List.map_congr_left fun c hc => (hdigit c hc).2).trans (List.map_id cs)).symm
    · rw [hvalue, List.foldl_map]

/-- What stands behind the plus sign, if there is one. -/
def unsigned : List Char → List Char
  | '+' :: rest => rest
  | cs => cs

theorem readNatural?_eq (s : String) : Config.readNatural? s =
    if (unsigned s.toList).isEmpty || !(unsigned s.toList).all Char.isDigit then none
    else
      let n := (unsigned s.toList).foldl (fun n c => n * 10 + (c.toNat - '0'.toNat)) 0
      if n < 2 ^ 64 then some n else none := rfl

theorem Digits.unsigned_eq {cs : List Char} {n : Nat} (h : Digits cs n) : unsigned cs = cs := by
  obtain ⟨ds, hne, hlt, rfl, -⟩ := h
  cases ds with
  | nil => exact absurd rfl hne
  | cons d ds =>
    have hplus := (digitChar_digit (hlt d (by simp))).2.2.2
    rw [List.map_cons, unsigned]
    intro rest heq
    exact hplus (List.cons.inj heq).1

/-- Reading accepts the numbers as they are written, and nothing else. -/
theorem readNatural?_eq_some {s : String} {n : Nat} :
    Config.readNatural? s = some n ↔ Numeral s.toList n := by
  have hplain : Config.readNatural? s = some n ↔ n < 2 ^ 64 ∧ Digits (unsigned s.toList) n := by
    rw [readNatural?_eq, digits_iff]
    grind
  rw [hplain, Numeral]
  refine and_congr_right fun _ => ⟨fun h => ?_, ?_⟩
  · unfold unsigned at h
    split at h
    · exact .inr ⟨_, ‹_›, h⟩
    · exact .inl h
  · rintro (h | ⟨rest, heq, h⟩)
    · rwa [h.unsigned_eq]
    · rwa [heq]

theorem Numeral.not_blank {cs : List Char} {n : Nat} (h : Numeral cs n) :
    cs ≠ [] ∧ ∀ c ∈ cs, Text.isBlank c = false := by
  have hdigits {cs : List Char} (h : Digits cs n) : cs ≠ [] ∧ ∀ c ∈ cs, Text.isBlank c = false := by
    obtain ⟨ds, hne, hlt, rfl, -⟩ := h
    refine ⟨by simpa using hne, fun c hc => ?_⟩
    obtain ⟨d, hd, rfl⟩ := List.mem_map.mp hc
    exact (digitChar_digit (hlt d hd)).2.2.1
  rcases h.2 with hplain | ⟨rest, rfl, hplain⟩
  · exact hdigits hplain
  · exact ⟨nofun, List.forall_mem_cons.mpr ⟨by decide, (hdigits hplain).2⟩⟩

/-- Past white space, up to a text that has none. -/
theorem dropWhile_isBlank {before rest : List Char} (hbefore : ∀ c ∈ before, Text.isBlank c = true)
    (hrest : ∀ c ∈ rest.head?, Text.isBlank c = false) :
    (before ++ rest).dropWhile Text.isBlank = rest := by
  rw [List.dropWhile_append_of_pos hbefore]
  cases rest with
  | nil => rfl
  | cons c rest => rw [List.dropWhile_cons_of_neg (by simp [hrest c rfl])]

theorem toList_trim (s : String) : (Text.trim s).toList =
    ((s.toList.dropWhile Text.isBlank).reverse.dropWhile Text.isBlank).reverse := by
  simp [Text.trim, Text.trimEnd]

theorem readNatural?_trim {s : String} {n : Nat} :
    Config.readNatural? (Text.trim s) = some n ↔ Amount s n := by
  rw [readNatural?_eq_some, toList_trim]
  constructor
  · intro h
    refine ⟨s.toList.takeWhile Text.isBlank, _,
      ((s.toList.dropWhile Text.isBlank).reverse.takeWhile Text.isBlank).reverse, ?_, ?_, ?_, h⟩
    · rw [List.append_assoc, ← List.reverse_append, List.takeWhile_append_dropWhile,
        List.reverse_reverse, List.takeWhile_append_dropWhile]
    · exact List.all_eq_true.mp List.all_takeWhile
    · exact fun c hc => List.all_eq_true.mp List.all_takeWhile c (List.mem_reverse.mp hc)
  · rintro ⟨before, number, after, heq, hbefore, hafter, h⟩
    obtain ⟨hne, hblank⟩ := h.not_blank
    have hhead : ∀ c ∈ (number ++ after).head?, Text.isBlank c = false := by
      obtain ⟨d, rest, rfl⟩ := List.exists_cons_of_ne_nil hne
      rintro _ ⟨⟩
      exact hblank d (by simp)
    have hlast : ∀ c ∈ number.reverse.head?, Text.isBlank c = false := fun c hc =>
      hblank c (List.mem_reverse.mp (List.mem_of_head? hc))
    rw [heq, List.append_assoc, dropWhile_isBlank hbefore hhead, List.reverse_append,
      dropWhile_isBlank (fun c hc => hafter c (List.mem_reverse.mp hc)) hlast, List.reverse_reverse]
    exact h

end ModuleForge
