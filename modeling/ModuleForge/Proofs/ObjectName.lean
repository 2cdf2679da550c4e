import ModuleForge.Proofs.ModuleName
import ModuleForge.Source

/-!
# The names of objects

The name that a text yields is made of hexadecimal digits and an ending, so it is a path of one
component (`Source.components_objectName`), and two of them are the same path exactly if the digests
agree in the part that names (`Source.same_objectName_iff`).

A byte of the digest is two digits, and different bytes are different digits, so the part that names
is the first ten bytes (`Digest.short_ofData_inj`). `Source.objectName_separates` puts together what
a directory of objects relies on, modules beside them included.
-/
namespace ModuleForge

/-- The digits of a digest. -/
def hexDigits : List Char := "0123456789abcdef".toList

theorem digitChar_mem_hexDigits {n : Nat} (h : n < 16) : Nat.digitChar n ∈ hexDigits := by
  revert n
  decide

theorem mem_hexDigits_of_hex {bytes : List UInt8} {c : Char} (h : c ∈ (hex bytes).toList) :
    c ∈ hexDigits := by
  simp only [hex, String.toList_ofList, List.mem_flatMap] at h
  obtain ⟨b, -, hc⟩ := h
  have hb := b.toNat_lt
  simp only [hexByte, List.mem_cons, List.not_mem_nil, or_false] at hc
  rcases hc with rfl | rfl
  · exact digitChar_mem_hexDigits (by omega)
  · exact digitChar_mem_hexDigits (by omega)

theorem digitChar_inj {m n : Nat} (hm : m < 16) (hn : n < 16) :
    Nat.digitChar m = Nat.digitChar n ↔ m = n := by
  have hall : ∀ m < 16, ∀ n < 16, Nat.digitChar m = Nat.digitChar n → m = n := by decide
  exact ⟨hall m hm n hn, congrArg _⟩

theorem hexByte_inj {a b : UInt8} : hexByte a = hexByte b ↔ a = b := by
  have ha := a.toNat_lt
  have hb := b.toNat_lt
  simp only [hexByte, List.cons.injEq, and_true]
  rw [digitChar_inj (by omega) (by omega), digitChar_inj (by omega) (by omega), ← UInt8.toNat_inj]
  omega

theorem flatMap_hexByte_inj {as bs : List UInt8} : as.flatMap hexByte = bs.flatMap hexByte ↔
    as = bs := by
  refine ⟨fun h => ?_, congrArg _⟩
  induction as generalizing bs with
  | nil => cases bs with
    | nil => rfl
    | cons b bs => cases h
  | cons a as ih => cases bs with
    | nil => cases h
    | cons b bs =>
      rw [List.flatMap_cons, List.flatMap_cons] at h
      obtain ⟨hbyte, hrest⟩ := List.append_inj h rfl
      rw [hexByte_inj.mp hbyte, ih hrest]

/-- The first digits are those of the first bytes. -/
theorem take_flatMap_hexByte (n : Nat) (bytes : List UInt8) :
    (bytes.flatMap hexByte).take (2 * n) = (bytes.take n).flatMap hexByte := by
  induction n generalizing bytes with
  | zero => rfl
  | succ n ih => cases bytes with
    | nil => rfl
    | cons b bytes => exact congrArg (hexByte b ++ ·) (ih bytes)

theorem length_flatMap_hexByte (bytes : List UInt8) :
    (bytes.flatMap hexByte).length = 2 * bytes.length := by
  induction bytes with
  | nil => rfl
  | cons b bytes ih =>
    rw [List.flatMap_cons, List.length_append, ih, List.length_cons]
    exact (Nat.add_comm ..).trans (Nat.mul_succ ..).symm

/-- No digit is, in bytes, a separator. -/
theorem separator_not_mem_of_hexDigits {c : Char} (h : c ∈ hexDigits) :
    Path.separator ∉ String.utf8EncodeChar c := by
  have hall : hexDigits.all (fun c => !(String.utf8EncodeChar c).contains Path.separator)
      = true := by
    decide
  simpa using List.all_eq_true.mp hall c h

namespace Digest

theorem length_digest (data : ByteArray) : (Sha256.digest data).length = 32 := by
  simp [Sha256.digest, Sha256.bigEndian]

/-- Characters of one byte each can be cut anywhere. -/
theorem takeBytes_eq_take {cs : List Char} (h : ∀ c ∈ cs, c.utf8Size = 1) (n : Nat) :
    takeBytes n cs = some (cs.take n) := by
  induction cs generalizing n with
  | nil => simp [takeBytes]
  | cons c cs ih =>
    obtain ⟨hc, hcs⟩ := List.forall_mem_cons.mp h
    cases n with
    | zero => rfl
    | succ n => simp [takeBytes, hc, ih hcs]

/-- The part of a digest that names, as digits of its first ten bytes. -/
theorem short_ofData (data : ByteArray) :
    (ofData data).short = String.ofList (((Sha256.digest data).take 10).flatMap hexByte) := by
  rw [short, ofData, hex, String.toList_ofList, ← take_flatMap_hexByte]
  rfl

theorem short?_ofData (data : ByteArray) : (ofData data).short? = some (ofData data).short := by
  have hone : ∀ c ∈ (ofData data).text.toList, c.utf8Size = 1 := by
    intro c hc
    have hall : hexDigits.all (fun c => c.utf8Size == 1) = true := by decide
    exact beq_iff_eq.mp (List.all_eq_true.mp hall c (mem_hexDigits_of_hex hc))
  rw [short?, takeBytes_eq_take hone]
  rfl

theorem short_ofData_inj {data data' : ByteArray} : (ofData data).short = (ofData data').short ↔
    (Sha256.digest data).take 10 = (Sha256.digest data').take 10 := by
  rw [short_ofData, short_ofData, String.ofList_inj, flatMap_hexByte_inj]

end Digest

namespace Source

theorem objectName_bytes (s : Source) :
    s.objectName.bytes = ByteString.ofText s.digest.short ++ ByteString.ofText ".o" :=
  ByteString.ofText_append _ _

theorem separator_not_mem_objectName (s : Source) : Path.separator ∉ s.objectName.bytes := by
  rw [objectName_bytes, List.mem_append, not_or]
  refine ⟨?_, by decide⟩
  rw [Digest.short, ByteString.ofText_ofList, List.mem_flatMap]
  rintro ⟨c, hc, hsep⟩
  have hdigit := mem_hexDigits_of_hex (List.mem_of_mem_take hc)
  exact separator_not_mem_of_hexDigits hdigit hsep

theorem components_objectName (s : Source) :
    s.objectName.components = [.name s.objectName.bytes] := by
  have hlast : s.objectName.bytes.getLast? = some 111 := by
    rw [objectName_bytes, List.getLast?_append]
    rfl
  refine Path.components_of_plain s.separator_not_mem_objectName ?_ ?_ ?_ <;>
    intro h <;> rw [h] at hlast <;> cases hlast

/-- Two texts yield the same name exactly if their digests agree in the part that names. -/
theorem same_objectName_iff {s t : Source} :
    s.objectName.same t.objectName = true ↔ s.digest.short = t.digest.short := by
  have hbytes : s.objectName.same t.objectName = true ↔
      s.objectName.bytes = t.objectName.bytes := by
    simp [Path.same_iff, components_objectName]
  rw [hbytes, objectName_bytes, objectName_bytes, List.append_left_inj, ByteString.ofText_inj]

theorem objectName_eq_iff {s t : Source} :
    s.objectName = t.objectName ↔ (Sha256.digest s.data).take 10
      = (Sha256.digest t.data).take 10 := by
  rw [objectName, objectName, Path.ofText, Path.ofText, Path.mk.injEq, ByteString.ofText_inj,
    String.append_left_inj]
  exact Digest.short_ofData_inj

/-- An object and a module differ in the ending of the name. -/
theorem objectName_bytes_ne_moduleName (s : Source) (p n : Nat) :
    s.objectName.bytes ≠ ByteString.ofText (moduleName p n) := by
  have hending : ByteString.ofText ".so" = ByteString.ofText "." ++ ByteString.ofText "so" := by
    decide
  rw [objectName_bytes, moduleName_bytes, hending, ← List.append_assoc]
  intro h
  exact absurd (List.append_inj' h rfl).2 (by decide)

/-- The name that a text yields is twenty digits of its digest and an ending: the digest has them,
whatever the text. It is the name that another text yields exactly if the first eighty bits of the
digests agree. Joined to any directory, as the compiler does for the object, it lies directly there,
and no module has its path. -/
theorem objectName_separates (s : Source) :
    (∃ digits : List Char, digits.length = 20 ∧ (∀ c ∈ digits, c ∈ hexDigits) ∧
      s.digest.short? = some (String.ofList digits) ∧
      s.objectName = Path.ofText (String.ofList digits ++ ".o")) ∧
    (∀ t : Source, s.objectName = t.objectName ↔
      (Sha256.digest s.data).take 10 = (Sha256.digest t.data).take 10) ∧
    s.objectName.components = [.name s.objectName.bytes] ∧
    (∀ dir : Path, (dir.join s.objectName).components = dir.components
      ++ [.name s.objectName.bytes]) ∧
    (∀ (k : CompilerCommand) (here : Except IoError Path),
      (k.objectPath here s.objectName).components
      = (k.base here).components ++ [.name s.objectName.bytes]) ∧
    ∀ (p n : Nat), s.objectName ≠ Path.ofText (moduleName p n) ∧
      ∀ (k : CompilerCommand) (here : Except IoError Path) (dir : Path),
        (k.objectPath here s.objectName).same (dir.join (Path.ofText (moduleName p n)))
          = false := by
  have hjoin (dir : Path) : (dir.join s.objectName).components
      = dir.components ++ [.name s.objectName.bytes] :=
    Path.components_join_name s.components_objectName
  refine ⟨⟨((Sha256.digest s.data).take 10).flatMap hexByte, ?_, fun c hc => ?_, ?_, ?_⟩,
    fun t => objectName_eq_iff, s.components_objectName, hjoin, fun k here => ?_,
    fun p n => ⟨fun h => ?_, fun k here dir => ?_⟩⟩
  · rw [length_flatMap_hexByte, List.length_take, Digest.length_digest]
    rfl
  · exact mem_hexDigits_of_hex (by rwa [hex, String.toList_ofList])
  · rw [← Digest.short_ofData]
    exact Digest.short?_ofData s.data
  · rw [← Digest.short_ofData]
    rfl
  · rw [k.objectPath_eq_join, hjoin]
  · exact s.objectName_bytes_ne_moduleName p n (congrArg Path.bytes h)
  · rw [Bool.eq_false_iff, ne_eq, Path.same_iff, k.objectPath_eq_join, hjoin,
      Path.components_join_name (components_moduleName p n)]
    intro h
    obtain ⟨-, hlast⟩ := List.append_inj' h (by simp only [List.length_singleton])
    rw [List.singleton_inj, Path.Component.name.injEq] at hlast
    exact s.objectName_bytes_ne_moduleName p n hlast

end Source
end ModuleForge
