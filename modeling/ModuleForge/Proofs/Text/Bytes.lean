import ModuleForge.Text.Bytes

/-!
# Texts as bytes

The bytes of a text tell the text: they are UTF-8 (`text?_ofText`), and read byte by byte they are
again the characters that they were made of, with nothing broken between them (`pieces_ofText`), so
a text is shown as it is (`lossy_ofText`, `lossyData_toUTF8`).
-/
namespace ModuleForge

theorem ByteString.ofText_append (s t : String) :
    ByteString.ofText (s ++ t) = ByteString.ofText s ++ ByteString.ofText t := by
  simp [ByteString.ofText]

theorem ByteString.ofText_inj {s t : String} :
    ByteString.ofText s = ByteString.ofText t ↔ s = t := by
  refine ⟨fun h => ?_, fun h => h ▸ rfl⟩
  have hdata : s.toByteArray = t.toByteArray := ByteArray.ext (Array.toList_inj.mp h)
  exact String.toByteArray_inj.mp hdata

theorem ByteString.ofText_ofList (cs : List Char) :
    ByteString.ofText (String.ofList cs) = cs.flatMap String.utf8EncodeChar := by
  simp [ByteString.ofText, List.utf8Encode]

namespace Text

theorem text?_ofText (s : String) : text? (ByteString.ofText s) = some s := by
  have hdata : (⟨(ByteString.ofText s).toArray⟩ : ByteArray) = s.toUTF8 := by
    simp [ByteString.ofText]
  rw [text?, hdata, String.fromUTF8?]
  simpa using ⟨s.isValidUTF8, rfl⟩

/-- Bytes are a text exactly if they are those of that text. -/
theorem text?_eq_some {bs : ByteString} {s : String} : text? bs = some s ↔
    bs = ByteString.ofText s := by
  refine ⟨fun h => ?_, fun h => h ▸ text?_ofText s⟩
  rw [text?, String.fromUTF8?] at h
  split at h
  · cases h
    simp [ByteString.ofText, String.fromUTF8]
  · cases h

/-! ## Characters -/

/-- A byte that goes on with a character adds six bits to it. -/
theorem following_cons {low high : UInt8} (bits : Nat) (hlow : low.toNat ≤ bits + 128)
    (hhigh : bits + 128 ≤ high.toNat) {n v w : Nat} {rest taken more : ByteString}
    (h : following n 0x80 0xBF (v * 64 + bits) rest = (w, 0, taken, more)) :
    following (n + 1) low high v (UInt8.ofNat (bits + 128) :: rest)
      = (w, 0, UInt8.ofNat (bits + 128) :: taken, more) := by
  have hbyte : (UInt8.ofNat (bits + 128)).toNat = bits + 128 := by
    have := high.toNat_lt
    rw [UInt8.toNat_ofNat']
    omega
  rw [following, if_pos
    (by rw [UInt8.le_iff_toNat_le, UInt8.le_iff_toNat_le, hbyte]; exact ⟨hlow, hhigh⟩), hbyte,
    Nat.add_sub_cancel, h]

/-- The bytes behind the second have no bounds of their own. -/
theorem following_tail (bits : Nat) (hbits : bits < 64) {n v w : Nat} {rest taken more : ByteString}
    (h : following n 0x80 0xBF (v * 64 + bits) rest = (w, 0, taken, more)) :
    following (n + 1) 0x80 0xBF v (UInt8.ofNat (bits + 128) :: rest)
      = (w, 0, UInt8.ofNat (bits + 128) :: taken, more) :=
  following_cons bits (by simp) (by simp; omega) h

theorem following_zero (low high : UInt8) (v : Nat) (rest : ByteString) :
    following 0 low high v rest = (v, 0, [], rest) := by
  rw [following]

/-- The first byte of a character as a number. -/
theorem lead?_ofNat (n : Nat) (h : n < 256) : lead? (UInt8.ofNat n) =
    if 0xC2 ≤ n ∧ n ≤ 0xDF then some ⟨n - 0xC0, 0x80, 0xBF, 1⟩
    else if n = 0xE0 then some ⟨0, 0xA0, 0xBF, 2⟩
    else if n = 0xED then some ⟨0xD, 0x80, 0x9F, 2⟩
    else if 0xE1 ≤ n ∧ n ≤ 0xEF then some ⟨n - 0xE0, 0x80, 0xBF, 2⟩
    else if n = 0xF0 then some ⟨0, 0x90, 0xBF, 3⟩
    else if n = 0xF4 then some ⟨4, 0x80, 0x8F, 3⟩
    else if 0xF1 ≤ n ∧ n ≤ 0xF3 then some ⟨n - 0xF0, 0x80, 0xBF, 3⟩
    else none := by
  have hn : (UInt8.ofNat n).toNat = n := UInt8.toNat_ofNat_of_lt' h
  simp only [lead?, UInt8.le_iff_toNat_le, ← UInt8.toNat_inj, hn]
  rfl

/-- The first byte of a character of three bytes, `bits` being the six of the second. -/
theorem lead?_three (n bits : Nat) (hn : n < 16) (hbits : bits < 64) (hlow : n = 0 → 32 ≤ bits)
    (hhigh : n = 13 → bits < 32) : ∃ low high, lead? (UInt8.ofNat (n + 224))
      = some ⟨n, low, high, 2⟩ ∧
      low.toNat ≤ bits + 128 ∧ bits + 128 ≤ high.toNat := by
  rw [lead?_ofNat _ (by omega)]
  by_cases h0 : n = 0
  · subst h0
    exact ⟨0xA0, 0xBF, by simp, by have := hlow rfl; simp; omega, by simp; omega⟩
  by_cases h13 : n = 13
  · subst h13
    exact ⟨0x80, 0x9F, by simp, by simp, by have := hhigh rfl; simp; omega⟩
  refine ⟨0x80, 0xBF, ?_, by simp, by simp; omega⟩
  rw [if_neg (by omega), if_neg (by omega), if_neg (by omega), if_pos (by omega),
    Nat.add_sub_cancel]

/-- The first byte of a character of four bytes, `bits` being the six of the second. -/
theorem lead?_four (n bits : Nat) (hn : n ≤ 4) (hbits : bits < 64) (hlow : n = 0 → 16 ≤ bits)
    (hhigh : n = 4 → bits < 16) : ∃ low high, lead? (UInt8.ofNat (n + 240))
      = some ⟨n, low, high, 3⟩ ∧
      low.toNat ≤ bits + 128 ∧ bits + 128 ≤ high.toNat := by
  rw [lead?_ofNat _ (by omega)]
  by_cases h0 : n = 0
  · subst h0
    exact ⟨0x90, 0xBF, by simp, by have := hlow rfl; simp; omega, by simp; omega⟩
  by_cases h4 : n = 4
  · subst h4
    exact ⟨0x80, 0x8F, by simp, by simp, by have := hhigh rfl; simp; omega⟩
  refine ⟨0x80, 0xBF, ?_, by simp, by simp; omega⟩
  rw [if_neg (by omega), if_neg (by omega), if_neg (by omega), if_neg (by omega), if_neg (by omega),
    if_neg (by omega), if_pos (by omega), Nat.add_sub_cancel]

/-- A character of several bytes, by its first byte and what the others add to that. -/
theorem pieces_lead {n : Nat} {l : Lead} (hn : 0x80 ≤ n) (hlead : lead? (UInt8.ofNat n) = some l)
    (hlt : n < 256) {rest more taken : ByteString} {v : Nat}
    (h : following l.following l.low l.high l.payload rest = (v, 0, taken, more)) :
    pieces (UInt8.ofNat n :: rest) = .char (Char.ofNat v) :: pieces more := by
  have hb : ¬ UInt8.ofNat n < 0x80 := by
    rw [UInt8.lt_iff_toNat_lt, UInt8.toNat_ofNat_of_lt' hlt]
    exact Nat.not_lt.mpr hn
  rw [pieces, if_neg hb, hlead]
  simp [h]

theorem encode_ascii {c : Char} (h : c.toNat < 128) :
    String.utf8EncodeChar c = [UInt8.ofNat c.toNat] := by
  have hvalue : c.val.toNat = c.toNat := rfl
  rw [String.utf8EncodeChar, hvalue, if_pos (by omega)]

theorem toNat_cases (c : Char) : c.toNat < 0xD800 ∨ 0xDFFF < c.toNat ∧ c.toNat < 0x110000 := c.valid

/-- Bytes that start with those of a character start with that character. -/
theorem pieces_char (c : Char) (rest : ByteString) :
    pieces (String.utf8EncodeChar c ++ rest) = .char c :: pieces rest := by
  obtain ⟨v, hv⟩ : ∃ v, v = c.val.toNat := ⟨_, rfl⟩
  have hc : Char.ofNat v = c := hv ▸ Char.ofNat_toNat c
  have hrange : v < 0xD800 ∨ 0xDFFF < v ∧ v < 0x110000 := hv ▸ toNat_cases c
  rw [String.utf8EncodeChar, ← hv]
  by_cases h1 : v ≤ 127
  · rw [if_pos h1]
    have hb : (UInt8.ofNat v) < 0x80 := by
      rw [UInt8.lt_iff_toNat_lt, UInt8.toNat_ofNat_of_lt' (by show v < 256; omega)]
      exact Nat.lt_succ_of_le h1
    rw [List.singleton_append, pieces, if_pos hb, UInt8.toNat_ofNat_of_lt' (by show v < 256; omega),
      hc]
  rw [if_neg h1]
  by_cases h2 : v ≤ 2047
  · rw [if_pos h2, List.cons_append, List.singleton_append]
    have hlead := lead?_ofNat (v / 64 % 32 + 192) (by omega)
    rw [if_pos (by omega), Nat.add_sub_cancel] at hlead
    rw [pieces_lead (by omega) hlead (by omega)
      (following_tail (v % 64) (by omega) (following_zero ..)),
      show v / 64 % 32 * 64 + v % 64 = v by omega, hc]
  rw [if_neg h2]
  by_cases h3 : v ≤ 65535
  · rw [if_pos h3]
    simp only [List.cons_append, List.nil_append]
    obtain ⟨low, high, hlead, hlow, hhigh⟩ := lead?_three (v / 4096 % 16) (v / 64 % 64)
      (by omega) (by omega) (by omega) (by omega)
    rw [pieces_lead (by omega) hlead (by omega)
        (following_cons _ hlow hhigh (following_tail (v % 64) (by omega) (following_zero ..))),
      show (v / 4096 % 16 * 64 + v / 64 % 64) * 64 + v % 64 = v by omega, hc]
  · rw [if_neg h3]
    simp only [List.cons_append, List.nil_append]
    obtain ⟨low, high, hlead, hlow, hhigh⟩ := lead?_four (v / 262144 % 8) (v / 4096 % 64)
      (by omega) (by omega) (by omega) (by omega)
    rw [pieces_lead (by omega) hlead (by omega)
        (following_cons _ hlow hhigh (following_tail (v / 64 % 64) (by omega)
          (following_tail (v % 64) (by omega) (following_zero ..)))),
      show ((v / 262144 % 8 * 64 + v / 4096 % 64) * 64 + v / 64 % 64) * 64 + v % 64 = v by
        omega, hc]

theorem pieces_ofText (s : String) : pieces (ByteString.ofText s) = s.toList.map .char := by
  rw [← String.ofList_toList (s := s), ByteString.ofText_ofList, String.toList_ofList]
  induction s.toList with
  | nil => simp [pieces]
  | cons c cs ih => rw [List.flatMap_cons, pieces_char, ih, List.map_cons]

/-- What is shown of the bytes of a text is the text. -/
theorem lossy_ofText (s : String) : lossy (ByteString.ofText s) = s := by
  rw [lossy, pieces_ofText, List.map_map]
  exact (congrArg String.ofList (List.map_id _)).trans String.ofList_toList

/-- A block of data is shown as its bytes are, whether they are a text or not. -/
theorem lossyData_eq (data : ByteArray) : lossyData data = lossy data.data.toList := by
  unfold lossyData
  cases hdata : String.fromUTF8? data with
  | none => rfl
  | some s =>
    have htext : text? data.data.toList = some s := hdata
    rw [text?_eq_some.mp htext, lossy_ofText]

/-- What is shown of the data of a text is the text. -/
theorem lossyData_toUTF8 (s : String) : lossyData s.toUTF8 = s := by
  rw [lossyData_eq]
  exact lossy_ofText s

end Text
end ModuleForge
