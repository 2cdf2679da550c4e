import Mathlib.Data.List.Basic
import ModuleForge.Proofs.Text.Bytes

/-!
# Bytes as they are shown

Cut into pieces, bytes are still all there (`pieces_bytes`): what is read as a character is encoded
by the bytes that it was read from, since the bounds of a first byte leave each character one form
(`encode_following`). What is lost is lost when the pieces are shown. The bytes of what is shown
(`shown`) are those that were there exactly if they are a text (`shown_eq_iff`), and an ASCII byte
stands in what is shown where it stood, with what was before it and behind it shown for itself
(`shown_append_ascii`).
-/
namespace ModuleForge

/-- Whether bytes are those of a text. -/
def ByteString.IsText (bs : ByteString) : Prop := (Text.text? bs).isSome

theorem ByteString.isText_iff {bs : ByteString} : bs.IsText ↔ ∃ s, bs = ByteString.ofText s := by
  simp only [IsText, Option.isSome_iff_exists, Text.text?_eq_some]

theorem ByteString.isText_ofText (s : String) : (ByteString.ofText s).IsText :=
  isText_iff.mpr ⟨s, rfl⟩

namespace Text

variable {bs rest taken more : ByteString} {b low high : UInt8} {n m v w : Nat} {l : Lead}

/-! ## What a character was read from -/

theorem val_ofNat (h : v.isValidChar) : (Char.ofNat v).val.toNat = v := by
  have hsize : v < UInt32.size := by
    rcases h with h | h
    · exact Nat.lt_trans h (by decide)
    · exact Nat.lt_trans h.2 (by decide)
  rw [Char.ofNat, dif_pos h]
  exact UInt32.toNat_ofNatLT

theorem byte_eq (h : b.toNat = n) : UInt8.ofNat n = b := by
  rw [← h, UInt8.ofNat_toNat]

theorem encode_one (hb : b < 0x80) : String.utf8EncodeChar (Char.ofNat b.toNat) = [b] := by
  have hlt : b.toNat < 128 := UInt8.lt_iff_toNat_lt.mp hb
  have hchar : (Char.ofNat b.toNat).toNat = b.toNat := val_ofNat (.inl (by omega))
  rw [encode_ascii (by omega), byte_eq hchar.symm]

theorem encode_two {a b : UInt8} (ha : 0xC2 ≤ a.toNat) (ha' : a.toNat ≤ 0xDF) (hb : 0x80 ≤ b.toNat)
    (hb' : b.toNat ≤ 0xBF) :
    String.utf8EncodeChar (Char.ofNat ((a.toNat - 0xC0) * 64 + (b.toNat - 0x80))) = [a, b] := by
  obtain ⟨v, hv⟩ : ∃ v, v = (a.toNat - 0xC0) * 64 + (b.toNat - 0x80) := ⟨_, rfl⟩
  rw [← hv, String.utf8EncodeChar, val_ofNat (.inl (by omega)), if_neg (by omega),
    if_pos (by omega)]
  rw [byte_eq (b := a) (by omega), byte_eq (b := b) (by omega)]

theorem encode_three {a b c : UInt8} (ha : 0xE0 ≤ a.toNat) (ha' : a.toNat ≤ 0xEF)
    (hb : 0x80 ≤ b.toNat)
    (hb' : b.toNat ≤ 0xBF) (hlow : a.toNat = 0xE0 → 0xA0 ≤ b.toNat)
    (hhigh : a.toNat = 0xED → b.toNat ≤ 0x9F)
    (hc : 0x80 ≤ c.toNat) (hc' : c.toNat ≤ 0xBF) :
    String.utf8EncodeChar
      (Char.ofNat (((a.toNat - 0xE0) * 64 + (b.toNat - 0x80)) * 64 + (c.toNat - 0x80)))
      = [a, b, c] := by
  obtain ⟨v, hv⟩ : ∃ v, v = ((a.toNat - 0xE0) * 64 + (b.toNat - 0x80)) * 64 + (c.toNat - 0x80) :=
    ⟨_, rfl⟩
  -- The two bounds shut out the overlong forms and the surrogates.
  have hvalid : v.isValidChar := by
    unfold Nat.isValidChar
    omega
  rw [← hv, String.utf8EncodeChar, val_ofNat hvalid, if_neg (by omega), if_neg (by omega),
    if_pos (by omega)]
  rw [byte_eq (b := a) (by omega), byte_eq (b := b) (by omega), byte_eq (b := c) (by omega)]

theorem encode_four {a b c d : UInt8} (ha : 0xF0 ≤ a.toNat) (ha' : a.toNat ≤ 0xF4)
    (hb : 0x80 ≤ b.toNat)
    (hb' : b.toNat ≤ 0xBF) (hlow : a.toNat = 0xF0 → 0x90 ≤ b.toNat)
    (hhigh : a.toNat = 0xF4 → b.toNat ≤ 0x8F)
    (hc : 0x80 ≤ c.toNat) (hc' : c.toNat ≤ 0xBF) (hd : 0x80 ≤ d.toNat) (hd' : d.toNat ≤ 0xBF) :
    String.utf8EncodeChar (Char.ofNat
      ((((a.toNat - 0xF0) * 64 + (b.toNat - 0x80)) * 64 + (c.toNat - 0x80)) * 64
        + (d.toNat - 0x80)))
      = [a, b, c, d] := by
  obtain ⟨v, hv⟩ :
      ∃ v, v = (((a.toNat - 0xF0) * 64 + (b.toNat - 0x80)) * 64 + (c.toNat - 0x80)) * 64
      + (d.toNat - 0x80) := ⟨_, rfl⟩
  have hvalid : v.isValidChar := by
    unfold Nat.isValidChar
    omega
  rw [← hv, String.utf8EncodeChar, val_ofNat hvalid, if_neg (by omega), if_neg (by omega),
    if_neg (by omega)]
  rw [byte_eq (b := a) (by omega), byte_eq (b := b) (by omega), byte_eq (b := c) (by omega),
    byte_eq (b := d) (by omega)]

/-- What is taken and what is left are the bytes that were there. -/
theorem following_bytes (h : following n low high v bs = (w, m, taken, more)) :
    bs = taken ++ more := by
  induction bs generalizing n low high v taken with
  | nil => cases n <;> cases h <;> rfl
  | cons c rest ih =>
    cases n with
    | zero => cases h; rfl
    | succ n =>
      rw [following] at h
      split at h
      · cases hrest : following n 0x80 0xBF (v * 64 + (c.toNat - 0x80)) rest with
        | mk w' r =>
          obtain ⟨m', taken', more'⟩ := r
          rw [hrest] at h
          cases h
          rw [ih hrest, List.cons_append]
      · cases h; rfl

/-- A byte that is taken is within its bounds and adds six bits. -/
theorem following_succ (h : following (n + 1) low high v bs = (w, 0, taken, more)) :
    ∃ b rest taken', taken = b :: taken' ∧ low.toNat ≤ b.toNat ∧ b.toNat ≤ high.toNat ∧
      following n 0x80 0xBF (v * 64 + (b.toNat - 0x80)) rest = (w, 0, taken', more) := by
  cases bs with
  | nil => cases h
  | cons b rest =>
    rw [following] at h
    split at h
    · rename_i hb
      cases hrest : following n 0x80 0xBF (v * 64 + (b.toNat - 0x80)) rest with
      | mk w' r =>
        obtain ⟨m', taken', more'⟩ := r
        rw [hrest] at h
        cases h
        exact ⟨b, rest, taken', rfl, UInt8.le_iff_toNat_le.mp hb.1,
          UInt8.le_iff_toNat_le.mp hb.2, hrest⟩
    · cases h

theorem following_none (h : following 0 low high v bs = (w, 0, taken, more)) :
    taken = [] ∧ w = v := by
  rw [following_zero] at h
  cases h
  exact ⟨rfl, rfl⟩

/-- What a first byte promises, by how many bytes follow it. -/
theorem lead?_cases (h : lead? b = some l) :
    (l.following = 1 ∧ 0xC2 ≤ b.toNat ∧ b.toNat ≤ 0xDF ∧ l.payload = b.toNat - 0xC0) ∨
    (l.following = 2 ∧ 0xE0 ≤ b.toNat ∧ b.toNat ≤ 0xEF ∧ l.payload = b.toNat - 0xE0 ∧
      (b.toNat = 0xE0 → 0xA0 ≤ l.low.toNat) ∧ (b.toNat = 0xED → l.high.toNat ≤ 0x9F)) ∨
    (l.following = 3 ∧ 0xF0 ≤ b.toNat ∧ b.toNat ≤ 0xF4 ∧ l.payload = b.toNat - 0xF0 ∧
      (b.toNat = 0xF0 → 0x90 ≤ l.low.toNat) ∧ (b.toNat = 0xF4 → l.high.toNat ≤ 0x8F)) := by
  have hlead := lead?_ofNat b.toNat b.toNat_lt
  rw [UInt8.ofNat_toNat, h] at hlead
  generalize b.toNat = k at hlead ⊢
  -- The last branch is the one without a lead.
  repeat' split at hlead
  all_goals first | (obtain rfl := Option.some.inj hlead; simp; omega) | cases hlead

theorem lead?_bounds (h : lead? b = some l) : 0x80 ≤ l.low.toNat ∧ l.high.toNat ≤ 0xBF := by
  unfold lead? at h
  repeat' split at h
  all_goals first | (obtain rfl := Option.some.inj h; simp) | simp at h

/-- A character of several bytes is encoded by the bytes that it was read from. -/
theorem encode_following (hlead : lead? b = some l)
    (h : following l.following l.low l.high l.payload rest = (w, 0, taken, more)) :
    String.utf8EncodeChar (Char.ofNat w) = b :: taken := by
  obtain ⟨hlow, hhigh⟩ := lead?_bounds hlead
  obtain ⟨hn, hb, hb', hp⟩ | ⟨hn, hb, hb', hp, hfirst, hlast⟩ | ⟨hn, hb, hb', hp, hfirst, hlast⟩ :=
    lead?_cases hlead <;> rw [hn, hp] at h
  · obtain ⟨c, _, t, rfl, hc, hc', h⟩ := following_succ h
    obtain ⟨rfl, hw⟩ := following_none h
    rw [hw]
    exact encode_two hb hb' (by omega) (by omega)
  · obtain ⟨c, _, t, rfl, hc, hc', h⟩ := following_succ h
    obtain ⟨d, _, t, rfl, hd, hd', h⟩ := following_succ h
    obtain ⟨rfl, hw⟩ := following_none h
    rw [hw]
    exact encode_three hb hb' (by omega) (by omega) (by omega) (by omega) hd hd'
  · obtain ⟨c, _, t, rfl, hc, hc', h⟩ := following_succ h
    obtain ⟨d, _, t, rfl, hd, hd', h⟩ := following_succ h
    obtain ⟨e, _, t, rfl, he, he', h⟩ := following_succ h
    obtain ⟨rfl, hw⟩ := following_none h
    rw [hw]
    exact encode_four hb hb' (by omega) (by omega) (by omega) (by omega) hd hd' he he'

theorem Piece.bytes_char (c : Char) : (Piece.char c).bytes = String.utf8EncodeChar c := by
  have h := ByteString.ofText_ofList [c]
  simpa [Piece.bytes] using h

/-- Cut into pieces, bytes are still all there. -/
theorem pieces_bytes (bs : ByteString) : (pieces bs).flatMap Piece.bytes = bs := by
  fun_induction pieces bs with
  | case1 => rfl
  | case2 b rest hb ih =>
    rw [List.flatMap_cons, ih, Piece.bytes_char, encode_one hb, List.singleton_append]
  | case3 b rest hb hlead ih => rw [List.flatMap_cons, ih, Piece.bytes, List.singleton_append]
  | case4 b rest hb l hlead r piece ih =>
    have hrest := following_bytes (rfl : following l.following l.low l.high l.payload rest = r)
    have hpiece : piece.bytes = b :: r.2.2.1 := by
      simp only [piece]
      split
      · rename_i hzero
        rw [Piece.bytes_char]
        exact encode_following hlead (Prod.ext rfl (Prod.ext hzero rfl))
      · rfl
    rw [List.flatMap_cons, ih, hpiece, List.cons_append, ← hrest]

/-! ## What is shown -/

/-- The bytes of the text that shows `bs`. -/
def shown (bs : ByteString) : ByteString := ByteString.ofText (lossy bs)

/-- Bytes are shown as they are exactly if they are a text. -/
theorem shown_eq_iff (bs : ByteString) : shown bs = bs ↔ bs.IsText := by
  rw [ByteString.isText_iff]
  constructor
  · exact fun h => ⟨lossy bs, h.symm⟩
  · rintro ⟨s, rfl⟩
    rw [shown, lossy_ofText]

/-- No character starts with these bytes. -/
theorem lossy_high (hb : 0xF5 ≤ b.toNat) : lossy [b] = "\ufffd" := by
  have hlead : lead? b = none := by
    cases h : lead? b with
    | none => rfl
    | some l => obtain h | h | h := lead?_cases h <;> omega
  have hascii : ¬ b < 0x80 := by
    rw [UInt8.lt_iff_toNat_lt]
    exact Nat.not_lt.mpr (Nat.le_trans (by decide) hb)
  rw [lossy, pieces, if_neg hascii, hlead, pieces]
  rfl

theorem not_isText_high (hb : 0xF5 ≤ b.toNat) : ¬ ByteString.IsText [b] := by
  intro h
  have hshown : shown [b] = [b] := (shown_eq_iff _).mpr h
  rw [shown, lossy_high hb] at hshown
  have hlength : (ByteString.ofText "\ufffd").length = 1 := congrArg List.length hshown
  exact absurd hlength (by decide)

/-- The bytes of what is shown of a piece. -/
def Piece.shown : Piece → ByteString
  | char c => String.utf8EncodeChar c
  | broken _ => String.utf8EncodeChar '\ufffd'

theorem shown_pieces (bs : ByteString) : shown bs = (pieces bs).flatMap Piece.shown := by
  rw [shown, lossy, ByteString.ofText_ofList, List.flatMap_map]
  refine congrArg (fun f => (pieces bs).flatMap f) (funext fun piece => ?_)
  cases piece <;> rfl

/-- No byte of the mark for what is broken is ASCII. -/
theorem mark_bytes : ∀ b ∈ String.utf8EncodeChar '\ufffd', ¬ b < 0x80 := by
  have hmark : String.utf8EncodeChar '\ufffd' = [0xEF, 0xBF, 0xBD] := rfl
  simp [hmark]

/-- An ASCII byte that is shown is one of the bytes. -/
theorem mem_of_mem_shown (hb : b < 0x80) (h : b ∈ shown bs) : b ∈ bs := by
  rw [shown_pieces] at h
  obtain ⟨piece, hpiece, hmem⟩ := List.mem_flatMap.mp h
  rw [← pieces_bytes bs]
  refine List.mem_flatMap.mpr ⟨piece, hpiece, ?_⟩
  cases piece with
  | char c => rwa [Piece.bytes_char]
  | broken bytes => exact absurd hb (mark_bytes b hmem)

/-- An ASCII byte follows nothing: what is taken ends before it. -/
theorem following_append {a c : ByteString} (hb : b < 0x80) (hlow : 0x80 ≤ low.toNat)
    (h : following n low high v a = (w, m, taken, more)) :
    following n low high v (a ++ b :: c) = (w, m, taken, more ++ b :: c) := by
  induction a generalizing n low high v taken with
  | nil =>
    cases n with
    | zero => cases h; rfl
    | succ n =>
      have hstop : ¬ (low ≤ b ∧ b ≤ high) := by
        have hlt : b.toNat < 0x80 := UInt8.lt_iff_toNat_lt.mp hb
        rw [UInt8.le_iff_toNat_le]
        omega
      cases h
      rw [List.nil_append, following, if_neg hstop]
  | cons d rest ih =>
    cases n with
    | zero => cases h; rfl
    | succ n =>
      rw [following] at h
      rw [List.cons_append, following]
      split at h
      · rename_i hd
        cases hrest : following n 0x80 0xBF (v * 64 + (d.toNat - 0x80)) rest with
        | mk w' r =>
          obtain ⟨m', taken', more'⟩ := r
          rw [hrest] at h
          cases h
          rw [if_pos hd, ih (by decide) hrest]
      · rename_i hd
        cases h
        rw [if_neg hd]
        rfl

/-- An ASCII byte is a piece of its own wherever it stands. -/
theorem pieces_append_ascii (hb : b < 0x80) (a c : ByteString) :
    pieces (a ++ b :: c) = pieces a ++ .char (Char.ofNat b.toNat) :: pieces c := by
  fun_induction pieces a with
  | case1 => rw [List.nil_append, pieces, if_pos hb, List.nil_append]
  | case2 d rest hd ih => rw [List.cons_append, pieces, if_pos hd, ih, List.cons_append]
  | case3 d rest hd hlead ih =>
    rw [List.cons_append, pieces, if_neg hd, hlead, ih, List.cons_append]
  | case4 d rest hd l hlead r piece ih =>
    have hrest := following_append (c := c) hb (lead?_bounds hlead).1
      (rfl : following l.following l.low l.high l.payload rest = r)
    rw [List.cons_append, pieces, if_neg hd, hlead]
    dsimp only
    rw [hrest, ih]
    rfl

/-- What stands before an ASCII byte and what stands behind it are shown for themselves. -/
theorem shown_append_ascii (hb : b < 0x80) (a c : ByteString) :
    shown (a ++ b :: c) = shown a ++ b :: shown c := by
  simp only [shown_pieces, pieces_append_ascii hb, List.flatMap_append, List.flatMap_cons,
    Piece.shown, encode_one hb, List.singleton_append]

theorem shown_of_ascii (h : ∀ b ∈ bs, b < 0x80) : shown bs = bs := by
  induction bs with
  | nil => rw [shown_pieces, pieces, List.flatMap_nil]
  | cons b rest ih =>
    obtain ⟨hb, hrest⟩ := List.forall_mem_cons.mp h
    have hcons := shown_append_ascii hb [] rest
    rwa [ih hrest, shown_pieces [], pieces, List.flatMap_nil] at hcons

/-- Nothing else is shown as an ASCII text than that text. -/
theorem shown_eq_ascii {as : ByteString} (h : ∀ b ∈ as, b < 0x80) : shown bs = as ↔ bs = as := by
  constructor
  · rintro rfl
    -- What is shown holds no mark, so nothing was broken.
    have hsame : (pieces bs).flatMap Piece.shown = (pieces bs).flatMap Piece.bytes := by
      refine List.flatMap_congr fun piece hpiece => ?_
      cases piece with
      | char c => exact (Piece.bytes_char c).symm
      | broken bytes =>
        have hmark : (0xEF : UInt8) ∈ shown bs := by
          rw [shown_pieces]
          exact List.mem_flatMap.mpr ⟨_, hpiece, List.mem_cons_self ..⟩
        exact absurd (h _ hmark) (by decide)
    rw [shown_pieces, hsame, pieces_bytes]
  · rintro rfl
    exact shown_of_ascii h

end Text
end ModuleForge
