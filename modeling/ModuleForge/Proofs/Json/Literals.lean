import ModuleForge.Proofs.Json.Tokens

/-!
# Strings and numbers in JSON texts

What stands between the quotes of a written string is escaped character by character (`Inside`);
reading it gives the string back (`readString_written`), whatever characters it has, and skipping
leads just as far. A whole number is read to its last digit if it has 64 bits
(`readNumber_written`), and skipped in any case.
-/
namespace ModuleForge.Json

/-! ## Strings -/

/-- The bytes of characters. -/
def encoded (cs : List Char) : ByteString := cs.flatMap String.utf8EncodeChar

/-- What stands between the quotes of a string, beside the bytes that it means. -/
inductive Inside : ByteString → ByteString → Prop where
  | nil : Inside [] []
  | byte {b : UInt8} {text bytes : ByteString} (plain : b ≠ 34 ∧ b ≠ 92 ∧ ¬ b < 32)
    (rest : Inside text bytes) :
      Inside (b :: text) (b :: bytes)
  | escape {b : UInt8} {ch : Char} {text bytes : ByteString}
      (means : plainEscape (Char.ofNat b.toNat) = some ch) (rest : Inside text bytes) :
      Inside (92 :: b :: text) (UInt8.ofNat ch.toNat :: bytes)
  | code {x y : UInt8} {n m : Nat} {text bytes : ByteString} (high : hexValue x = some n)
      (low : hexValue y = some m) (rest : Inside text bytes) :
      Inside (92 :: 117 :: 48 :: 48 :: x :: y :: text) (encoded [Char.ofNat (n * 16 + m)] ++ bytes)

theorem hexValue_lt {b : UInt8} {n : Nat} (h : hexValue b = some n) : n < 16 := by
  unfold hexValue at h
  grind

/-- The letter `u` is no plain escape. -/
theorem ne_of_plainEscape {b : UInt8} {ch : Char} (h : plainEscape (Char.ofNat b.toNat) = some ch) :
    Char.ofNat b.toNat ≠ 'u' := by
  intro heq
  rw [heq] at h
  cases h

theorem readHex_code {x y : UInt8} {n m : Nat} (hx : hexValue x = some n) (hy : hexValue y = some m)
    {c : Cursor} {rest : ByteString} (h : c.rest = 48 :: 48 :: x :: y :: rest) :
    ∃ c', readHex c = .ok (n * 16 + m, c') ∧ c'.rest = rest := by
  have hzero : hexValue 48 = some 0 := by decide
  refine ⟨c.advanceBy 4, ?_, by rw [Cursor.rest_advanceBy, h]; rfl⟩
  simp only [readHex, h, hzero, hx, hy]
  simp

theorem readUnicode_code {x y : UInt8} {n m : Nat} (hx : hexValue x = some n)
    (hy : hexValue y = some m)
    {c : Cursor} {rest : ByteString} (h : c.rest = 48 :: 48 :: x :: y :: rest) :
    ∃ c', readUnicode c = .ok (Char.ofNat (n * 16 + m), c') ∧ c'.rest = rest := by
  obtain ⟨c', hread, hrest⟩ := readHex_code hx hy h
  have hn := hexValue_lt hx
  have hm := hexValue_lt hy
  refine ⟨c', ?_, hrest⟩
  unfold readUnicode
  rw [hread]
  show (if _ then _ else if _ then _ else _) = _
  rw [if_neg (by omega), if_pos (by omega)]
  rfl

/-- Reading the inside of a string gives the bytes that it means. -/
theorem readStringFrom_inside {text bytes : ByteString} (h : Inside text bytes) {c : Cursor}
    {rest : ByteString} (hrest : c.rest = text ++ 34 :: rest) (seen : ByteString) {fuel : Nat}
    (hfuel : text.length < fuel) :
    ∃ c', readStringFrom seen c fuel = .ok (seen.reverse ++ bytes, c') ∧ c'.rest = rest := by
  induction h generalizing c seen fuel with
  | nil =>
    obtain ⟨fuel, rfl⟩ := Nat.exists_eq_add_one.mpr (Nat.zero_lt_of_lt hfuel)
    rw [List.nil_append] at hrest
    exact ⟨c.advance, by simp [readStringFrom, hrest], by simp [hrest]⟩
  | @byte b text bytes plain _ ih =>
    obtain ⟨fuel, rfl⟩ := Nat.exists_eq_add_one.mpr (Nat.zero_lt_of_lt hfuel)
    obtain ⟨c', hread, hrest'⟩ := ih (c := c.advance) (by simp [hrest]) (b :: seen)
      (Nat.lt_of_succ_lt_succ hfuel)
    refine ⟨c', ?_, hrest'⟩
    simp only [readStringFrom, hrest, List.cons_append, if_neg plain.1, if_neg plain.2.1,
      if_neg plain.2.2]
    rw [hread, List.reverse_cons, List.append_assoc, List.singleton_append]
  | @escape b ch text bytes means _ ih =>
    obtain ⟨fuel, rfl⟩ := Nat.exists_eq_add_one.mpr (Nat.zero_lt_of_lt hfuel)
    have hnext : c.advance.rest = b :: (text ++ 34 :: rest) := by simp [hrest]
    have hshorter : text.length < fuel := by
      simp only [List.length_cons] at hfuel
      omega
    obtain ⟨c', hread, hrest'⟩ :=
      ih (c := c.advance.advance) (by simp [hrest]) (UInt8.ofNat ch.toNat :: seen)
      hshorter
    refine ⟨c', ?_, hrest'⟩
    simp only [readStringFrom, hrest, List.cons_append, Cursor.atEnd_cons hnext,
      Cursor.peek_cons hnext, if_neg (ne_of_plainEscape means), means]
    simpa using hread
  | @code x y n m text bytes high low _ ih =>
    obtain ⟨fuel, rfl⟩ := Nat.exists_eq_add_one.mpr (Nat.zero_lt_of_lt hfuel)
    have hnext : c.advance.rest = 117 :: 48 :: 48 :: x :: y :: (text ++ 34 :: rest) := by
      simp [hrest]
    have hdigits : c.advance.advance.rest = 48 :: 48 :: x :: y :: (text ++ 34 :: rest) := by
      simp [hrest]
    have hshorter : text.length < fuel := by
      simp only [List.length_cons] at hfuel
      omega
    obtain ⟨d, hcode, hd⟩ := readUnicode_code high low hdigits
    obtain ⟨c', hread, hrest'⟩ :=
      ih hd ((encoded [Char.ofNat (n * 16 + m)]).reverse ++ seen) hshorter
    refine ⟨c', ?_, hrest'⟩
    have hbytes : ByteString.ofText (Char.ofNat (n * 16 + m)).toString
        = encoded [Char.ofNat (n * 16 + m)] :=
      ByteString.ofText_ofList [Char.ofNat (n * 16 + m)]
    have hu : Char.ofNat (117 : UInt8).toNat = 'u' := by decide
    simp only [readStringFrom, hrest, List.cons_append, Cursor.atEnd_cons hnext,
      Cursor.peek_cons hnext, hu]
    rw [if_neg (by decide), if_pos trivial, if_neg Bool.false_ne_true, if_pos trivial, hcode]
    show readStringFrom ((ByteString.ofText _).reverse ++ seen) d fuel = _
    rw [hbytes, hread]
    simp

/-- Passing over the inside of a string leads behind its quote. -/
theorem skipString_inside {text bytes : ByteString} (h : Inside text bytes) {c : Cursor}
    {rest : ByteString} (hrest : c.rest = text ++ 34 :: rest) {fuel : Nat}
    (hfuel : text.length < fuel) :
    ∃ c', skipString c fuel = .ok c' ∧ c'.rest = rest := by
  induction h generalizing c fuel with
  | nil =>
    obtain ⟨fuel, rfl⟩ := Nat.exists_eq_add_one.mpr (Nat.zero_lt_of_lt hfuel)
    rw [List.nil_append] at hrest
    exact ⟨c.advance, by simp [skipString, hrest], by simp [hrest]⟩
  | @byte b text bytes plain _ ih =>
    obtain ⟨fuel, rfl⟩ := Nat.exists_eq_add_one.mpr (Nat.zero_lt_of_lt hfuel)
    obtain ⟨c', hskip, hrest'⟩ :=
      ih (c := c.advance) (by simp [hrest]) (Nat.lt_of_succ_lt_succ hfuel)
    refine ⟨c', ?_, hrest'⟩
    simp only [skipString, hrest, List.cons_append, if_neg plain.1, if_neg plain.2.1,
      if_neg plain.2.2]
    exact hskip
  | @escape b ch text bytes means _ ih =>
    obtain ⟨fuel, rfl⟩ := Nat.exists_eq_add_one.mpr (Nat.zero_lt_of_lt hfuel)
    have hnext : c.advance.rest = b :: (text ++ 34 :: rest) := by simp [hrest]
    have hshorter : text.length < fuel := by
      simp only [List.length_cons] at hfuel
      omega
    obtain ⟨c', hskip, hrest'⟩ := ih (c := c.advance.advance) (by simp [hrest]) hshorter
    refine ⟨c', ?_, hrest'⟩
    simp only [skipString, hrest, List.cons_append, Cursor.atEnd_cons hnext, Cursor.peek_cons hnext,
      if_neg (ne_of_plainEscape means), means]
    simpa using hskip
  | @code x y n m text bytes high low _ ih =>
    obtain ⟨fuel, rfl⟩ := Nat.exists_eq_add_one.mpr (Nat.zero_lt_of_lt hfuel)
    have hnext : c.advance.rest = 117 :: 48 :: 48 :: x :: y :: (text ++ 34 :: rest) := by
      simp [hrest]
    have hdigits : c.advance.advance.rest = 48 :: 48 :: x :: y :: (text ++ 34 :: rest) := by
      simp [hrest]
    have hshorter : text.length < fuel := by
      simp only [List.length_cons] at hfuel
      omega
    obtain ⟨d, hcode, hd⟩ := readHex_code high low hdigits
    obtain ⟨c', hskip, hrest'⟩ := ih hd hshorter
    refine ⟨c', ?_, hrest'⟩
    have hu : Char.ofNat (117 : UInt8).toNat = 'u' := by decide
    simp only [skipString, hrest, List.cons_append, Cursor.atEnd_cons hnext,
      Cursor.peek_cons hnext, hu]
    rw [if_neg (by decide), if_pos trivial, if_neg Bool.false_ne_true, if_pos trivial, hcode]
    exact hskip

/-- Whether characters are the escape of a control character. -/
def escapesControl (n : Nat) : List Char → Bool
  | ['\\', x] => x.toNat < 128 && plainEscape x == some (Char.ofNat n)
  | ['\\', 'u', '0', '0', x, y] => x.toNat < 128 && y.toNat < 128 &&
    (hexValue (UInt8.ofNat x.toNat)).bind (fun high =>
      (hexValue (UInt8.ofNat y.toNat)).map fun low => high * 16 + low) == some n
  | _ => false

theorem escape_control : ∀ n < 32, escapesControl n (escape (Char.ofNat n)) = true := by
  decide

/-- The bytes of other characters than quotes, backslashes and control characters are none of
these. -/
theorem plain_of_mem_encode {c : Char} (hquote : c.toNat ≠ 34) (hback : c.toNat ≠ 92)
    (hcontrol : ¬ c.toNat < 32)
    {b : UInt8} (hb : b ∈ String.utf8EncodeChar c) : b ≠ 34 ∧ b ≠ 92 ∧ ¬ b < 32 := by
  have hvalue : c.val.toNat = c.toNat := rfl
  rw [String.utf8EncodeChar, hvalue] at hb
  simp only [ne_eq, ← UInt8.toNat_inj, UInt8.lt_iff_toNat_lt]
  have hplain {n : Nat} (hn : n < 256) (hne : n ≠ 34 ∧ n ≠ 92 ∧ ¬ n < 32) (h : b = UInt8.ofNat n) :
      b.toNat ≠ 34 ∧ b.toNat ≠ 92 ∧ ¬ b.toNat < 32 := by
    rw [h, UInt8.toNat_ofNat_of_lt' hn]
    exact hne
  split at hb
  · exact hplain (by omega) (by omega) (List.mem_singleton.mp hb)
  · -- all bytes of a longer character have their highest bit set
    have hhigh {n : Nat} (hlow : 128 ≤ n) (hn : n < 256) (h : b = UInt8.ofNat n) :
        b.toNat ≠ 34 ∧ b.toNat ≠ 92 ∧ ¬ b.toNat < 32 := hplain hn (by omega) h
    split at hb
    · simp only [List.mem_cons, List.not_mem_nil, or_false] at hb
      rcases hb with h | h <;> exact hhigh (by omega) (by omega) h
    split at hb
    · simp only [List.mem_cons, List.not_mem_nil, or_false] at hb
      rcases hb with h | h | h <;> exact hhigh (by omega) (by omega) h
    · simp only [List.mem_cons, List.not_mem_nil, or_false] at hb
      rcases hb with h | h | h | h <;> exact hhigh (by omega) (by omega) h

theorem Inside.append_plain {front text bytes : ByteString}
    (hfront : ∀ b ∈ front, b ≠ 34 ∧ b ≠ 92 ∧ ¬ b < 32)
    (h : Inside text bytes) : Inside (front ++ text) (front ++ bytes) := by
  induction front with
  | nil => exact h
  | cons b front ih => exact .byte (hfront b (by simp)) (ih fun b hb => hfront b (by simp [hb]))

theorem inside_escape_control {c : Char} (hcontrol : c.toNat < 32) {text bytes : ByteString}
    (h : Inside text bytes) : Inside (encoded (escape c) ++ text) (encoded [c] ++ bytes) := by
  have hc : Char.ofNat c.toNat = c := Char.ofNat_toNat c
  have hbyte {x : Char} (hx : x.toNat < 128) : Char.ofNat (UInt8.ofNat x.toNat).toNat = x := by
    rw [UInt8.toNat_ofNat_of_lt' (by show x.toNat < 256; omega), Char.ofNat_toNat]
  have hescapes := escape_control c.toNat hcontrol
  rw [hc] at hescapes
  unfold escapesControl at hescapes
  split at hescapes
  · rename_i x heq
    simp only [Bool.and_eq_true, decide_eq_true_eq, beq_iff_eq] at hescapes
    obtain ⟨hx, hmeans⟩ := hescapes
    have htext : encoded ['\\', x] = [92, UInt8.ofNat x.toNat] := by
      simp [encoded, Text.encode_ascii hx]
      rfl
    have hself : encoded [c] = [UInt8.ofNat c.toNat] := by
      simp [encoded, Text.encode_ascii (Nat.lt_trans hcontrol (by decide))]
    rw [heq, htext, hself]
    exact .escape (by rw [hbyte hx, hmeans, hc]) h
  · rename_i x y heq
    simp only [Bool.and_eq_true, decide_eq_true_eq, beq_iff_eq] at hescapes
    obtain ⟨⟨hx, hy⟩, hmeans⟩ := hescapes
    obtain ⟨high, hhigh, low, hlow, hcode⟩ : ∃ high, hexValue (UInt8.ofNat x.toNat) = some high ∧
        ∃ low, hexValue (UInt8.ofNat y.toNat) = some low ∧ high * 16 + low = c.toNat := by
      simpa [Option.bind_eq_some_iff] using hmeans
    have htext : encoded ['\\', 'u', '0', '0', x, y]
        = [92, 117, 48, 48, UInt8.ofNat x.toNat, UInt8.ofNat y.toNat] := by
      simp [encoded, Text.encode_ascii hx, Text.encode_ascii hy]
      rfl
    have hinside := Inside.code hhigh hlow h
    rw [hcode, hc] at hinside
    rw [heq, htext]
    exact hinside
  · cases hescapes

/-- A character in its escaped form means the bytes of the character. -/
theorem inside_escape (c : Char) {text bytes : ByteString} (h : Inside text bytes) :
    Inside (encoded (escape c) ++ text) (encoded [c] ++ bytes) := by
  by_cases hcontrol : c.toNat < 32
  · exact inside_escape_control hcontrol h
  by_cases hquote : c = '"'
  · subst hquote
    exact .escape (b := 34) rfl h
  by_cases hback : c = '\\'
  · subst hback
    exact .escape (b := 92) rfl h
  have hself : escape c = [c] := by
    unfold escape
    split <;> simp_all
  rw [hself]
  refine h.append_plain fun b hb => ?_
  rw [encoded, List.flatMap_singleton] at hb
  exact plain_of_mem_encode (fun h => hquote (Char.toNat_inj.mp h))
    (fun h => hback (Char.toNat_inj.mp h)) hcontrol hb

/-- What stands between the quotes of a written string. -/
def inside (s : String) : ByteString := encoded (s.toList.flatMap escape)

theorem ofText_writeString (s : String) :
    ByteString.ofText (writeString s) = 34 :: (inside s ++ [34]) := by
  rw [writeString, ByteString.ofText_ofList, List.cons_append, List.flatMap_cons,
    List.flatMap_append]
  rfl

theorem inside_written (s : String) : Inside (inside s) (ByteString.ofText s) := by
  rw [inside, ← String.ofList_toList (s := s), ByteString.ofText_ofList, String.toList_ofList]
  induction s.toList with
  | nil => exact .nil
  | cons c cs ih =>
    simpa [encoded] using inside_escape c ih

theorem readString_written {s : String} {c : Cursor} {rest : ByteString}
    (h : c.rest = inside s ++ 34 :: rest) :
    ∃ c', readString c = .ok (s, c') ∧ c'.rest = rest := by
  have hfuel : (inside s).length < c.rest.length + 1 := by
    rw [h, List.length_append]
    omega
  obtain ⟨c', hread, hrest⟩ := readStringFrom_inside (inside_written s) h [] hfuel
  refine ⟨c', ?_, hrest⟩
  rw [readString, hread]
  show Except.ok (Text.lossy (ByteString.ofText s), c') = _
  rw [Text.lossy_ofText]

theorem skipString_written {s : String} {c : Cursor} {rest : ByteString}
    (h : c.rest = inside s ++ 34 :: rest)
    {fuel : Nat} (hfuel : c.rest.length < fuel) : ∃ c', skipString c fuel = .ok c' ∧
      c'.rest = rest :=
  skipString_inside (inside_written s) h (by rw [h, List.length_append] at hfuel; omega)

/-! ## Numbers -/

/-- The digits of a number in bytes. -/
def digitBytes (n : Nat) : ByteString := (Nat.toDigits 10 n).map fun c => UInt8.ofNat c.toNat

theorem digit_of_mem_toDigits {n : Nat} {c : Char} (h : c ∈ Nat.toDigits 10 n) :
    48 ≤ c.toNat ∧ c.toNat ≤ 57 ∧ (UInt8.ofNat c.toNat).toNat = c.toNat := by
  have hdigit := Nat.isDigit_of_mem_toDigits (by decide) (by decide) h
  have hrange : 48 ≤ c.toNat ∧ c.toNat ≤ 57 := by
    simpa [Char.isDigit, UInt32.le_iff_toNat_le] using hdigit
  exact ⟨hrange.1, hrange.2, UInt8.toNat_ofNat_of_lt' (by show c.toNat < 256; omega)⟩

theorem isDigit_of_mem_digitBytes {n : Nat} {b : UInt8} (h : b ∈ digitBytes n) :
    isDigit b = true := by
  obtain ⟨c, hc, rfl⟩ := List.mem_map.mp h
  obtain ⟨hlow, hhigh, hbyte⟩ := digit_of_mem_toDigits hc
  simp only [isDigit, UInt8.le_iff_toNat_le, Bool.and_eq_true, decide_eq_true_eq, hbyte]
  exact ⟨hlow, hhigh⟩

theorem encoded_ascii {cs : List Char} (h : ∀ c ∈ cs, c.toNat < 128) :
    encoded cs = cs.map fun c => UInt8.ofNat c.toNat := by
  induction cs with
  | nil => rfl
  | cons c cs ih =>
    rw [encoded, List.flatMap_cons, Text.encode_ascii (h c (by simp))]
    exact congrArg (_ :: ·) (ih fun c hc => h c (by simp [hc]))

theorem ofText_toString (n : Nat) : ByteString.ofText (toString n) = digitBytes n := by
  have hdigits : (toString n).toList = Nat.toDigits 10 n := by simp
  rw [← String.ofList_toList (s := toString n), ByteString.ofText_ofList, hdigits]
  exact encoded_ascii fun c hc => Nat.lt_of_le_of_lt (digit_of_mem_toDigits hc).2.1 (by decide)

/-- Only zero starts with the digit zero. -/
theorem head_digitBytes (n : Nat) : ∃ b rest, digitBytes n = b :: rest ∧ (b = 48 → n = 0) := by
  induction n using Nat.strongRecOn with
  | ind n ih =>
    have hdigit : ∀ d < 10, UInt8.ofNat (Nat.digitChar d).toNat = 48 → d = 0 := by decide
    by_cases hn : n < 10
    · exact ⟨_, [], by rw [digitBytes, Nat.toDigits_of_lt_base hn]; rfl, hdigit n hn⟩
    · obtain ⟨b, rest, hdigits, hzero⟩ := ih (n / 10) (by omega)
      refine ⟨b, rest ++ [UInt8.ofNat (Nat.digitChar (n % 10)).toNat], ?_, fun hb => ?_⟩
      · rw [digitBytes, Nat.toDigits_of_base_le (by decide) (by omega), List.map_append]
        exact congrArg (· ++ _) hdigits
      · have := hzero hb
        omega

theorem le_foldl_digits (n : Nat) (ds : List Nat) : n ≤ ds.foldl (fun n d => n * 10 + d) n := by
  induction ds generalizing n with
  | nil => exact Nat.le_refl n
  | cons d ds ih => exact Nat.le_trans (by omega) (ih (n * 10 + d))

theorem takeDigits_eq {n : Nat} {ds : List Nat}
    (h : ds.foldl (fun n d => n * 10 + d) n ≤ maxNatural) :
    takeDigits n ds = (ds.foldl (fun n d => n * 10 + d) n, ds.length) := by
  induction ds generalizing n with
  | nil => rfl
  | cons d ds ih =>
    have hfits : n * 10 + d ≤ maxNatural := Nat.le_trans (le_foldl_digits _ ds) h
    rw [takeDigits, if_neg (Nat.not_lt.mpr hfits), ih h]
    rfl

theorem takeDigits_digitBytes {n : Nat} (h : n < 2 ^ 64) :
    takeDigits 0 ((digitBytes n).map fun b => b.toNat - 48) = (n, (digitBytes n).length) := by
  have hvalue : ((digitBytes n).map fun b => b.toNat - 48).foldl (fun n d => n * 10 + d) 0 = n := by
    have hdigits : ((digitBytes n).map fun b => b.toNat - 48) = (Nat.toDigits 10 n).map fun c =>
        c.toNat - 48 := by
      rw [digitBytes, List.map_map]
      exact List.map_congr_left fun c hc => congrArg (· - 48) (digit_of_mem_toDigits hc).2.2
    calc ((digitBytes n).map fun b => b.toNat - 48).foldl (fun n d => n * 10 + d) 0
      _ = Nat.ofDigitChars 10 (Nat.toDigits 10 n) 0 := by
        rw [hdigits, List.foldl_map, Nat.ofDigitChars]
        simp [Nat.mul_comm]
      _ = n := Nat.ofDigitChars_ten_toDigits
  rw [takeDigits_eq (by rw [hvalue, maxNatural]; omega), hvalue, List.length_map]

/-- What may stand behind a number: a blank, a mark behind a value, or nothing. -/
def Stops (rest : ByteString) : Prop :=
  ∀ b ∈ rest.head?, isSpace b = true ∨ b = 44 ∨ b = 93 ∨ b = 125

theorem Stops.head {rest : ByteString} (h : Stops rest) {b : UInt8} (hb : b ∈ rest.head?) :
    isDigit b = false ∧ Char.ofNat b.toNat ≠ '.' ∧ Char.ofNat b.toNat ≠ 'e' ∧
      Char.ofNat b.toNat ≠ 'E' := by
  have hcases := h b hb
  simp only [isSpace, Bool.or_eq_true, beq_iff_eq] at hcases
  rcases hcases with (((rfl | rfl) | rfl) | rfl) | rfl | rfl | rfl <;> decide

theorem Stops.peek {c : Cursor} (h : Stops c.rest) : c.peek ≠ '.' ∧ c.peek ≠ 'e' ∧
    c.peek ≠ 'E' := by
  unfold Cursor.peek
  cases hrest : c.rest with
  | nil => decide
  | cons b rest => exact (h.head (by rw [hrest]; rfl)).2

theorem Stops.takeWhile {front rest : ByteString} (hfront : ∀ b ∈ front, isDigit b = true)
    (h : Stops rest) :
    (front ++ rest).takeWhile isDigit = front ∧ (front ++ rest).dropWhile isDigit = rest := by
  rw [List.takeWhile_append_of_pos hfront, List.dropWhile_append_of_pos hfront]
  cases rest with
  | nil => simp
  | cons b rest =>
    have hb : ¬ isDigit b = true := by simp [(h.head (b := b) rfl).1]
    rw [List.takeWhile_cons_of_neg hb, List.dropWhile_cons_of_neg hb, List.append_nil]
    exact ⟨rfl, rfl⟩

/-- The digits at a cursor: the first is no digit zero before others, and behind the last the number
stops. -/
theorem digits_at {n : Nat} {c : Cursor} {rest : ByteString} (h : c.rest = digitBytes n ++ rest)
    (stops : Stops rest) :
    ∃ b more, c.rest = b :: more ∧ isDigit b = true ∧
      (decide (b = 48) && (c.advance.rest.head?.map isDigit).getD false) = false ∧
      (b = 48 → c.advance.rest = rest) ∧ (skipDigits c).rest = rest ∧
      digitsAt c = (digitBytes n).map fun b => b.toNat - 48 := by
  obtain ⟨b, front, hdigits, hzero⟩ := head_digitBytes n
  obtain ⟨htake, hdrop⟩ := stops.takeWhile fun b hb => isDigit_of_mem_digitBytes (n := n) hb
  have hadvance : b = 48 → c.advance.rest = rest := by
    intro hb
    obtain rfl := hzero hb
    rw [Cursor.rest_advance, h]
    rfl
  refine ⟨b, front ++ rest,
    by rw [h, hdigits]; rfl, isDigit_of_mem_digitBytes (n := n) (by simp [hdigits]), ?_,
    hadvance, by rw [rest_skipDigits, h, hdrop], by rw [digitsAt, h, htake]⟩
  by_cases hb : b = 48
  · rw [hadvance hb]
    cases hrest : rest.head? with
    | none => simp
    | some x => simp [(stops.head hrest).1]
  · simp [hb]

theorem readNumber_written {n : Nat} (hn : n < 2 ^ 64) {c : Cursor} {rest : ByteString}
    (h : c.rest = digitBytes n ++ rest) (stops : Stops rest) :
    ∃ c', readNumber false c = .ok (.whole n, c') ∧ c'.rest = rest := by
  obtain ⟨b, more, hcons, hdigit, hlead, -, hskip, hdigits⟩ := digits_at h stops
  refine ⟨skipDigits c, ?_, hskip⟩
  have hpeek := Stops.peek (c := skipDigits c) (by rwa [hskip])
  simp only [readNumber, hcons, hdigit, hlead, hdigits, takeDigits_digitBytes hn]
  simp [hpeek]
  rfl

theorem skipNumber_written {n : Nat} {c : Cursor} {rest : ByteString}
    (h : c.rest = digitBytes n ++ rest)
    (stops : Stops rest) : ∃ c', skipNumber c = .ok c' ∧ c'.rest = rest := by
  obtain ⟨b, more, hcons, hdigit, hlead, hzero, hskip, -⟩ := digits_at h stops
  have hbehind : (if b = 48 then c.advance else skipDigits c).rest = rest := by
    split
    · exact hzero ‹_›
    · exact hskip
  refine ⟨_, ?_, hbehind⟩
  have hpeek := Stops.peek (c := if b = 48 then c.advance else skipDigits c) (by rwa [hbehind])
  simp only [skipNumber, hcons, hdigit, hlead]
  simp [hpeek]

end ModuleForge.Json
