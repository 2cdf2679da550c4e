import Std.Data.String.ToInt
import ModuleForge.WaitStatus

/-!
# What status words tell

A status word tells how a process ended in two fields, the signal in bits 0 to 6 and the exit code
in bits 8 to 15, and what it tells is read off these fields alone (`ofWord_eq`). The tests by which
systems define the words come to the same (`ofWord_eq_tested`). `words_classified` says what follows
for all words: each has a code or a signal and not both, only a word without either field is a
success, words of codes and of signals are read back, and the code -1 is left to words that tell no
end. No two ends are shown alike (`message_inj`).
-/
namespace ModuleForge.WaitStatus

variable {word other : BitVec 32}

/-! ## Fields -/

/-- The field of the signal. -/
def signalField (word : BitVec 32) : BitVec 7 := word.extractLsb' 0 7

/-- The field of the exit code. -/
def codeField (word : BitVec 32) : BitVec 8 := word.extractLsb' 8 8

theorem toNat_signalField (word : BitVec 32) : (signalField word).toNat = word.toNat % 128 := by
  simp [signalField]

theorem toNat_codeField (word : BitVec 32) : (codeField word).toNat = word.toNat / 256 % 256 := by
  simp [codeField, Nat.shiftRight_eq_div_pow]

theorem signalField_eq_iff (field : BitVec 7) : signalField word = field ↔
    word.toNat % 128 = field.toNat := by
  rw [← BitVec.toNat_inj, toNat_signalField]

theorem ofWord_eq (word : BitVec 32) : ofWord word =
    if signalField word = 0 then exited (codeField word).toNat
    else if signalField word = BitVec.allOnes 7 then exited (-1)
    else signaled (signalField word).toNat := by
  simp only [signalField_eq_iff, toNat_codeField, toNat_signalField]
  rfl

/-! ## Bits -/

/-- Words have a field in common exactly if they have its bits in common. -/
theorem extract_eq_iff {start len : Nat} :
    word.extractLsb' start len = other.extractLsb' start len ↔
    ∀ i < len, word.getLsbD (start + i) = other.getLsbD (start + i) := by
  rw [BitVec.eq_of_getLsbD_eq_iff]
  refine forall₂_congr fun i hi => ?_
  rw [BitVec.getLsbD_extractLsb', BitVec.getLsbD_extractLsb', decide_eq_true hi, Bool.true_and,
    Bool.true_and]

/-- The fields are the bits below 16 but the one that tells of a core. -/
theorem fields_eq_iff : signalField word = signalField other ∧ codeField word = codeField other ↔
    ∀ i < 16, i ≠ 7 → word.getLsbD i = other.getLsbD i := by
  rw [signalField, signalField, codeField, codeField, extract_eq_iff, extract_eq_iff]
  constructor
  · rintro ⟨hsignal, hcode⟩ i hi hcore
    rcases Nat.lt_or_gt_of_ne hcore with hlow | hhigh
    · have hbit := hsignal i hlow
      rwa [Nat.zero_add] at hbit
    · obtain ⟨j, rfl⟩ := Nat.exists_eq_add_of_le hhigh
      exact hcode j (by omega)
  · intro h
    exact ⟨fun i hi => h _ (by omega) (by omega), fun i hi => h _ (by omega) (by omega)⟩

theorem fields_clear_iff : signalField word = 0 ∧ codeField word = 0 ↔
    ∀ i < 16, i ≠ 7 → word.getLsbD i = false := by
  have h := @fields_eq_iff word 0#32
  simp only [BitVec.getLsbD_zero] at h
  exact h

theorem signalField_full_iff : signalField word = BitVec.allOnes 7 ↔ ∀ i < 7,
    word.getLsbD i = true := by
  have h := @extract_eq_iff word (BitVec.allOnes 32) 0 7
  refine h.trans (forall₂_congr fun i hi => ?_)
  rw [Nat.zero_add, BitVec.getLsbD_allOnes, decide_eq_true (show i < 32 by omega)]

/-! ## The tests of systems -/

/-- The exit code, if the signal bits are clear. -/
def testedCode? (word : BitVec 32) : Option Int :=
  if word &&& 0x7f#32 = 0 then some (word.sshiftRight 8 &&& 0xff#32).toInt else none

/-- The signal, if the signal bits and one are, as a signed byte, two or more. -/
def testedSignal? (word : BitVec 32) : Option Int :=
  if 2 ≤ (((word &&& 0x7f#32) + 1#32).setWidth 8).toInt then some (word &&& 0x7f#32).toInt else none

theorem and_mask (x : BitVec 32) (len : Nat) :
    x &&& (BitVec.allOnes len).setWidth 32 = (x.extractLsb' 0 len).setWidth 32 := by
  refine BitVec.eq_of_getLsbD_eq fun i hi => ?_
  by_cases h : i < len <;> simp [hi, h]

theorem signalMask_eq (word : BitVec 32) : word &&& 0x7f#32 = (signalField word).setWidth 32 :=
  and_mask word 7

theorem codeMask_eq (word : BitVec 32) :
    word.sshiftRight 8 &&& 0xff#32 = (codeField word).setWidth 32 := by
  have hfield : (word.sshiftRight 8).extractLsb' 0 8 = codeField word := by
    refine BitVec.eq_of_getLsbD_eq fun i hi => ?_
    -- no bit of the field is beyond the word, where the shift fills in the sign
    have hwithin : 8 + i < 32 := by omega
    rw [codeField, BitVec.getLsbD_extractLsb', BitVec.getLsbD_extractLsb', Nat.zero_add,
      BitVec.getLsbD_sshiftRight, if_pos hwithin, decide_eq_false (show ¬ 32 ≤ i by omega),
        Bool.not_false,
      Bool.true_and]
  exact (and_mask (word.sshiftRight 8) 8).trans (by rw [hfield])

theorem testedCode?_eq (word : BitVec 32) : testedCode? word =
    if signalField word = 0 then some ((codeField word).toNat : Int) else none := by
  have hclear : ∀ field : BitVec 7, field.setWidth 32 = 0 ↔ field = 0 := by decide +kernel
  have hcode : ∀ field : BitVec 8, (field.setWidth 32).toInt = field.toNat := by decide +kernel
  rw [testedCode?, signalMask_eq, codeMask_eq, hcode]
  simp only [hclear]

theorem testedSignal?_eq (word : BitVec 32) : testedSignal? word =
    if signalField word = 0 ∨ signalField word = BitVec.allOnes 7 then none
    else some ((signalField word).toNat : Int) := by
  -- a full field and one make the least signed byte, so it fails the test as the clear field does
  have htest : ∀ field : BitVec 7,
      (if 2 ≤ ((field.setWidth 32 + 1#32).setWidth 8).toInt
        then some (field.setWidth 32).toInt else none)
        = if field = 0 ∨ field = BitVec.allOnes 7 then none else some (field.toNat : Int) := by
    decide +kernel
  rw [testedSignal?, signalMask_eq, htest]

theorem ofWord_eq_tested (word : BitVec 32) : ofWord word =
    match testedCode? word, testedSignal? word with
    | some code, _ => exited code
    | none, some signal => signaled signal
    | none, none => exited (-1) := by
  rw [ofWord_eq, testedCode?_eq, testedSignal?_eq]
  by_cases hclear : signalField word = 0
  · simp only [if_pos hclear]
  · by_cases hfull : signalField word = BitVec.allOnes 7
    · simp only [if_neg hclear, if_pos hfull, if_pos (Or.inr hfull)]
    · simp only [if_neg hclear, if_neg hfull, if_neg (not_or.mpr ⟨hclear, hfull⟩)]

/-! ## What is told -/

theorem code_or_signal (status : WaitStatus) :
    (∃ code, status.code? = some code ∧ status.signal? = none) ∨
    ∃ signal, status.code? = none ∧ status.signal? = some signal := by
  cases status with
  | exited code => exact .inl ⟨code, rfl, rfl⟩
  | signaled signal => exact .inr ⟨signal, rfl, rfl⟩

theorem success_iff {status : WaitStatus} : status.success = true ↔ status = exited 0 := by
  cases status <;> simp [success]

theorem ofWord_eq_exited_iff {code : Nat} : ofWord word = exited code ↔
    signalField word = 0 ∧ (codeField word).toNat = code := by
  rw [ofWord_eq]
  split
  next hclear => simp only [exited.injEq, Int.natCast_inj, hclear, true_and]
  next hnot =>
    refine iff_of_false ?_ fun h => hnot h.1
    split
    · exact fun h => absurd (exited.inj h) (by omega)
    · exact nofun

theorem ofWord_eq_signaled_iff {signal : Nat} : ofWord word = signaled signal ↔
    signalField word ≠ 0 ∧ signalField word ≠ BitVec.allOnes 7 ∧
      (signalField word).toNat = signal := by
  rw [ofWord_eq]
  split
  next hclear => exact iff_of_false nofun fun h => h.1 hclear
  next hnot =>
    split
    next hfull => exact iff_of_false nofun fun h => h.2.1 hfull
    next hless =>
      simp only [signaled.injEq, Int.natCast_inj, ne_eq, hnot, hless, not_false_eq_true, true_and]

/-- The code -1 is told by words whose signal bits are all set, and by no others. -/
theorem ofWord_eq_stray_iff : ofWord word = exited (-1) ↔ signalField word = BitVec.allOnes 7 := by
  rw [ofWord_eq]
  split
  next hclear =>
    rw [hclear]
    exact iff_of_false (fun h => absurd (exited.inj h) (by omega)) (by decide)
  next =>
    split
    next hfull => exact iff_of_true rfl hfull
    next hless => exact iff_of_false nofun hless

theorem success_ofWord_iff : (ofWord word).success = true ↔ signalField word = 0 ∧
    codeField word = 0 := by
  have hcode : codeField word = 0 ↔ (codeField word).toNat = 0 := BitVec.toNat_inj.symm
  rw [success_iff, hcode]
  exact @ofWord_eq_exited_iff word 0

/-! ## Words that tell it -/

theorem exitWord_eq {code : Nat} (h : code < 256) : exitWord code = BitVec.ofNat 32 code <<< 8 := by
  rw [exitWord, Nat.mod_eq_of_lt h, ← BitVec.toNat_inj, BitVec.toNat_shiftLeft, BitVec.toNat_ofNat,
    BitVec.toNat_ofNat, Nat.shiftLeft_eq, Nat.mod_eq_of_lt (show code < 2 ^ 32 by omega)]

theorem ofWord_exitWord {code : Nat} (h : code < 256) : ofWord (exitWord code) = exited code := by
  have hword : (exitWord code).toNat = code * 256 := by
    rw [exitWord, Nat.mod_eq_of_lt h, BitVec.toNat_ofNat, Nat.mod_eq_of_lt (by omega)]
  rw [ofWord_eq_exited_iff, signalField_eq_iff, toNat_codeField, hword]
  exact ⟨Nat.mod_eq_zero_of_dvd ⟨code * 2, by omega⟩, by omega⟩

theorem signalWord_eq {signal : Nat} (h : signal < 128) (core : Bool) :
    signalWord signal core = BitVec.ofNat 32 signal ||| if core then 0x80#32 else 0#32 := by
  cases core with
  | false => simp [signalWord]
  | true =>
    rw [signalWord, if_pos rfl, if_pos rfl, ← BitVec.toNat_inj, BitVec.toNat_or, BitVec.toNat_ofNat,
      BitVec.toNat_ofNat, Nat.mod_eq_of_lt (by omega), Nat.mod_eq_of_lt (by omega), Nat.add_comm]
    exact Nat.two_pow_add_eq_or_of_lt (i := 7) h 1 |>.trans (Nat.or_comm ..)

theorem ofWord_signalWord {signal : Nat} (hpos : 0 < signal) (h : signal < 127) (core : Bool) :
    ofWord (signalWord signal core) = signaled signal := by
  have hfield : (signalField (signalWord signal core)).toNat = signal := by
    rw [toNat_signalField, signalWord, BitVec.toNat_ofNat]
    cases core <;> simp only [Bool.false_eq_true, if_false, if_true] <;> omega
  refine ofWord_eq_signaled_iff.mpr ⟨fun hclear => ?_, fun hfull => ?_, hfield⟩
  · rw [hclear] at hfield
    exact absurd hfield (Nat.ne_of_lt hpos)
  · rw [hfull] at hfield
    exact absurd hfield (Nat.ne_of_gt h)

/-! ## Texts -/

theorem message_inj {status other : WaitStatus} : status.message = other.message ↔
    status = other := by
  -- a code and a signal begin with different letters
  have hapart (code signal : Int) : (exited code).message ≠ (signaled signal).message := fun h => by
    have hchars := congrArg String.toList h
    simp [message] at hchars
  cases status with
  | exited code => cases other with
    | exited code' => simp [message]
    | signaled signal => exact iff_of_false (hapart code signal) nofun
  | signaled signal => cases other with
    | exited code => exact iff_of_false (hapart code signal).symm nofun
    | signaled signal' => simp [message]

/-! ## All words -/

/-- The process was stopped and has not ended. -/
def Stopped (word : BitVec 32) : Prop := word &&& 0xff#32 = 0x7f#32

/-- The process went on and has not ended. -/
def Continued (word : BitVec 32) : Prop := word = 0xffff#32

theorem Stopped.full (h : Stopped word) : signalField word = BitVec.allOnes 7 := by
  have hlow : word.toNat % 256 = 127 := by
    have hmask := congrArg BitVec.toNat h
    rwa [BitVec.toNat_and, show (0xff#32).toNat = 2 ^ 8 - 1 from rfl,
      Nat.and_two_pow_sub_one_eq_mod] at hmask
  rw [signalField_eq_iff, BitVec.toNat_allOnes]
  omega

theorem Continued.full (h : Continued word) : signalField word = BitVec.allOnes 7 := by
  rw [h]
  decide

theorem success_of_unclear (h : signalField word ≠ 0) : (ofWord word).success = false :=
  Bool.eq_false_iff.mpr fun hsuccess => h (success_ofWord_iff.mp hsuccess).1

/-- What any word tells is what the tests of systems find. It is a code or a signal, it depends on
the two fields only, and it is a success exactly if these are clear: not if a signal was found, and
not if the process was stopped or went on. Words of codes and of signals, with a core or without,
are read back, only words whose signal bits are all set tell the code -1, and what is told has a
text of its own. -/
theorem words_classified (word other : BitVec 32) :
    (ofWord word = match testedCode? word, testedSignal? word with
      | some code, _ => exited code
      | none, some signal => signaled signal
      | none, none => exited (-1)) ∧
    ((∃ code, (ofWord word).code? = some code ∧ (ofWord word).signal? = none) ∨
      ∃ signal, (ofWord word).code? = none ∧ (ofWord word).signal? = some signal) ∧
    ((∀ i < 16, i ≠ 7 → word.getLsbD i = other.getLsbD i) → ofWord word = ofWord other) ∧
    ((ofWord word).success = true ↔ ∀ i < 16, i ≠ 7 → word.getLsbD i = false) ∧
    ((testedSignal? word).isSome ∨ Stopped word ∨ Continued word → (ofWord word).success = false) ∧
    (∀ code < 256, exitWord code = BitVec.ofNat 32 code <<< 8 ∧
    ofWord (exitWord code) = exited code) ∧
    (∀ signal core, 0 < signal → signal < 127 →
      signalWord signal core = (BitVec.ofNat 32 signal ||| if core then 0x80#32 else 0#32) ∧
      ofWord (signalWord signal core) = signaled signal) ∧
    (ofWord word = exited (-1) ↔ ∀ i < 7, word.getLsbD i = true) ∧
    ((ofWord word).message = (ofWord other).message → ofWord word = ofWord other) := by
  refine ⟨ofWord_eq_tested word, code_or_signal _, fun hbits => ?_, ?_, fun hno => ?_,
    fun code h => ⟨exitWord_eq h, ofWord_exitWord h⟩,
    fun signal core hpos h => ⟨signalWord_eq (by omega) core, ofWord_signalWord hpos h core⟩, ?_,
    message_inj.mp⟩
  · obtain ⟨hsignal, hcode⟩ := fields_eq_iff.mpr hbits
    rw [ofWord_eq, ofWord_eq, hsignal, hcode]
  · rw [success_ofWord_iff, fields_clear_iff]
  · apply success_of_unclear
    rcases hno with hkilled | hstopped | hcontinued
    · intro hclear
      rw [testedSignal?_eq, if_pos (.inl hclear)] at hkilled
      cases hkilled
    · rw [hstopped.full]
      decide
    · rw [hcontinued.full]
      decide
  · rw [ofWord_eq_stray_iff, signalField_full_iff]

/-- A crash that dumped a core, told by two words that differ wherever no field is. -/
theorem crash_classified :
    (∀ i < 16, i ≠ 7 → (0x8b#32).getLsbD i = (0xffff000b#32).getLsbD i) ∧
    ofWord 0x8b#32 = ofWord 0xffff000b#32 ∧ (ofWord 0x8b#32).success = false ∧
    ofWord (signalWord 11 true) = signaled 11 ∧ ofWord (exitWord 255) = exited 255 := by
  have hbits : ∀ i < 16, i ≠ 7 → (0x8b#32).getLsbD i = (0xffff000b#32).getLsbD i := by decide
  obtain ⟨-, -, hsame, -, hno, hcode, hsignal, -, htext⟩ := words_classified 0x8b#32 0xffff000b#32
  exact ⟨hbits, hsame hbits, hno (.inl (by decide)), (hsignal 11 true (by decide) (by decide)).2,
    (hcode 255 (by decide)).2⟩

end ModuleForge.WaitStatus
