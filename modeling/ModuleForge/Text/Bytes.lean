/-!
# Byte strings

File names, arguments and environment values are byte strings, not text: any byte but NUL may
occur in them. `ByteString` is such a string, `pieces` splits one into characters and bytes that
belong to no character, and `lossy` is the text that shows it, with U+FFFD for each maximal run of
bytes that starts a character and does not finish it (Unicode, "substitution of maximal
subparts").

Bulk data (file contents, what flows through a pipe) is a `ByteArray`.
-/
namespace ModuleForge

/-- A name, an argument, an environment value: bytes in order. -/
abbrev ByteString := List UInt8

/-- The UTF-8 bytes of a text. -/
def ByteString.ofText (s : String) : ByteString := s.toUTF8.data.toList

instance : Coe String ByteString := ⟨ByteString.ofText⟩

namespace Text

/-- One character of a byte string, or the bytes of one broken character. -/
inductive Piece where
  | char (c : Char)
  | broken (bytes : ByteString)
  deriving DecidableEq, Repr

/-- The bytes of a piece. -/
def Piece.bytes : Piece → ByteString
  | char c => ByteString.ofText c.toString
  | broken bytes => bytes

/--
What the first byte of a character of several bytes promises: its payload, the bounds of the second
byte, and how many bytes follow in all. The bounds shut out overlong forms, surrogates and
anything above U+10FFFF.
-/
structure Lead where
  payload : Nat
  low : UInt8
  high : UInt8
  following : Nat

def lead? (b : UInt8) : Option Lead :=
  if 0xC2 ≤ b ∧ b ≤ 0xDF then some ⟨b.toNat - 0xC0, 0x80, 0xBF, 1⟩
  else if b = 0xE0 then some ⟨0, 0xA0, 0xBF, 2⟩
  else if b = 0xED then some ⟨0xD, 0x80, 0x9F, 2⟩
  else if 0xE1 ≤ b ∧ b ≤ 0xEF then some ⟨b.toNat - 0xE0, 0x80, 0xBF, 2⟩
  else if b = 0xF0 then some ⟨0, 0x90, 0xBF, 3⟩
  else if b = 0xF4 then some ⟨4, 0x80, 0x8F, 3⟩
  else if 0xF1 ≤ b ∧ b ≤ 0xF3 then some ⟨b.toNat - 0xF0, 0x80, 0xBF, 3⟩
  else none

/--
Reads up to `n` following bytes, the first of them within `low` and `high`: the payload so far, how
many are still missing, the bytes taken, and the rest.
-/
def following : Nat → UInt8 → UInt8 → Nat → ByteString → Nat × Nat × ByteString × ByteString
  | 0, _, _, v, rest => (v, 0, [], rest)
  | n + 1, _, _, v, [] => (v, n + 1, [], [])
  | n + 1, low, high, v, b :: rest =>
    if low ≤ b ∧ b ≤ high then
      let (v, missing, taken, rest) := following n 0x80 0xBF (v * 64 + (b.toNat - 0x80)) rest
      (v, missing, b :: taken, rest)
    else (v, n + 1, [], b :: rest)

theorem following_rest_length (n : Nat) (low high : UInt8) (v : Nat) (bs : ByteString) :
    (following n low high v bs).2.2.2.length ≤ bs.length := by
  induction bs generalizing n low high v with
  | nil => cases n <;> simp [following]
  | cons b rest ih =>
    cases n with
    | zero => simp [following]
    | succ n =>
      simp only [following]
      split
      · exact Nat.le_succ_of_le (ih ..)
      · simp

/-- The characters of a byte string, and what is broken between them. -/
def pieces : ByteString → List Piece
  | [] => []
  | b :: rest =>
    if b < 0x80 then .char (Char.ofNat b.toNat) :: pieces rest
    else match lead? b with
      | none => .broken [b] :: pieces rest
      | some l =>
        let r := following l.following l.low l.high l.payload rest
        let piece := if r.2.1 = 0 then .char (Char.ofNat r.1) else .broken (b :: r.2.2.1)
        piece :: pieces r.2.2.2
  termination_by bs => bs.length
  decreasing_by
    · exact Nat.lt_succ_self _
    · exact Nat.lt_succ_self _
    · exact Nat.lt_succ_of_le (following_rest_length ..)

/-- The text that shows a byte string. -/
def lossy (bs : ByteString) : String :=
  String.ofList <| (pieces bs).map fun
    | .char c => c
    | .broken _ => '\ufffd'

/-- The text that shows a block of data. -/
def lossyData (data : ByteArray) : String :=
  match String.fromUTF8? data with
  | some s => s
  | none => lossy data.data.toList

/-- The text of a byte string, if it is UTF-8. -/
def text? (bs : ByteString) : Option String :=
  String.fromUTF8? ⟨bs.toArray⟩

end Text
end ModuleForge
