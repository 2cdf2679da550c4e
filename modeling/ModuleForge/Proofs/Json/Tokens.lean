import ModuleForge.Json.Reader
import ModuleForge.Proofs.Text.Bytes

/-!
# The tokens of JSON texts

A JSON text is a row of tokens with blanks before and behind them (`Laid`). Those of a value
(`tokens`), put together without blanks, are its compact text (`ofText_write`). A cursor finds the
next token behind blanks (`skipSpaces_laid`).
-/
namespace ModuleForge.Json

/-! ## Rows of tokens -/

/-- A mark, a literal name, a number or a string, in bytes. -/
abbrev Token := ByteString

/-- What stands between items and members. -/
def comma : Token := ","

mutual

/-- The tokens of a value. -/
def tokens : Json → List Token
  | null => ["null"]
  | bool b => [(if b then "true" else "false" : String)]
  | number n => [n.write]
  | string s => [writeString s]
  | array items => ("[" : Token) :: ([comma].intercalate (itemTokens items) ++ [("]" : Token)])
  | object members =>
    ("\x7b" : Token) :: ([comma].intercalate (memberTokens members) ++ [("\x7d" : Token)])

def itemTokens : List Json → List (List Token)
  | [] => []
  | j :: js => tokens j :: itemTokens js

def memberTokens : List (String × Json) → List (List Token)
  | [] => []
  | (k, j) :: ms => ((writeString k : Token) :: (":" : Token) :: tokens j) :: memberTokens ms

end

/-- Nothing but blanks. -/
def Blank (w : ByteString) : Prop := ∀ b ∈ w, isSpace b = true

/-- A text consists of tokens, with blanks before and behind them. -/
def Laid : List Token → ByteString → Prop
  | [], text => Blank text
  | t :: ts, text => ∃ w rest, Blank w ∧ text = w ++ (t ++ rest) ∧ Laid ts rest

theorem laid_flatten (ts : List Token) : Laid ts ts.flatten := by
  induction ts with
  | nil => exact nofun
  | cons t ts ih => exact ⟨[], _, nofun, rfl, ih⟩

theorem Laid.flatten_length_le {ts : List Token} {text : ByteString} (h : Laid ts text) :
    ts.flatten.length ≤ text.length := by
  induction ts generalizing text with
  | nil => exact Nat.zero_le _
  | cons t ts ih =>
    obtain ⟨w, rest, -, rfl, hrest⟩ := h
    have := ih hrest
    simp only [List.flatten_cons, List.length_append]
    omega

/-! ## Compact texts -/

theorem ofText_intercalate (separator : String) (ss : List String) :
    ByteString.ofText (separator.intercalate ss)
      = (ByteString.ofText separator).intercalate (ss.map ByteString.ofText) := by
  induction ss with
  | nil => rfl
  | cons s ss ih =>
    cases ss with
    | nil => simp
    | cons t ss =>
      rw [String.intercalate_cons_cons, ByteString.ofText_append, ByteString.ofText_append, ih]
      simp [List.intercalate_cons_cons]

theorem flatten_intercalate (t : Token) (rows : List (List Token)) :
    ([t].intercalate rows).flatten = t.intercalate (rows.map List.flatten) := by
  induction rows with
  | nil => rfl
  | cons row rows ih =>
    cases rows with
    | nil => simp
    | cons next rows => simp_all [List.intercalate_cons_cons]

mutual

/-- The compact text of a value consists of its tokens. -/
theorem ofText_write : (j : Json) → ByteString.ofText j.write = (tokens j).flatten
  | null => by simp [write, tokens]
  | bool b => by simp [write, tokens]
  | number n => by simp [write, tokens]
  | string s => by simp [write, tokens]
  | array items => by
    simp [write, tokens, ByteString.ofText_append, ofText_intercalate, flatten_intercalate, comma,
      map_ofText_writeItems items]
  | object members => by
    simp [write, tokens, ByteString.ofText_append, ofText_intercalate, flatten_intercalate, comma,
      map_ofText_writeMembers members]

theorem map_ofText_writeItems : (items : List Json) →
    (writeItems items).map ByteString.ofText = (itemTokens items).map List.flatten
  | [] => rfl
  | j :: js => by simp [writeItems, itemTokens, ofText_write j, map_ofText_writeItems js]

theorem map_ofText_writeMembers : (members : List (String × Json)) →
    (writeMembers members).map ByteString.ofText = (memberTokens members).map List.flatten
  | [] => rfl
  | (k, j) :: ms => by
    simp [writeMembers, memberTokens, ByteString.ofText_append, ofText_write j,
      map_ofText_writeMembers ms]

end

theorem laid_write (j : Json) : Laid (tokens j) (ByteString.ofText j.write) := by
  rw [ofText_write]
  exact laid_flatten _

/-! ## Cursors -/

@[simp] theorem Cursor.rest_advance (c : Cursor) : c.advance.rest = c.rest.tail := by
  unfold advance
  cases h : c.rest with
  | nil => exact h
  | cons b rest => dsimp only; split <;> rfl

@[simp] theorem Cursor.rest_advanceBy (c : Cursor) (n : Nat) :
    (c.advanceBy n).rest = c.rest.drop n := by
  induction n generalizing c with
  | zero => rfl
  | succ n ih => rw [advanceBy, ih, rest_advance, List.drop_tail]

theorem Cursor.peek_cons {c : Cursor} {b : UInt8} {rest : ByteString} (h : c.rest = b :: rest) :
    c.peek = Char.ofNat b.toNat := by
  rw [peek, h]

theorem Cursor.atEnd_cons {c : Cursor} {b : UInt8} {rest : ByteString} (h : c.rest = b :: rest) :
    c.atEnd = false := by
  rw [atEnd, h]
  rfl

theorem drop_takeWhile (p : UInt8 → Bool) (bs : ByteString) :
    bs.drop (bs.takeWhile p).length = bs.dropWhile p := by
  conv => lhs; arg 2; rw [← List.takeWhile_append_dropWhile (p := p) (l := bs)]
  rw [List.drop_left]

@[simp] theorem rest_skipSpaces (c : Cursor) : (skipSpaces c).rest = c.rest.dropWhile isSpace := by
  rw [skipSpaces, Cursor.rest_advanceBy, drop_takeWhile]

@[simp] theorem rest_skipDigits (c : Cursor) : (skipDigits c).rest = c.rest.dropWhile isDigit := by
  rw [skipDigits, Cursor.rest_advanceBy, drop_takeWhile]

/-- Behind blanks comes the next token. -/
theorem skipSpaces_laid {c : Cursor} {b : UInt8} {t : Token} {ts : List Token}
    (h : Laid ((b :: t) :: ts) c.rest) (hb : isSpace b = false) :
    ∃ rest, (skipSpaces c).rest = b :: (t ++ rest) ∧ Laid ts rest := by
  obtain ⟨w, rest, hw, heq, hrest⟩ := h
  refine ⟨rest, ?_, hrest⟩
  rw [rest_skipSpaces, heq, List.dropWhile_append_of_pos hw, List.cons_append,
    List.dropWhile_cons_of_neg (by simp [hb])]

/-- Behind the last token come only blanks. -/
theorem skipSpaces_end {c : Cursor} (h : Laid [] c.rest) : (skipSpaces c).atEnd = true := by
  have hdrop : (c.rest ++ []).dropWhile isSpace = [] := List.dropWhile_append_of_pos h
  rw [Cursor.atEnd, rest_skipSpaces, ← List.append_nil c.rest, hdrop]
  rfl

/-- Past the letters of a name. -/
theorem readIdent_append {bs : ByteString} {c : Cursor} {rest : ByteString}
    (h : c.rest = bs ++ rest) :
    ∃ c', readIdent bs c = .ok c' ∧ c'.rest = rest := by
  induction bs generalizing c with
  | nil => exact ⟨c, rfl, h⟩
  | cons b bs ih =>
    rw [List.cons_append] at h
    obtain ⟨c', hread, hrest⟩ :=
      ih (c := c.advance) (by rw [Cursor.rest_advance, h, List.tail_cons])
    exact ⟨c', by simp only [readIdent, h, if_true]; exact hread, hrest⟩

end ModuleForge.Json
