import ModuleForge.Json
import ModuleForge.Text.Bytes

/-!
# Reading JSON from its bytes

A `Cursor` is what is left of a text with the line and column reached, columns counted in bytes.
Readers take a cursor and return a value with the cursor behind it. A refusal is placed either where
the cursor stands (`fail`) or behind the byte that it looks at (`failAtNext`).

A value that nobody asks for is skipped (`skipValue`): its syntax is checked, but neither the range
of its numbers nor the pairing of its surrogates, and its depth is not limited.
-/
namespace ModuleForge.Json

/-- A position in a text: the bytes to come, and where they start. -/
structure Cursor where
  rest : ByteString
  line : Nat := 1
  column : Nat := 0

abbrev Reader (α : Type) := Cursor → Except Error (α × Cursor)

namespace Cursor

def ofText (s : String) : Cursor := { rest := ByteString.ofText s }

/-- The byte to come, as a character; NUL at the end. -/
def peek (c : Cursor) : Char :=
  match c.rest with
  | [] => '\x00'
  | b :: _ => Char.ofNat b.toNat

/-- Past one byte. -/
def advance (c : Cursor) : Cursor :=
  match c.rest with
  | [] => c
  | b :: rest =>
    if b = 10 then { rest, line := c.line + 1, column := 0 }
    else { rest, line := c.line, column := c.column + 1 }

def advanceBy (c : Cursor) : Nat → Cursor
  | 0 => c
  | n + 1 => c.advance.advanceBy n

def atEnd (c : Cursor) : Bool := c.rest.isEmpty

end Cursor

/-- Refuses at the cursor. -/
def fail (r : Refusal) (c : Cursor) : Except Error α := .error ⟨r, some (c.line, c.column)⟩

/-- Refuses behind the byte that the cursor looks at. -/
def failAtNext (r : Refusal) (c : Cursor) : Except Error α := fail r c.advance

def isSpace (b : UInt8) : Bool := b == 32 || b == 10 || b == 9 || b == 13

/-- Past blanks. -/
def skipSpaces (c : Cursor) : Cursor :=
  c.advanceBy (c.rest.takeWhile isSpace).length

def isDigit (b : UInt8) : Bool := 48 ≤ b && b ≤ 57

/-- Past digits. -/
def skipDigits (c : Cursor) : Cursor :=
  c.advanceBy (c.rest.takeWhile isDigit).length

/-- Reads the rest of a literal name. -/
def readIdent : ByteString → Cursor → Except Error Cursor
  | [], c => .ok c
  | b :: more, c =>
    match c.rest with
    | [] => fail .endInValue c
    | x :: _ => if x = b then readIdent more c.advance else fail .expectedIdent c.advance

/-! ## Strings -/

def hexValue (b : UInt8) : Option Nat :=
  let n := b.toNat
  if 48 ≤ n ∧ n ≤ 57 then some (n - 48)
  else if 97 ≤ n ∧ n ≤ 102 then some (n - 87)
  else if 65 ≤ n ∧ n ≤ 70 then some (n - 55)
  else none

/-- Reads four hexadecimal digits. -/
def readHex : Reader Nat := fun c =>
  match c.rest with
  | x :: y :: z :: w :: _ =>
    let c := c.advanceBy 4
    match hexValue x, hexValue y, hexValue z, hexValue w with
    | some x, some y, some z, some w => .ok (((x * 16 + y) * 16 + z) * 16 + w, c)
    | _, _, _, _ => fail .invalidEscape c
  | _ => fail .endInString (c.advanceBy c.rest.length)

/-- Reads what follows `\u`; a leading surrogate needs a trailing one in the next escape. -/
def readUnicode : Reader Char := fun c => do
  let (n, c) ← readHex c
  if 0xDC00 ≤ n ∧ n ≤ 0xDFFF then fail .loneSurrogate c
  else if n < 0xD800 ∨ 0xDBFF < n then return (Char.ofNat n, c)
  else
    if c.atEnd then fail .endInString c
    else if c.peek != '\\' then failAtNext .endInHexEscape c
    else
      let c := c.advance
      if c.atEnd then fail .endInString c
      else if c.peek != 'u' then failAtNext .endInHexEscape c
      else
        let (m, c) ← readHex c.advance
        if m < 0xDC00 ∨ 0xDFFF < m then fail .loneSurrogate c
        else return (Char.ofNat ((n - 0xD800) * 1024 + (m - 0xDC00) + 0x10000), c)

/-- The character of a plain escape. -/
def plainEscape (ch : Char) : Option Char :=
  match ch with
  | '"' => some '"'
  | '\\' => some '\\'
  | '/' => some '/'
  | 'b' => some '\x08'
  | 'f' => some '\x0c'
  | 'n' => some '\n'
  | 'r' => some '\r'
  | 't' => some '\t'
  | _ => none

/-- Reads a string behind its opening quote; `seen` holds the bytes so far, last one first. -/
def readStringFrom (seen : ByteString) (c : Cursor) : Nat → Except Error (ByteString × Cursor)
  | 0 => fail .endInString c
  | fuel + 1 =>
    match c.rest with
    | [] => fail .endInString c
    | b :: _ =>
      if b = 34 then .ok (seen.reverse, c.advance)
      else if b = 92 then
        let c := c.advance
        if c.atEnd then fail .endInString c
        else if c.peek = 'u' then do
          let (ch, c) ← readUnicode c.advance
          readStringFrom ((ByteString.ofText ch.toString).reverse ++ seen) c fuel
        else match plainEscape c.peek with
          | some ch => readStringFrom (UInt8.ofNat ch.toNat :: seen) c.advance fuel
          | none => failAtNext .invalidEscape c
      else if b < 32 then failAtNext .controlCharacter c
      else readStringFrom (b :: seen) c.advance fuel

/-- Reads a string behind its opening quote. -/
def readString : Reader String := fun c => do
  let (bytes, c) ← readStringFrom [] c (c.rest.length + 1)
  return (Text.lossy bytes, c)

/-- Past a string behind its opening quote. -/
def skipString (c : Cursor) : Nat → Except Error Cursor
  | 0 => fail .endInString c
  | fuel + 1 =>
    match c.rest with
    | [] => fail .endInString c
    | b :: _ =>
      if b = 34 then .ok c.advance
      else if b = 92 then
        let c := c.advance
        if c.atEnd then fail .endInString c
        else if c.peek = 'u' then do
          let (_, c) ← readHex c.advance
          skipString c fuel
        else match plainEscape c.peek with
          | some _ => skipString c.advance fuel
          | none => failAtNext .invalidEscape c
      else if b < 32 then fail .controlCharacter c
      else skipString c.advance fuel

/-! ## Numbers -/

def maxNatural : Nat := 2 ^ 64 - 1

/-- A power of ten as the nearest double. -/
def powerOfTen (n : Nat) : Float := Float.ofScientific 1 false n

/-- `significand · 10^exponent` by one multiplication or by divisions; `none` if it is too large. -/
def floatOfParts (negative : Bool) (significand : Nat) (exponent : Int) : Option Float :=
  let start := Float.ofNat significand
  let signed (x : Float) := if negative then -x else x
  match exponent with
  | .ofNat e =>
    if e ≤ 308 then
      let x := start * powerOfTen e
      if x.isInf then none else some (signed x)
    else if significand = 0 then some (signed start) else none
  | .negSucc e => some (signed (shrink start (e + 1) (e + 2)))
where
  /-- Divides by `10^e` in steps of at most 308 places. -/
  shrink (x : Float) (e : Nat) : Nat → Float
    | 0 => x
    | fuel + 1 =>
      if e ≤ 308 then x / powerOfTen e
      else if x == 0 then x
      else shrink (x / powerOfTen 308) (e - 308) fuel

/-- The digits to come as numbers. -/
def digitsAt (c : Cursor) : List Nat := (c.rest.takeWhile isDigit).map fun b => b.toNat - 48

/-- Takes digits while the number stays within 64 bits: the number, and how many were taken. -/
def takeDigits (n : Nat) : List Nat → Nat × Nat
  | [] => (n, 0)
  | d :: ds =>
    if maxNatural < n * 10 + d then (n, 0)
    else
      let (m, k) := takeDigits (n * 10 + d) ds
      (m, k + 1)

def placed (x : Option Float) (c : Cursor) : Except Error (Number × Cursor) :=
  match x with
  | some x => .ok (.float x, c)
  | none => fail .numberOutOfRange c

/-- Reads an exponent, the cursor at its `e`. -/
def readExponent (negative : Bool) (significand : Nat) (start : Int) : Reader Number := fun c => do
  let c := c.advance
  let negativeExponent := c.peek == '-'
  let c := if c.peek == '+' || c.peek == '-' then c.advance else c
  if c.atEnd then fail .endInValue c
  else
    let ds := digitsAt c
    if ds.isEmpty then failAtNext .invalidNumber c
    else
      -- an exponent beyond 31 bits stops where it passes them
      let limit := 2 ^ 31 - 1
      let fits := (ds.foldl (fun (n, k) d =>
        if n ≤ limit && n * 10 + d ≤ limit then (n * 10 + d, k + 1) else (limit + 1, k)) (0, 0))
      if fits.2 < ds.length then
        if significand ≠ 0 ∧ ¬ negativeExponent then
          fail .numberOutOfRange (c.advanceBy (fits.2 + 1))
        else return (.float (if negative then -0.0 else 0.0), skipDigits c)
      else
        let e : Int := fits.1
        let e := if negativeExponent then start - e else start + e
        placed (floatOfParts negative significand e) (skipDigits c)

/-- Reads a fraction, the cursor at its point. -/
def readFraction (negative : Bool) (significand : Nat) (start : Int) : Reader Number := fun c => do
  let c := c.advance
  let ds := digitsAt c
  if ds.isEmpty then
    if c.atEnd then fail .endInValue c else failAtNext .invalidNumber c
  else
    let (n, taken) := takeDigits significand ds
    let c := skipDigits c
    let exponent := start - taken
    if c.peek == 'e' || c.peek == 'E' then readExponent negative n exponent c
    else placed (floatOfParts negative n exponent) c

/-- Reads a number behind its sign. -/
def readNumber (negative : Bool) : Reader Number := fun c => do
  match c.rest with
  | [] => fail .endInValue c
  | b :: _ =>
    if !isDigit b then failAtNext .invalidNumber c
    else if b = 48 && (c.advance.rest.head?.map isDigit).getD false then
      failAtNext .invalidNumber c.advance
    else
      let ds := digitsAt c
      let (n, taken) := takeDigits 0 ds
      let c := skipDigits c
      let exponent : Int := (ds.length - taken : Nat)
      if c.peek == '.' then readFraction negative n exponent c
      else if c.peek == 'e' || c.peek == 'E' then readExponent negative n exponent c
      else if exponent ≠ 0 then placed (floatOfParts negative n exponent) c
      else if !negative then return (.whole n, c)
      else if n = 0 || 2 ^ 63 < n then return (.float (-(Float.ofNat n)), c)
      else return (.whole (-n), c)

/-- Past a number behind its sign. -/
def skipNumber (c : Cursor) : Except Error Cursor :=
  match c.rest with
  | [] => fail .invalidNumber c
  | b :: _ =>
    if !isDigit b then failAtNext .invalidNumber c
    else if b = 48 && (c.advance.rest.head?.map isDigit).getD false then
      failAtNext .invalidNumber c.advance
    else
      let c := if b = 48 then c.advance else skipDigits c
      if c.peek == '.' then
        let c := c.advance
        if (digitsAt c).isEmpty then failAtNext .invalidNumber c
        else
          let c := skipDigits c
          if c.peek == 'e' || c.peek == 'E' then exponent c else .ok c
      else if c.peek == 'e' || c.peek == 'E' then exponent c
      else .ok c
where
  exponent (c : Cursor) : Except Error Cursor :=
    let c := c.advance
    let c := if c.peek == '+' || c.peek == '-' then c.advance else c
    if (digitsAt c).isEmpty then failAtNext .invalidNumber c else .ok (skipDigits c)

/-! ## Values that nobody asks for -/

/-- Past a string, a number or a literal name; `none` at an opening bracket. -/
def skipScalar (c : Cursor) : Except Error (Option Cursor) :=
  match c.peek with
  | 'n' => some <$> readIdent "ull" c.advance
  | 't' => some <$> readIdent "rue" c.advance
  | 'f' => some <$> readIdent "alse" c.advance
  | '-' => some <$> skipNumber c.advance
  | '"' => some <$> skipString c.advance (c.rest.length + 1)
  | '[' => .ok none
  | '{' => .ok none
  | ch => if ch.isDigit then some <$> skipNumber c else failAtNext .expectedValue c

/-- What a skipped value is inside of. -/
inductive Frame where
  | list
  | object
  deriving DecidableEq

/-- Closes finished frames, and goes on behind a comma or at the first item of a new frame: the
frames still open, and whether a member's key comes next. -/
def closeFrames (fresh : Bool) (stack : List Frame) (c : Cursor) :
    Except Error (List Frame × Cursor) :=
  let c := skipSpaces c
  match stack with
  | [] => .ok ([], c)
  | frame :: outer =>
    if c.atEnd then failAtNext (if frame = .list then .endInList else .endInObject) c
    else if c.peek == ',' && !fresh then .ok (stack, c.advance)
    else if (c.peek == ']' && frame = .list) || (c.peek == '}' && frame = .object) then
      match outer with
      | [] => .ok ([], c.advance)
      | _ => closeFrames false outer c.advance
    else if fresh then .ok (stack, c)
    else failAtNext
      (if frame = .list then .expectedListCommaOrEnd else .expectedObjectCommaOrEnd) c

/-- Past the key of a member and its colon. -/
def skipKey (c : Cursor) : Except Error Cursor := do
  let c := skipSpaces c
  if c.atEnd then failAtNext .endInObject c
  else if c.peek != '"' then failAtNext .keyMustBeString c
  else
    let c := skipSpaces (← skipString c.advance (c.rest.length + 1))
    if c.atEnd then failAtNext .endInObject c
    else if c.peek != ':' then failAtNext .expectedColon c
    else return c.advance

/-- Past one value inside the open frames. -/
def skipValueIn (stack : List Frame) (c : Cursor) : Nat → Except Error Cursor
  | 0 => fail .endInValue c
  | fuel + 1 => do
    let c := skipSpaces c
    if c.atEnd then failAtNext .endInValue c
    else
      let (fresh, stack, c) ← match ← skipScalar c with
        | some c => pure (false, stack, c)
        | none => pure (true, (if c.peek == '[' then .list else .object) :: stack, c.advance)
      if stack.isEmpty then return c
      let (stack, c) ← closeFrames fresh stack c
      match stack with
      | [] => return c
      | .list :: _ => skipValueIn stack c fuel
      | .object :: _ => skipValueIn stack (← skipKey c) fuel

/-- Past one value of any shape. -/
def skipValue (c : Cursor) : Except Error Cursor := skipValueIn [] c (c.rest.length + 1)

/-! ## Values of the wrong shape -/

/-- Refuses the value at the cursor because something else was expected. The value is read if it is
a scalar, so a fault inside it comes first. -/
def failExpecting (expected : String) (c : Cursor) : Except Error α := do
  let wrong (found : Found) (c : Cursor) : Except Error α := fail (.invalidType found expected) c
  match c.peek with
  | 'n' => wrong .null (← readIdent "ull" c.advance)
  | 't' => wrong (.bool true) (← readIdent "rue" c.advance)
  | 'f' => wrong (.bool false) (← readIdent "alse" c.advance)
  | '-' =>
    let (n, c) ← readNumber true c.advance
    wrong (.number n) c
  | '"' =>
    let (s, c) ← readString c.advance
    wrong (.string s) c
  | '[' => wrong .sequence c
  | '{' => wrong .map c
  | ch =>
    if ch.isDigit then
      let (n, c) ← readNumber false c
      wrong (.number n) c
    else failAtNext .expectedValue c

end ModuleForge.Json
