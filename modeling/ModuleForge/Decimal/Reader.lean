import ModuleForge.Decimal

/-!
# Reading fractions

Fractions as they stand at the beginning of a text: a sign, and then a decimal with an exponent, a
number in base 16 with a power of two, or a word for what is not finite.
-/
namespace ModuleForge.Decimal

/-- A decimal: its digits without their point, and the power of ten of the last one. -/
structure Reading where
  digits : Nat
  power : Int
  deriving Repr, DecidableEq

/-- Reads digits with at most one point among them, and an exponent if it has digits; also what is
left of the text. -/
def Reading.parse? (cs : List Char) : Option (Reading × List Char) :=
  let whole := cs.takeWhile Char.isDigit
  let rest := cs.drop whole.length
  let (fraction, rest) := match rest with
    | '.' :: more =>
      let fraction := more.takeWhile Char.isDigit
      if whole.isEmpty && fraction.isEmpty then ([], rest)
        else (fraction, more.drop fraction.length)
    | _ => ([], rest)
  if whole.isEmpty && fraction.isEmpty then none
  else
    let number (ds : List Char) : Nat := ds.foldl (fun n c => n * 10 + (c.toNat - 48)) 0
    let (power, rest) : Int × List Char := match rest with
      | e :: more =>
        if e == 'e' || e == 'E' then
          let (negative, digits) := match more with
            | '-' :: ds => (true, ds)
            | '+' :: ds => (false, ds)
            | ds => (false, ds)
          let ds := digits.takeWhile Char.isDigit
          if ds.isEmpty then (0, rest)
          else
            let n : Int := min (number ds) 100000
            (if negative then -n else n, digits.drop ds.length)
        else (0, rest)
      | [] => (0, rest)
    some (⟨number (whole ++ fraction), power - fraction.length⟩, rest)

/-- The nearest double. -/
def Reading.toFloat (r : Reading) : Float :=
  match r.power with
  | .ofNat e => Float.ofScientific (r.digits * 10 ^ e) false 0
  | .negSucc e => Float.ofScientific r.digits true (e + 1)

/-- The nearest magnitude with so many binary digits. -/
def Reading.toMagnitude (r : Reading) (bits : Nat) : Magnitude :=
  if r.digits = 0 then ⟨0, 0, false⟩
  else
    let (num, den) : Nat × Nat := match r.power with
      | .ofNat e => (r.digits * 10 ^ e, 1)
      | .negSucc e => (r.digits, 10 ^ (e + 1))
    -- enough digits of the quotient, and one more that tells whether something is left
    let shift := bits + 2 + bitLength den - bitLength num
    let (num, den, up) : Nat × Nat × Int :=
      if bitLength num < bits + 2 + bitLength den then (num * 2 ^ shift, den, -(shift : Int))
        else (num, den, 0)
    let quotient := 2 * (num / den) + if num % den = 0 then 0 else 1
    let extra := bitLength quotient - bits
    ⟨roundedQuotient quotient (2 ^ extra), up - 1 + extra, false⟩

/-! ## Base 16 -/

def isHex (c : Char) : Bool := c.isDigit || ('a' ≤ c.toLower && c.toLower ≤ 'f')

/-- The number that digits stand for in a base. -/
def digitsValue (base : Nat) (cs : List Char) : Nat :=
  cs.foldl (fun n c => n * base + if c.isDigit then c.toNat - 48 else c.toLower.toNat - 87) 0

/-- A number in base 16 behind its mark, with a power of two, and what is left of the text. -/
def hexadecimal? (cs : List Char) : Option (Magnitude × List Char) :=
  let whole := cs.takeWhile isHex
  let (behind, rest) := match cs.drop whole.length with
    | '.' :: more => (more.takeWhile isHex, more.dropWhile isHex)
    | rest => ([], rest)
  if whole.isEmpty && behind.isEmpty then none
  else
    let (power, rest) : Int × List Char := match rest with
      | p :: more =>
        if p.toLower == 'p' then
          let (negative, ds) := match more with
            | '-' :: ds => (true, ds)
            | '+' :: ds => (false, ds)
            | ds => (false, ds)
          let digits := ds.takeWhile Char.isDigit
          if digits.isEmpty then (0, rest)
          else
            let e : Int := min (digitsValue 10 digits) 20000
            (if negative then -e else e, ds.drop digits.length)
        else (0, rest)
      | [] => (0, rest)
    some (⟨digitsValue 16 (whole ++ behind), power - 4 * behind.length, false⟩, rest)

/-! ## All kinds -/

/-- A fraction that was read: its sign and its size. -/
structure Fraction where
  negative : Bool
  size : Size

/-- A magnitude as a double. -/
def Magnitude.toFloat (x : Magnitude) : Float := (Float.ofNat x.significand).scaleB x.exponent

def Size.toFloat : Size → Float
  | .finite m => m.toFloat
  | .infinite => 1.0 / 0.0
  | .noNumber => 0.0 / 0.0

def Fraction.toFloat (x : Fraction) : Float :=
  if x.negative then -x.size.toFloat else x.size.toFloat

def isBlank (c : Char) : Bool := c == ' ' || ('\t' ≤ c && c ≤ '\r')

/-- A size at the beginning of a text; `decimal` tells what becomes of decimals. -/
def readSize (decimal : Reading → Size) (cs : List Char) : Option (Size × List Char) :=
  let word (w : String) : Bool := (cs.take w.length).map Char.toLower == w.toList
  if word "infinity" then some (.infinite, cs.drop 8)
  else if word "inf" then some (.infinite, cs.drop 3)
  else if word "nan" then some (.noNumber, cs.drop 3)
  else
    let hex := if word "0x" then hexadecimal? (cs.drop 2) else none
    match hex with
    | some (m, rest) => some (.finite m, rest)
    | none => (Reading.parse? cs).map fun (r, rest) => (decimal r, rest)

/-- A fraction at the beginning of a text, and what is left behind it. -/
def readFraction (decimal : Reading → Size) (cs : List Char) : Option (Fraction × List Char) :=
  let cs := cs.dropWhile isBlank
  let (negative, body) := match cs with
    | '-' :: rest => (true, rest)
    | '+' :: rest => (false, rest)
    | rest => (false, rest)
  (readSize decimal body).map fun (size, rest) => (⟨negative, size⟩, rest)

/-- Reads a double. -/
def readFloat (cs : List Char) : Option (Float × List Char) :=
  (readFraction (fun r => .ofFloat r.toFloat) cs).map fun (x, rest) => (x.toFloat, rest)

/-- Reads a fraction with 64 binary digits. -/
def readLong (cs : List Char) : Option (Fraction × List Char) :=
  readFraction (fun r => .finite (r.toMagnitude 64)) cs

end ModuleForge.Decimal
