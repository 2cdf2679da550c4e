import ModuleForge.Decimal.Reader
import ModuleForge.Host.Library.Text

/-!
# Functions on numbers

The functions of the C library that read numbers from texts, count with whole numbers and fractions,
and make up random numbers.
-/
namespace ModuleForge.Host.Library

open Program

/-! ## Reading -/

def isGap (b : UInt8) : Bool := b == 32 || (9 ≤ b && b ≤ 13)

/-- The value of a digit in bases up to 36. -/
def digit? (b : UInt8) : Option Nat :=
  if 48 ≤ b && b ≤ 57 then some (b.toNat - 48)
  else
    let c := lowered b
    if 97 ≤ c && c ≤ 122 then some (c.toNat - 87) else none

/-- The digits of a number in a base at the beginning of a text. -/
def digitsOf (base : Nat) (bs : ByteString) : List Nat :=
  (bs.takeWhile fun b => (digit? b).any (· < base)).filterMap digit?

/-- A whole number at the beginning of a text, and how many bytes it takes; a base of 0 is told by
how the number begins. -/
def readWhole (base : Nat) (bs : ByteString) : Option (Int × Nat) :=
  let gap := (bs.takeWhile isGap).length
  let body := bs.drop gap
  let (negative, signs) := match body with
    | 45 :: _ => (true, 1)
    | 43 :: _ => (false, 1)
    | _ => (false, 0)
  let body := body.drop signs
  let marked := match body with
    | 48 :: x :: d :: _ => lowered x = 120 && (digit? d).any (· < 16)
    | _ => false
  let (base, skipped) : Nat × Nat :=
    if marked && (base = 0 || base = 16) then (16, 2)
    else if base = 0 then (if body.head? = some 48 then 8 else 10, 0)
    else (base, 0)
  let digits := digitsOf base (body.drop skipped)
  if digits.isEmpty then none
  else
    let n : Int := (digits.foldl (fun n d => n * base + d) 0 : Nat)
    some (if negative then -n else n, gap + signs + skipped + digits.length)

/-- Numbers of eight bytes stay within their bounds; leaving them is an error. -/
def bounded (withSign : Bool) (n : Int) : Run Int := do
  let (low, high) : Int × Int :=
    if withSign then (-(2 ^ 63), 2 ^ 63 - 1) else (-(2 ^ 64 - 1), 2 ^ 64 - 1)
  if low ≤ n && n ≤ high then return n
  setError ⟨34⟩
  return if withSign then (if n < 0 then low else high) else high

/-- Reads a whole number and tells where it ended. -/
def toWhole (withSign : Bool) : Run Answer := do
  let start ← argument 0
  let stopPlace ← argument 1
  let base := (← intArgument 2).toNat
  let found := readWhole base (← readText start)
  if stopPlace ≠ 0 then write stopPlace 8 (start + ((found.map (·.2)).getD 0))
  return .long (← bounded withSign ((found.map (·.1)).getD 0))

/-- A fraction at the beginning of a text, and how many bytes it takes. -/
def readFraction (bs : ByteString) : Option (Float × Nat) :=
  let cs := bs.map fun b => Char.ofNat b.toNat
  (Decimal.readFloat cs).map fun (x, rest) => (x, cs.length - rest.length)

def toFraction : Run Float := do
  let start ← argument 0
  let stopPlace ← argument 1
  let found := readFraction (← readText start)
  if stopPlace ≠ 0 then write stopPlace 8 (start + ((found.map (·.2)).getD 0))
  return (found.map (·.1)).getD 0.0

def reading : Family :=
  [("atoi", fun _ => do
      let n := ((readWhole 10 (← readText (← argument 0))).map (·.1)).getD 0
      return .int n),
   ("atof", fun _ => do
      return .double (((readFraction (← readText (← argument 0))).map (·.1)).getD 0.0))]
  ++ shared ["atol", "atoll"] (fun _ => do
      return .long (← bounded true (((readWhole 10 (← readText (← argument 0))).map (·.1)).getD 0)))
  ++ shared ["strtol", "strtoll", "strtoimax", "strtoq"]
      (fun _ => toWhole true)
  ++ shared ["strtoul", "strtoull", "strtoumax", "strtouq"]
      (fun _ => toWhole false)
  ++ [("strtod", fun _ => return .double (← toFraction)),
    ("strtof", fun _ => return .single (← toFraction).toFloat32)]

/-! ## Whole numbers -/

def quotients (width : Nat) : Run Answer := do
  let a := Processor.signed width (Processor.cut width (← argument 0))
  let b := Processor.signed width (Processor.cut width (← argument 1))
  if b = 0 then stop Signal.arithmetic
  let q := Processor.unsigned width (a.tdiv b)
  let r := Processor.unsigned width (a.tmod b)
  return if width = 4 then .whole (q + 2 ^ 32 * r) else .pair q r

def nextRandom : Run Nat := do
  let s ← get
  let (n, randoms) := Random.next (if s.randoms.isEmpty then Random.row 1 else s.randoms)
  set { s with randoms }
  return n

/-- The next random number of a seed that the caller keeps. -/
def randomOf (place : Nat) : Run Nat := do
  let mut seed ← read place 4
  let mut result := 0
  for (bits, modulus) in [(11, 2048), (10, 1024), (10, 1024)] do
    seed := Processor.cut 4 (seed * 1103515245 + 12345)
    result := (result * 2 ^ bits) ^^^ (seed / 65536 % modulus)
  write place 4 seed
  return result

def counting : Family :=
  [("abs", fun _ => return .int (← intArgument 0).natAbs)]
  ++ shared ["labs", "llabs", "imaxabs"] (fun _ => return .long (← longArgument 0).natAbs)
  ++ [("div", fun _ => quotients 4), ("ldiv", fun _ => quotients 8), ("lldiv", fun _ => quotients 8),
    ("ffs", fun _ => do
      let n := Processor.cut 4 (← argument 0)
      return .whole (if n = 0 then 0 else Processor.lowestBit n + 1)),
    ("ffsl", fun _ => do
      let n ← argument 0
      return .whole (if n = 0 then 0 else Processor.lowestBit n + 1))]
  ++ shared ["htonl", "ntohl"] (fun _ => return .whole (Processor.reverseBytes 4 (← argument 0)))
  ++ shared ["htons", "ntohs"] (fun _ => return .whole (Processor.reverseBytes 2 (← argument 0)))
  ++ shared ["rand", "random"] (fun _ => return .whole (← nextRandom))
  ++ shared ["srand", "srandom"] (fun _ => do
      let seed := Processor.cut 4 (← argument 0)
      modify fun s => { s with randoms := Random.row seed }
      return .none)
  ++ [("rand_r", fun _ => do return .whole (← randomOf (← argument 0)))]
  ++ shared ["__popcountdi2", "__popcountsi2"] (fun _ => do
      return .whole (Processor.countBits (← argument 0)))

/-! ## Fractions -/

/-- Toward zero. -/
def truncated (x : Float) : Float := if x < 0.0 then x.ceil else x.floor

/-- To the nearest whole number, a half to the even neighbour. -/
def evenly (x : Float) : Float :=
  let low := x.floor
  let rest := x - low
  if rest < 0.5 then low
  else if rest > 0.5 then low + 1.0
  else if (low / 2.0).floor * 2.0 == low then low else low + 1.0

/-- The remainder of a quotient that is cut to a whole number. -/
def remainder (x y : Float) : Float :=
  let bits := x.toBits.toNat
  if x.isNaN || y.isNaN || x.isInf || y == 0.0 then 0.0 / 0.0
  else if y.isInf then x
  else
    let a := Decimal.Magnitude.ofFloat x
    let b := Decimal.Magnitude.ofFloat y
    let low := min a.exponent b.exponent
    let rest := (a.significand * 2 ^ (a.exponent - low).toNat)
      % (b.significand * 2 ^ (b.exponent - low).toNat)
    let size := match low with
      | .ofNat e => Float.ofScientific (rest * 2 ^ e) false 0
      -- a power of two below one is exact
      | .negSucc e => (Float.ofNat rest).scaleB (-(e + 1 : Int))
    if bits / 2 ^ 63 = 1 then -size else size

/-- The functions of one fraction. -/
def ofOne : List (String × (Float → Float)) := [
  ("sin", Float.sin), ("cos", Float.cos), ("tan", Float.tan), ("asin", Float.asin),
  ("acos", Float.acos), ("atan", Float.atan), ("sinh", Float.sinh), ("cosh", Float.cosh),
  ("tanh", Float.tanh), ("asinh", Float.asinh), ("acosh", Float.acosh), ("atanh", Float.atanh),
  ("exp", Float.exp), ("exp2", Float.exp2), ("log", Float.log), ("log2", Float.log2),
  ("log10", Float.log10), ("sqrt", Float.sqrt), ("cbrt", Float.cbrt), ("floor", Float.floor),
  ("ceil", Float.ceil), ("round", Float.round), ("trunc", truncated), ("rint", evenly),
  ("nearbyint", evenly), ("fabs", Float.abs), ("expm1", fun x => x.exp - 1.0),
  ("log1p", fun x => (1.0 + x).log), ("roundeven", evenly)]

/-- A fraction without its sign and with that of another. -/
def withSignOf (x y : Float) : Float :=
  let bits := x.toBits.toNat % 2 ^ 63 + y.toBits.toNat / 2 ^ 63 * 2 ^ 63
  Float.ofBits (UInt64.ofNat bits)

/-- The functions of two fractions. -/
def ofTwo : List (String × (Float → Float → Float)) := [
  ("pow", Float.pow), ("atan2", Float.atan2), ("fmod", remainder), ("copysign", withSignOf),
  ("fmin", fun x y => if x.isNaN then y else if y.isNaN then x else if x < y then x else y),
  ("fmax", fun x y => if x.isNaN then y else if y.isNaN then x else if y < x then x else y),
  ("hypot", fun x y => (x * x + y * y).sqrt),
  ("fdim", fun x y => if y < x then x - y else 0.0)]

/-- A fraction as the nearest whole number. -/
def toLong (x : Float) : Int :=
  if x.isNaN || x.isInf then -(2 ^ 63) else Processor.signed 8 (Processor.wholeOf 8 8 true x.toBits.toNat)

/-- A function of one fraction for both widths. -/
def bothWidths (name : String) (f : Float → Float) : Family :=
  [(name, fun _ => do return .double (f (← doubleArgument 0))),
   (name ++ "f", fun _ => do return .single (f (← singleArgument 0).toFloat).toFloat32)]

/-- A function of two fractions for both widths. -/
def bothWidthsOfTwo (name : String) (f : Float → Float → Float) : Family :=
  [(name, fun _ => do return .double (f (← doubleArgument 0) (← doubleArgument 1))),
   (name ++ "f", fun _ => do
      return .single (f (← singleArgument 0).toFloat (← singleArgument 1).toFloat).toFloat32)]

def fractions : Family :=
  ofOne.flatMap (fun p => bothWidths p.1 p.2)
  ++ ofTwo.flatMap (fun p => bothWidthsOfTwo p.1 p.2)
  ++ shared ["lround", "llround"] (fun _ => return .long (toLong (← doubleArgument 0).round))
  ++ shared ["lrint", "llrint"] (fun _ => return .long (toLong (evenly (← doubleArgument 0))))
  ++ shared ["ldexp", "scalbn", "scalbln"] (fun _ => do
      return .double ((← doubleArgument 0).scaleB (← intArgument 0)))
  ++ [("fma", fun _ => do
      return .double ((← doubleArgument 0) * (← doubleArgument 1) + (← doubleArgument 2))),
    ("frexp", fun _ => do
      let (x, power) := (← doubleArgument 0).frExp
      write (← argument 0) 4 (Processor.unsigned 4 power)
      return .double x),
    ("sincos", fun _ => do
      let x ← doubleArgument 0
      write (← argument 0) 8 x.sin.toBits.toNat
      write (← argument 1) 8 x.cos.toBits.toNat
      return .none),
    ("modf", fun _ => do
      let x ← doubleArgument 0
      let whole := truncated x
      write (← argument 0) 8 whole.toBits.toNat
      return .double (withSignOf (if x.isInf then 0.0 else x - whole) x))]
  ++ shared ["isnan", "__isnan"] (fun _ => return .whole (if (← doubleArgument 0).isNaN then 1 else 0))
  ++ shared ["isinf", "__isinf"] (fun _ => do
      let x ← doubleArgument 0
      return .int (if x.isInf then if x < 0.0 then -1 else 1 else 0))

end ModuleForge.Host.Library
