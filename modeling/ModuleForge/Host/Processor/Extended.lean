import ModuleForge.Decimal

/-!
# Extended fractions

Numbers of 64 significant binary digits. Every result is the exact one, rounded once to the nearest
number, a half to the even neighbour.
-/
namespace ModuleForge.Host

/-- An extended fraction: `significand · 2^exponent` with its sign, or none of the finite ones. -/
inductive Extended where
  | finite (negative : Bool) (significand : Nat) (exponent : Int)
  | infinite (negative : Bool)
  | noNumber
  deriving Repr

namespace Extended

def zero : Extended := .finite false 0 0

/-- How many binary digits a significand has. -/
def digits : Nat := 64

def bitLength (n : Nat) : Nat := if n = 0 then 0 else n.log2 + 1

/-- A number with at most so many significant digits; `rest` tells that there is more below them. -/
def rounded (count : Nat) (negative : Bool) (significand : Nat) (exponent : Int) (rest : Bool := false) :
    Extended :=
  -- one more digit holds what is below all the others
  let (significand, exponent) := if rest then (2 * significand + 1, exponent - 1) else (significand, exponent)
  let extra := bitLength significand - count
  if extra = 0 then .finite negative significand exponent
  else .finite negative (Decimal.roundedQuotient significand (2 ^ extra)) (exponent + extra)

def ofInt (n : Int) : Extended := rounded digits (n < 0) n.natAbs 0

/-- The number that stands in the bits of a fraction of eight bytes. -/
def ofDouble (bits : Nat) : Extended :=
  let negative := bits / 2 ^ 63 % 2 = 1
  if bits / 2 ^ 52 % 2 ^ 11 = 2 ^ 11 - 1 then
    if bits % 2 ^ 52 = 0 then .infinite negative else .noNumber
  else
    let m := Decimal.Magnitude.ofFloat (Float.ofBits (UInt64.ofNat bits))
    .finite negative m.significand m.exponent

/-- A magnitude as a double. -/
def magnitudeToFloat (significand : Nat) (exponent : Int) : Float :=
  match rounded 53 false significand exponent with
  | .finite _ s e => (Float.ofNat s).scaleB e
  | _ => 0.0

/-- The bits of the nearest fraction of eight bytes. -/
def toDouble : Extended → Nat
  | noNumber => 0xFFF8000000000000
  | infinite negative => (if negative then 2 ^ 63 else 0) + 0x7FF0000000000000
  | finite negative s e => (if negative then 2 ^ 63 else 0) + (magnitudeToFloat s e).toBits.toNat % 2 ^ 63

/-- The bits of the nearest fraction of four bytes. -/
def toSingle (x : Extended) : Nat :=
  match x with
  | finite negative s e =>
    match rounded 24 false s e with
    | .finite _ s e =>
      (if negative then 2 ^ 31 else 0)
        + ((Float.ofNat s).scaleB e).toFloat32.toBits.toNat % 2 ^ 31
    | _ => 0
  | x => (Float.ofBits (UInt64.ofNat (toDouble x))).toFloat32.toBits.toNat

/-- The number that stands in ten bytes. -/
def ofBytes (n : Nat) : Extended :=
  let negative := n / 2 ^ 79 % 2 = 1
  let power : Nat := n / 2 ^ 64 % 2 ^ 15
  let significand := n % 2 ^ 64
  if power = 2 ^ 15 - 1 then if significand % 2 ^ 63 = 0 then .infinite negative else .noNumber
  else .finite negative significand ((power : Int) - 16383 - 63)

/-- A number in ten bytes. -/
def toBytes : Extended → Nat
  | noNumber => 0xFFFFC000000000000000
  | infinite negative => (if negative then 2 ^ 79 else 0) + 0x7FFF8000000000000000
  | finite negative s e =>
    let mark := if negative then 2 ^ 79 else 0
    if s = 0 then mark
    else
      let shift := digits - bitLength s
      mark + (e - shift + 16383 + 63).toNat * 2 ^ 64 + s * 2 ^ shift

def isNegative : Extended → Bool
  | finite negative .. | infinite negative => negative
  | noNumber => false

def opposite : Extended → Extended
  | finite negative s e => finite (!negative) s e
  | infinite negative => infinite (!negative)
  | noNumber => noNumber

def size : Extended → Extended
  | finite _ s e => finite false s e
  | infinite _ => infinite false
  | noNumber => noNumber

/-- Two significands with a common exponent. -/
def aligned (s₁ : Nat) (e₁ : Int) (s₂ : Nat) (e₂ : Int) : Nat × Nat × Int :=
  let e := min e₁ e₂
  (s₁ * 2 ^ (e₁ - e).toNat, s₂ * 2 ^ (e₂ - e).toNat, e)

/-- A magnitude with a sign. -/
def withSign (negative : Bool) (n : Nat) : Int := if negative then -(n : Int) else n

def add : Extended → Extended → Extended
  | finite n₁ s₁ e₁, finite n₂ s₂ e₂ =>
    let (a, b, e) := aligned s₁ e₁ s₂ e₂
    let sum := withSign n₁ a + withSign n₂ b
    rounded digits (if sum = 0 then n₁ && n₂ else sum < 0) sum.natAbs e
  | infinite a, infinite b => if a = b then infinite a else noNumber
  | infinite a, finite .. | finite .., infinite a => infinite a
  | _, _ => noNumber

def mul : Extended → Extended → Extended
  | finite n₁ s₁ e₁, finite n₂ s₂ e₂ => rounded digits (n₁ != n₂) (s₁ * s₂) (e₁ + e₂)
  | infinite a, infinite b => infinite (a != b)
  | infinite a, finite b s _ | finite b s _, infinite a => if s = 0 then noNumber else infinite (a != b)
  | _, _ => noNumber

def div : Extended → Extended → Extended
  | finite n₁ s₁ e₁, finite n₂ s₂ e₂ =>
    if s₂ = 0 then if s₁ = 0 then noNumber else infinite (n₁ != n₂)
    else
      let shift := 2 * digits + 2 + bitLength s₂ - bitLength s₁
      let num := s₁ * 2 ^ shift
      rounded digits (n₁ != n₂) (num / s₂) (e₁ - e₂ - shift) (num % s₂ ≠ 0)
  | infinite a, finite b .. => infinite (a != b)
  | finite a .., infinite b => finite (a != b) 0 0
  | _, _ => noNumber

/-- The root of a number without what is behind its point, found digit by digit from the highest. -/
def rootOf (n : Nat) : Nat → Nat → Nat
  | 0, found => found
  | place + 1, found =>
    let more := found + 2 ^ place
    rootOf n place (if more * more ≤ n then more else found)

def squareRoot : Extended → Extended
  | finite false s e =>
    -- an even exponent, and enough digits
    let shift := 2 * digits + (if (e - 2 * digits) % 2 = 0 then 0 else 1)
    let square := s * 2 ^ shift
    let root := rootOf square (bitLength square / 2 + 1) 0
    rounded digits false root ((e - shift) / 2) (root * root ≠ square)
  | finite true 0 e => finite true 0 e
  | infinite false => infinite false
  | _ => noNumber

/-- The order of two numbers; there is none with what is no number. -/
def order : Extended → Extended → Option Ordering
  | finite n₁ s₁ e₁, finite n₂ s₂ e₂ =>
    let (a, b, _) := aligned s₁ e₁ s₂ e₂
    some (compare (withSign n₁ a) (withSign n₂ b))
  | infinite a, infinite b => some (if a = b then .eq else if a then .lt else .gt)
  | infinite a, finite .. => some (if a then .lt else .gt)
  | finite .., infinite b => some (if b then .gt else .lt)
  | _, _ => none

/-- How a number comes to be a whole one. -/
inductive Rounding where
  | nearest
  | down
  | up
  | toZero
  deriving DecidableEq

/-- The whole number for a finite one. -/
def wholeOf (how : Rounding) (negative : Bool) (s : Nat) (e : Int) : Int :=
  match e with
  | .ofNat e => withSign negative (s * 2 ^ e)
  | .negSucc e =>
    let unit := 2 ^ (e + 1)
    let up := s % unit ≠ 0
    withSign negative <| match how with
      | .nearest => Decimal.roundedQuotient s unit
      | .toZero => s / unit
      | .down => if negative && up then s / unit + 1 else s / unit
      | .up => if !negative && up then s / unit + 1 else s / unit

/-- The number without what is behind its point. -/
def toWhole (how : Rounding) : Extended → Extended
  | finite negative s e =>
    if 0 ≤ e then finite negative s e
    else finite negative (wholeOf how negative s e).natAbs 0
  | x => x

/-- What is left of a quotient that is cut to a whole number, or rounded to one. -/
def remainder (nearest : Bool) : Extended → Extended → Extended
  | finite n₁ s₁ e₁, finite _ s₂ e₂ =>
    if s₂ = 0 then noNumber
    else
      let (a, b, e) := aligned s₁ e₁ s₂ e₂
      let quotient := if nearest then Decimal.roundedQuotient a b else a / b
      let rest : Int := (a : Int) - (b : Int) * quotient
      finite (if rest = 0 then n₁ else (rest < 0) != n₁) rest.natAbs e
  | finite n s e, infinite _ => finite n s e
  | _, _ => noNumber

end Extended

/-- The part of the processor that counts with extended fractions. -/
structure FractionStack where
  numbers : List Extended := []
  control : Nat := 0x37F
  /-- The four marks that comparisons leave behind. -/
  marks : Nat := 0

end ModuleForge.Host
