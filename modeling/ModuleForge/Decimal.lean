import ModuleForge.Power

/-!
# Decimals of binary fractions

## The shortest decimal of a binary fraction

A finite double is `m · 2^q`. Of the decimals that lie closer to it than to its neighbours, the
shortest is wanted, and of those the nearest: one to seventeen digits are tried in turn, and on each
grid of that many digits only the two points beside the value.

`Style` says how the digits are written: where positional notation ends, and how an exponent
looks. `Layout` lays numbers out as formats ask for them.
-/
namespace ModuleForge.Decimal

/-- A finite double's magnitude, `significand · 2^exponent`, and whether the double below it is only
half as far away as the one above. -/
structure Magnitude where
  significand : Nat
  exponent : Int
  narrowBelow : Bool
  deriving Repr

/-- The magnitude of a finite double. -/
def Magnitude.ofFloat (x : Float) : Magnitude :=
  let bits := x.toBits.toNat
  let fraction : Nat := bits % 2 ^ 52
  let biased : Nat := bits / 2 ^ 52 % 2 ^ 11
  if biased = 0 then ⟨fraction, -1074, false⟩
  else ⟨2 ^ 52 + fraction, (biased : Int) - 1075, fraction = 0 && 1 < biased⟩

/-- A decimal `0.d₁d₂… · 10^point`. -/
structure Digits where
  digits : List Nat
  point : Int
  deriving Repr, DecidableEq

/-- `num / den` times a power of ten, again as a quotient. -/
def scaled (num den : Nat) (power : Int) : Nat × Nat :=
  match power with
  | .ofNat n => (num * 10 ^ n, den)
  | .negSucc n => (num, den * 10 ^ (n + 1))

/-- The least `p` with `num / den < 10^p`, looked for upwards from `start`. -/
def leastPower (num den : Nat) (start : Int) : Nat → Int
  | 0 => start
  | fuel + 1 =>
    let (n, d) := scaled num den (-start)
    if n < d then start else leastPower num den (start + 1) fuel

/-- The decimal digits of a number, most significant first. -/
def natDigits (n : Nat) : List Nat :=
  (Nat.toDigits 10 n).map fun c => c.toNat - '0'.toNat

def dropTrailingZeros (ds : List Nat) : List Nat :=
  (ds.reverse.dropWhile (· == 0)).reverse

/--
The shortest digits of a magnitude that is not zero. Distances are counted in quarters of the last
place of the significand, so the bounds of the interval are whole numbers.
-/
def shortest (x : Magnitude) : Digits :=
  let (num, den) :=
    match x.exponent with
    | .ofNat e => (x.significand * 2 ^ e, 1)
    | .negSucc e => (x.significand, 2 ^ (e + 1))
  let point := leastPower num den (-330) 700
  let closed := x.significand % 2 = 0
  let lowQuarters := 4 * x.significand - (if x.narrowBelow then 1 else 2)
  let highQuarters := 4 * x.significand + 2
  go num den point closed lowQuarters highQuarters 1 17
where
  /-- Tries `count` digits, then more. -/
  go (num den : Nat) (point : Int) (closed : Bool) (low high count : Nat) : Nat → Digits
    | 0 => ⟨[], point⟩
    | fuel + 1 =>
      -- the value in units of the grid's last place
      let (n, d) := scaled num den (count - point)
      let below := n / d
      -- `c` units of the grid against `quarters / 4 / significand` of the value
      let quarters (c : Nat) : Nat × Nat := (4 * c * d * x.significand, n)
      let inside (c : Nat) : Bool :=
        let (a, b) := quarters c
        (low * b < a && a < high * b) || (closed && (low * b == a || a == high * b))
      let lowHit := inside below
      let highHit := inside (below + 1)
      let result (c : Nat) : Digits :=
        let ds := natDigits c
        ⟨dropTrailingZeros ds, point + (ds.length - count : Int)⟩
      if lowHit && (!highHit || 2 * (n - below * d) ≤ d) then result below
      else if highHit then result (below + 1)
      else go num den point closed low high (count + 1) fuel

/-- How a decimal is written: with a point between the digits when its power of ten is within the
bounds, else with an exponent. -/
structure Style where
  leastPoint : Int
  greatestPoint : Int
  exponentDigits : Nat

private def digitChars (ds : List Nat) : List Char := ds.map Nat.digitChar

/-- The text of a magnitude; a whole number ends in `.0`. -/
def Style.write (f : Style) (x : Magnitude) : String :=
  if x.significand = 0 then "0.0"
  else
    let r := shortest x
    let count : Int := r.digits.length
    let ds := digitChars r.digits
    if f.leastPoint ≤ r.point && r.point ≤ f.greatestPoint then
      if count ≤ r.point then
        String.ofList (ds ++ List.replicate (r.point - count).toNat '0' ++ ['.', '0'])
      else if 0 < r.point then
        String.ofList (ds.take r.point.toNat ++ '.' :: ds.drop r.point.toNat)
      else String.ofList ('0' :: '.' :: List.replicate (-r.point).toNat '0' ++ ds)
    else
      let e := r.point - 1
      let digits := Nat.toDigits 10 e.natAbs
      let padded := List.replicate (f.exponentDigits - digits.length) '0' ++ digits
      let mantissa := match ds with
        | [] => []
        | [d] => [d]
        | d :: more => d :: '.' :: more
      String.ofList (mantissa ++ 'e' :: (if e < 0 then '-' else '+') :: padded)

/-- The text of a finite double. -/
def Style.writeFloat (f : Style) (x : Float) : String :=
  let negative := 2 ^ 63 ≤ x.toBits.toNat
  (if negative then "-" else "") ++ f.write (Magnitude.ofFloat x)

/-!
## Decimals of a given length

A magnitude `m · 2^q` written with a given number of digits: behind the point (`fixed`), behind the
first digit (`scientific`), or in all (`general`). The last digit is the nearest one; of two that
are equally near the even one is taken.
-/

/-- A quotient rounded to the nearest whole number, a half to the even neighbour. -/
def roundedQuotient (num den : Nat) : Nat :=
  let low := num / den
  let rest := num % den
  if 2 * rest < den || (2 * rest = den && low % 2 = 0) then low else low + 1

/-- A magnitude as a quotient. -/
def Magnitude.quotient (x : Magnitude) : Nat × Nat :=
  match x.exponent with
  | .ofNat e => (x.significand * 2 ^ e, 1)
  | .negSucc e => (x.significand, 2 ^ (e + 1))

/-- A whole number as a magnitude. -/
def Magnitude.ofNat (n : Nat) : Magnitude := ⟨n, 0, false⟩

private def digitsOf (n : Nat) : List Char := Nat.toDigits 10 n

/-- At least `count` digits. -/
def paddedDigits (count n : Nat) : List Char :=
  let ds := digitsOf n
  List.replicate (count - ds.length) '0' ++ ds

/-- Digits with a point before the last `places` of them; the point stays away if nothing would
follow it, unless it is always wanted. -/
def pointed (places : Nat) (always : Bool) (ds : List Char) : List Char :=
  let whole := ds.take (ds.length - places)
  if places = 0 then if always then whole ++ ['.'] else whole
  else whole ++ '.' :: ds.drop (ds.length - places)

/-- With so many places behind the point. -/
def fixed (x : Magnitude) (places : Nat) (always : Bool := false) : List Char :=
  let (num, den) := x.quotient
  pointed places always (paddedDigits (places + 1) (roundedQuotient (num * 10 ^ places) den))

/-- The first `count` digits of a magnitude, rounded, and the power of ten of the first one. -/
def leading (x : Magnitude) (count : Nat) : Nat × Int :=
  if x.significand = 0 then (0, 0)
  else
    let (num, den) := x.quotient
    let power := leastPower num den (-330) 5300 - 1
    let (n, d) := scaled num den (count - 1 - power)
    let rounded := roundedQuotient n d
    if rounded < 10 ^ count then (rounded, power) else (rounded / 10, power + 1)

/-- The exponent behind a decimal: its sign and at least two digits. -/
def exponentText (power : Int) : List Char :=
  'e' :: (if power < 0 then '-' else '+') :: paddedDigits 2 power.natAbs

/-- With one digit before the point and so many behind it, and an exponent. -/
def scientific (x : Magnitude) (places : Nat) (always : Bool := false) : List Char :=
  let (digits, power) := leading x (places + 1)
  pointed places always (paddedDigits (places + 1) digits) ++ exponentText power

/-- Without zeros at its end behind the point. -/
def withoutTail (cs : List Char) : List Char :=
  if cs.contains '.' then
    match cs.reverse.dropWhile (· == '0') with
    | '.' :: rest => rest.reverse
    | rest => rest.reverse
  else cs

/-- With so many digits in all: positional unless the power of ten is small or does not fit; zeros
at the end stay away unless they are wanted. -/
def general (x : Magnitude) (digits : Nat) (keepZeros : Bool := false) : List Char :=
  let digits := max digits 1
  let (leading, power) := leading x digits
  if -4 ≤ power && power < digits then
    let cs := fixed x (digits - 1 - power).toNat keepZeros
    if keepZeros then cs else withoutTail cs
  else
    let cs := pointed (digits - 1) keepZeros (paddedDigits digits leading)
    (if keepZeros then cs else withoutTail cs) ++ exponentText power

/-!
## Laid out numbers

Numbers with flags, a least width and a precision. What stands in front of the digits (a sign, or
the mark of a base) stays in front when the width is filled with zeros.
-/

/-- The flags, width and precision of a conversion. -/
structure Layout where
  flags : List Char := []
  width : Nat := 0
  precision : Option Nat := none
  deriving Repr

namespace Layout

def has (l : Layout) (flag : Char) : Bool := l.flags.contains flag

/-- A text filled up to the width. -/
def fill (l : Layout) (body : List Char) : List Char :=
  let missing := List.replicate (l.width - body.length) ' '
  if l.has '-' then body ++ missing else missing ++ body

/-- Digits behind a mark, filled up to the width, with zeros if these are wanted and allowed. -/
def fillNumber (l : Layout) (zeros : Bool) (mark digits : List Char) : List Char :=
  if zeros && l.has '0' && !l.has '-' then
    mark ++ List.replicate (l.width - mark.length - digits.length) '0' ++ digits
  else l.fill (mark ++ digits)

/-- The sign of a number. -/
def sign (l : Layout) (negative : Bool) : List Char :=
  if negative then ['-'] else if l.has '+' then ['+'] else if l.has ' ' then [' '] else []

/-- A text, cut to the precision. -/
def text (l : Layout) (cs : List Char) : List Char :=
  l.fill ((l.precision.map cs.take).getD cs)

/-- The digits of a whole number, at least as many as the precision asks for; a precision of 0
leaves nothing of 0. -/
def leastDigits (l : Layout) (base n : Nat) : List Char :=
  let digits := if l.precision = some 0 && n = 0 then [] else Nat.toDigits base n
  List.replicate (l.precision.getD 0 - digits.length) '0' ++ digits

/-- A whole number with a sign. -/
def int (l : Layout) (n : Int) : List Char :=
  l.fillNumber l.precision.isNone (l.sign (n < 0)) (l.leastDigits 10 n.natAbs)

/-- A whole number without a sign, as `u`, `o`, `x` or `X` asks for. -/
def nat (l : Layout) (conversion : Char) (n : Nat) : List Char :=
  let put := l.fillNumber l.precision.isNone
  let marked := l.has '#' && n ≠ 0
  match conversion with
  | 'x' => put (if marked then ['0', 'x'] else []) (l.leastDigits 16 n)
  | 'X' => put (if marked then ['0', 'X'] else []) ((l.leastDigits 16 n).map Char.toUpper)
  | 'o' =>
    let digits := l.leastDigits 8 n
    put [] (if l.has '#' && digits.head? ≠ some '0' then '0' :: digits else digits)
  | _ => put [] (l.leastDigits 10 n)

end Layout

/-- A number that need not be finite, without its sign. -/
inductive Size where
  | finite (magnitude : Magnitude)
  | infinite
  | noNumber

/-- A double without its sign. -/
def Size.ofFloat (x : Float) : Size :=
  if x.isNaN then .noNumber else if x.isInf then .infinite else .finite (Magnitude.ofFloat x)

/-- Whether a double has the sign of negative numbers. -/
def negative (x : Float) : Bool := x.toBits.toNat / 2 ^ 63 = 1

/-- How many binary digits a number has. -/
def bitLength (n : Nat) : Nat := if n = 0 then 0 else n.log2 + 1

/-- A magnitude in base 16: one digit, a point, the others, and a power of two. -/
def hexadecimal (x : Magnitude) (places? : Option Nat) (always : Bool) : List Char :=
  let length := bitLength x.significand
  -- one binary digit before the point, and four for each place
  let all := (length + 2) / 4
  let significand := x.significand * 2 ^ (4 * all + 1 - length)
  let power : Int := if x.significand = 0 then 0 else x.exponent + length - 1
  let places := places?.getD all
  let rounded :=
    if places < all then roundedQuotient significand (16 ^ (all - places))
    else significand * 16 ^ (places - all)
  let digits := Nat.toDigits 16 rounded
  let digits := List.replicate (places + 1 - digits.length) '0' ++ digits
  let shown := pointed places always digits
  let shown := if places?.isNone then withoutTail shown else shown
  shown ++ 'p' :: (if power < 0 then '-' else '+') :: Nat.toDigits 10 power.natAbs

/-- The digits of a magnitude as `f`, `e`, `g` or `a` asks for. -/
def Layout.digits (l : Layout) (conversion : Char) (x : Magnitude) : List Char :=
  let places := l.precision.getD 6
  match conversion with
  | 'f' => fixed x places (l.has '#')
  | 'e' => scientific x places (l.has '#')
  | 'g' => general x places (l.has '#')
  | _ => hexadecimal x l.precision (l.has '#')

/-- A fraction as `f`, `e`, `g`, `a` or one of their capitals asks for. -/
def Layout.fraction (l : Layout) (conversion : Char) (isNegative : Bool) (x : Size) : List Char :=
  let kind := conversion.toLower
  let mark := l.sign isNegative
  let (zeros, mark, body) := match x with
    | .infinite => (false, mark, ['i', 'n', 'f'])
    | .noNumber => (false, mark, ['n', 'a', 'n'])
    | .finite m => (true, if kind == 'a' then mark ++ ['0', 'x'] else mark, l.digits kind m)
  let up := if conversion == kind then id else List.map Char.toUpper
  l.fillNumber zeros (up mark) (up body)

/-- A double as a conversion asks for. -/
def Layout.float (l : Layout) (conversion : Char) (x : Float) : List Char :=
  l.fraction conversion (negative x) (.ofFloat x)

end ModuleForge.Decimal
