import ModuleForge.Power
import ModuleForge.Duration
import ModuleForge.Text.Printable
import ModuleForge.Text.Quoted

/-!
# Reading durations

A duration is written as numbers with units, `1h 30m` or `1.5s`, and is their sum. White space may
stand before, between and behind the numbers and inside them; a number may have a fraction if the
result is a whole count of nanoseconds. `0` alone is the empty duration.
-/
namespace ModuleForge.Duration

/-- Why a text is no duration; positions count bytes. -/
inductive ReadError where
  | invalidCharacter (offset : Nat)
  | numberExpected (offset : Nat)
  | unknownUnit (unit : String) (value : Nat)
  | overflow
  /-- A full second of nanoseconds was carried into seconds that had no room left. -/
  | carriedTooFar
  | empty
  deriving DecidableEq, Repr

def ReadError.message : ReadError → String
  | invalidCharacter offset => "invalid character at " ++ toString offset
  | numberExpected offset => "expected number at " ++ toString offset
  | unknownUnit unit value =>
    if unit.isEmpty then
      "time unit needed, for example " ++ toString value ++ "sec or " ++ toString value ++ "ms"
    else
      "unknown time unit " ++ Text.quote unit
        ++ ", supported units: ns, us/µs, ms, sec, min, hours, days, weeks, months, years "
        ++ "(and few variations)"
  | overflow =>
    "number is too large or cannot be represented without a lack of precision "
      ++ "(values below 1ns are not supported)"
  | carriedTooFar => "seconds beyond 64 bits"
  | empty => "value was empty"

/-- A unit of time: its length in seconds, or, below a second, in nanoseconds. -/
inductive TimeUnit where
  | small (nanos : Nat)
  | large (seconds : Nat)

def TimeUnit.ofName? (name : String) : Option TimeUnit :=
  if ["nanos", "nsec", "ns"].contains name then some (.small 1)
  else if ["usec", "us", "µs"].contains name then some (.small 1000)
  else if ["millis", "msec", "ms"].contains name then some (.small 1000000)
  else if ["seconds", "second", "secs", "sec", "s"].contains name then some (.large 1)
  else if ["minutes", "minute", "min", "mins", "m"].contains name then some (.large 60)
  else if ["hours", "hour", "hrs", "hr", "h"].contains name then some (.large 3600)
  else if ["days", "day", "d"].contains name then some (.large 86400)
  else if ["weeks", "week", "wks", "wk", "w"].contains name then some (.large 604800)
  else if ["months", "month", "M"].contains name then some (.large 2630016)
  else if ["years", "year", "yrs", "yr", "y"].contains name then some (.large 31557600)
  else none

/-- Numbers stay within 64 bits. -/
def bounded (n : Nat) : Except ReadError Nat :=
  if n < 2 ^ 64 then .ok n else .error .overflow

/-- A fraction `numerator / denominator` of a unit. -/
structure Fraction where
  numerator : Nat
  denominator : Nat

/-- The sum so far, in seconds and nanoseconds, with one more part. The nanoseconds are carried over
once they pass a second. -/
def addPart (sum : Nat × Nat) (seconds nanos : Nat) : Except ReadError (Nat × Nat) := do
  let total ← bounded (sum.2 + nanos)
  let seconds ← if 1000000000 < total then bounded (seconds + total / 1000000000) else pure seconds
  let nanos := if 1000000000 < total then total % 1000000000 else total
  let seconds ← bounded (sum.1 + seconds)
  if nanos ≠ 1000000000 then return (seconds, nanos)
  else if seconds + 1 < 2 ^ 64 then return (seconds + 1, 0)
  else throw .carriedTooFar

/-- A whole quotient. -/
def quotient (n d : Nat) : Except ReadError Nat :=
  if n % d = 0 then .ok (n / d) else .error .overflow

/-- The sum with `n` of a unit, and a fraction of it. -/
def addUnit (n : Nat) (fraction : Option Fraction) (unit : String) (sum : Nat × Nat) :
    Except ReadError (Nat × Nat) := do
  match TimeUnit.ofName? unit with
  | none => .error (.unknownUnit unit n)
  | some u =>
    let sum ← match u with
      | .small k => addPart sum 0 (← bounded (n * k))
      | .large k => addPart sum (← bounded (n * k)) 0
    match fraction with
    | none => return sum
    | some f =>
      match u with
      | .small 1 => .error .overflow
      | .small k => addPart sum 0 (← quotient (← bounded (f.numerator * k)) f.denominator)
      | .large k =>
        if k ≤ 60 then
          let scaled ← bounded (f.numerator * (k * 1000000000))
          addPart sum 0 (← quotient scaled f.denominator)
        else addPart sum (← quotient (← bounded (f.numerator * k)) f.denominator) 0

def isUnitLetter (c : Char) : Bool := c.isAlpha || c == 'µ'

/-- What the reader has in hand: the number and its fraction, the letters of its unit, and the sum
of the parts before. -/
inductive Stage where
  /-- Before a number; the gap that stands there began at `start`. -/
  | before (first : Bool) (start : Nat)
  | number (n : Nat)
  | fraction (n numerator denominator : Nat) (lastOffset : Nat)
  | unit (n : Nat) (fraction : Option Fraction) (letters : List Char)

/-- Reads on from a stage. `offset` is the position of the text to come. -/
def readFrom (stage : Stage) (sum : Nat × Nat) (offset : Nat) :
    List Char → Except ReadError (Nat × Nat)
  | [] =>
    match stage with
    | .before first _ => if first then .error .empty else .ok sum
    | .number n => addUnit n none "" sum
    | .fraction n numerator denominator last =>
      if denominator = 1 then .error (.invalidCharacter last)
      else addUnit n (some ⟨numerator, denominator⟩) "" sum
    | .unit n fraction letters => addUnit n fraction (String.ofList letters.reverse) sum
  | c :: rest => do
    let next := offset + c.utf8Size
    let digit := c.toNat - '0'.toNat
    match stage with
    | .before first start =>
      if c.isDigit then readFrom (.number digit) sum next rest
      else if Text.isBlank c then readFrom (.before first start) sum next rest
      else .error (.numberExpected start)
    | .number n =>
      if c.isDigit then
        let n ← bounded (n * 10)
        readFrom (.number (← bounded (n + digit))) sum next rest
      else if Text.isBlank c then readFrom (.number n) sum next rest
      else if isUnitLetter c then readFrom (.unit n none [c]) sum next rest
      else if c = '.' then readFrom (.fraction n 0 1 offset) sum next rest
      else .error (.invalidCharacter offset)
    | .fraction n numerator denominator last =>
      if c.isDigit then
        let denominator ← bounded (denominator * 10)
        let numerator ← bounded (numerator * 10)
        readFrom (.fraction n (← bounded (numerator + digit)) denominator next) sum next rest
      else if Text.isBlank c then
        readFrom (.fraction n numerator denominator next) sum next rest
      else if isUnitLetter c && denominator ≠ 1 then
        readFrom (.unit n (some ⟨numerator, denominator⟩) [c]) sum next rest
      else .error (.invalidCharacter last)
    | .unit n fraction letters =>
      if c.isDigit then
        let sum ← addUnit n fraction (String.ofList letters.reverse) sum
        readFrom (.number digit) sum next rest
      else if Text.isBlank c then
        let sum ← addUnit n fraction (String.ofList letters.reverse) sum
        readFrom (.before false next) sum next rest
      else if isUnitLetter c then readFrom (.unit n fraction (c :: letters)) sum next rest
      else .error (.invalidCharacter offset)

/-- Reads a duration. -/
def parse (s : String) : Except ReadError Duration :=
  if s = "0" then .ok zero
  else do
    let (seconds, nanos) ← readFrom (.before true 0) (0, 0) 0 s.toList
    return ofNanos (seconds * 1000000000 + nanos)

end ModuleForge.Duration
