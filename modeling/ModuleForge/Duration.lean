/-!
# Durations

A length of time in whole seconds and nanoseconds below one second. `debug` writes it with the
largest unit of s, ms, µs and ns that leaves a number of at least one, and as many places as it
needs.
-/
namespace ModuleForge

structure Duration where
  seconds : Nat
  nanos : Nat
  nanos_lt : nanos < 1000000000 := by decide
  deriving DecidableEq, Repr

namespace Duration

def ofSeconds (n : Nat) : Duration := { seconds := n, nanos := 0 }

/-- A duration from any number of nanoseconds. -/
def ofNanos (n : Nat) : Duration where
  seconds := n / 1000000000
  nanos := n % 1000000000
  nanos_lt := Nat.mod_lt _ (by decide)

def ofMillis (n : Nat) : Duration := ofNanos (n * 1000000)

def zero : Duration := ofSeconds 0

/-- All of it in nanoseconds. -/
def toNanos (d : Duration) : Nat := d.seconds * 1000000000 + d.nanos

/-- The whole seconds that are enough for it. -/
def ceilSeconds (d : Duration) : Nat := d.seconds + if 0 < d.nanos then 1 else 0

/-- `fraction / 10^places` without trailing zeros, behind its point. -/
def fractionText (fraction places : Nat) : String :=
  let digits := Nat.toDigits 10 fraction
  let all := List.replicate (places - digits.length) '0' ++ digits
  match (all.reverse.dropWhile (· == '0')).reverse with
  | [] => ""
  | ds => String.ofList ('.' :: ds)

/-- The duration as messages show it. -/
def debug (d : Duration) : String :=
  if 0 < d.seconds then toString d.seconds ++ fractionText d.nanos 9 ++ "s"
  else if 1000000 ≤ d.nanos then
    toString (d.nanos / 1000000) ++ fractionText (d.nanos % 1000000) 6 ++ "ms"
  else if 1000 ≤ d.nanos then
    toString (d.nanos / 1000) ++ fractionText (d.nanos % 1000) 3 ++ "µs"
  else toString d.nanos ++ "ns"

end Duration
end ModuleForge
