/-!
# Random numbers

A row of words from which random numbers are made: each new word is the sum of two earlier ones, and
a number is a word without its lowest bit. The first words come from a seed.
-/
namespace ModuleForge.Host.Random

/-- The row for a seed. -/
def row (seed : Nat) : List UInt32 :=
  let start := (BitVec.ofNat 32 (if seed = 0 then 1 else seed)).toInt
  let rec first (n : Nat) (last : Int) : List Int := match n with
    | 0 => []
    | n + 1 =>
      let next := 16807 * (last.tmod 127773) - 2836 * last.tdiv 127773
      let next := if next < 0 then next + 2147483647 else next
      next :: first n next
  let words := (start :: first 30 start).map UInt32.ofInt
  let rec turn (n : Nat) (row : List UInt32) : List UInt32 := match n with
    | 0 => row
    | n + 1 => turn n (row.drop 1 ++ [row.headD 0 + row.getD 28 0])
  turn 310 (words.drop 3 ++ words.take 3)

/-- The next number, below 2³¹, and the row that is left. -/
def next (row : List UInt32) : Nat × List UInt32 :=
  let word := row.headD 0 + row.getD 28 0
  ((word >>> 1).toNat, row.drop 1 ++ [word])

end ModuleForge.Host.Random
