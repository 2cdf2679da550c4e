import ModuleForge.Decimal.Reader
import ModuleForge.Host.Utility.Files

/-!
# Showing bytes

`od` shows bytes row by row, as numbers of several sizes and bases, as fractions or as characters.
If a row is shown in several ways, its columns stand below each other.
-/
namespace ModuleForge.Host.Utility

open Call

/-- How bytes are shown. -/
inductive Showing where
  | characters
  /-- By names for what cannot be printed. -/
  | names
  | signed (size : Nat)
  /-- Without a sign, in a base. -/
  | unsigned (size base : Nat)
  | fraction (size : Nat)
  deriving DecidableEq

/-- A way to show bytes, and whether the characters follow at the end of the row. -/
structure ShowingWay where
  showing : Showing
  trailer : Bool := false

namespace Showing

/-- How many bytes are shown as one. -/
def size : Showing → Nat
  | characters | names => 1
  | signed n | unsigned n _ | fraction n => n

/-- How wide the widest value is. -/
def width : Showing → Nat
  | characters | names => 3
  | signed n => match n with
    | 1 => 4
    | 2 => 6
    | 4 => 11
    | _ => 20
  | unsigned n base => (Nat.toDigits base (256 ^ n - 1)).length
  | fraction n => if n = 4 then 15 else if n = 8 then 24 else 29

def byteNames : List String := ["nul", "soh", "stx", "etx", "eot", "enq", "ack", "bel", "bs", "ht", "nl", "vt",
  "ff", "cr", "so", "si", "dle", "dc1", "dc2", "dc3", "dc4", "nak", "syn", "etb", "can", "em", "sub", "esc",
  "fs", "gs", "rs", "us", "sp"]

def inDigits (base width : Nat) (n : Nat) : String :=
  let digits := Nat.toDigits base n
  String.ofList (List.replicate (width - digits.length) '0' ++ digits)

def character (b : UInt8) : String :=
  if isPrinting b then String.singleton (Char.ofNat b.toNat)
  else if b = 0 then "\\0"
  else if 7 ≤ b && b ≤ 13 then escaped b
  else inDigits 8 3 b.toNat

def nameOf (b : UInt8) : String :=
  let b := b % 128
  if b = 127 then "del"
  else (byteNames[b.toNat]?).getD (String.singleton (Char.ofNat b.toNat))

/-- The fraction whose bits are given, with so many bits behind the point and for the exponent. -/
def fractionOf (places exponents n : Nat) : Decimal.Fraction :=
  let behind := n % 2 ^ places
  let exponent := n / 2 ^ places % 2 ^ exponents
  let negative := n / 2 ^ (places + exponents) % 2 = 1
  let bias : Int := 2 ^ (exponents - 1) - 1
  let size : Decimal.Size :=
    if exponent = 2 ^ exponents - 1 then if behind = 0 then .infinite else .noNumber
    else if exponent = 0 then .finite ⟨behind, 1 - bias - places, false⟩
    else .finite ⟨behind + 2 ^ places, (exponent : Int) - bias - places, false⟩
  ⟨negative, size⟩

/-- A fraction in as few digits as it takes to read it back, but at least `least`. -/
def shortest (bits least : Nat) (x : Decimal.Fraction) : String :=
  match x.size with
  | .infinite => if x.negative then "-inf" else "inf"
  | .noNumber => if x.negative then "-nan" else "nan"
  | .finite m =>
    let readsBack (digits : Nat) : Bool :=
      match Decimal.Reading.parse? (Decimal.general m digits) with
      | some (r, []) =>
        let (a, b) := (r.toMagnitude bits).quotient
        let (p, q) := m.quotient
        a * q == p * b
      | _ => false
    let digits := ((List.range 20).map (· + least)).find? readsBack |>.getD (least + 3)
    (if x.negative then "-" else "") ++ String.ofList (Decimal.general m digits)

/-- The bytes of one value, the lowest first, as they are shown. -/
def value (s : Showing) (bs : List UInt8) : String :=
  let n : Nat := bs.reverse.foldl (fun n b => n * 256 + b.toNat) 0
  match s with
  | characters => character (bs.headD 0)
  | names => nameOf (bs.headD 0)
  | unsigned _ 10 => toString n
  | unsigned size base => inDigits base (unsigned size base).width n
  | signed size => toString (if n < 256 ^ size / 2 then (n : Int) else (n : Int) - 256 ^ size)
  | fraction 4 => shortest 24 6 (fractionOf 23 8 n)
  | fraction _ => shortest 53 15 (fractionOf 52 11 n)

end Showing

/-- Takes the ways to show bytes from a type. -/
def showingsOf (whole : ByteString) : Nat → List Char → Except String (List ShowingWay)
  | 0, _ => .ok []
  | _ + 1, [] => .ok []
  | fuel + 1, c :: rest => do
    let withTrailer (s : Showing) (rest : List Char) : Except String (List ShowingWay) := do
      match rest with
      | 'z' :: rest => return ⟨s, true⟩ :: (← showingsOf whole fuel rest)
      | rest => return ⟨s, false⟩ :: (← showingsOf whole fuel rest)
    let digits := rest.takeWhile Char.isDigit
    let sized (usual : Nat) (letters : List (Char × Nat)) (known : List Nat) (kind : String)
        (make : Nat → Showing) : Except String (List ShowingWay) := do
      match rest with
      | l :: more =>
        if let some n := letters.lookup l then
          return ← withTrailer (make n) more
      | [] => pure ()
      if digits.isEmpty then withTrailer (make usual) rest
      else
        let n := Format.digitsValue 10 digits
        if known.contains n then withTrailer (make n) (rest.drop digits.length)
        else throw ("invalid type string " ++ quoted whole ++ ";\nthis system doesn't provide a "
          ++ toString n ++ "-byte " ++ kind ++ " type")
    let numbers := sized 4 [('C', 1), ('S', 2), ('I', 4), ('L', 8)] [1, 2, 4, 8] "integral"
    match c with
    | 'a' => withTrailer .names rest
    | 'c' => withTrailer .characters rest
    | 'd' => numbers .signed
    | 'o' => numbers (.unsigned · 8)
    | 'u' => numbers (.unsigned · 10)
    | 'x' => numbers (.unsigned · 16)
    | 'f' => sized 8 [('F', 4), ('D', 8), ('L', 16)] [4, 8, 16] "floating point" .fraction
    | _ => throw ("invalid character '" ++ String.singleton c ++ "' in type string " ++ quoted whole)

/-- The type that one of the old options stands for. -/
def oldType? : Char → Option String
  | 'a' => some "a"
  | 'b' => some "o1"
  | 'c' => some "c"
  | 'd' => some "u2"
  | 'D' => some "u4"
  | 'f' => some "fF"
  | 'e' | 'F' => some "fD"
  | 'h' | 'x' => some "x2"
  | 'H' | 'X' => some "x4"
  | 'i' => some "dI"
  | 'l' | 'I' | 'L' => some "dL"
  | 'o' | 'B' => some "o2"
  | 'O' => some "o4"
  | 's' => some "d2"
  | _ => none

/-- How a dump is laid out. -/
structure Dump where
  ways : List ShowingWay
  rowSize : Nat
  address : Nat → String
  everyRow : Bool
  highestFirst : Bool

namespace Dump

/-- How wide a row is that is shown in the widest way. -/
def rowWidth (d : Dump) : Nat :=
  (d.ways.map fun w => (w.showing.width + 1) * (d.rowSize / w.showing.size)).foldl max 0

/-- The values of a row in one way, each filled up so that all ways end in the same column. -/
def rowText (d : Dump) (w : ShowingWay) (row : List UInt8) : String :=
  let s := w.showing
  let fields := d.rowSize / s.size
  let pad := d.rowWidth - fields * s.width
  let full := row ++ List.replicate (d.rowSize - row.length) 0
  let shown := (row.length + s.size - 1) / s.size
  let values := ((parts s.size full).take shown).map fun bs =>
    s.value (if d.highestFirst then bs.reverse else bs)
  let text := String.join (values.zipIdx.map fun (v, i) =>
    let before := pad * (fields - i) / fields
    let after := pad * (fields - i - 1) / fields
    padLeft (before - after + s.width) v)
  let missing := fields - shown
  let trailer := if !w.trailer then "" else
    String.ofList (List.replicate (missing * s.width + pad * missing / fields) ' ') ++ "  >"
      ++ String.ofList (row.map fun b => if isPrinting b then Char.ofNat b.toNat else '.') ++ "<"
  text ++ trailer

/-- All rows with their addresses; rows equal to the one before them are shown as one star. -/
def rows (d : Dump) : Nat → Nat → Option (List UInt8) → Bool → List UInt8 → List String
  | 0, _, _, _, _ => []
  | fuel + 1, position, last, starred, data =>
    if data.isEmpty then
      let final := d.address position
      if final.isEmpty then [] else [final]
    else
      let row := data.take d.rowSize
      let rest := data.drop d.rowSize
      if !d.everyRow && last == some row && row.length = d.rowSize then
        (if starred then [] else ["*"]) ++ rows d fuel (position + d.rowSize) last true rest
      else
        let front := d.address position
        let blank := String.ofList (List.replicate front.length ' ')
        let lines := d.ways.zipIdx.map fun (w, i) => (if i = 0 then front else blank) ++ d.rowText w row
        lines ++ rows d fuel (position + row.length) (some row) false rest

end Dump

/-- The texts of at least so many characters in some data, with their places. -/
def textsIn (least : Nat) (data : List UInt8) : List (Nat × List UInt8) :=
  let (found, _, _) := data.foldl (fun (st : List (Nat × List UInt8) × List UInt8 × Nat) b =>
    let (found, current, i) := st
    if b = 0 then
      (if least ≤ current.length then (i - current.length, current.reverse) :: found else found, [], i + 1)
    else if isPrinting b || (7 ≤ b && b ≤ 13) then (found, b :: current, i + 1)
    else (found, [], i + 1)) ([], [], 0)
  found.reverse

def od : Utility := fun c => c.withGrammar {
    flags := "abcdDefFhHxXilILoBOsv", valued := "AjNtS", attached := "w", longValued := "E"
    long := [("address-radix", 'A'), ("skip-bytes", 'j'), ("read-bytes", 'N'), ("format", 't'), ("strings", 'S'),
      ("output-duplicates", 'v'), ("width", 'w'), ("endian", 'E')] } fun o => do
  let types := o.letters.filterMap fun (l, v) =>
    if l == 't' then some v else (oldType? l).map ByteString.ofText
  let ways? := (types.mapM fun w => showingsOf w (w.length + 1) (Format.chars w)).map List.flatten
  let radix := (o.value? 'A').map plain |>.getD "o"
  let number (l : Char) : Except String Nat := match o.value? l with
    | none => .ok 0
    | some v => match sizeOf? v with
      | some n => if v.isEmpty then .error "" else .ok n
      | none => .error ("invalid -" ++ String.singleton l ++ " argument " ++ quoted v)
  let refuse (message : String) : Task Nat := do
    c.complain message
    return 1
  if !(["d", "o", "x", "n"].contains radix) then
    refuse ("invalid output address radix '" ++ radix ++ "'; it must be one character from [doxn]")
  else match ways?, number 'j', number 'N', number 'S' with
    | .error message, _, _, _ | _, .error message, _, _ | _, _, .error message, _ | _, _, _, .error message =>
      refuse message
    | .ok ways, .ok skip, .ok most, .ok least =>
      let ways := if ways.isEmpty then [⟨.unsigned 2 8, false⟩] else ways
      let unit := (ways.map (·.showing.size)).foldl Nat.lcm 1
      let usual := if unit < 16 then unit * (16 / unit) else unit
      let wanted := match o.value? 'w' with
        | none => usual
        | some [] => 32
        | some v => (Shell.natural? v).getD 0
      let rowSize := if wanted % unit = 0 && 0 < wanted then wanted else unit
      if rowSize ≠ wanted then
        c.complain ("warning: invalid width " ++ toString wanted ++ "; using " ++ toString rowSize ++ " instead")
      let (code, data) ← c.wholeInput o.operands
      if data.length < skip then
        refuse "cannot skip past end of combined input"
      else
        let data := data.drop skip
        let data := if (o.value? 'N').isSome then data.take most else data
        let address (n : Nat) : String := match radix with
          | "n" => ""
          | "d" => Showing.inDigits 10 7 n
          | "x" => Showing.inDigits 16 6 n
          | _ => Showing.inDigits 8 7 n
        if (o.value? 'S').isSome then
          c.putBytes ((textsIn least data).flatMap fun (i, text) =>
            let front := address (skip + i)
            ByteString.ofText (if front.isEmpty then "" else front ++ " ") ++ text ++ [10]) code
        else
          let d : Dump := { ways, rowSize, address, everyRow := o.has 'v', highestFirst :=
            (o.value? 'E').map plain == some "big" }
          let lines := d.rows (data.length + 2) skip none false data
          c.putText (String.join (lines.map (· ++ "\n"))) code

end ModuleForge.Host.Utility
