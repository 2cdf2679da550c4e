import ModuleForge.Host.Utility.Call

/-!
# Utilities that print

What prints its words: as they are, in a format, over and over, or as a row of numbers.
-/
namespace ModuleForge.Host.Utility

open Call

def dialect : Format.Dialect where
  noNumber w := quoted (Format.bytes w.toList) ++ ": expected a numeric value"
  outOfRange w := quoted (Format.bytes w.toList) ++ ": Numerical result out of range"
  badTail w := quoted (Format.bytes w.toList) ++ ": value not completely converted"
  badDirective w := w ++ ": invalid conversion specification"
  noDirective w := w ++ ": invalid conversion specification"
  afterQuoted? := some fun rest =>
    "warning: " ++ rest ++ ": character(s) following character constant have been ignored"
  sizeMarks := "hlLjtz".toList
  moreEscapes := true
  quote? := some named
  readFraction := Decimal.readLong

def printf : Utility := fun c => do
  let words := match c.words with
    | [45, 45] :: rest => rest
    | words => words
  match words with
  | [] => c.misuse "missing operand"
  | format :: rest =>
    let p := Format.print dialect format rest
    let code ← c.putBytes p.output (if p.failed then 1 else 0)
    for text in p.complaints do c.complain text
    if p.taken == 0 && !p.stopped then
      if let w :: _ := rest then
        c.complain ("warning: ignoring excess arguments, starting with " ++ quoted w)
    return code

/-- Whether a word is one of the options of `echo`, which may be combined. -/
def isEchoOption (w : ByteString) : Bool :=
  match w with
  | 45 :: c :: more => (c :: more).all fun b => b == 110 || b == 101 || b == 69
  | _ => false

def echo : Utility := fun c => do
  let flags := c.words.takeWhile isEchoOption
  let words := c.words.drop flags.length
  let letters := flags.flatten
  let text := (List.intersperse [32] words).flatten
  let last := letters.reverse.find? fun b => b == 101 || b == 69
  let (bytes, stop) := if last == some 101 then Format.unescape true (Format.chars text)
    else (text, false)
  c.putBytes (if letters.contains 110 || stop then bytes else bytes ++ [10])

def yesWithin (c : Call) (line : ByteArray) : Nat → Task Nat
  | 0 => return 0
  | fuel + 1 => do
    match ← Task.writeAll 1 line with
    | .ok () => yesWithin c line fuel
    | .error e =>
      c.complain ("standard output: " ++ e.message)
      return 1

def yes : Utility := fun c => c.withGrammar {} fun o => do
  let words := if o.operands.isEmpty then [[121]] else o.operands
  let line := (List.intersperse [32] words).flatten ++ [10]
  yesWithin c ⟨((List.replicate (1 + 8192 / line.length) line).flatten).toArray⟩ Task.patience

/-! ## Rows of numbers -/

/-- A number of a row as it was given: its digits, the power of ten of the last one, how many places
stand behind its point, and how wide it is. -/
structure Term where
  digits : Int
  power : Int
  places : Nat
  width : Int
  hasSign : Bool := false

/-- What a word of `seq` gives: a number, no end at all, or a reason why it gives nothing. -/
inductive Bound where
  | number (t : Term)
  | endless (negative : Bool)
  | notANumber
  | noNumber

def boundOf (w : ByteString) : Bound :=
  let cs := (Format.chars w).dropWhile Decimal.isBlank
  let (negative, body) := match cs with
    | '-' :: rest => (true, rest)
    | '+' :: rest => (false, rest)
    | rest => (false, rest)
  let signed (n : Nat) : Int := if negative then -(n : Int) else n
  let wide : Int := (if negative then 1 else 0) + body.length
  match Decimal.readLong cs with
  | some (⟨_, .noNumber⟩, []) => .notANumber
  | some (⟨_, .infinite⟩, []) => .endless negative
  | some (⟨_, .finite m⟩, []) =>
    match Decimal.Reading.parse? body with
    | some (r, []) =>
      let mantissa := body.takeWhile fun c => c != 'e' && c != 'E'
      let behind := (mantissa.dropWhile (· != '.')).drop 1
      let point := mantissa.contains '.'
      let exponent : Int := r.power + behind.length
      let hasExponent := mantissa.length < body.length
      let places : Nat :=
        if !hasExponent then behind.length
        else if exponent < 0 then behind.length + exponent.natAbs
        else behind.length - min behind.length exponent.toNat
      let width : Int :=
        if !hasExponent then
          wide + (if point && behind.isEmpty then -1 else 0)
            + (if point && (mantissa.head? == some '.') then 1 else 0)
        else
          -- as wide as the number is when it is written out
          let whole := (Nat.toDigits 10 (r.digits * 10 ^ r.power.toNat / 10 ^ (-r.power).toNat)).length
          (if negative then 1 else 0) + whole + (if places = 0 then 0 else places + 1)
      .number { digits := signed r.digits, power := r.power, places, width, hasSign := negative }
    | _ =>
      let (num, den) := m.quotient
      .number { digits := signed (num / den), power := 0, places := 0, width := wide, hasSign := negative }
  | _ => .noNumber

/-- The one directive of a format, with the text around it. -/
structure NumberFormat where
  before : ByteString
  layout : Decimal.Layout
  letter : Char
  after : ByteString

/-- Reads a format for numbers, or tells what is wrong with it. -/
def NumberFormat.read (w : ByteString) : Except String NumberFormat :=
  let shown := quoted w
  let rec plainPart : Nat → List Char → List Char × List Char
    | 0, cs => ([], cs)
    | fuel + 1, '%' :: '%' :: rest =>
      let (p, r) := plainPart fuel rest
      ('%' :: p, r)
    | fuel + 1, c :: rest =>
      if c == '%' then ([], c :: rest)
      else
        let (p, r) := plainPart fuel rest
        (c :: p, r)
    | _, [] => ([], [])
  let fuel := w.length + 1
  let (before, rest) := plainPart fuel (Format.chars w)
  match rest with
  | '%' :: start =>
    let (layout, rest, _) := Format.layout { dialect with sizeMarks := ['L'] } start []
    match rest with
    | [] => .error ("format " ++ shown ++ " ends in %")
    | letter :: rest =>
      if !"efgaEFGA".toList.contains letter then
        .error ("format " ++ shown ++ " has unknown %" ++ String.singleton letter ++ " directive")
      else
        let (after, rest) := plainPart fuel rest
        if rest.isEmpty then .ok ⟨Format.bytes before, layout, letter, Format.bytes after⟩
        else .error ("format " ++ shown ++ " has too many % directives")
  | _ => .error ("format " ++ shown ++ " has no % directive")

/-- Rows of numbers as they are to be written: all in units of one power of ten. -/
structure NumberRow where
  first : Int
  step : Int
  last : Option Int
  /-- How many places a unit has. -/
  places : Nat
  write : Int → ByteString
  separator : ByteString

namespace NumberRow

def isOver (r : NumberRow) (n : Int) : Bool :=
  match r.last with
  | none => false
  | some last => if r.step < 0 then n < last else last < n

/-- Some numbers of the row from the `i`th on, and whether the row ends with them. -/
def chunk (r : NumberRow) (i : Nat) : Nat → ByteString × Bool
  | 0 => ([], false)
  | count + 1 =>
    let n := r.first + i * r.step
    if r.isOver n then ([], true)
    else
      let (more, isOver) := chunk r (i + 1) count
      ((if i = 0 then [] else r.separator) ++ r.write n ++ more, isOver)

def print (c : Call) (r : NumberRow) : Nat → Nat → Task Nat
  | 0, _ => return 0
  | fuel + 1, i => do
    let (bs, isOver) := r.chunk i 256
    if isOver then
      if bs.isEmpty && i = 0 then return 0 else c.putBytes (bs ++ [10])
    else
      let code ← c.putBytes bs
      if code ≠ 0 then return code else print c r fuel (i + 256)

end NumberRow

/-- A number in units of a power of ten, with so many places behind its point, filled up with
zeros. -/
def written (unitPlaces places : Nat) (width : Nat) (n : Int) : ByteString :=
  let size := n.natAbs
  let digits := if unitPlaces ≤ places then size * 10 ^ (places - unitPlaces)
    else Decimal.roundedQuotient size (10 ^ (unitPlaces - places))
  let body := Decimal.pointed places false (Decimal.paddedDigits (places + 1) digits)
  let sign := if n < 0 then ['-'] else []
  Format.bytes (sign ++ List.replicate (width - sign.length - body.length) '0' ++ body)

/-- Negative numbers are no options. -/
def isNegativeNumber (w : ByteString) : Bool :=
  match w with
  | 45 :: d :: _ => d == 46 || (48 ≤ d && d ≤ 57)
  | _ => false

def seq : Utility := fun c =>
  -- what follows the first number are operands
  let front := c.words.takeWhile fun w => !isNegativeNumber w
  let c := if front.length < c.words.length && front.getLast? != some [45, 45]
      && front.getLast? != some [45, 115] && front.getLast? != some [45, 102] then
    { c with words := front ++ [45, 45] :: c.words.drop front.length } else c
  c.withGrammar {
      flags := "w", valued := "fs", inFront := true
      long := [("equal-width", 'w'), ("format", 'f'), ("separator", 's')] } fun o => do
    let words := o.operands.filter (· ≠ [45, 45])
    match words with
    | [] => c.misuse "missing operand"
    | _ :: _ :: _ :: extra :: _ => c.misuse ("extra operand " ++ quoted extra)
    | _ =>
      let bad? := words.findSome? fun w => match boundOf w with
        | .noNumber => some ("invalid floating point argument: " ++ quoted w)
        | .notANumber => some ("invalid 'not-a-number' argument: " ++ quoted w)
        | _ => none
      let terms := words.map fun w => match boundOf w with
        | .number t => (some t, false)
        | .endless negative => (none, negative)
        | _ => (none, false)
      let one : Term := { digits := 1, power := 0, places := 0, width := 1 }
      let (first, step, last) : Term × Term × Option Term × Bool := match terms with
        | [a] => (one, one, a)
        | [a, b] => (a.1.getD one, one, b)
        | [a, s, b] => (a.1.getD one, s.1.getD one, b)
        | _ => (one, one, some one, false)
      let (last, isLow) := last
      match bad?, o.value? 'f' with
      | some message, _ => c.misuse message
      | none, format =>
        if step.digits = 0 then
          c.misuse ("invalid Zero increment value: " ++ quoted (words.getD 1 []))
        else if format.isSome && o.has 'w' then
          c.misuse "format string may not be specified when printing equal width strings"
        else
          let powers := [first.power, step.power] ++ (last.map (·.power)).toList
          let unit : Nat := (powers.map fun (p : Int) => (-p).toNat).foldl max 0
          let scale (t : Term) : Int := t.digits * 10 ^ (t.power + unit).toNat
          let places := max first.places step.places
          let firstWidth : Int := first.width + (places - first.places : Nat)
            + (if first.places = 0 && 0 < places then 1 else 0)
          let lastWidth : Int := match last with
            | none => 0
            | some l => l.width + ((places : Int) - l.places)
              + (if 0 < l.places && places = 0 then -1 else 0)
              + (if l.places = 0 && 0 < places then 1 else 0)
          let width : Nat := if o.has 'w' then (max firstWidth lastWidth).toNat else 0
          let format? : Except String (Option NumberFormat) := match format with
            | none => .ok none
            | some w => (NumberFormat.read w).map some
          match format? with
          | .error message =>
            c.complain message
            return 1
          | .ok format =>
            let write (n : Int) : ByteString := match format with
              | none =>
                let text := written unit places width n
                if n = 0 && first.digits = 0 && first.hasSign then 45 :: text else text
              | some f =>
                let m := (⟨n.natAbs, -(unit : Int)⟩ : Decimal.Reading).toMagnitude 64
                f.before ++ Format.bytes (f.layout.fraction f.letter (n < 0) (.finite m)) ++ f.after
            let endless := last.isNone
            if endless && (isLow != decide (step.digits < 0)) then return 0
            let row : NumberRow := {
              first := scale first, step := scale step, last := last.map scale, places, write
              separator := (o.value? 's').getD [10] }
            row.print c Task.patience 0

end ModuleForge.Host.Utility
