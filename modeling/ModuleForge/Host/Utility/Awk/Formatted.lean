import ModuleForge.Host.Utility.Awk.Memory

/-!
# Formatted texts

A format is a text with conversions, each of which takes a value. A conversion without a value, or
with a letter that is none, ends the program.
-/
namespace ModuleForge.Host.Utility.Awk

/-- What is wrong with a format. -/
inductive FormatFault where
  | tooFew
  | badLetter (conversion : Nat)

def FormatFault.message (who : String) (format : ByteString) : FormatFault → String
  | .tooFew => "not enough arguments passed to " ++ who ++ "(\"" ++ Text.lossy format ++ "\")"
  | .badLetter n =>
    "improper conversion(number " ++ toString n ++ ") in " ++ who ++ "(\"" ++ Text.lossy format ++ "\")"

namespace Value

/-- A number cut to a whole one between two bounds. -/
def bounded (least most : Int) (x : Float) : Int :=
  if x.isNaN then least
  else match Decimal.Size.ofFloat x with
    | .finite m =>
      let (num, den) := m.quotient
      let n : Int := if x < 0 then -(num / den : Nat) else (num / den : Nat)
      max least (min most n)
    | _ => if x < 0 then least else most

/-- The whole number of a conversion with a sign; what is too large has no sign. -/
def signed (x : Float) : Int := bounded (-9223372036854775807) 18446744073709551615 x

/-- The whole number of a conversion without a sign. -/
def unsigned (x : Float) : Nat :=
  if x < 0 then (BitVec.ofInt 64 (bounded (-9223372036854775808) 0 x)).toNat
  else (bounded 0 18446744073709551615 x).toNat

/-- The character of a conversion: the byte that a number is, or the first one of a text. -/
def character : Value → List Char
  | .unset => ['\x00']
  | .text s => [((Format.chars s).head?).getD '\x00']
  | v@(.number _) | v@(.input _) => match v.number? with
    | some x => Format.chars [UInt8.ofInt (bounded (-2147483648) 2147483647 x)]
    | none => [((Format.chars (v.toText [])).head?).getD '\x00']

end Value

/-- Formats values: the text so far, and what is wrong with the format. The numbers are those of the
conversions. -/
def formattedWithin (numberFormat : ByteString) :
    Nat → Nat → List Char → List Value → List Char → List Char × Option FormatFault
  | 0, _, _, _, done => (done.reverse, none)
  | fuel + 1, n, cs, vs, done =>
    match cs with
    | [] => (done.reverse, none)
    | '%' :: '%' :: rest => formattedWithin numberFormat fuel n rest vs ('%' :: done)
    | '%' :: rest =>
      let flags := rest.takeWhile "-+ #0".toList.contains
      let size (cs : List Char) (vs : List Value) : Option (Option Int × List Char × List Value) := match cs with
        | '*' :: rest => match vs with
          | v :: vs => some (some (Value.bounded (-2147483648) 2147483647 v.toFloat), rest, vs)
          | [] => none
        | _ =>
          let digits := cs.takeWhile Char.isDigit
          some (if digits.isEmpty then none else some (Format.digitsValue 10 digits), cs.drop digits.length, vs)
      match size (rest.drop flags.length) vs with
      | none => (done.reverse, some .tooFew)
      | some (width?, rest, vs) =>
        let precise : Option (Option Int × List Char × List Value) := match rest with
          | '.' :: rest => (size rest vs).map fun (n?, rest, vs) => (some (n?.getD 0), rest, vs)
          | rest => some (none, rest, vs)
        match precise with
        | none => (done.reverse, some .tooFew)
        | some (precision?, rest, vs) =>
          let width := width?.getD 0
          let l : Decimal.Layout := {
            flags := if width < 0 then '-' :: flags else flags
            width := width.natAbs
            precision := precision?.bind fun n => if n < 0 then none else some n.toNat }
          let rest := rest.dropWhile fun c => c == 'l' || c == 'h'
          let n := n + 1
          match rest, vs with
          | [], _ | _, [] => (done.reverse, some .tooFew)
          | c :: rest, v :: vs =>
            let goOn (cs : List Char) := formattedWithin numberFormat fuel n rest vs (cs.reverse ++ done)
            if c == 'c' then goOn (({ l with precision := none } : Decimal.Layout).text v.character)
            else if c == 's' then goOn (l.text (Format.chars (v.toText numberFormat)))
            else if c == 'd' || c == 'i' then goOn (l.int (Value.signed v.toFloat))
            else if "ouxX".toList.contains c then goOn (l.nat c (Value.unsigned v.toFloat))
            else if "eEfgG".toList.contains c then
              let x := v.toFloat
              goOn (l.fraction c (Decimal.negative x || x.isNaN) (.ofFloat x))
            else (done.reverse, some (.badLetter n))
    | c :: rest => formattedWithin numberFormat fuel n rest vs (c :: done)

def formatted (numberFormat format : ByteString) (values : List Value) : ByteString × Option FormatFault :=
  let cs := Format.chars format
  let (text, fault) := formattedWithin numberFormat (cs.length + 1) 0 cs values []
  (Format.bytes text, fault)

/-! ## Substitution -/

/-- A part of what is put in the place of a text. -/
inductive Substitute where
  | text (s : ByteString)
  /-- What was there. -/
  | found

/-- The parts of a replacement: `&` stands for what was there, unless a backslash stands before
it. -/
def substitutes : ByteString → List Substitute
  | 92 :: 92 :: 38 :: rest => .text [92] :: .found :: substitutes rest
  | 92 :: 38 :: rest => .text [38] :: substitutes rest
  | 38 :: rest => .found :: substitutes rest
  | b :: rest => .text [b] :: substitutes rest
  | [] => []

/-- Replaces what fits an expression, everywhere or once: the text, and how often. No text of length
0 is replaced right behind another one. -/
def substitutedWithin (e : Expression) (by_ : List Substitute) (everywhere : Bool) (line : Array UInt8) :
    Nat → Nat → Option Nat → List ByteString → Nat → List ByteString × Nat
  | 0, start, _, done, n => (Expression.slice line start line.size :: done, n)
  | fuel + 1, start, behind, done, n =>
    match e.findFrom line start fun from_ until_ => from_ < until_ || behind != some from_ with
    | none => (Expression.slice line start line.size :: done, n)
    | some f =>
      let new := by_.flatMap fun part => match part with
        | .text s => s
        | .found => f.text line
      let done := new :: Expression.slice line start f.start :: done
      if everywhere then
        if f.start < f.stop then substitutedWithin e by_ everywhere line fuel f.stop (some f.stop) done (n + 1)
        else if f.stop < line.size then
          substitutedWithin e by_ everywhere line fuel (f.stop + 1) none
            (Expression.slice line f.stop (f.stop + 1) :: done) (n + 1)
        else (done, n + 1)
      else (Expression.slice line f.stop line.size :: done, n + 1)

def substituted (e : Expression) (replacement : ByteString) (everywhere : Bool) (text : ByteString) :
    ByteString × Nat :=
  let (parts, n) :=
    substitutedWithin e (substitutes replacement) everywhere text.toArray (text.length + 2) 0 none [] 0
  (parts.reverse.flatten, n)

end ModuleForge.Host.Utility.Awk
