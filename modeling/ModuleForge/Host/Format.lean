import ModuleForge.Decimal.Reader
import ModuleForge.Text.Bytes

/-!
# Formatted printing

A format is written once for as many arguments as it takes, and again as long as arguments are left.
Numbers may be given in bases 8, 10 and 16, or as a quote and a character.
-/
namespace ModuleForge.Host.Format

/-- What printing has come to: the output, the complaints, and whether to stop. -/
structure Printed where
  output : ByteString := []
  complaints : List String := []
  stopped : Bool := false
  /-- Whether the format itself is wrong. -/
  refused : Bool := false
  /-- How many arguments have been asked for. -/
  taken : Nat := 0
  /-- Whether one of the complaints is more than a warning. -/
  failed : Bool := false

/-- How a printing program differs from others: its complaints, and whether formats know numbers in
base 16, quotes and `\\c` among the escapes. -/
structure Dialect where
  noNumber : String → String
  outOfRange : String → String
  badTail : String → String
  /-- What is warned of characters behind a quoted one, if anything. -/
  afterQuoted? : Option (String → String) := none
  /-- Whether a quote with nothing behind it stands for 0. -/
  bareQuote : Bool := false
  /-- What is said of a directive that means nothing. -/
  badDirective : String → String
  /-- What a format is told that ends in the middle of a directive. -/
  noDirective : String → String
  /-- Marks of sizes that may stand before a conversion. -/
  sizeMarks : List Char := []
  moreEscapes : Bool
  /-- How `%q` quotes, where it is known. -/
  quote? : Option (ByteString → String) := none
  readFraction : List Char → Option (Decimal.Fraction × List Char)

/-- What prints in formats without any comment. -/
def plainDialect : Dialect where
  noNumber w := w
  outOfRange w := w
  badTail w := w
  badDirective w := w
  noDirective w := w
  moreEscapes := true
  readFraction := Decimal.readLong

def chars (bs : ByteString) : List Char := bs.map fun b => Char.ofNat b.toNat

def bytes (cs : List Char) : ByteString := cs.map fun c => UInt8.ofNat c.toNat

def isOctal (c : Char) : Bool := '0' ≤ c && c ≤ '7'

def isHex (c : Char) : Bool := Decimal.isHex c

def digitsValue (base : Nat) (cs : List Char) : Nat := Decimal.digitsValue base cs

/-- The byte of a simple escape. -/
def escape? : Char → Option UInt8
  | 'n' => some 10
  | 't' => some 9
  | 'r' => some 13
  | 'a' => some 7
  | 'b' => some 8
  | 'e' => some 27
  | 'f' => some 12
  | 'v' => some 11
  | '\\' => some 92
  | _ => none

/-- What stands for an escape, and what is left behind it; none for `\\c`, which stops all output.
In arguments an octal number follows a `0`. -/
def escape (more inArgument : Bool) : List Char → Option (ByteString × List Char)
  | [] => some ([92], [])
  | c :: rest =>
    let number (base : Nat) (digits left : List Char) : Option (ByteString × List Char) :=
      some ([UInt8.ofNat (digitsValue base digits)], left.drop digits.length)
    if c == 'c' && (inArgument || more) then none
    else if inArgument && c == '0' then number 8 ((rest.take 3).takeWhile isOctal) rest
    else if isOctal c then number 8 (((c :: rest).take 3).takeWhile isOctal) (c :: rest)
    else if more && c == 'x' && rest.head?.any isHex then
      number 16 ((rest.take 2).takeWhile isHex) rest
    else if more && !inArgument && c == '"' then some ([34], rest)
    else match escape? c with
      | some b => some ([b], rest)
      | none => some ([92], c :: rest)

/-- An argument with its escapes replaced; the answer tells whether one of them stops all output. -/
def unescapeWithin (more : Bool) : Nat → List Char → ByteString × Bool
  | 0, _ => ([], false)
  | _ + 1, [] => ([], false)
  | fuel + 1, '\\' :: rest => match escape more true rest with
    | none => ([], true)
    | some (bs, rest) =>
      let (after, stop) := unescapeWithin more fuel rest
      (bs ++ after, stop)
  | fuel + 1, c :: rest =>
    let (after, stop) := unescapeWithin more fuel rest
    (UInt8.ofNat c.toNat :: after, stop)

def unescape (more : Bool) (cs : List Char) : ByteString × Bool :=
  unescapeWithin more (cs.length + 1) cs

/-- The number that an argument gives, and what stands behind it. -/
def number (cs : List Char) : Option Int × List Char :=
  let cs := cs.dropWhile Decimal.isBlank
  let (negative, body) := match cs with
    | '-' :: rest => (true, rest)
    | '+' :: rest => (false, rest)
    | cs => (false, cs)
  let value (base : Nat) (digits : List Char) : Int :=
    let n := digitsValue base digits
    if negative then -(n : Int) else n
  match body with
  | '0' :: 'x' :: rest | '0' :: 'X' :: rest =>
    if rest.head?.any isHex then (some (value 16 (rest.takeWhile isHex)), rest.dropWhile isHex)
    else (some 0, body.drop 1)
  | '0' :: rest => (some (value 8 (rest.takeWhile isOctal)), rest.dropWhile isOctal)
  | body =>
    let digits := body.takeWhile Char.isDigit
    if digits.isEmpty then (none, body) else (some (value 10 digits), body.drop digits.length)

/-- A whole number as a conversion asks for. -/
def showNumber (l : Decimal.Layout) (conversion : Char) (n : Int) : List Char :=
  if conversion == 'd' || conversion == 'i' then l.int n
  else l.nat conversion (BitVec.ofInt 64 n).toNat

/-- A width or precision: digits, or `*` for the next argument. -/
def size (cs : List Char) (arguments : List (List Char)) : Option Int × List Char × List (List Char) :=
  match cs with
  | '*' :: rest => (some ((number (arguments.headD [])).1.getD 0), rest, arguments.drop 1)
  | _ =>
    let digits := cs.takeWhile Char.isDigit
    (if digits.isEmpty then none else some (digitsValue 10 digits), cs.drop digits.length, arguments)

/-- What stands between the `%` and the letter of a conversion. -/
def layout (w : Dialect) (cs : List Char) (arguments : List (List Char)) :
    Decimal.Layout × List Char × List (List Char) :=
  let flags := cs.takeWhile "-+ #0".toList.contains
  let (width?, rest, arguments) := size (cs.drop flags.length) arguments
  let (precision?, rest, arguments) := match rest with
    | '.' :: rest =>
      let (n, rest, arguments) := size rest arguments
      (some (n.getD 0), rest, arguments)
    | rest => (none, rest, arguments)
  let width := width?.getD 0
  let l : Decimal.Layout := {
    flags := if width < 0 then '-' :: flags else flags
    width := width.natAbs
    precision := precision?.bind fun n => if n < 0 then none else some n.toNat }
  (l, rest.dropWhile w.sizeMarks.contains, arguments)

/-- The character behind a quote at the beginning of an argument, and what follows it. -/
def quotedCharacter? (w : Dialect) : List Char → Option (Char × List Char)
  | [q] => if w.bareQuote && (q == '"' || q == '\'') then some ('\x00', []) else none
  | q :: c :: rest => if q == '"' || q == '\'' then some (c, rest) else none
  | [] => none

/-- An argument for a number: its value, and what is said of it. -/
structure Argument (α : Type) where
  value : α
  warnings : List String := []
  errors : List String := []

/-- What is said of an argument for a number: nothing is read of it (`none`), or all but a tail; a
number that does not fit is another matter. -/
def errorsOf (w : Dialect) (argument : List Char) (fits : Bool) : Option (List Char) → List String
  | none => [w.noNumber (String.ofList argument)]
  | some tail =>
    if !tail.isEmpty then [w.badTail (String.ofList argument)]
    else if fits then [] else [w.outOfRange (String.ofList argument)]

/-- What is warned of behind a quoted character. -/
def warningsOf (w : Dialect) (rest : List Char) : List String :=
  if rest.isEmpty then [] else (w.afterQuoted?.map (· (String.ofList rest))).toList

/-- An argument as a whole number. -/
def wholeArgument (w : Dialect) (withSign : Bool) (argument : List Char) : Argument Int :=
  match quotedCharacter? w argument with
  | some (c, rest) => { value := c.toNat, warnings := warningsOf w rest }
  | none =>
    if argument.isEmpty then { value := 0 }
    else
      let (n, tail) := number argument
      let (low, high) : Int × Int :=
        if withSign then (-(2 ^ 63), 2 ^ 63 - 1) else (-(2 ^ 64 - 1), 2 ^ 64 - 1)
      let value := n.getD 0
      let fits := low ≤ value && value ≤ high
      let bounded := if fits then value else if withSign && value < 0 then low else high
      { value := bounded, errors := errorsOf w argument fits (n.map fun _ => tail) }

/-- An argument as a fraction. -/
def fractionArgument (w : Dialect) (argument : List Char) : Argument Decimal.Fraction :=
  let whole (n : Nat) : Decimal.Fraction := ⟨false, .finite (.ofNat n)⟩
  match quotedCharacter? w argument with
  | some (c, rest) => { value := whole c.toNat, warnings := warningsOf w rest }
  | none =>
    if argument.isEmpty then { value := whole 0 }
    else match w.readFraction argument with
      | none => { value := whole 0, errors := errorsOf w argument true none }
      | some (x, tail) => { value := x, errors := errorsOf w argument true (some tail) }

/-- Writes a format once. -/
def once (w : Dialect) : Nat → List Char → List (List Char) → Printed →
    Printed × List (List Char)
  | 0, _, arguments, p => (p, arguments)
  | _ + 1, [], arguments, p => (p, arguments)
  | fuel + 1, '%' :: '%' :: rest, arguments, p =>
    once w fuel rest arguments { p with output := p.output ++ [37] }
  | fuel + 1, '%' :: start, arguments, p =>
    let (l, rest, arguments) := layout w start arguments
    let refused (text : String) : Printed × List (List Char) :=
      ({ p with
          complaints := p.complaints ++ [text], stopped := true, refused := true, failed := true }, arguments)
    match rest with
    | [] => refused (w.noDirective (String.ofList ('%' :: start)))
    | c :: rest =>
      let argument := arguments.headD []
      let left := arguments.drop 1
      let put (p : Printed) (cs : List Char) : Printed :=
        { p with output := p.output ++ bytes cs, taken := p.taken + 1 }
      let said {α : Type} (a : Argument α) : Printed :=
        { p with
          complaints := p.complaints ++ a.warnings ++ a.errors
          failed := p.failed || !a.errors.isEmpty }
      match c with
      | 's' => once w fuel rest left (put p (l.text argument))
      | 'c' =>
        -- without an argument, or with an empty one, there is a character of the number 0
        let shown := if argument.isEmpty && !arguments.isEmpty then ['\x00'] else argument.take 1
        once w fuel rest left (put p (l.fill shown))
      | 'b' =>
        let (bs, stop) := unescape w.moreEscapes argument
        let p := put p (l.text (chars bs))
        if stop then ({ p with stopped := true }, left) else once w fuel rest left p
      | _ =>
        if let (true, some quote) := (c == 'q', w.quote?) then
          once w fuel rest left (put p (l.text (quote (bytes argument)).toList))
        else if "diouxX".toList.contains c then
          let a := wholeArgument w (c == 'd' || c == 'i') argument
          once w fuel rest left (put (said a) (showNumber l c a.value))
        else if "fFeEgGaA".toList.contains c then
          let a := fractionArgument w argument
          once w fuel rest left (put (said a) (l.fraction c a.value.negative a.value.size))
        else
          refused (w.badDirective (String.ofList ('%' :: start.take (start.length - rest.length))))
  | fuel + 1, '\\' :: rest, arguments, p =>
    match escape w.moreEscapes false rest with
    | none => ({ p with stopped := true }, arguments)
    | some (bs, rest) => once w fuel rest arguments { p with output := p.output ++ bs }
  | fuel + 1, c :: rest, arguments, p =>
    once w fuel rest arguments { p with output := p.output ++ [UInt8.ofNat c.toNat] }

/-- Writes a format as long as it takes arguments and some are left. -/
def whole (w : Dialect) (format : List Char) : Nat → List (List Char) → Printed → Printed
  | 0, _, p => p
  | fuel + 1, arguments, p =>
    let (q, left) := once w (format.length + 1) format arguments p
    if q.stopped || left.isEmpty || q.taken == p.taken then q
    else whole w format fuel left q

/-- Writes arguments in a format. -/
def print (w : Dialect) (format : ByteString) (arguments : List ByteString) : Printed :=
  whole w (chars format) (arguments.length + 1) (arguments.map chars) {}

end ModuleForge.Host.Format
