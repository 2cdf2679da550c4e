import ModuleForge.Decimal
import ModuleForge.Host.Library.Numbers
import ModuleForge.Host.Library.Streams

/-!
# Formatted texts

The functions of the C library that write arguments as a format asks for, and those that read texts
by a format. The arguments come from the registers and the stack, or from a list of the caller's.
-/
namespace ModuleForge.Host.Library

open Program

/-! ## Arguments -/

/-- Where the next arguments are. -/
structure Arguments where
  /-- How many registers are used up already. -/
  wholes : Nat
  fractions : Nat := 0
  /-- The next argument on the stack. -/
  stack : Nat
  /-- Where the registers were saved, if they were. -/
  saved? : Option Nat := none

/-- What takes arguments. -/
abbrev Taking := StateT Arguments Run

namespace Taking

/-- The next argument of eight bytes that is no fraction. -/
def whole : Taking Nat := do
  let a ← get
  if a.wholes < 6 then
    set { a with wholes := a.wholes + 1 }
    match a.saved? with
    | some place => Program.read (place + 8 * a.wholes) 8
    | none => argument a.wholes
  else
    set { a with stack := a.stack + 8 }
    Program.read a.stack 8

/-- The next fraction of eight bytes. -/
def fraction : Taking Float := do
  let a ← get
  let bits ← if a.fractions < 8 then do
      set { a with fractions := a.fractions + 1 }
      match a.saved? with
      | some place => Program.read (place + 48 + 16 * a.fractions) 8
      | none => doubleBits a.fractions
    else do
      set { a with stack := a.stack + 8 }
      Program.read a.stack 8
  return Float.ofBits (UInt64.ofNat bits)
where
  doubleBits (i : Nat) : Run Nat := return (← doubleArgument i).toBits.toNat

/-- The next fraction of ten bytes. -/
def longFraction : Taking (Bool × Decimal.Size) := do
  let a ← get
  let place := (a.stack + 15) / 16 * 16
  set { a with stack := place + 16 }
  let significand ← Program.read place 8
  let top ← Program.read (place + 8) 2
  let power : Nat := top % 2 ^ 15
  let size : Decimal.Size :=
    if power = 0x7FFF then if significand % 2 ^ 63 = 0 then .infinite else .noNumber
    else .finite ⟨significand, (power : Int) - 16446, false⟩
  return (top / 2 ^ 15 = 1, size)

end Taking

/-- The arguments behind `fixed` that are always there. -/
def argumentsAfter (fixed : Nat) : Run Arguments := do
  let top := (← get).processor.registers.getD Processor.stackPointer 0
  return { wholes := fixed, stack := top + 8 + 8 * (fixed - 6) }

/-- The arguments of a caller's list. -/
def listedArguments (place : Nat) : Run Arguments := do
  let stack ← read (place + 8) 8
  let saved ← read (place + 16) 8
  return { wholes := (← read place 4) / 8, fractions := ((← read (place + 4) 4) - 48) / 16,
           stack, saved? := some saved }

/-! ## Writing -/

/-- What stands between the `%` and the letter of a conversion. -/
structure Directive where
  layout : Decimal.Layout
  /-- How many bytes a whole number has. -/
  width : Nat
  long : Bool
  conversion : Char

def charsOf (bs : ByteString) : List Char := bs.map fun b => Char.ofNat b.toNat

def bytesOf (cs : List Char) : ByteString := cs.map fun c => UInt8.ofNat c.toNat

/-- The digits at the beginning of a text as a number. -/
def leadingNumber (cs : List Char) : Option Nat × List Char :=
  let digits := cs.takeWhile Char.isDigit
  (if digits.isEmpty then none else some (digits.foldl (fun n c => n * 10 + (c.toNat - 48)) 0),
    cs.drop digits.length)

/-- A width or precision. -/
def sizeOrArgument : List Char → Taking (Option Int × List Char)
  | '*' :: rest => do return (some (Processor.signed 4 (Processor.cut 4 (← Taking.whole))), rest)
  | cs => return ((leadingNumber cs).1.map Int.ofNat, (leadingNumber cs).2)

/-- The marks of sizes before a conversion: how many bytes it takes, and whether a fraction is
long. -/
def widthOf : List Char → Nat × Bool × List Char
  | 'h' :: 'h' :: rest => (1, false, rest)
  | 'h' :: rest => (2, false, rest)
  | 'l' :: 'l' :: rest => (8, false, rest)
  | 'L' :: rest => (8, true, rest)
  | c :: rest => if "lqjzt".toList.contains c then (8, false, rest) else (4, false, c :: rest)
  | [] => (4, false, [])

/-- Reads a directive behind its `%`. -/
def directive (cs : List Char) : Taking (Option (Directive × List Char)) := do
  let flags := cs.takeWhile "-+ #0'".toList.contains
  let (width?, rest) ← sizeOrArgument (cs.drop flags.length)
  let (precision?, rest) ← match rest with
    | '.' :: rest => do
      let (n, rest) ← sizeOrArgument rest
      pure (some (n.getD 0), rest)
    | rest => pure (none, rest)
  let (width, long, rest) := widthOf rest
  let size := width?.getD 0
  let layout : Decimal.Layout :=
    { flags := if size < 0 then '-' :: flags else flags, width := size.natAbs
      precision := precision?.bind fun n => if n < 0 then none else some n.toNat }
  match rest with
  | [] => return none
  | conversion :: rest => return some ({ layout, width, long, conversion }, rest)

/-- The text at a place, as far as a precision lets it be read. -/
def limitedText (place : Nat) : Option Nat → Run ByteString
  | none => readText place
  | some limit => do
    match (← get).processor.memory.bytes? place limit with
    | some data => return data.data.toList.takeWhile (· ≠ 0)
    | none => return (← readText place).take limit

/-- What a directive writes. -/
def written (d : Directive) (sofar : Nat) : Taking (List Char) := do
  let l := d.layout
  let number (withSign : Bool) : Taking Int := do
    let n := Processor.cut d.width (← Taking.whole)
    return if withSign then Processor.signed d.width n else n
  match d.conversion with
  | 'd' | 'i' => return l.int (← number true)
  | 'u' | 'o' | 'x' | 'X' => return l.nat d.conversion (← number false).toNat
  | 'c' => return l.fill [Char.ofNat (Processor.cut 1 (← Taking.whole))]
  | 's' =>
    let place ← Taking.whole
    if place = 0 then
      let null := "(null)".toList
      return l.fill (if l.precision.any (· < null.length) then [] else null)
    return l.fill (charsOf (← limitedText place l.precision))
  | 'p' =>
    let place ← Taking.whole
    if place = 0 then return l.fill "(nil)".toList
    return ({ l with flags := '#' :: l.flags }.nat 'x' place)
  | 'n' =>
    Program.write (← Taking.whole) d.width sofar
    return []
  | 'm' =>
    let e : Errno := ⟨(← Program.read errorPlace 4 : Nat)⟩
    return l.text (charsOf (ByteString.ofText e.message))
  | '%' => return ['%']
  | c =>
    if "fFeEgGaA".toList.contains c then
      if d.long then
        let (isNegative, size) ← Taking.longFraction
        return l.fraction c isNegative size
      else return l.float c (← Taking.fraction)
    else return ['%', c]

/-- Writes a format. -/
def formatted : Nat → List Char → List Char → Taking (List Char)
  | 0, _, out => return out.reverse
  | _ + 1, [], out => return out.reverse
  | fuel + 1, '%' :: rest, out => do
    match ← directive rest with
    | none => return out.reverse
    | some (d, rest) => formatted fuel rest ((← written d out.length).reverse ++ out)
  | fuel + 1, c :: rest, out => formatted fuel rest (c :: out)

/-- What a format at a place comes to with arguments. -/
def format (place : Nat) (arguments : Arguments) : Run ByteString := do
  let cs := charsOf (← readText place)
  return bytesOf (← (formatted (cs.length + 1) cs []).run' arguments)

/-- How the arguments of a function of this family are found: behind the fixed ones, or in a list
that stands in their place. -/
def argumentsAt (listed : Bool) (fixed : Nat) : Run Arguments := do
  if listed then listedArguments (← argument fixed) else argumentsAfter fixed

/-- Prints to a stream. -/
def printTo (place : Nat) (formatIndex : Nat) (listed : Bool) : Run Answer := do
  let text ← format (← argument formatIndex) (← argumentsAt listed (formatIndex + 1))
  return okOrEnd (← putText place text) (.whole text.length)

/-- Prints into memory of limited size. -/
def printInto (limit? : Option Nat) (formatIndex : Nat) (listed : Bool) : Run Answer := do
  let place ← argument 0
  let text ← format (← argument formatIndex) (← argumentsAt listed (formatIndex + 1))
  match limit? with
  | none => writeText place text
  | some 0 => pure ()
  | some (n + 1) => writeText place (text.take n)
  return .whole text.length

/-- Prints into new memory. -/
def printNew (formatIndex : Nat) (listed : Bool) : Run Answer := do
  let text ← format (← argument formatIndex) (← argumentsAt listed (formatIndex + 1))
  let place ← allocate (text.length + 1)
  writeText place text
  write (← argument 0) 8 place
  return .whole text.length

/-- Prints to a descriptor. -/
def printDescriptor (formatIndex : Nat) (listed : Bool) : Run Answer := do
  let text ← format (← argument formatIndex) (← argumentsAt listed (formatIndex + 1))
  orFailed ((← giveBytes (← fdArgument 0) ⟨text.toArray⟩).map Int.ofNat)

def printing : Family :=
  [("printf", fun _ => printTo (streamPlace 1) 0 false),
   ("vprintf", fun _ => printTo (streamPlace 1) 0 true),
   ("__printf_chk", fun _ => printTo (streamPlace 1) 1 false),
   ("__vprintf_chk", fun _ => printTo (streamPlace 1) 1 true),
   ("fprintf", fun _ => do printTo (← argument 0) 1 false),
   ("vfprintf", fun _ => do printTo (← argument 0) 1 true),
   ("__fprintf_chk", fun _ => do printTo (← argument 0) 2 false),
   ("__vfprintf_chk", fun _ => do printTo (← argument 0) 2 true),
   ("sprintf", fun _ => printInto none 1 false),
   ("vsprintf", fun _ => printInto none 1 true),
   ("__sprintf_chk", fun _ => printInto none 3 false),
   ("__vsprintf_chk", fun _ => printInto none 3 true),
   ("snprintf", fun _ => do printInto (some (← argument 1)) 2 false),
   ("vsnprintf", fun _ => do printInto (some (← argument 1)) 2 true),
   ("__snprintf_chk", fun _ => do printInto (some (← argument 1)) 4 false),
   ("__vsnprintf_chk", fun _ => do printInto (some (← argument 1)) 4 true),
   ("asprintf", fun _ => printNew 1 false),
   ("vasprintf", fun _ => printNew 1 true),
   ("__asprintf_chk", fun _ => printNew 2 false),
   ("dprintf", fun _ => printDescriptor 1 false),
   ("vdprintf", fun _ => printDescriptor 1 true),
   ("__dprintf_chk", fun _ => printDescriptor 2 false)]

/-! ## Reading -/

/-- What is left of a text, how many bytes were taken, and how many values were given. -/
structure Scan where
  rest : ByteString
  taken : Nat := 0
  given : Nat := 0
  /-- Whether the text was at its end when something was wanted of it. -/
  dry : Bool := false

/-- The bytes of a set `[…]` and what is left of the format; a `^` at its beginning turns it
around. -/
def scanSet (cs : List Char) : (UInt8 → Bool) × List Char :=
  let (turned, cs) := match cs with
    | '^' :: rest => (true, rest)
    | cs => (false, cs)
  let (first, rest) := match cs with
    | ']' :: rest => ([']'], rest)
    | cs => ([], cs)
  let body := first ++ rest.takeWhile (· ≠ ']')
  let rec members : List Char → List (Nat × Nat)
    | a :: '-' :: b :: more => (a.toNat, b.toNat) :: members more
    | a :: more => (a.toNat, a.toNat) :: members more
    | [] => []
  let ranges := members body
  let isIn (b : UInt8) : Bool := ranges.any fun (a, z) => a ≤ b.toNat && b.toNat ≤ z
  (fun b => isIn b != turned, (rest.dropWhile (· ≠ ']')).drop 1)

/-- Reads a text by a format. -/
def scanned : Nat → List Char → Scan → Taking Scan
  | 0, _, s => return s
  | _ + 1, [], s => return s
  | fuel + 1, '%' :: rest, s => do
    let skipped := rest.head? = some '*'
    let (limit?, rest) := leadingNumber (if skipped then rest.drop 1 else rest)
    let (width, long, rest) := widthOf rest
    let _ := long
    match rest with
    | [] => return s
    | c :: rest =>
      let gap := if c == 'c' || c == '[' || c == 'n' then 0 else (s.rest.takeWhile isGap).length
      let body := s.rest.drop gap
      let limited : ByteString := (limit?.map body.take).getD body
      let advance (n : Nat) (given : Bool) : Scan :=
        { s with rest := body.drop n, taken := s.taken + gap + n
                 given := s.given + if given && !skipped then 1 else 0 }
      let whole (base : Nat) : Taking (Option Scan) := do
        match readWhole base limited with
        | none => return none
        | some (n, count) =>
          if !skipped then Program.write (← Taking.whole) width (Processor.unsigned 8 n)
          return some (advance count true)
      let text (bs : ByteString) (ended : Bool) : Taking (Option Scan) := do
        if bs.isEmpty then return none
        if !skipped then
          let place ← Taking.whole
          if ended then writeText place bs else Program.writeBytes place ⟨bs.toArray⟩
        return some (advance bs.length true)
      let (next, rest) : Option Scan × List Char ← match c with
        | 'd' | 'u' => do pure (← whole 10, rest)
        | 'i' => do pure (← whole 0, rest)
        | 'o' => do pure (← whole 8, rest)
        | 'x' | 'X' | 'p' => do pure (← whole 16, rest)
        | 's' => do pure (← text (limited.takeWhile (!isGap ·)) true, rest)
        | 'c' => do pure (← text (body.take (limit?.getD 1)) false, rest)
        | '[' => do
          let (isIn, rest) := scanSet rest
          pure (← text (limited.takeWhile isIn) true, rest)
        | 'n' => do
          Program.write (← Taking.whole) width s.taken
          pure (some s, rest)
        | '%' => pure (if body.head? = some 37 then some (advance 1 false) else none, rest)
        | c =>
          if "fFeEgGaA".toList.contains c then match readFraction limited with
            | none => pure (none, rest)
            | some (x, count) => do
              if !skipped then
                let place ← Taking.whole
                if width = 8 then Program.write place 8 x.toBits.toNat
                else Program.write place 4 x.toFloat32.toBits.toNat
              pure (some (advance count true), rest)
          else pure (none, rest)
      match next with
      | some next => scanned fuel rest next
      | none => return { s with dry := body.isEmpty }
  | fuel + 1, c :: rest, s =>
    let b := UInt8.ofNat c.toNat
    if isGap b then
      let gap := (s.rest.takeWhile isGap).length
      scanned fuel rest { s with rest := s.rest.drop gap, taken := s.taken + gap }
    else match s.rest with
      | d :: more =>
        if d = b then scanned fuel rest { s with rest := more, taken := s.taken + 1 } else return s
      | [] => return { s with dry := true }

/-- Reads a text by a format at a place: how many values were given, and the bytes taken. -/
def scan (text : ByteString) (place : Nat) (arguments : Arguments) : Run (Answer × Nat) := do
  let cs := charsOf (← readText place)
  let s ← (scanned (cs.length + 1) cs { rest := text }).run' arguments
  return (if s.dry && s.given = 0 then ending else .whole s.given, s.taken)

def scanText (listed : Bool) : Run Answer := do
  let text ← readText (← argument 0)
  return (← scan text (← argument 1) (← argumentsAt listed 2)).1

def scanning : Family :=
  shared ["sscanf", "__isoc99_sscanf"] (fun _ => scanText false)
  ++ shared ["vsscanf", "__isoc99_vsscanf"] (fun _ => scanText true)

end ModuleForge.Host.Library
