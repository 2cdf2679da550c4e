import ModuleForge.Decimal
import ModuleForge.Host.Processor.Basic

/-!
# Fractions and vectors

What the processor does with its registers of sixteen bytes, which hold binary fractions of four or
eight bytes or several whole numbers side by side (`lanes`).
-/
namespace ModuleForge.Host.Processor

/-! ## Lanes -/

/-- The numbers of `width` bytes that stand in `count` lanes, the lowest first. -/
def lanes (width count value : Nat) : List Nat :=
  (List.range count).map fun i => value / 2 ^ (8 * width * i) % 2 ^ (8 * width)

def ofLanes (width : Nat) : List Nat → Nat
  | [] => 0
  | n :: ns => cut width n + 2 ^ (8 * width) * ofLanes width ns

/-- Something done lane by lane to sixteen bytes. -/
def mapLanes (width : Nat) (f : Nat → Nat) (a : Nat) : Nat :=
  ofLanes width ((lanes width (16 / width) a).map f)

def zipLanes (width : Nat) (f : Nat → Nat → Nat) (a b : Nat) : Nat :=
  ofLanes width (List.zipWith f (lanes width (16 / width) a) (lanes width (16 / width) b))

/-- All bits or none. -/
def mask (width : Nat) (holds : Bool) : Nat := if holds then 2 ^ (8 * width) - 1 else 0

/-- The nearest number with a sign in `width` bytes. -/
def saturateSigned (width : Nat) (n : Int) : Nat :=
  let bound : Int := (2 ^ (8 * width - 1) : Nat)
  unsigned width (max (-bound) (min (bound - 1) n))

/-- The nearest number without a sign in `width` bytes. -/
def saturate (width : Nat) (n : Int) : Nat :=
  (max 0 (min ((2 ^ (8 * width) : Nat) - 1 : Int) n)).toNat

/-- The bits of a number that are not set, of sixteen bytes. -/
def complement (a : Nat) : Nat := 2 ^ 128 - 1 - cut 16 a

/-! ## Binary fractions -/

def doubleOf (n : Nat) : Float := Float.ofBits (UInt64.ofNat n)

def singleOf (n : Nat) : Float32 := Float32.ofBits (UInt32.ofNat n)

/-- How many bits the part behind the point of a fraction of `width` bytes has. -/
def fractionBits (width : Nat) : Nat := if width = 8 then 52 else 23

/-- Whether a fraction is no number. -/
def isNone (width n : Nat) : Bool :=
  let exponentBits := 8 * width - 1 - fractionBits width
  n / 2 ^ fractionBits width % 2 ^ exponentBits = 2 ^ exponentBits - 1
    && n % 2 ^ fractionBits width ≠ 0

/-- What stands for the result of an operation that has none. -/
def noResult (width : Nat) : Nat :=
  2 ^ (8 * width) - 2 ^ (fractionBits width - 1)

/-- What is no number, marked as known. -/
def quieted (width n : Nat) : Nat := n ||| 2 ^ (fractionBits width - 1)

/-- An operation on two fractions; an operand that is no number is the result. -/
def fractionOperation (width : Nat) (double : Float → Float → Float)
    (single : Float32 → Float32 → Float32) (a b : Nat) : Nat :=
  if isNone width a then quieted width a
  else if isNone width b then quieted width b
  else
    let result := if width = 8 then (double (doubleOf a) (doubleOf b)).toBits.toNat
      else (single (singleOf a) (singleOf b)).toBits.toNat
    if isNone width result then noResult width else result

/-- Whether one fraction is less than another. -/
def less (width a b : Nat) : Bool :=
  if width = 8 then doubleOf a < doubleOf b else singleOf a < singleOf b

def same (width a b : Nat) : Bool :=
  if width = 8 then doubleOf a == doubleOf b else singleOf a == singleOf b

/-- The operations of one form, by the byte that stands for them. -/
def fractionArithmetic (code width a b : Nat) : Nat :=
  match code with
  | 0x51 => fractionOperation width (fun _ y => y.sqrt) (fun _ y => y.sqrt) b b
  | 0x58 => fractionOperation width (· + ·) (· + ·) a b
  | 0x59 => fractionOperation width (· * ·) (· * ·) a b
  | 0x5C => fractionOperation width (· - ·) (· - ·) a b
  | 0x5E => fractionOperation width (· / ·) (· / ·) a b
  | 0x5D => if less width a b then a else b
  | _ => if less width b a then a else b

/-- The eight comparisons. -/
def compareFractions (kind width a b : Nat) : Bool :=
  let unordered := isNone width a || isNone width b
  let holds := match kind % 4 with
    | 0 => same width a b
    | 1 => less width a b
    | 2 => less width a b || same width a b
    | _ => unordered
  if kind / 4 % 2 = 0 then holds else !holds

/-- Sets the flags by a comparison. -/
def tellCompared (width a b : Nat) : Step Unit :=
  let unordered := isNone width a || isNone width b
  modify fun p => { p with
    zero := unordered || same width a b
    parity := unordered
    carry := unordered || less width a b
    sign := false
    overflow := false }

/-- A fraction of `width` bytes as one of eight. -/
def widen (width n : Nat) : Nat :=
  if width = 8 then n
  else if isNone 4 n then quieted 8 (n / 2 ^ 31 * 2 ^ 63 + 0x7FF * 2 ^ 52 + n % 2 ^ 23 * 2 ^ 29)
  else (singleOf n).toFloat.toBits.toNat

/-- A fraction of eight bytes as one of four. -/
def narrow (n : Nat) : Nat :=
  if isNone 8 n then quieted 4 (n / 2 ^ 63 * 2 ^ 31 + 0xFF * 2 ^ 23 + n % 2 ^ 52 / 2 ^ 29)
  else (doubleOf n).toFloat32.toBits.toNat

/-- A fraction as a whole number of `size` bytes, either cut or rounded to the nearest. -/
def wholeOf (width size : Nat) (truncating : Bool) (n : Nat) : Nat :=
  let out := 2 ^ (8 * size - 1)
  let n := widen width n
  if n / 2 ^ 52 % 2 ^ 11 = 2 ^ 11 - 1 then out
  else
    let m := Decimal.Magnitude.ofFloat (doubleOf n)
    let size? : Nat := match m.exponent with
      | .ofNat e => m.significand * 2 ^ e
      | .negSucc e =>
        let unit := 2 ^ (e + 1)
        let low := m.significand / unit
        let rest := m.significand % unit
        if truncating || 2 * rest < unit || (2 * rest = unit && low % 2 = 0) then low else low + 1
    let value : Int := if n / 2 ^ 63 = 1 then -(size? : Int) else size?
    if signed size (unsigned size value) = value then unsigned size value else out

/-- A whole number of `size` bytes with a sign as a fraction of `width`. -/
def fractionOf (width size n : Nat) : Nat :=
  let i := Int64.ofInt (signed size n)
  if width = 8 then i.toFloat.toBits.toNat else i.toFloat32.toBits.toNat

/-! ## Instructions -/

/-- Which numbers an instruction on fractions means: how wide they are, and whether it is only
one. -/
def fractionForm (m : Mode) : Nat × Bool :=
  match m.repetition with
  | .whileEqual => (4, true)
  | .whileDifferent => (8, true)
  | .none => if m.narrow then (8, false) else (4, false)

/-- Requires a place in memory to be a multiple of sixteen. -/
def aligned (o : Operand) : Step Unit :=
  match o with
  | .memory a => if a % 16 ≠ 0 then stop Signal.segmentation else pure ()
  | .register _ => pure ()

/-- Does something to one or all lanes of two operands. -/
def combineFractions (m : Mode) (trailing : Nat) (f : Nat → Nat → Nat → Step Nat) : Step Unit := do
  let (width, single) := fractionForm m
  let (r, o) ← operands m trailing
  if single then
    writeVectorPart r width (← f width (← readVector r width) (← readVectorOperand o width))
  else
    let a ← readVector r 16
    let b ← readVectorOperand o 16
    let results ← (List.zip (lanes width (16 / width) a) (lanes width (16 / width) b)).mapM
      fun (a, b) => f width a b
    writeVector r (ofLanes width results)

/-- Does something to all sixteen bytes of two operands. -/
def combineVectors (m : Mode) (f : Nat → Nat → Nat) : Step Unit := do
  let (r, o) ← operands m 0
  writeVector r (f (← readVector r 16) (← readVectorOperand o 16))

/-- Moves sixteen bytes, or a part, to a register or from it. -/
def moveVector (m : Mode) (load : Bool) (width : Nat) (exact : Bool) : Step Unit := do
  let (r, o) ← operands m 0
  if exact then aligned o
  match load, o with
  | true, .register n =>
    let value ← readVector n width
    if width = 16 then writeVector r value else writeVectorPart r width value
  | true, .memory a => writeVector r (← readMemory a width)
  | false, .register n => writeVectorPart n width (← readVector r width)
  | false, .memory a => writeMemory a width (← readVector r width)

/-- Interleaves the lower or the upper lanes of two operands. -/
def interleave (width : Nat) (upper : Bool) (a b : Nat) : Nat :=
  let half := 8 / width
  let pick (v : Nat) : List Nat := ((lanes width (16 / width) v).drop (if upper then half else 0)).take half
  ofLanes width ((List.zip (pick a) (pick b)).flatMap fun (x, y) => [x, y])

/-- Picks lanes by the pairs of bits of a number. -/
def shuffle (width choice : Nat) (values : List Nat) : Nat :=
  ofLanes width ((List.range 4).map fun i => values.getD (choice / 4 ^ i % 4) 0)

/-- A shift of every lane; a count that is too large leaves nothing, or only the sign. -/
def shiftLanes (kind width count a : Nat) : Nat :=
  let size := 8 * width
  mapLanes width (fun n => match kind with
    | 2 => if count < size then n / 2 ^ count else 0
    | 4 => unsigned width (signed width n / (2 ^ min count (size - 1) : Nat))
    | _ => if count < size then n * 2 ^ count else 0) a

/-- The shifts by a number in the instruction. -/
def shiftByNumber (m : Mode) (width : Nat) : Step Unit := do
  let (kind, o) ← operands m 1
  let count ← fetch 1
  let .register n := o | stop Signal.illegal
  let a ← readVector n 16
  match kind % 8 with
  | 3 => writeVector n (a / 2 ^ (8 * count))
  | 7 => writeVector n (a * 2 ^ (8 * min count 16))
  | 2 | 4 | 6 => writeVector n (shiftLanes (kind % 8) width count a)
  | _ => stop Signal.illegal

/-- The operations on whole numbers side by side, by the byte that stands for them. -/
def wholeOperation? (code : Nat) : Option (Nat → Nat → Nat) :=
  let signedly (width : Nat) (f : Int → Int → Nat) : Nat → Nat → Nat :=
    zipLanes width fun a b => f (signed width a) (signed width b)
  let pack (width : Nat) (f : Int → Nat) (a b : Nat) : Nat :=
    ofLanes (width / 2) (((lanes width (16 / width) a) ++ lanes width (16 / width) b).map fun n =>
      f (signed width n))
  match code with
  | 0x60 => some (interleave 1 false)
  | 0x61 => some (interleave 2 false)
  | 0x62 => some (interleave 4 false)
  | 0x6C => some (interleave 8 false)
  | 0x68 => some (interleave 1 true)
  | 0x69 => some (interleave 2 true)
  | 0x6A => some (interleave 4 true)
  | 0x6D => some (interleave 8 true)
  | 0x63 => some (pack 2 (saturateSigned 1))
  | 0x6B => some (pack 4 (saturateSigned 2))
  | 0x67 => some (pack 2 (saturate 1))
  | 0x64 => some (signedly 1 fun a b => mask 1 (b < a))
  | 0x65 => some (signedly 2 fun a b => mask 2 (b < a))
  | 0x66 => some (signedly 4 fun a b => mask 4 (b < a))
  | 0x74 => some (zipLanes 1 fun a b => mask 1 (a = b))
  | 0x75 => some (zipLanes 2 fun a b => mask 2 (a = b))
  | 0x76 => some (zipLanes 4 fun a b => mask 4 (a = b))
  | 0xD4 => some (zipLanes 8 (· + ·))
  | 0xD5 => some (zipLanes 2 (· * ·))
  | 0xD8 => some (zipLanes 1 (· - ·))
  | 0xD9 => some (zipLanes 2 (· - ·))
  | 0xDA => some (zipLanes 1 min)
  | 0xDB => some (· &&& ·)
  | 0xDC => some (zipLanes 1 fun a b => saturate 1 (a + b))
  | 0xDD => some (zipLanes 2 fun a b => saturate 2 (a + b))
  | 0xDE => some (zipLanes 1 max)
  | 0xDF => some fun a b => complement a &&& b
  | 0xE0 => some (zipLanes 1 fun a b => (a + b + 1) / 2)
  | 0xE3 => some (zipLanes 2 fun a b => (a + b + 1) / 2)
  | 0xE4 => some (zipLanes 2 fun a b => a * b / 2 ^ 16)
  | 0xE5 => some (signedly 2 fun a b => unsigned 2 (a * b / 2 ^ 16))
  | 0xE8 => some (signedly 1 fun a b => saturateSigned 1 (a - b))
  | 0xE9 => some (signedly 2 fun a b => saturateSigned 2 (a - b))
  | 0xEA => some (signedly 2 fun a b => unsigned 2 (min a b))
  | 0xEB => some (· ||| ·)
  | 0xEC => some (signedly 1 fun a b => saturateSigned 1 (a + b))
  | 0xED => some (signedly 2 fun a b => saturateSigned 2 (a + b))
  | 0xEE => some (signedly 2 fun a b => unsigned 2 (max a b))
  | 0xEF => some (· ^^^ ·)
  | 0xF4 => some (zipLanes 8 fun a b => cut 4 a * cut 4 b)
  | 0xF5 => some (zipLanes 4 fun a b => unsigned 4
      (signed 2 (cut 2 a) * signed 2 (cut 2 b) + signed 2 (a / 2 ^ 16) * signed 2 (b / 2 ^ 16)))
  | 0xF6 => some (zipLanes 8 fun a b =>
      (List.zipWith (fun x y => max x y - min x y) (lanes 1 8 a) (lanes 1 8 b)).foldl (· + ·) 0)
  | 0xF8 => some (zipLanes 1 fun a b => unsigned 1 ((a : Int) - b))
  | 0xF9 => some (zipLanes 2 fun a b => unsigned 2 ((a : Int) - b))
  | 0xFA => some (zipLanes 4 fun a b => unsigned 4 ((a : Int) - b))
  | 0xFB => some (zipLanes 8 fun a b => unsigned 8 ((a : Int) - b))
  | 0xFC => some (zipLanes 1 (· + ·))
  | 0xFD => some (zipLanes 2 (· + ·))
  | 0xFE => some (zipLanes 4 (· + ·))
  | 0xD1 => some fun a b => shiftLanes 2 2 (cut 8 b) a
  | 0xD2 => some fun a b => shiftLanes 2 4 (cut 8 b) a
  | 0xD3 => some fun a b => shiftLanes 2 8 (cut 8 b) a
  | 0xE1 => some fun a b => shiftLanes 4 2 (cut 8 b) a
  | 0xE2 => some fun a b => shiftLanes 4 4 (cut 8 b) a
  | 0xF1 => some fun a b => shiftLanes 6 2 (cut 8 b) a
  | 0xF2 => some fun a b => shiftLanes 6 4 (cut 8 b) a
  | 0xF3 => some fun a b => shiftLanes 6 8 (cut 8 b) a
  | _ => none

/-- Instructions on vectors; `code` is the byte behind the byte 15. -/
def vectorPage (m : Mode) (code : Nat) : Step Unit := do
  let (width, single) := fractionForm m
  match code with
  | 0x10 | 0x11 => moveVector m (code = 0x10) (if single then width else 16) false
  | 0x28 | 0x29 => moveVector m (code = 0x28) 16 true
  | 0x2B | 0xE7 => moveVector m false 16 true
  | 0x6F | 0x7F =>
    if !m.narrow && m.repetition = .none then stop Signal.illegal
    moveVector m (code = 0x6F) 16 (m.repetition = .none)
  | 0x12 | 0x16 =>
    let (r, o) ← operands m 0
    let low ← readVector r 8
    let high := (← readVector r 16) / 2 ^ 64
    let value ← match o with
      | .memory a => readMemory a 8
      | .register n =>
        if code = 0x12 then pure ((← readVector n 16) / 2 ^ 64) else readVector n 8
    writeVector r (if code = 0x12 then value + 2 ^ 64 * high else low + 2 ^ 64 * value)
  | 0x13 | 0x17 =>
    let (r, o) ← operands m 0
    let .memory a := o | stop Signal.illegal
    let value ← readVector r 16
    writeMemory a 8 (if code = 0x13 then cut 8 value else value / 2 ^ 64)
  | 0x14 | 0x15 => combineVectors m (interleave width (code = 0x15))
  | 0x2A =>
    let (r, o) ← operands m 0
    writeVectorPart r width (fractionOf width m.width (← readOperand m o m.width))
  | 0x2C | 0x2D =>
    let (r, o) ← operands m 0
    writeRegister r m.width (wholeOf width m.width (code = 0x2C) (← readVectorOperand o width))
  | 0x2E | 0x2F =>
    let (r, o) ← operands m 0
    tellCompared width (← readVector r width) (← readVectorOperand o width)
  | 0x50 =>
    let (r, o) ← operands m 0
    let values := lanes width (16 / width) (← readVectorOperand o 16)
    writeRegister r 4 (values.foldr (fun n sum => 2 * sum + highest width n) 0)
  | 0x51 | 0x58 | 0x59 | 0x5C | 0x5D | 0x5E | 0x5F =>
    combineFractions m 0 fun width a b => return fractionArithmetic code width a b
  | 0x54 => combineVectors m (· &&& ·)
  | 0x55 => combineVectors m fun a b => complement a &&& b
  | 0x56 => combineVectors m (· ||| ·)
  | 0x57 => combineVectors m (· ^^^ ·)
  | 0x5A =>
    let (r, o) ← operands m 0
    if single then
      let value ← readVectorOperand o width
      if width = 4 then writeVectorPart r 8 (widen 4 value) else writeVectorPart r 4 (narrow value)
    else if width = 8 then
      writeVector r (ofLanes 4 ((lanes 8 2 (← readVectorOperand o 16)).map narrow))
    else writeVector r (ofLanes 8 ((lanes 4 2 (← readVectorOperand o 8)).map (widen 4)))
  | 0x5B =>
    let (r, o) ← operands m 0
    let value ← readVectorOperand o 16
    writeVector r (mapLanes 4 (match m.repetition, m.narrow with
      | .none, false => fractionOf 4 4
      | .none, true => wholeOf 4 4 false
      | _, _ => wholeOf 4 4 true) value)
  | 0xE6 =>
    let (r, o) ← operands m 0
    match m.repetition with
    | .whileEqual => writeVector r (ofLanes 8 ((lanes 4 2 (← readVectorOperand o 8)).map (fractionOf 8 4)))
    | repetition =>
      let value ← readVectorOperand o 16
      writeVector r (ofLanes 4 ((lanes 8 2 value).map (wholeOf 8 4 (repetition = .none))))
  | 0x6E =>
    let (r, o) ← operands m 0
    let width := if m.width = 8 then 8 else 4
    writeVector r (← readOperand m o width)
  | 0x7E =>
    let (r, o) ← operands m 0
    if m.repetition = .whileEqual then writeVector r (← readVectorOperand o 8)
    else
      let width := if m.width = 8 then 8 else 4
      writeOperand m o width (← readVector r width)
  | 0xD6 =>
    let (r, o) ← operands m 0
    let value ← readVector r 8
    match o with
    | .register n => writeVector n value
    | .memory a => writeMemory a 8 value
  | 0x70 =>
    let (r, o) ← operands m 1
    let value ← readVectorOperand o 16
    let choice ← fetch 1
    let words := lanes 2 8 value
    match m.repetition with
    | .none => writeVector r (shuffle 4 choice (lanes 4 4 value))
    | .whileDifferent =>
      writeVector r (shuffle 2 choice words + value / 2 ^ 64 * 2 ^ 64)
    | .whileEqual => writeVector r (cut 8 value + 2 ^ 64 * shuffle 2 choice (words.drop 4))
  | 0x71 => shiftByNumber m 2
  | 0x72 => shiftByNumber m 4
  | 0x73 => shiftByNumber m 8
  | 0xC2 =>
    -- the kind of comparison stands behind the operands
    let (r, o) ← operands m 1
    let a ← readVector r 16
    let b ← readVectorOperand o (if single then width else 16)
    let kind ← fetch 1
    let compared (a b : Nat) : Nat := mask width (compareFractions kind width a b)
    if single then writeVectorPart r width (compared (cut width a) b)
    else writeVector r (zipLanes width compared a b)
  | 0xC4 =>
    let (r, o) ← operands m 1
    let value ← match o with
      | .register n => readRegister n 2
      | .memory a => readMemory a 2
    let place ← fetch 1
    writeVector r (ofLanes 2 ((lanes 2 8 (← readVector r 16)).set (place % 8) value))
  | 0xC5 =>
    let (r, o) ← operands m 1
    let value ← readVectorOperand o 16
    writeRegister r 4 ((lanes 2 8 value).getD ((← fetch 1) % 8) 0)
  | 0xC6 =>
    let (r, o) ← operands m 1
    let a ← readVector r 16
    let b ← readVectorOperand o 16
    let choice ← fetch 1
    if width = 8 then
      let pick (v bit : Nat) : Nat := (lanes 8 2 v).getD (bit % 2) 0
      writeVector r (ofLanes 8 [pick a choice, pick b (choice / 2)])
    else
      let pick (v i : Nat) : Nat := (lanes 4 4 v).getD (choice / 4 ^ i % 4) 0
      writeVector r (ofLanes 4 [pick a 0, pick a 1, pick b 2, pick b 3])
  | 0xD7 =>
    let (r, o) ← operands m 0
    let values := lanes 1 16 (← readVectorOperand o 16)
    writeRegister r 4 (values.foldr (fun n sum => 2 * sum + n / 128) 0)
  | _ =>
    match wholeOperation? code with
    | some f => if m.narrow then combineVectors m f else stop Signal.illegal
    | none => stop Signal.illegal

end ModuleForge.Host.Processor
