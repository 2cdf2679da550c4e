import ModuleForge.Host.Memory
import ModuleForge.Host.Processor.Extended
import ModuleForge.Host.Signal

/-!
# The processor

The state of an x86-64 processor, and how the parts of an instruction read and change it: registers,
memory, the stack and the operands that an instruction names. A part stops the program with the
signal that the hardware would cause. Arithmetic is that of whole numbers of one, two, four or eight
bytes, with the flags that tell about its results.
-/
namespace ModuleForge.Host

structure Processor where
  registers : Array Nat := Array.replicate 16 0
  /-- The registers of sixteen bytes. -/
  vectors : Array Nat := Array.replicate 16 0
  fractions : FractionStack := {}
  /-- The address of the next instruction. -/
  next : Nat
  carry : Bool := false
  zero : Bool := false
  sign : Bool := false
  overflow : Bool := false
  parity : Bool := false
  /-- Whether string instructions go downwards. -/
  downwards : Bool := false
  /-- Where what belongs to the thread lies. -/
  threadBase : Nat := 0
  memory : Memory

/-- Why a program stops: a signal, or its own wish. -/
inductive Stop where
  | signal (number : Nat)
  | exit (code : Nat)
  deriving DecidableEq, Repr

namespace Processor

/-- A part of an instruction. -/
abbrev Step := StateT Processor (Except Stop)

/-- Stops the program with a signal. -/
def stop (signal : Nat) : Step α := throw (.signal signal)

/-! ## Registers and memory -/

def accumulator : Nat := 0
def counter : Nat := 1
def data : Nat := 2
def baseRegister : Nat := 3
def stackPointer : Nat := 4
def basePointer : Nat := 5
def source : Nat := 6
def destination : Nat := 7

/-- A number cut to `width` bytes. -/
def cut (width value : Nat) : Nat := value % 2 ^ (8 * width)

/-- A number of `width` bytes as one with a sign. -/
def signed (width value : Nat) : Int := Int.bmod value (2 ^ (8 * width))

/-- A number with a sign in `width` bytes. -/
def unsigned (width : Nat) (value : Int) : Nat := (value % (2 ^ (8 * width) : Nat)).toNat

def readMemory (address width : Nat) : Step Nat := do
  match (← get).memory.read? address width with
  | some n => return n
  | none => stop Signal.segmentation

def writeMemory (address width value : Nat) : Step Unit := do
  let memory ← modifyGet fun p => (p.memory, { p with memory := {} })
  let (done, memory) := memory.write address width value
  modify fun p => { p with memory }
  if !done then stop Signal.segmentation

def readRegister (number width : Nat) : Step Nat :=
  return cut width ((← get).registers.getD number 0)

/-- Writes a register; four bytes clear what is above them, fewer leave it alone. -/
def writeRegister (number width value : Nat) : Step Unit :=
  modify fun p =>
    let old := p.registers.getD number 0
    let new := if 4 ≤ width then cut width value else old - cut width old + cut width value
    { p with registers := p.registers.setIfInBounds number new }

/-- The first `width` bytes of a register of sixteen. -/
def readVector (number width : Nat) : Step Nat :=
  return cut width ((← get).vectors.getD number 0)

def writeVector (number value : Nat) : Step Unit :=
  modify fun p => { p with vectors := p.vectors.setIfInBounds number (cut 16 value) }

/-- Writes the first `width` bytes of a register of sixteen and leaves the others alone. -/
def writeVectorPart (number width value : Nat) : Step Unit := do
  let old ← readVector number 16
  writeVector number (old - cut width old + cut width value)

/-- The next `width` bytes of code. -/
def fetch (width : Nat) : Step Nat := do
  let n ← readMemory (← get).next width
  modify fun p => { p with next := p.next + width }
  return n

/-- The next `width` bytes of code, with their sign. -/
def fetchSigned (width : Nat) : Step Int := return signed width (← fetch width)

def push (value : Nat) : Step Unit := do
  let top := cut 8 ((← readRegister stackPointer 8) + 2 ^ 64 - 8)
  writeMemory top 8 value
  writeRegister stackPointer 8 top

def pop : Step Nat := do
  let top ← readRegister stackPointer 8
  let value ← readMemory top 8
  writeRegister stackPointer 8 (cut 8 (top + 8))
  return value

def jump (target : Nat) : Step Unit := modify fun p => { p with next := target }

/-- Jumps by a distance from the next instruction. -/
def jumpBy (distance : Int) : Step Unit :=
  modify fun p => { p with next := unsigned 8 (p.next + distance) }

/-! ## Operands -/

/-- The byte before an instruction that marks it as repeated, or tells some instructions apart. -/
inductive Repetition where
  | none
  | whileEqual
  | whileDifferent
  deriving DecidableEq, Repr

/-- What stands before an instruction: the width of its operands, the upper bits of its register
numbers, and marks that change its meaning. -/
structure Mode where
  width : Nat := 4
  /-- Whether the width was made smaller. -/
  narrow : Bool := false
  extended : Bool := false
  register : Nat := 0
  index : Nat := 0
  base : Nat := 0
  repetition : Repetition := .none
  /-- What is added to addresses. -/
  offset : Nat := 0

inductive Operand where
  | register (number : Nat)
  | memory (address : Nat)

/-- Reads the byte that names a register and an operand, and what belongs to it. `trailing` is how
many bytes of the instruction come after it. -/
def operands (m : Mode) (trailing : Nat) : Step (Nat × Operand) := do
  let b ← fetch 1
  let kind := b / 64
  let register := b / 8 % 8 + m.register
  let low := b % 8
  if kind = 3 then return (register, .register (low + m.base))
  else
    let start : Int ←
      if low = 4 then do
        let s ← fetch 1
        let index := s / 8 % 8 + m.index
        let scaled ← if index = 4 then pure 0 else do
          pure ((← readRegister index 8) * 2 ^ (s / 64))
        let base ← if s % 8 = 5 && kind = 0 then fetchSigned 4 else do
          pure ((← readRegister (s % 8 + m.base) 8 : Nat) : Int)
        pure (base + scaled)
      else if low = 5 && kind = 0 then do
        let distance ← fetchSigned 4
        pure ((← get).next + trailing + distance)
      else do pure ((← readRegister (low + m.base) 8 : Nat) : Int)
    let distance ← if kind = 1 then fetchSigned 1 else if kind = 2 then fetchSigned 4 else pure 0
    return (register, .memory (unsigned 8 (start + distance + m.offset)))

/-- The register that a number means for a width: of one byte, without extension, some are the
second bytes of others. -/
def upperHalf (m : Mode) (number width : Nat) : Bool :=
  width = 1 && !m.extended && 4 ≤ number && number < 8

def readRegisterOf (m : Mode) (number width : Nat) : Step Nat := do
  if upperHalf m number width then return (← readRegister (number - 4) 2) / 256
  else readRegister number width

def writeRegisterOf (m : Mode) (number width value : Nat) : Step Unit := do
  if upperHalf m number width then
    let low ← readRegister (number - 4) 1
    writeRegister (number - 4) 2 (cut 1 value * 256 + low)
  else writeRegister number width value

def readOperand (m : Mode) (o : Operand) (width : Nat) : Step Nat :=
  match o with
  | .register n => readRegisterOf m n width
  | .memory a => readMemory a width

def writeOperand (m : Mode) (o : Operand) (width value : Nat) : Step Unit :=
  match o with
  | .register n => writeRegisterOf m n width value
  | .memory a => writeMemory a width (cut width value)

/-- Reads an operand that is a register of sixteen bytes if it is none of memory. -/
def readVectorOperand (o : Operand) (width : Nat) : Step Nat :=
  match o with
  | .register n => readVector n width
  | .memory a => readMemory a width

/-! ## Arithmetic of whole numbers -/

/-- Sets the flags that tell about a result by itself. -/
def tell (width value : Nat) : Step Unit :=
  let low := value % 256
  let ones := ((List.range 8).filter fun i => low / 2 ^ i % 2 = 1).length
  modify fun p => { p with
    zero := cut width value = 0
    sign := signed width value < 0
    parity := ones % 2 = 0 }

/-- Sets the flags after a result that should have been `exact`, taken without and with a sign. -/
def tellExact (width value : Nat) (exact exactSigned : Int) : Step Unit := do
  tell width value
  modify fun p => { p with
    carry := (value : Int) ≠ exact
    overflow := signed width value ≠ exactSigned }

def add (width a b : Nat) (more : Nat := 0) : Step Nat := do
  let value := cut width (a + b + more)
  tellExact width value ((a : Int) + b + more) (signed width a + signed width b + more)
  return value

def subtract (width a b : Nat) (more : Nat := 0) : Step Nat := do
  let exact : Int := (a : Int) - b - more
  let value := unsigned width exact
  tellExact width value exact (signed width a - signed width b - more)
  return value

/-- A result of single bits. -/
def bits (width value : Nat) : Step Nat := do
  tellExact width value value (signed width value)
  return value

/-- The eight operations that share one form; the last is a subtraction whose result is not kept. -/
def arithmetic (kind width a b : Nat) : Step Nat := do
  let more := if (← get).carry then 1 else 0
  match kind with
  | 0 => add width a b
  | 1 => bits width (a ||| b)
  | 2 => add width a b more
  | 3 => subtract width a b more
  | 4 => bits width (a &&& b)
  | 6 => bits width (a ^^^ b)
  | _ => subtract width a b

/-- Does an operation and keeps its result, if it is to be kept. -/
def combine (m : Mode) (kind width : Nat) (o : Operand) (b : Nat) : Step Unit := do
  let value ← arithmetic kind width (← readOperand m o width) b
  if kind ≠ 7 then writeOperand m o width value

/-- A product of numbers with signs, cut to the width. -/
def multiply (width a b : Nat) : Step Nat := do
  let exact := signed width a * signed width b
  let value := unsigned width exact
  let wide := signed width value ≠ exact
  tell width value
  modify fun p => { p with carry := wide, overflow := wide }
  return value

/-! ## Shifts -/

/-- The highest bit of a number. -/
def highest (width value : Nat) : Nat := value / 2 ^ (8 * width - 1) % 2

/-- Sets the flags of a shift: what fell out, and whether the sign is another. -/
def tellShift (width old new out : Nat) : Step Unit := do
  tell width new
  modify fun p => { p with carry := out % 2 = 1, overflow := highest width old ≠ highest width new }

/-- Turns `size` bits to the left. -/
def turnLeft (size value count : Nat) : Nat :=
  let count := count % size
  value * 2 ^ count % 2 ^ size + value / 2 ^ (size - count)

/-- The count of a shift within its bounds. -/
def shiftCount (width count : Nat) : Nat := count % (if width = 8 then 64 else 32)

/-- A shift or a turn by a count. -/
def shift (kind width value count : Nat) : Step Nat := do
  let count := shiftCount width count
  if count = 0 then return value
  let size := 8 * width
  let carry := if (← get).carry then 1 else 0
  match kind with
  | 0 =>
    let new := turnLeft size value count
    modify fun p => { p with carry := new % 2 = 1, overflow := highest width new ≠ new % 2 }
    return new
  | 1 =>
    let new := turnLeft size value (size - count % size)
    modify fun p => { p with
      carry := highest width new = 1
      overflow := highest width new ≠ new / 2 ^ (size - 2) % 2 }
    return new
  | 2 | 3 =>
    -- the flag takes part as one more bit
    let whole := carry * 2 ^ size + value
    let turned := turnLeft (size + 1) whole
      (if kind = 2 then count % (size + 1) else size + 1 - count % (size + 1))
    let new := turned % 2 ^ size
    let exceeds := if kind = 2 then highest width new ≠ turned / 2 ^ size
      else highest width new ≠ new / 2 ^ (size - 2) % 2
    modify fun p => { p with carry := turned / 2 ^ size = 1, overflow := exceeds }
    return new
  | 5 =>
    let new := value / 2 ^ count
    tellShift width value new (value / 2 ^ (count - 1))
    return new
  | 7 =>
    let new := unsigned width (signed width value / (2 ^ count : Nat))
    tellShift width value new (unsigned width (signed width value / (2 ^ (count - 1) : Nat)))
    modify fun p => { p with overflow := false }
    return new
  | _ =>
    let new := cut width (value * 2 ^ count)
    tellShift width value new (value * 2 ^ count / 2 ^ size)
    return new

/-- A shift that takes its new bits from another number. -/
def shiftDouble (left : Bool) (width value other count : Nat) : Step Nat := do
  let count := shiftCount width count
  if count = 0 then return value
  let size := 8 * width
  let new := if left then cut width (value * 2 ^ count) + other / 2 ^ (size - count)
    else value / 2 ^ count + cut width (other * 2 ^ (size - count))
  tellShift width value (cut width new)
    (if left then value * 2 ^ count / 2 ^ size else value / 2 ^ (count - 1))
  return cut width new

/-! ## Bits -/

/-- The place of the lowest bit of a number that is not zero. -/
def lowestBit (value : Nat) : Nat :=
  go value 0 64
where
  go (value place : Nat) : Nat → Nat
    | 0 => place
    | fuel + 1 => if value % 2 = 1 then place else go (value / 2) (place + 1) fuel

/-- How many bits are set. -/
def countBits (value : Nat) : Nat :=
  go value 0 128
where
  go (value count : Nat) : Nat → Nat
    | 0 => count
    | fuel + 1 => go (value / 2) (count + value % 2) fuel

/-- The bytes in the opposite order. -/
def reverseBytes (width value : Nat) : Nat :=
  (numberBytes value width).foldl (fun n b => n * 256 + b.toNat) 0

/-! ## Products and quotients of twice the width -/

/-- Divides what stands in two registers. -/
def divide (width divisor : Nat) (withSign : Bool) : Step Unit := do
  let whole ← if width = 1 then readRegister accumulator 2 else do
    pure ((← readRegister data width) * 2 ^ (8 * width) + (← readRegister accumulator width))
  if divisor = 0 then stop Signal.arithmetic
  let (quotient, remainder) : Int × Int :=
    if withSign then
      let a := signed (2 * width) whole
      (a.tdiv (signed width divisor), a.tmod (signed width divisor))
    else (whole / divisor, whole % divisor)
  let fits := if withSign then signed width (unsigned width quotient) = quotient
    else (unsigned width quotient : Int) = quotient
  if !fits then stop Signal.arithmetic
  if width = 1 then
    writeRegister accumulator 2 (unsigned 1 quotient + 256 * unsigned 1 remainder)
  else
    writeRegister accumulator width (unsigned width quotient)
    writeRegister data width (unsigned width remainder)

/-- Multiplies into two registers. -/
def multiplyWide (width a b : Nat) (withSign : Bool) : Step Unit := do
  let exact : Int := if withSign then signed width a * signed width b else (a : Int) * b
  let whole := unsigned (2 * width) exact
  let low := cut width whole
  let wide : Bool := if withSign then signed width low ≠ exact else (low : Int) ≠ exact
  modify fun p => { p with carry := wide, overflow := wide }
  if width = 1 then writeRegister accumulator 2 whole
  else
    writeRegister accumulator width low
    writeRegister data width (whole / 2 ^ (8 * width))

/-! ## Conditions -/

/-- Whether a condition holds; an odd one is the opposite of the one before. -/
def condition (p : Processor) (code : Nat) : Bool :=
  let holds := match code / 2 with
    | 0 => p.overflow
    | 1 => p.carry
    | 2 => p.zero
    | 3 => p.carry || p.zero
    | 4 => p.sign
    | 5 => p.parity
    | 6 => p.sign != p.overflow
    | _ => p.zero || p.sign != p.overflow
  if code % 2 = 0 then holds else !holds

end Processor
end ModuleForge.Host
