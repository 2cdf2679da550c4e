import ModuleForge.Host.Processor.FractionStack
import ModuleForge.Host.Processor.Vector

/-!
# Instructions

`Processor.step` fetches one instruction, with its prefixes and operands, and does it: the part of
the x86-64 instruction set that compilers use for whole numbers, addresses, jumps, calls and strings
of bytes, and what `vectorPage` adds to it.
-/
namespace ModuleForge.Host.Processor

/-! ## Strings of bytes -/

/-- How far a string instruction moves. -/
def stride (width : Nat) : Step Int := return if (← get).downwards then -(width : Int) else width

def moveBy (register : Nat) (distance : Int) : Step Unit := do
  writeRegister register 8 (unsigned 8 ((← readRegister register 8) + distance))

/-- One round of a string instruction. -/
def stringRound (code width : Nat) : Step Unit := do
  let distance ← stride width
  match code / 2 with
  | 82 =>
    writeMemory (← readRegister destination 8) width (← readMemory (← readRegister source 8) width)
    moveBy source distance
    moveBy destination distance
  | 83 =>
    let a ← readMemory (← readRegister source 8) width
    let b ← readMemory (← readRegister destination 8) width
    let _ ← subtract width a b
    moveBy source distance
    moveBy destination distance
  | 85 =>
    writeMemory (← readRegister destination 8) width (← readRegister accumulator width)
    moveBy destination distance
  | 86 =>
    writeRegister accumulator width (← readMemory (← readRegister source 8) width)
    moveBy source distance
  | _ =>
    let a ← readRegister accumulator width
    let b ← readMemory (← readRegister destination 8) width
    let _ ← subtract width a b
    moveBy destination distance

/-- Repeats a string instruction as often as the counter says; comparisons may end it before. -/
def stringInstruction (m : Mode) (code width : Nat) : Step Unit := do
  if m.repetition = .none then stringRound code width
  else rounds (← readRegister counter 8)
where
  rounds : Nat → Step Unit
    | 0 => return ()
    | count + 1 => do
      stringRound code width
      writeRegister counter 8 count
      let compares := code / 2 = 83 || code / 2 = 87
      if compares && (← get).zero != (m.repetition = .whileEqual) then return ()
      rounds count

/-! ## Groups that share a byte -/

/-- Operations on one operand. -/
def single (m : Mode) (width : Nat) : Step Unit := do
  let at_ := (← get).next
  let kind := (← readMemory at_ 1) / 8 % 8
  let (_, o) ← operands m (if kind < 2 then min width 4 else 0)
  let value ← readOperand m o width
  match kind with
  | 0 | 1 =>
    let b := unsigned width (← fetchSigned (min width 4))
    let _ ← bits width (value &&& b)
  | 2 => writeOperand m o width (2 ^ (8 * width) - 1 - value)
  | 3 => writeOperand m o width (← subtract width 0 value)
  | 4 => multiplyWide width (← readRegister accumulator width) value false
  | 5 => multiplyWide width (← readRegister accumulator width) value true
  | 6 => divide width value false
  | _ => divide width value true

/-- Counting, calls, jumps and pushes with one operand. -/
def control (m : Mode) (width : Nat) : Step Unit := do
  let (kind, o) ← operands m 0
  match kind % 8 with
  | 0 | 1 =>
    let carry := (← get).carry
    let value ← readOperand m o width
    let value ← if kind % 8 = 0 then add width value 1 else subtract width value 1
    writeOperand m o width value
    modify fun p => { p with carry }
  | 2 =>
    let target ← readOperand m o 8
    push (← get).next
    jump target
  | 4 => jump (← readOperand m o 8)
  | 6 => push (← readOperand m o 8)
  | _ => stop Signal.illegal

/-- Tests a bit of an operand and perhaps changes it; in memory the bit may lie in another place. -/
def bitInstruction (m : Mode) (kind : Nat) (o : Operand) (place : Int) : Step Unit := do
  let size : Int := 8 * m.width
  let o := match o with
    | .register n => Operand.register n
    | .memory a => .memory (unsigned 8 (a + place / size * m.width))
  let bit := (place % size).toNat
  let value ← readOperand m o m.width
  let isSet := value / 2 ^ bit % 2 = 1
  modify fun p => { p with carry := isSet }
  match kind with
  | 4 => return ()
  | 5 => writeOperand m o m.width (value ||| 2 ^ bit)
  | 6 => writeOperand m o m.width (if isSet then value - 2 ^ bit else value)
  | _ => writeOperand m o m.width (value ^^^ 2 ^ bit)

/-- Exchanges an operand with a register if it is what the accumulator holds. -/
def compareExchange (m : Mode) (width : Nat) : Step Unit := do
  let (r, o) ← operands m 0
  let old ← readOperand m o width
  let expected ← readRegister accumulator width
  let _ ← subtract width expected old
  if expected = old then writeOperand m o width (← readRegisterOf m r width)
  else writeRegister accumulator width old

/-- The same for two registers together. -/
def compareExchangeWide (m : Mode) : Step Unit := do
  let (kind, o) ← operands m 0
  let .memory a := o | stop Signal.illegal
  if kind % 8 ≠ 1 then stop Signal.illegal
  let width := m.width
  let old ← readMemory a (2 * width)
  let shifted (high low : Nat) : Nat := high * 2 ^ (8 * width) + low
  let expected := shifted (← readRegister data width) (← readRegister accumulator width)
  if expected = old then
    writeMemory a (2 * width)
      (shifted (← readRegister counter width) (← readRegister baseRegister width))
  else
    writeRegister accumulator width old
    writeRegister data width (old / 2 ^ (8 * width))
  modify fun p => { p with zero := expected = old }

/-- The place of the lowest or the highest bit; an operand without any leaves the result alone, or
gives the width where the instruction counts zeros. -/
def findBit (m : Mode) (lowest : Bool) : Step Unit := do
  let (r, o) ← operands m 0
  let value ← readOperand m o m.width
  let counting := m.repetition = .whileEqual
  let size := 8 * m.width
  if counting then
    let zeros := if value = 0 then size
      else if lowest then lowestBit value else size - 1 - value.log2
    modify fun p => { p with carry := value = 0, zero := zeros = 0 }
    writeRegister r m.width zeros
  else
    modify fun p => { p with zero := value = 0 }
    if value ≠ 0 then writeRegister r m.width (if lowest then lowestBit value else value.log2)

/-- What the processor tells about itself: little. -/
def identify : Step Unit := do
  for r in [accumulator, baseRegister, counter, data] do
    writeRegister r 4 0

/-! ## Instructions of two bytes -/

/-- Instructions that start with the byte 15. -/
def secondPage (m : Mode) (code : Nat) : Step Unit := do
  if 0x40 ≤ code && code < 0x50 then
    let (r, o) ← operands m 0
    let value ← readOperand m o m.width
    let kept ← readRegister r m.width
    writeRegister r m.width (if condition (← get) (code - 0x40) then value else kept)
  else if 0x80 ≤ code && code < 0x90 then
    let distance ← fetchSigned 4
    if condition (← get) (code - 0x80) then jumpBy distance
  else if 0x90 ≤ code && code < 0xA0 then
    let (_, o) ← operands m 0
    writeOperand m o 1 (if condition (← get) (code - 0x90) then 1 else 0)
  else if 0xC8 ≤ code && code < 0xD0 then
    let r := code - 0xC8 + m.base
    writeRegister r m.width (reverseBytes m.width (← readRegister r m.width))
  else match code with
    | 0x0D | 0x18 | 0x19 | 0x1A | 0x1B | 0x1C | 0x1D | 0x1E | 0x1F => let _ ← operands m 0
    | 0x31 =>
      writeRegister accumulator 4 0
      writeRegister data 4 0
    | 0xA2 => identify
    | 0xA3 | 0xAB | 0xB3 | 0xBB =>
      let (r, o) ← operands m 0
      let place := signed m.width (← readRegister r m.width)
      bitInstruction m ((code - 0x83) / 8) o place
    | 0xBA =>
      let (kind, o) ← operands m 1
      bitInstruction m (kind % 8) o ((← fetch 1) % (8 * m.width) : Nat)
    | 0xA4 | 0xAC =>
      let (r, o) ← operands m 1
      let value ← readOperand m o m.width
      let other ← readRegister r m.width
      let count ← fetch 1
      writeOperand m o m.width (← shiftDouble (code = 0xA4) m.width value other count)
    | 0xA5 | 0xAD =>
      let (r, o) ← operands m 0
      let value ← readOperand m o m.width
      let other ← readRegister r m.width
      let count ← readRegister counter 1
      writeOperand m o m.width (← shiftDouble (code = 0xA5) m.width value other count)
    | 0xAE =>
      let (kind, o) ← operands m 0
      match kind % 8, o with
      | 3, .memory a => writeMemory a 4 0x1F80
      | 2, .memory _ | 5, _ | 6, _ | 7, _ => return ()
      | _, _ => stop Signal.illegal
    | 0xAF =>
      let (r, o) ← operands m 0
      writeRegister r m.width
        (← multiply m.width (← readRegister r m.width) (← readOperand m o m.width))
    | 0xB0 => compareExchange m 1
    | 0xB1 => compareExchange m m.width
    | 0xB6 | 0xB7 =>
      let (r, o) ← operands m 0
      writeRegister r m.width (← readOperand m o (code - 0xB5))
    | 0xB8 =>
      let (r, o) ← operands m 0
      let value ← readOperand m o m.width
      let _ ← bits m.width value
      writeRegister r m.width (countBits value)
    | 0xBC => findBit m true
    | 0xBD => findBit m false
    | 0xBE | 0xBF =>
      let (r, o) ← operands m 0
      let width := code - 0xBD
      writeRegister r m.width (unsigned m.width (signed width (← readOperand m o width)))
    | 0xC0 | 0xC1 =>
      let width := if code = 0xC0 then 1 else m.width
      let (r, o) ← operands m 0
      let old ← readOperand m o width
      let sum ← add width old (← readRegisterOf m r width)
      writeRegisterOf m r width old
      writeOperand m o width sum
    | 0xC3 =>
      let (r, o) ← operands m 0
      writeOperand m o m.width (← readRegister r m.width)
    | 0xC7 => compareExchangeWide m
    | _ => vectorPage m code

/-! ## Instructions of one byte -/

/-- Exchanges an operand with a register. -/
def exchange (m : Mode) (r width : Nat) (o : Operand) : Step Unit := do
  let a ← readOperand m o width
  let b ← readRegisterOf m r width
  writeOperand m o width b
  writeRegisterOf m r width a

/-- The flags as a number. -/
def flags : Step Nat := do
  let p ← get
  let bit (holds : Bool) (place : Nat) : Nat := if holds then 2 ^ place else 0
  return bit p.carry 0 + 2 + bit p.parity 2 + bit p.zero 6 + bit p.sign 7 + bit p.downwards 10
    + bit p.overflow 11

def setFlags (n : Nat) : Step Unit :=
  let bit (place : Nat) : Bool := n / 2 ^ place % 2 = 1
  modify fun p => { p with
    carry := bit 0, parity := bit 2, zero := bit 6, sign := bit 7, downwards := bit 10
    overflow := bit 11 }

/-- Instructions of one byte; `code` is that byte. -/
def firstPage (m : Mode) (code : Nat) : Step Unit := do
  let width := if code % 2 = 0 then 1 else m.width
  if code < 0x40 && code % 8 < 6 then
    match code % 8 with
    | 0 | 1 =>
      let (r, o) ← operands m 0
      combine m (code / 8) width o (← readRegisterOf m r width)
    | 2 | 3 =>
      let (r, o) ← operands m 0
      combine m (code / 8) width (.register r) (← readOperand m o width)
    | _ =>
      let b ← fetchSigned (min width 4)
      combine m (code / 8) width (.register accumulator) (unsigned width b)
  else if 0x50 ≤ code && code < 0x58 then push (← readRegister (code - 0x50 + m.base) 8)
  else if 0x58 ≤ code && code < 0x60 then writeRegister (code - 0x58 + m.base) 8 (← pop)
  else if 0x70 ≤ code && code < 0x80 then
    let distance ← fetchSigned 1
    if condition (← get) (code - 0x70) then jumpBy distance
  else if 0x90 ≤ code && code < 0x98 then
    let r := code - 0x90 + m.base
    if r ≠ accumulator then exchange m accumulator m.width (.register r)
  else if 0xB0 ≤ code && code < 0xB8 then writeRegisterOf m (code - 0xB0 + m.base) 1 (← fetch 1)
  else if 0xB8 ≤ code && code < 0xC0 then
    writeRegister (code - 0xB8 + m.base) m.width (← fetch m.width)
  else match code with
    | 0x0F => secondPage m (← fetch 1)
    | 0x63 =>
      let (r, o) ← operands m 0
      writeRegister r m.width (unsigned m.width (signed 4 (← readOperand m o 4)))
    | 0x68 => push (unsigned 8 (← fetchSigned 4))
    | 0x6A => push (unsigned 8 (← fetchSigned 1))
    | 0x69 =>
      let (r, o) ← operands m (min m.width 4)
      let value ← readOperand m o m.width
      let b ← fetchSigned (min m.width 4)
      writeRegister r m.width (← multiply m.width value (unsigned m.width b))
    | 0x6B =>
      let (r, o) ← operands m 1
      let value ← readOperand m o m.width
      writeRegister r m.width (← multiply m.width value (unsigned m.width (← fetchSigned 1)))
    | 0x80 | 0x83 =>
      let (kind, o) ← operands m 1
      combine m (kind % 8) width o (unsigned width (← fetchSigned 1))
    | 0x81 =>
      let (kind, o) ← operands m (min width 4)
      combine m (kind % 8) width o (unsigned width (← fetchSigned (min width 4)))
    | 0x84 | 0x85 =>
      let (r, o) ← operands m 0
      let _ ← bits width ((← readOperand m o width) &&& (← readRegisterOf m r width))
    | 0x86 | 0x87 =>
      let (r, o) ← operands m 0
      exchange m r width o
    | 0x88 | 0x89 =>
      let (r, o) ← operands m 0
      writeOperand m o width (← readRegisterOf m r width)
    | 0x8A | 0x8B =>
      let (r, o) ← operands m 0
      writeRegisterOf m r width (← readOperand m o width)
    | 0x8D => match ← operands { m with offset := 0 } 0 with
      | (r, .memory a) => writeRegister r m.width a
      | _ => stop Signal.illegal
    | 0x8F =>
      let value ← pop
      let (_, o) ← operands m 0
      writeOperand m o 8 value
    | 0x98 =>
      let half ← readRegister accumulator (m.width / 2)
      writeRegister accumulator m.width (unsigned m.width (signed (m.width / 2) half))
    | 0x99 =>
      let negative := signed m.width (← readRegister accumulator m.width) < 0
      writeRegister data m.width (if negative then 2 ^ (8 * m.width) - 1 else 0)
    | 0x9B => return ()
    | 0x9C => push (← flags)
    | 0x9D => setFlags (← pop)
    | 0xA4 | 0xA5 | 0xA6 | 0xA7 | 0xAA | 0xAB | 0xAC | 0xAD | 0xAE | 0xAF =>
      stringInstruction m code width
    | 0xA8 | 0xA9 =>
      let b := unsigned width (← fetchSigned (min width 4))
      let _ ← bits width ((← readRegister accumulator width) &&& b)
    | 0xC0 | 0xC1 =>
      let (kind, o) ← operands m 1
      let value ← readOperand m o width
      writeOperand m o width (← shift (kind % 8) width value (← fetch 1))
    | 0xC2 =>
      let more ← fetch 2
      jump (← pop)
      writeRegister stackPointer 8 ((← readRegister stackPointer 8) + more)
    | 0xC3 => jump (← pop)
    | 0xC6 | 0xC7 =>
      let (_, o) ← operands m (min width 4)
      writeOperand m o width (unsigned width (← fetchSigned (min width 4)))
    | 0xC9 =>
      writeRegister stackPointer 8 (← readRegister basePointer 8)
      writeRegister basePointer 8 (← pop)
    | 0xCC => stop Signal.trap
    | 0xD0 | 0xD1 =>
      let (kind, o) ← operands m 0
      writeOperand m o width (← shift (kind % 8) width (← readOperand m o width) 1)
    | 0xD2 | 0xD3 =>
      let (kind, o) ← operands m 0
      let count ← readRegister counter 1
      writeOperand m o width (← shift (kind % 8) width (← readOperand m o width) count)
    | 0xD8 | 0xD9 | 0xDA | 0xDB | 0xDC | 0xDD | 0xDE | 0xDF => fractionInstruction m code
    | 0xE3 =>
      let distance ← fetchSigned 1
      if (← readRegister counter 8) = 0 then jumpBy distance
    | 0xE8 =>
      let distance ← fetchSigned 4
      push (← get).next
      jumpBy distance
    | 0xE9 => jumpBy (← fetchSigned 4)
    | 0xEB => jumpBy (← fetchSigned 1)
    | 0xF4 => stop Signal.segmentation
    | 0xF5 => modify fun p => { p with carry := !p.carry }
    | 0xF6 | 0xF7 => single m width
    | 0xF8 => modify fun p => { p with carry := false }
    | 0xF9 => modify fun p => { p with carry := true }
    | 0xFC => modify fun p => { p with downwards := false }
    | 0xFD => modify fun p => { p with downwards := true }
    | 0xFE | 0xFF => control m width
    | _ => stop Signal.illegal

/-- Reads what stands before an instruction, and does it. -/
def prefixed (m : Mode) : Nat → Step Unit
  | 0 => stop Signal.illegal
  | fuel + 1 => do
    let code ← fetch 1
    match code with
    | 0x66 => prefixed { m with width := 2, narrow := true } fuel
    | 0xF2 => prefixed { m with repetition := .whileDifferent } fuel
    | 0xF3 => prefixed { m with repetition := .whileEqual } fuel
    | 0x64 => prefixed { m with offset := (← get).threadBase } fuel
    | 0x26 | 0x2E | 0x36 | 0x3E | 0x65 | 0xF0 => prefixed m fuel
    | _ =>
      if 0x40 ≤ code && code < 0x50 then
        firstPage { m with
          width := if code / 8 % 2 = 1 then 8 else m.width
          extended := true
          register := 8 * (code / 4 % 2)
          index := 8 * (code / 2 % 2)
          base := 8 * (code % 2) } (← fetch 1)
      else firstPage m code

/-- Does one instruction. -/
def step : Step Unit := prefixed {} 15

end ModuleForge.Host.Processor
