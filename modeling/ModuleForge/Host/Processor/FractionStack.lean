import ModuleForge.Host.Processor.Vector

/-!
# The stack of extended fractions

The oldest part of the processor that counts with fractions: a small stack of them, instructions
that count with its numbers and move them to and from memory, and the marks that comparisons leave
behind.
-/
namespace ModuleForge.Host

namespace Processor

/-! ## The stack -/

def fractionAt (i : Nat) : Step Extended :=
  return ((← get).fractions.numbers[i]?).getD .noNumber

def pushFraction (x : Extended) : Step Unit :=
  modify fun p => { p with fractions := { p.fractions with numbers := (x :: p.fractions.numbers).take 8 } }

def popFraction : Step Unit :=
  modify fun p => { p with fractions := { p.fractions with numbers := p.fractions.numbers.drop 1 } }

def setFraction (i : Nat) (x : Extended) : Step Unit :=
  modify fun p =>
    let old := p.fractions.numbers
    let filled := old ++ List.replicate (i + 1 - old.length) .noNumber
    { p with fractions := { p.fractions with numbers := filled.set i x } }

def popIf (b : Bool) : Step Unit := if b then popFraction else pure ()

def rounding : Step Extended.Rounding := do
  return match (← get).fractions.control / 1024 % 4 with
    | 0 => .nearest
    | 1 => .down
    | 2 => .up
    | _ => .toZero

/-- One of the eight kinds of counting; two of them only compare. -/
def countFractions (kind : Nat) (a b : Extended) : Extended :=
  match kind with
  | 0 => a.add b
  | 1 => a.mul b
  | 4 => a.add b.opposite
  | 5 => b.add a.opposite
  | 6 => a.div b
  | _ => b.div a

/-- Leaves the order of two numbers in the marks. -/
def markOrder (a b : Extended) : Step Unit :=
  let marks := match a.order b with
    | some .gt => 0
    | some .lt => 0x100
    | some .eq => 0x4000
    | none => 0x4500
  modify fun p => { p with fractions := { p.fractions with marks } }

/-- Leaves the order of two numbers in the flags. -/
def flagOrder (a b : Extended) : Step Unit :=
  let (zero, parity, carry) := match a.order b with
    | some .gt => (false, false, false)
    | some .lt => (false, false, true)
    | some .eq => (true, false, false)
    | none => (true, true, true)
  modify fun p => { p with zero, parity, carry, overflow := false, sign := false }

/-- Counts with the top of the stack and another number. -/
def withTop (kind : Nat) (b : Extended) : Step Unit := do
  let a ← fractionAt 0
  if kind = 2 || kind = 3 then
    markOrder a b
    popIf (kind = 3)
  else setFraction 0 (countFractions kind a b)

/-- Writes the top of the stack as a whole number. -/
def storeWhole (address width : Nat) (how : Extended.Rounding) : Step Unit := do
  let none_ : Nat := 2 ^ (8 * width - 1)
  let value := match ← fractionAt 0 with
    | .finite negative s e =>
      let n := Extended.wholeOf how negative s e
      if -(none_ : Int) ≤ n && n < none_ then unsigned width n else none_
    | _ => none_
  writeMemory address width value

def loadWhole (address width : Nat) : Step Unit := do
  pushFraction (Extended.ofInt (signed width (← readMemory address width)))

def loadSingle (address : Nat) : Step Extended := do
  return Extended.ofDouble (singleOf (← readMemory address 4)).toFloat.toBits.toNat

def loadDouble (address : Nat) : Step Extended := do
  return Extended.ofDouble (← readMemory address 8)

/-! ## Instructions -/

/-- The instructions of one number: those that change the top, and those that put a new one
there. -/
def fractionOfOne (code : Nat) : Step Unit := do
  let constant (bits : Nat) : Step Unit := pushFraction (Extended.ofBytes bits)
  let change (f : Extended → Extended) : Step Unit := do setFraction 0 (f (← fractionAt 0))
  match code with
  | 0xE0 => change Extended.opposite
  | 0xE1 => change Extended.size
  | 0xE4 => markOrder (← fractionAt 0) .zero
  | 0xE8 => constant 0x3FFF8000000000000000
  | 0xE9 => constant 0x4000D49A784BCD1B8AFE
  | 0xEA => constant 0x3FFFB8AA3B295C17F0BC
  | 0xEB => constant 0x4000C90FDAA22168C235
  | 0xEC => constant 0x3FFD9A209A84FBCFF799
  | 0xED => constant 0x3FFEB17217F7D1CF79AC
  | 0xEE => constant 0
  | 0xF5 | 0xF8 =>
    let a ← fractionAt 0
    setFraction 0 (Extended.remainder (code = 0xF5) a (← fractionAt 1))
    modify fun p => { p with fractions := { p.fractions with marks := 0 } }
  | 0xFA => change Extended.squareRoot
  | 0xFC =>
    let how ← rounding
    change (Extended.toWhole how)
  | 0xD0 => return ()
  | _ => stop Signal.illegal

/-- An instruction whose operand is in memory. -/
def fractionMemory (page kind address : Nat) : Step Unit := do
  let whole (width : Nat) : Step Extended := return .ofInt (signed width (← readMemory address width))
  match page, kind with
  | 0, _ => withTop kind (← loadSingle address)
  | 2, _ => withTop kind (← whole 4)
  | 4, _ => withTop kind (← loadDouble address)
  | 6, _ => withTop kind (← whole 2)
  | 1, 0 => pushFraction (← loadSingle address)
  | 1, 2 | 1, 3 =>
    writeMemory address 4 (← fractionAt 0).toSingle
    popIf (kind = 3)
  | 1, 5 =>
    let control ← readMemory address 2
    modify fun p => { p with fractions := { p.fractions with control } }
  | 1, 7 => writeMemory address 2 (← get).fractions.control
  | 3, 0 => loadWhole address 4
  | 3, 1 =>
    storeWhole address 4 .toZero
    popFraction
  | 3, 2 | 3, 3 =>
    storeWhole address 4 (← rounding)
    popIf (kind = 3)
  | 3, 5 => pushFraction (Extended.ofBytes (← readMemory address 10))
  | 3, 7 =>
    writeMemory address 10 (← fractionAt 0).toBytes
    popFraction
  | 5, 0 => pushFraction (← loadDouble address)
  | 5, 1 =>
    storeWhole address 8 .toZero
    popFraction
  | 5, 2 | 5, 3 =>
    writeMemory address 8 (← fractionAt 0).toDouble
    popIf (kind = 3)
  | 5, 7 => writeMemory address 2 (← get).fractions.marks
  | 7, 0 => loadWhole address 2
  | 7, 1 =>
    storeWhole address 2 .toZero
    popFraction
  | 7, 2 | 7, 3 =>
    storeWhole address 2 (← rounding)
    popIf (kind = 3)
  | 7, 5 => loadWhole address 8
  | 7, 7 =>
    storeWhole address 8 (← rounding)
    popFraction
  | _, _ => stop Signal.illegal

/-- Moves a number to the top if a condition holds. -/
def moveFractionIf (i : Nat) (condition : Bool) : Step Unit := do
  if condition then setFraction 0 (← fractionAt i)

/-- An instruction whose operands are all on the stack. -/
def fractionStack (page kind i : Nat) : Step Unit := do
  match page, kind with
  | 0, _ => withTop kind (← fractionAt i)
  | 1, 0 => pushFraction (← fractionAt i)
  | 1, 1 =>
    let a ← fractionAt 0
    setFraction 0 (← fractionAt i)
    setFraction i a
  | 1, _ => fractionOfOne (0xC0 + 8 * kind + i)
  | 2, 0 => moveFractionIf i (← get).carry
  | 2, 1 => moveFractionIf i (← get).zero
  | 2, 2 => do
    let p ← get
    moveFractionIf i (p.carry || p.zero)
  | 2, 3 => moveFractionIf i (← get).parity
  | 2, 5 | 6, 3 =>
    markOrder (← fractionAt 0) (← fractionAt 1)
    popFraction
    popFraction
  | 3, 0 => do
    let p ← get
    moveFractionIf i !p.carry
  | 3, 1 => do
    let p ← get
    moveFractionIf i !p.zero
  | 3, 2 => do
    let p ← get
    moveFractionIf i (!p.carry && !p.zero)
  | 3, 3 => do
    let p ← get
    moveFractionIf i !p.parity
  | 3, 4 => if i = 3 then modify fun p => { p with fractions := {} }
  | 3, 5 | 3, 6 => flagOrder (← fractionAt 0) (← fractionAt i)
  | 7, 5 | 7, 6 =>
    flagOrder (← fractionAt 0) (← fractionAt i)
    popFraction
  | 7, 4 => writeRegister accumulator 2 (← get).fractions.marks
  | 5, 0 => return ()
  | 5, 2 | 5, 3 =>
    setFraction i (← fractionAt 0)
    popIf (kind = 3)
  | 5, 4 | 5, 5 =>
    markOrder (← fractionAt 0) (← fractionAt i)
    popIf (kind = 5)
  | 4, _ | 6, _ =>
    if kind = 2 || kind = 3 then stop Signal.illegal
    -- the number in the stack comes first here, and the turned kinds are the others
    setFraction i (countFractions (if 4 ≤ kind then Nat.xor kind 1 else kind) (← fractionAt i) (← fractionAt 0))
    popIf (page = 6)
  | _, _ => stop Signal.illegal

/-- An instruction of this part of the processor; its first byte tells the page. -/
def fractionInstruction (m : Mode) (code : Nat) : Step Unit := do
  let page := code - 0xD8
  let (kind, o) ← operands m 0
  match o with
  | .memory address => fractionMemory page (kind % 8) address
  | .register i => fractionStack page (kind % 8) (i % 8)

end Processor
end ModuleForge.Host
