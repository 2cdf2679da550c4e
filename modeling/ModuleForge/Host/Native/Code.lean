import ModuleForge.Host.Memory
import ModuleForge.Host.Native.Core
import Std.Data.HashMap

/-!
# Code

Makes machine code of a function in steps. A whole number is computed into the first register, and a
number with a fraction into the first register for fractions; what has to wait for another value
waits in a slot of the frame, below the places of the function.
-/
namespace ModuleForge.Host.Native

/-- What a distance in the code is counted to. -/
inductive Aim where
  | label (n : Nat)
  /-- So many bytes behind a symbol of this unit. -/
  | symbol (name : String) (distance : Nat)
  /-- The place that holds the address of a symbol, which may lie in another unit. It is filled late
  if nothing but a call uses it. -/
  | slot (name : String) (isLate : Bool)
  deriving DecidableEq, Repr

inductive Piece where
  | bytes (bs : List UInt8)
  | label (n : Nat)
  /-- An instruction that ends with a distance of four bytes. -/
  | relative (opcode : List UInt8) (aim : Aim)
  /-- An instruction that ends with the distance from the frame to its lower end. -/
  | belowFrame (opcode : List UInt8)
  /-- An instruction that ends with the size of the frame. -/
  | frameSize (opcode : List UInt8)
  deriving Repr

def Piece.size : Piece → Nat
  | bytes bs => bs.length
  | label _ => 0
  | relative opcode _ | belowFrame opcode | frameSize opcode => opcode.length + 4

/-- What a unit contributes to a module. -/
structure CodeUnit where
  functions : List (String × Sight × List Piece) := []
  data : List (String × Sight × CoreData) := []
  /-- Other names of functions. -/
  aliases : List (String × Sight × String) := []
  /-- Functions to be run when the module is loaded, and when it is put away. -/
  first : List String := []
  last : List String := []
  /-- Names that are used, and need not be there. -/
  maybe : List String := []

namespace Code

/-! ## Instructions -/

/-- Registers by their numbers. -/
abbrev Register := Nat

def four (n : Int) : List UInt8 := numberBytes (n % 2 ^ 32).toNat 4

/-- The byte that widens an instruction and its registers, if it is needed. -/
def wider (isWide : Bool) (register base : Register) (isByte : Bool := false) : List UInt8 :=
  let n := (if isWide then 8 else 0) + (if 8 ≤ register then 4 else 0) + (if 8 ≤ base then 1 else 0)
  if n = 0 && !(isByte && 4 ≤ register) then [] else [UInt8.ofNat (0x40 + n)]

/-- A place in memory that an instruction can name. -/
inductive Spot where
  | frame (distance : Int)
  | at (base : Register) (distance : Int)
  | own (name : String) (distance : Nat)

/-- An instruction on a register and a place in memory. -/
def onSpot (start : List UInt8) (isWide : Bool) (opcode : List UInt8) (register : Register) (spot : Spot)
    (isByte : Bool := false) : Piece :=
  let field := 8 * (register % 8)
  match spot with
  | .frame d =>
    .bytes (start ++ wider isWide register 0 isByte ++ opcode ++ [UInt8.ofNat (0x85 + field)] ++ four d)
  | .at base d =>
    .bytes (start ++ wider isWide register base isByte ++ opcode
      ++ [UInt8.ofNat (0x80 + field + base % 8)] ++ (if base % 8 = 4 then [0x24] else []) ++ four d)
  | .own name d =>
    .relative (start ++ wider isWide register 0 isByte ++ opcode ++ [UInt8.ofNat (0x05 + field)]) (.symbol name d)

/-- Puts a number from memory into a register. -/
def loading (s : Scalar) (register : Register) (spot : Spot) : Piece := match s with
  | .i8 => onSpot [] false [0x0F, 0xBE] register spot
  | .u8 => onSpot [] false [0x0F, 0xB6] register spot
  | .i16 => onSpot [] false [0x0F, 0xBF] register spot
  | .u16 => onSpot [] false [0x0F, 0xB7] register spot
  | .i32 | .u32 => onSpot [] false [0x8B] register spot
  | .i64 | .u64 => onSpot [] true [0x8B] register spot
  | .f32 => onSpot [0xF3] false [0x0F, 0x10] register spot
  | .f64 => onSpot [0xF2] false [0x0F, 0x10] register spot

/-- Puts a number from a register into memory. -/
def storing (s : Scalar) (register : Register) (spot : Spot) : Piece := match s with
  | .i8 | .u8 => onSpot [] false [0x88] register spot true
  | .i16 | .u16 => onSpot [0x66] false [0x89] register spot
  | .i32 | .u32 => onSpot [] false [0x89] register spot
  | .i64 | .u64 => onSpot [] true [0x89] register spot
  | .f32 => onSpot [0xF3] false [0x0F, 0x11] register spot
  | .f64 => onSpot [0xF2] false [0x0F, 0x11] register spot

/-- Puts the address of a place into a register. -/
def addressing (register : Register) (spot : Spot) : Piece := onSpot [] true [0x8D] register spot

/-- An instruction on two registers; the second is the one that is changed. -/
def onRegisters (start : List UInt8) (isWide : Bool) (opcode : List UInt8) (source target : Register) : Piece :=
  .bytes (start ++ wider isWide source target ++ opcode ++ [UInt8.ofNat (0xC0 + 8 * (source % 8) + target % 8)])

/-- Puts a number of a form into a register. -/
def constant (s : Scalar) (register : Register) (n : Int) : Piece :=
  let n := s.wrap n
  let low := UInt8.ofNat (register % 8)
  if s.size < 8 || (0 ≤ n && n < 2 ^ 32) then
    .bytes (wider false 0 register ++ [0xB8 + low] ++ four n)
  else if - 2 ^ 31 ≤ n && n < 0 then .bytes (wider true 0 register ++ [0xC7, 0xC0 + low] ++ four n)
  else .bytes (wider true 0 register ++ [0xB8 + low] ++ numberBytes (n % 2 ^ 64).toNat 8)

/-- Puts a number with a fraction into a register for fractions, by way of the first register. -/
def fraction (s : Scalar) (register : Register) (bits : UInt64) : List Piece :=
  let isWide := s = .f64
  [constant .u64 0 bits.toNat, onRegisters [0x66] isWide [0x0F, 0x6E] register 0]

def ofBytes (bs : List UInt8) : Piece := .bytes bs

/-- Makes what is in the first register a proper number of a form. -/
def proper (s : Scalar) : List Piece := match s with
  | .i8 => [.bytes [0x0F, 0xBE, 0xC0]]
  | .u8 => [.bytes [0x0F, 0xB6, 0xC0]]
  | .i16 => [.bytes [0x0F, 0xBF, 0xC0]]
  | .u16 => [.bytes [0x0F, 0xB7, 0xC0]]
  | _ => []

/-- Makes 1 or 0 of a condition, in the first register. -/
def asNumber (condition : UInt8) : Piece := .bytes [0x0F, 0x90 + condition, 0xC0, 0x0F, 0xB6, 0xC0]

/-- The condition under which a comparison of whole numbers is true. -/
def condition (op : Operator) (isSigned : Bool) : UInt8 := match op with
  | .eq => 4
  | .ne => 5
  | .lt => if isSigned then 0xC else 2
  | .ge => if isSigned then 0xD else 3
  | .le => if isSigned then 0xE else 6
  | _ => if isSigned then 0xF else 7

/-- An operation on the first register and the one that counts. -/
def operation (op : Operator) (s : Scalar) : List Piece :=
  let isWide := s.size = 8
  let w : List UInt8 := wider isWide 0 0
  match op with
  | .add => [onRegisters [] isWide [0x01] 1 0]
  | .sub => [onRegisters [] isWide [0x29] 1 0]
  | .mul => [.bytes (w ++ [0x0F, 0xAF, 0xC1])]
  | .and => [onRegisters [] isWide [0x21] 1 0]
  | .or => [onRegisters [] isWide [0x09] 1 0]
  | .xor => [onRegisters [] isWide [0x31] 1 0]
  | .shl => [.bytes (w ++ [0xD3, 0xE0])]
  | .shr => [.bytes (w ++ [0xD3, if s.isSigned then 0xF8 else 0xE8])]
  | .div | .rem =>
    (if s.isSigned then [.bytes (w ++ [0x99]), .bytes (w ++ [0xF7, 0xF9])]
      else [.bytes [0x31, 0xD2], .bytes (w ++ [0xF7, 0xF1])])
    ++ (if op = .rem then [.bytes (w ++ [0x89, 0xD0])] else [])
  | op => [onRegisters [] isWide [0x39] 1 0, asNumber (condition op s.isSigned)]

/-- The byte that tells the width of numbers with fractions. -/
def fractionStart (s : Scalar) : UInt8 := if s = .f32 then 0xF3 else 0xF2

/-- Compares two registers for fractions. -/
def comparing (s : Scalar) (left right : Register) : Piece :=
  onRegisters (if s = .f32 then [] else [0x66]) false [0x0F, 0x2E] left right

/-- An operation on the first two registers for fractions. -/
def fractionOperation (op : Operator) (s : Scalar) : List Piece :=
  let arithmetic (code : UInt8) : List Piece := [.bytes [fractionStart s, 0x0F, code, 0xC1]]
  match op with
  | .add => arithmetic 0x58
  | .mul => arithmetic 0x59
  | .sub => arithmetic 0x5C
  | .div => arithmetic 0x5E
  | .lt => [comparing s 1 0, asNumber 7]
  | .le => [comparing s 1 0, asNumber 3]
  | .gt => [comparing s 0 1, asNumber 7]
  | .ge => [comparing s 0 1, asNumber 3]
  | .eq => [comparing s 0 1, .bytes [0x0F, 0x9B, 0xC1, 0x0F, 0x94, 0xC0, 0x20, 0xC8, 0x0F, 0xB6, 0xC0]]
  | .ne => [comparing s 0 1, .bytes [0x0F, 0x9A, 0xC1, 0x0F, 0x95, 0xC0, 0x08, 0xC8, 0x0F, 0xB6, 0xC0]]
  | _ => []

/-- Copies the bits of the first register for fractions to the first register, or back. -/
def bitsOut (s : Scalar) : Piece := onRegisters [0x66] (s = .f64) [0x0F, 0x7E] 0 0
def bitsIn (s : Scalar) : Piece := onRegisters [0x66] (s = .f64) [0x0F, 0x6E] 0 0

/-- An operation on one number. -/
def unaryOperation (op : Unary) (s : Scalar) : List Piece :=
  let w : List UInt8 := wider (s.size = 8) 0 0
  let highest : Nat := 2 ^ (8 * s.size - 1)
  match op with
  | .negate =>
    if s.isReal then
      [bitsOut s, constant .u64 1 highest, onRegisters [] true [0x31] 1 0, bitsIn s]
    else .bytes (w ++ [0xF7, 0xD8]) :: proper s
  | .complement => .bytes (w ++ [0xF7, 0xD0]) :: proper s
  | .ones => [.bytes (0xF3 :: w ++ [0x0F, 0xB8, 0xC0])]
  | .trailing => [.bytes (w ++ [0x0F, 0xBC, 0xC0])]
  | .leading => [.bytes (w ++ [0x0F, 0xBD, 0xC0, 0x83, 0xF0, UInt8.ofNat (8 * s.size - 1)])]
  | .swap =>
    if s.size = 2 then .bytes [0x66, 0xC1, 0xC0, 0x08] :: proper s else [.bytes (w ++ [0x0F, 0xC8])]
  | .root => [.bytes [fractionStart s, 0x0F, 0x51, 0xC0]]
  | .absolute => [bitsOut s, constant .u64 1 (highest - 1), onRegisters [] true [0x21] 1 0, bitsIn s]

/-! ## The state -/

/-- What is known about a function while its code is made. -/
structure Site where
  /-- How far the places lie below the frame. -/
  places : Array Nat
  /-- How many bytes the places take. -/
  size : Nat
  /-- Whether the unit itself has a symbol, so that it lies at a known distance. -/
  isOwn : String → Bool

structure Progress where
  code : Array Piece := #[]
  nextLabel : Nat := 0
  /-- The labels of steps within values, which get new names wherever their code is made. -/
  labels : List (Nat × Nat) := []
  /-- How many slots are in use, and how many there are at most. -/
  used : Nat := 0
  most : Nat := 0

end Code

abbrev Code := ReaderT Code.Site (StateM Code.Progress)

namespace Code

def put (p : Piece) : Code Unit := modify fun s => { s with code := s.code.push p }
def putAll (ps : List Piece) : Code Unit := modify fun s => { s with code := s.code ++ ps }
def emit (bs : List UInt8) : Code Unit := put (.bytes bs)

def newLabel : Code Nat := modifyGet fun s => (2 * s.nextLabel + 1, { s with nextLabel := s.nextLabel + 1 })

/-- The label in the code for one of the steps. -/
def labelOf (n : Nat) : Code Nat := return ((← get).labels.lookup n).getD (2 * n)

def jump (label : Nat) : Code Unit := put (.relative [0xE9] (.label label))
def jumpIf (condition : UInt8) (label : Nat) : Code Unit := put (.relative [0x0F, 0x80 + condition] (.label label))

/-- Does something with a slot, which nothing else uses meanwhile. -/
def withSlot (body : Spot → Code α) : Code α := do
  let site ← read
  let k := (← get).used
  modify fun s => { s with used := k + 1, most := max s.most (k + 1) }
  let a ← body (.frame (-((site.size + 8 * (k + 1) : Nat) : Int)))
  modify fun s => { s with used := k }
  return a

/-- Keeps the value that was computed last in a slot. -/
def keep (s : Scalar) (slot : Spot) : Code Unit :=
  put (storing (if s.isReal then s else .u64) 0 slot)

/-- The place in memory of a value that is in no register, if there is one. -/
def fixedSpot? : Core → Code (Option Spot)
  | .frame p => return some (.frame (-(((← read).places[p]?).getD 0 : Int)))
  | .binary .add .u64 (.frame p) (.number _ n) => return some (.frame (n - ((← read).places[p]?).getD 0))
  | .symbol name => return if (← read).isOwn name then some (.own name 0) else none
  | .binary .add .u64 (.symbol name) (.number _ n) =>
    return if (← read).isOwn name && 0 ≤ n && n < 2 ^ 31 then some (.own name n.toNat) else none
  | _ => return none

/-- Puts the address of a symbol into a register. -/
def symbolAddress (name : String) (register : Register) : Code Unit := do
  if (← read).isOwn name then put (addressing register (.own name 0))
  else put (.relative (wider true register 0 ++ [0x8B, UInt8.ofNat (0x05 + 8 * (register % 8))]) (.slot name false))

/-- Puts a value into a register if that disturbs no other register; tells whether it did. -/
def lightly (c : Core) (register : Register) : Code Bool := do
  match c with
  | .number s n => put (constant s register n); return true
  | .symbol name => symbolAddress name register; return true
  | .framePointer => put (onRegisters [] true [0x89] 5 register); return true
  | .label n => put (.relative (wider true register 0 ++ [0x8D, UInt8.ofNat (0x05 + 8 * (register % 8))])
      (.label (← labelOf n))); return true
  | .frame _ | .binary .add .u64 (.frame _) (.number ..) =>
    let some spot ← fixedSpot? c | return false
    put (addressing register spot)
    return true
  | .load s a =>
    if s.isReal then return false
    let some spot ← fixedSpot? a | return false
    put (loading s register spot)
    return true
  | _ => return false

/-- Puts a number with a fraction into the second register for fractions, if that is simple. -/
def fractionLightly (c : Core) : Code Bool := do
  match c with
  | .real s bits => putAll (fraction s 1 bits); return true
  | .load s a =>
    if !s.isReal then return false
    let some spot ← fixedSpot? a | return false
    put (loading s 1 spot)
    return true
  | _ => return false

/-- Where the arguments of a call go: registers for whole numbers, registers for fractions, and
places above the stack. -/
inductive Way where
  | register (r : Register)
  | fraction (r : Register)
  | stack (place : Nat)

/-- The registers that hold arguments. -/
def argumentRegisters : List Register := [7, 6, 2, 1, 8, 9]

/-- The ways of arguments, by their forms. -/
def ways (wholes fractions above : Nat) : List Scalar → List Way
  | [] => []
  | s :: rest =>
    if s.isReal then
      if fractions < 8 then .fraction fractions :: ways wholes (fractions + 1) above rest
      else .stack above :: ways wholes fractions (above + 1) rest
    else match argumentRegisters[wholes]? with
      | some r => .register r :: ways (wholes + 1) fractions above rest
      | none => .stack above :: ways wholes fractions (above + 1) rest

/-- The pieces into which so many bytes are cut to be copied: their forms and places. -/
def chunks : Nat → Nat → Nat → List (Scalar × Nat)
  | 0, _, _ => []
  | fuel + 1, place, size =>
    if 8 ≤ size then (.u64, place) :: chunks fuel (place + 8) (size - 8)
    else if 4 ≤ size then (.u32, place) :: chunks fuel (place + 4) (size - 4)
    else if 2 ≤ size then (.u16, place) :: chunks fuel (place + 2) (size - 2)
    else if size = 1 then [(.u8, place)]
    else []

/-- Changes the form of the number that was computed last. -/
def reform (source target : Scalar) : Code Unit := do
  if source = target then return
  else if source.isReal && target.isReal then emit [fractionStart source, 0x0F, 0x5A, 0xC0]
  else if source.isReal then
    if target = .u64 then
      let big ← newLabel
      let done ← newLabel
      if source = .f32 then emit [0xF3, 0x0F, 0x5A, 0xC0]
      put (constant .u64 1 0x43E0000000000000)
      put (onRegisters [0x66] true [0x0F, 0x6E] 1 1)
      put (comparing .f64 0 1)
      jumpIf 3 big
      emit [0xF2, 0x48, 0x0F, 0x2C, 0xC0]
      jump done
      put (.label big)
      emit [0xF2, 0x0F, 0x5C, 0xC1, 0xF2, 0x48, 0x0F, 0x2C, 0xC0]
      put (constant .u64 1 (2 ^ 63))
      put (onRegisters [] true [0x31] 1 0)
      put (.label done)
    else
      let isWide := target = .i64 || target = .u32
      emit ([fractionStart source] ++ wider isWide 0 0 ++ [0x0F, 0x2C, 0xC0])
      putAll (proper target)
  else if target.isReal then
    let toFraction (isWide : Bool) : List UInt8 := [fractionStart target] ++ wider isWide 0 0 ++ [0x0F, 0x2A, 0xC0]
    match source with
    | .i64 => emit (toFraction true)
    | .u32 => emit ([0x89, 0xC0] ++ toFraction true)
    | .u64 =>
      let big ← newLabel
      let done ← newLabel
      emit [0x48, 0x85, 0xC0]
      jumpIf 8 big
      emit (toFraction true)
      jump done
      put (.label big)
      emit ([0x48, 0x89, 0xC1, 0x48, 0xD1, 0xE8, 0x83, 0xE1, 0x01, 0x48, 0x09, 0xC8] ++ toFraction true
        ++ [fractionStart target, 0x0F, 0x58, 0xC0])
      put (.label done)
    | _ => emit (toFraction false)
  else if target.size = 8 then
    if source.size < 8 then
      emit (if source.isSigned then [0x48, 0x63, 0xC0] else [0x89, 0xC0])
  else putAll (proper target)

/-! ## Values and steps -/

/-- The labels that are set in some steps. -/
def labelsIn (steps : List Step) : List Nat := steps.filterMap fun
  | .label n => some n
  | _ => none

/-- A number without changes of its form that keep whether it is 0. -/
def bare : Core → Core
  | .convert source target a =>
    if !source.isReal && !target.isReal && source.size ≤ target.size then bare a else .convert source target a
  | c => c

mutual

/-- Code that computes a value into the first register of its kind. -/
def value : Nat → Core → Code Unit
  | 0, _ => return
  | fuel + 1, c => do
    if ← lightly c 0 then return
    match c with
    | .real s bits => putAll (fraction s 0 bits)
    | .load s a =>
      let spot ← spotOf fuel a
      put (loading s 0 spot)
    | .store s a v =>
      match ← fixedSpot? a with
      | some spot =>
        value fuel v
        put (storing s 0 spot)
      | none => match v with
        | .number .. | .frame _ | .symbol _ =>
          let spot ← spotOf fuel a
          let _ ← lightly v 1
          put (storing s 1 spot)
          put (onRegisters [] true [0x89] 1 0)
        | v =>
          let distance ← distanceOf fuel a
          withSlot fun slot => do
            keep .u64 slot
            value fuel v
            put (loading .u64 1 slot)
          put (storing s 0 (.at 1 distance))
    | .unary op s a =>
      value fuel a
      putAll (unaryOperation op s)
    | .binary op s a b =>
      if s.isReal then
        fractionOperands fuel s a b
        putAll (fractionOperation op s)
      else
        operands fuel a b
        putAll (operation op s)
        if !op.compares then putAll (proper s)
    | .convert source target a =>
      value fuel a
      reform source target
    | .call f arguments result variadic => call fuel f arguments result variadic
    | .first a b =>
      value fuel a
      value fuel b
    | .choose c yes no =>
      let other ← newLabel
      let done ← newLabel
      unless_ fuel c other
      value fuel yes
      jump done
      put (.label other)
      value fuel no
      put (.label done)
    | .copy target source size =>
      addresses fuel target source
      if size ≤ 64 then
        for (s, place) in chunks (size + 1) 0 size do
          put (loading s 2 (.at 1 place))
          put (storing s 2 (.at 0 place))
      else
        -- the registers for strings, and back to the target
        emit [0x48, 0x89, 0xC2, 0x48, 0x89, 0xC7, 0x48, 0x89, 0xCE]
        put (constant .u64 1 size)
        emit [0xF3, 0xA4, 0x48, 0x89, 0xD0]
    | .clear target size =>
      value fuel target
      if size ≤ 64 then
        emit [0x31, 0xC9]
        for (s, place) in chunks (size + 1) 0 size do put (storing s 1 (.at 0 place))
      else
        emit [0x48, 0x89, 0xC7, 0x48, 0x89, 0xC2]
        put (constant .u64 1 size)
        emit [0x31, 0xC0, 0xF3, 0xAA, 0x48, 0x89, 0xD0]
    | .reserve size =>
      value fuel size
      emit [0x48, 0x83, 0xC0, 0x0F, 0x48, 0x83, 0xE0, 0xF0, 0x48, 0x29, 0xC4, 0x48, 0x89, 0xE0]
    | .steps before v =>
      let outer := (← get).labels
      for n in labelsIn before do
        let label ← newLabel
        modify fun s => { s with labels := (n, label) :: s.labels }
      stepsIn fuel before
      value fuel v
      modify fun s => { s with labels := outer }
    | _ => return

/-- Code that leads to the address of a value: what an instruction can name. -/
def spotOf : Nat → Core → Code Spot
  | 0, _ => return .frame 0
  | fuel + 1, a => do
    match ← fixedSpot? a with
    | some spot => return spot
    | none =>
      return .at 0 (← distanceOf fuel a)

/-- Code that computes an address up to a distance, which is the answer. -/
def distanceOf : Nat → Core → Code Int
  | 0, _ => return 0
  | fuel + 1, a => do
    match a with
    | .binary .add .u64 b (.number _ n) =>
      if - 2 ^ 31 ≤ n && n < 2 ^ 31 then
        value fuel b
        return n
      else
        value fuel a
        return 0
    | a =>
      value fuel a
      return 0

/-- Code that computes two whole numbers into the first register and the one that counts. -/
def operands : Nat → Core → Core → Code Unit
  | 0, _, _ => return
  | fuel + 1, a, b => do
    match b with
    | .number .. | .frame _ | .symbol _ | .load _ (.frame _) =>
      value fuel a
      let _ ← lightly b 1
    | _ => withSlot fun slot => do
      value fuel a
      keep .u64 slot
      value fuel b
      put (onRegisters [] true [0x89] 0 1)
      put (loading .u64 0 slot)

/-- Code that computes two addresses, as `operands`. -/
def addresses : Nat → Core → Core → Code Unit
  | 0, _, _ => return
  | fuel + 1, target, source => do
    match ← fixedSpot? target with
    | some spot =>
      value fuel source
      put (onRegisters [] true [0x89] 0 1)
      put (addressing 0 spot)
    | none => operands fuel target source

/-- Code that computes two numbers into the first two registers for fractions. -/
def fractionOperands : Nat → Scalar → Core → Core → Code Unit
  | 0, _, _, _ => return
  | fuel + 1, s, a, b => do
    match b with
    | .real .. | .load _ (.frame _) =>
      value fuel a
      let _ ← fractionLightly b
    | _ => withSlot fun slot => do
      value fuel a
      keep s slot
      value fuel b
      put (.bytes [0x0F, 0x28, 0xC8])
      put (loading s 0 slot)

/-- Code that goes to a label if a value is 0. -/
def unless_ : Nat → Core → Nat → Code Unit
  | 0, _, _ => return
  | fuel + 1, c, label => do
    match bare c with
    | .binary op s a b =>
      if op.compares && !s.isReal then
        operands fuel a b
        put (onRegisters [] (s.size = 8) [0x39] 1 0)
        -- the lowest bit turns a condition round
        jumpIf (condition op s.isSigned ^^^ 1) label
      else
        value fuel c
        emit [0x85, 0xC0]
        jumpIf 4 label
    | .number _ n => if n = 0 then jump label
    | _ =>
      value fuel c
      emit [0x85, 0xC0]
      jumpIf 4 label

/-- Code that calls a function. The arguments are computed from the last to the first, and wait in
slots. -/
def call : Nat → Core → List (Scalar × Core) → Scalar → Bool → Code Unit
  | 0, _, _, _, _ => return
  | fuel + 1, f, arguments, result, variadic => do
    let before := (← get).used
    let newSlot : Code Spot := do
      let site ← read
      let k := (← get).used
      modify fun s => { s with used := k + 1, most := max s.most (k + 1) }
      return .frame (-((site.size + 8 * (k + 1) : Nat) : Int))
    let target ← match f with
      | .symbol _ => pure none
      | f => do
        value fuel f
        let slot ← newSlot
        keep .u64 slot
        pure (some slot)
    let mut kept : List (Option Spot) := []
    for (s, a) in arguments.reverse do
      match a with
      | .number .. | .frame _ => kept := none :: kept
      | .symbol _ => kept := none :: kept
      | a =>
        value fuel a
        let slot ← newSlot
        keep s slot
        kept := some slot :: kept
    let ways := ways 0 0 0 (arguments.map (·.1))
    let above := (ways.filter fun | .stack _ => true | _ => false).length
    let room := (above + 1) / 2 * 16
    if room ≠ 0 then emit ([0x48, 0x81, 0xEC] ++ four room)
    for ((s, a), slot, way) in arguments.zip (kept.zip ways) do
      if let .stack place := way then
        match slot with
        | some slot => put (loading .u64 0 slot)
        | none => let _ ← lightly a 0
        let _ := s
        put (storing .u64 0 (.at 4 (8 * place)))
    for ((s, a), slot, way) in arguments.zip (kept.zip ways) do
      match way with
      | .stack _ => pure ()
      | .fraction r => if let some slot := slot then put (loading s r slot)
      | .register r => match slot with
        | some slot => put (loading .u64 r slot)
        | none => let _ ← lightly a r
    if let some slot := target then put (loading .u64 11 slot)
    if variadic then
      let count := (ways.filter fun | .fraction _ => true | _ => false).length
      put (constant .i32 0 count)
    match target, f with
    | none, .symbol name =>
      if (← read).isOwn name then put (.relative [0xE8] (.symbol name 0))
      else put (.relative [0xFF, 0x15] (.slot name true))
    | _, _ => emit [0x41, 0xFF, 0xD3]
    if room ≠ 0 then emit ([0x48, 0x81, 0xC4] ++ four room)
    putAll (proper result)
    modify fun s => { s with used := before }

/-- Code of steps. -/
def stepsIn : Nat → List Step → Code Unit
  | 0, _ => return
  | fuel + 1, steps => do
    for step in steps do
      match step with
      | .value a => value fuel a
      | .label n => put (.label (← labelOf n))
      | .jump n => jump (← labelOf n)
      | .unless c n => unless_ fuel c (← labelOf n)
      | .leave _ a =>
        value fuel a
        emit [0xC9, 0xC3]
      | .landing => put (.belowFrame [0x48, 0x8D, 0xA5])
      | .leap frame address => withSlot fun slot => do
        value fuel frame
        keep .u64 slot
        value fuel address
        put (loading .u64 5 slot)
        emit [0xFF, 0xE0]

end

/-! ## Functions -/

/-- How far places lie below the frame, and how many bytes they take. -/
def layOut (places : List (Nat × Nat)) : Array Nat × Nat :=
  places.foldl (fun (acc, size) (n, alignment) =>
    let alignment := max 1 (min 16 alignment)
    let size := (size + max 1 n + alignment - 1) / alignment * alignment
    (acc.push size, size)) (#[], 0)

/-- Puts the parameters of a function into their places. -/
def takeParameters (parameters : List (Scalar × Nat)) : Code Unit := do
  for ((s, place), way) in parameters.zip (ways 0 0 0 (parameters.map (·.1))) do
    let spot : Spot := .frame (-(((← read).places[place]?).getD 0 : Int))
    match way with
    | .register r | .fraction r => put (storing s r spot)
    | .stack k =>
      put (loading .u64 0 (.frame (16 + 8 * k)))
      put (storing (if s = .f32 then .u32 else if s = .f64 then .u64 else s) 0 spot)

/-- Keeps all registers that may hold arguments. -/
def keepRegisters (place : Nat) : Code Unit := do
  let start : Int := -(((← read).places[place]?).getD 0 : Int)
  for (r, k) in argumentRegisters.zip (List.range 6) do put (storing .u64 r (.frame (start + 8 * k)))
  for r in List.range 8 do put (storing .f64 r (.frame (start + 48 + 16 * r)))

/-- The code of a function. -/
def function (isOwn : String → Bool) (f : CoreFunction) : List Piece :=
  let (places, size) := layOut f.places.toList
  let size := (size + 15) / 16 * 16
  let make : Code Unit := do
    if let some place := f.kept then keepRegisters place
    takeParameters f.parameters
    stepsIn 100000 f.body
    emit [0xC9, 0xC3]
  let ((), s) := (make.run { places, size, isOwn }).run {}
  let frame := (size + 8 * s.most + 15) / 16 * 16
  let start : List Piece := [.bytes [0x55, 0x48, 0x89, 0xE5], .frameSize [0x48, 0x81, 0xEC]]
  (start ++ s.code.toList).map fun
    | .belowFrame opcode => .bytes (opcode ++ four (-(frame : Int)))
    | .frameSize opcode => .bytes (opcode ++ four frame)
    | p => p

end Code

/-- Whether a symbol of a sight always stands for what the unit itself, or another unit of the
module, has under it. -/
def Sight.isFixed : Sight → Bool
  | .hidden | .sharedHidden => true
  | .shown | .shared => false

/-- The code of a unit. -/
def CodeUnit.ofCore (u : CoreUnit) : CodeUnit :=
  let names : Std.HashMap String Unit := (u.functions.filterMap fun (n, s, _) => if s.isFixed then some (n, ()) else none)
    ++ (u.data.filterMap fun (n, s, _) => if s.isFixed then some (n, ()) else none)
    ++ (u.aliases.filterMap fun (n, s, _) => if s.isFixed then some (n, ()) else none) |> Std.HashMap.ofList
  { functions := u.functions.map fun (n, s, f) => (n, s, Code.function names.contains f)
    data := u.data, aliases := u.aliases, first := u.first, last := u.last, maybe := u.maybe }

end ModuleForge.Host.Native
