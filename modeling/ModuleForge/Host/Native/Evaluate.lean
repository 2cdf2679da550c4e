import ModuleForge.Host.Native.Reader

/-!
# Values that are known beforehand

Computes what steps come to while the program is read. Variables lie at addresses that no number of
a program is likely to be; what depends on anything that is only known when the program runs is
refused.
-/
namespace ModuleForge.Host.Native

/-! ## Numbers -/

namespace Unary

def bitsSet : Nat → Nat → Nat
  | 0, _ => 0
  | count + 1, n => n % 2 + bitsSet count (n / 2)

def zerosBelow : Nat → Nat → Nat
  | 0, _ => 0
  | count + 1, n => if n % 2 = 1 then 0 else zerosBelow count (n / 2) + 1

def bytesSwapped : Nat → Nat → Nat
  | 0, _ => 0
  | count + 1, n => n % 256 * 256 ^ count + bytesSwapped count (n / 256)

def onReal (op : Unary) (x : Float) : Float := match op with
  | negate => -x
  | root => x.sqrt
  | absolute => x.abs
  | _ => x

/-- The number that the operator makes of a whole number. -/
def apply (op : Unary) (s : Scalar) (n : Int) : Int :=
  let bits := 8 * s.size
  let m := (n % 2 ^ bits).toNat
  match op with
  | negate => s.wrap (-n)
  | complement => s.wrap (-n - 1)
  | ones => bitsSet bits m
  | trailing => zerosBelow bits m
  | leading => if m = 0 then bits else bits - 1 - m.log2
  | swap => s.wrap (bytesSwapped s.size m)
  | absolute => s.wrap n.natAbs
  | root => n

end Unary

namespace Operator

def ofBool (b : Bool) : Int := if b then 1 else 0

/-- The result for two whole numbers; a division by zero has none. -/
def apply (op : Operator) (s : Scalar) (a b : Int) : Option Int :=
  let bits (n : Int) : Nat := (n % 2 ^ (8 * s.size)).toNat
  match op with
  | add => s.wrap (a + b)
  | sub => s.wrap (a - b)
  | mul => s.wrap (a * b)
  | div => if b = 0 then none else s.wrap (Int.tdiv a b)
  | rem => if b = 0 then none else s.wrap (Int.tmod a b)
  | shl => s.wrap (a * 2 ^ ((b % (8 * s.size)).toNat))
  | shr => s.wrap (Int.fdiv a (2 ^ ((b % (8 * s.size)).toNat)))
  | and => s.wrap (bits a &&& bits b : Nat)
  | or => s.wrap (bits a ||| bits b : Nat)
  | xor => s.wrap (bits a ^^^ bits b : Nat)
  | lt => ofBool (a < b)
  | le => ofBool (a ≤ b)
  | gt => ofBool (a > b)
  | ge => ofBool (a ≥ b)
  | eq => ofBool (a == b)
  | ne => ofBool (a != b)

def arithmetic (op : Operator) (x y : Float) : Option Float := match op with
  | add => x + y
  | sub => x - y
  | mul => x * y
  | div => x / y
  | _ => none

def comparison (op : Operator) (x y : Float) : Option Bool := match op with
  | lt => some (decide (x < y))
  | le => some (decide (x ≤ y))
  | gt => some (decide (x > y))
  | ge => some (decide (x ≥ y))
  | eq => some (x == y)
  | ne => some (x != y)
  | _ => none

end Operator

namespace Scalar

/-- The number with a fraction that bits stand for. -/
def toFloat (s : Scalar) (bits : Int) : Float :=
  let n := (bits % 2 ^ (8 * s.size)).toNat
  if s = .f32 then (Float32.ofBits n.toUInt32).toFloat else Float.ofBits n.toUInt64

def ofFloat (s : Scalar) (x : Float) : Int :=
  if s = .f32 then (x.toFloat32.toBits.toNat : Int) else (x.toBits.toNat : Int)

/-- The whole number that is left of a number without its fraction. -/
def truncated (x : Float) : Int := if x < 0 then -((-x).toUInt64.toNat : Int) else (x.toUInt64.toNat : Int)

def ofInt (x : Int) : Float := if x < 0 then -(Float.ofNat x.natAbs) else Float.ofNat x.toNat

/-- A number in another form. -/
def convert (source target : Scalar) (n : Int) : Int :=
  match source.isReal, target.isReal with
  | false, false => target.wrap n
  | true, true => if source = target then n else target.ofFloat (source.toFloat n)
  | false, true =>
    -- rounded once
    if target = .f32 then ((if n < 0 then -(Float32.ofNat n.natAbs) else Float32.ofNat n.toNat).toBits.toNat : Int)
    else target.ofFloat (ofInt n)
  | true, false => target.wrap (truncated (source.toFloat n))

end Scalar

/-! ## Memory -/

/-- What is known of the memory. -/
structure Known where
  bytes : Std.HashMap Nat UInt8 := {}
  symbols : Std.HashMap String Nat := {}
  names : Array String := #[]
  next : Nat := 0
  /-- How many steps were done. -/
  steps : Nat := 0
  /-- The variable that is being set up. -/
  target : String := ""

abbrev Evaluate := StateT Known Compile

namespace Evaluate

def notConstant {α : Type} : Evaluate α := fun _ => throw "the value is not usable in a constant expression"

/-- Where the first variable and the first place of a frame lie. -/
def symbolsStart : Nat := 0x4A00000000000000
def framesStart : Nat := 0x4B00000000000000
def spacing : Nat := 2 ^ 32

/-- The symbol and the distance behind an address. -/
def ofAddress? (k : Known) (n : Nat) : Option (String × Nat) :=
  if symbolsStart ≤ n && n < framesStart then
    let i := (n - symbolsStart) / spacing
    (k.names[i]?).map fun name => (name, (n - symbolsStart) % spacing)
  else none

def writeBytes (address : Nat) : List UInt8 → Evaluate Unit
  | [] => return
  | b :: rest => do
    modify fun k => { k with bytes := k.bytes.insert address b }
    writeBytes (address + 1) rest

def write (address size value : Nat) : Evaluate Unit :=
  writeBytes address ((List.range size).map fun i => UInt8.ofNat (value / 256 ^ i % 256))

/-- The address of a variable or a function; what a constant starts with is there to be read. -/
def addressOf (symbol : String) : Evaluate Nat := do
  let k ← get
  match k.symbols[symbol]? with
  | some n => return n
  | none =>
    let n := symbolsStart + k.names.size * spacing
    set { k with symbols := k.symbols.insert symbol n, names := k.names.push symbol }
    let known := (← (get : Compile Compiling)).data[symbol]?
    match known with
    | some (_, d) =>
      if d.isConstant then
        writeBytes n (d.bytes ++ List.replicate (min (d.size - d.bytes.length) 4096) 0)
    | none => pure ()
    return n

def byte (address : Nat) : Evaluate Nat := do
  match (← get).bytes[address]? with
  | some b => return b.toNat
  | none => notConstant

def read (address : Nat) : Nat → Evaluate Nat
  | 0 => return 0
  | size + 1 => do return (← byte address) + 256 * (← read (address + 1) size)

/-- The place of a frame that is read or written: it has to be known, or set up just now. -/
def isOpen (address : Nat) : Evaluate Bool := do
  if framesStart ≤ address then return true
  let k ← get
  return match ofAddress? k address with
    | some (name, _) => name == k.target
    | none => false

def count : Evaluate Unit := do
  modify fun k => { k with steps := k.steps + 1 }
  if 3000000 < (← get).steps then notConstant

/-- The places of the running function. -/
abbrev Frame := Array Nat

def frameOf (f : CoreFunction) : Evaluate Frame := do
  let mut places : Frame := #[]
  for (size, alignment) in f.places do
    let k ← get
    let start := (framesStart + k.next + alignment - 1) / (max alignment 1) * (max alignment 1)
    set { k with next := start - framesStart + size }
    places := places.push start
  return places

/-- The function behind a symbol, if it may be called beforehand. -/
def callable (g : Grammar) (symbol : String) : Compile (Option CoreFunction) := do
  let s ← get
  match s.functionOfSymbol[symbol]? with
  | none => return none
  | some id =>
    let f ← Compile.getFunction id
    if !f.isConstant && f.given = .written then return none
    if f.stage ≠ .made then g.makeFunction id
    return (← get).finished[symbol]?

mutual

/-- The value of a computation: a whole number, or the bits of a number with a fraction. -/
def core (g : Grammar) : Nat → Frame → Core → Evaluate Int
  | 0, _, _ => notConstant
  | fuel + 1, frame, c => do
    count
    match c with
    | .nothing => return 0
    | .number s n => return s.wrap n
    | .real _ bits => return bits.toNat
    | .frame i => match frame[i]? with
      | some n => return n
      | none => notConstant
    | .symbol name => return (← addressOf name)
    | .load s a =>
      let address := ((← core g fuel frame a) % 2 ^ 64).toNat
      let n ← read address s.size
      return if s.isReal then (n : Int) else s.wrap n
    | .store s a v =>
      let address := ((← core g fuel frame a) % 2 ^ 64).toNat
      let v ← core g fuel frame v
      if !(← isOpen address) then notConstant
      write address s.size (v % 2 ^ (8 * s.size)).toNat
      return v
    | .unary op s a =>
      let n ← core g fuel frame a
      return if s.isReal then s.ofFloat (op.onReal (s.toFloat n)) else op.apply s n
    | .binary op s a b =>
      let x ← core g fuel frame a
      let y ← core g fuel frame b
      if s.isReal then
        let r := s.toFloat x
        let t := s.toFloat y
        match op.arithmetic r t, op.comparison r t with
        | some z, _ => return s.ofFloat z
        | none, some b => return Operator.ofBool b
        | none, none => notConstant
      else match op.apply s x y with
        | some z => return z
        | none => notConstant
    | .convert s t a => return s.convert t (← core g fuel frame a)
    | .call f arguments _ _ =>
      let symbol ← match f with
        | .symbol name => pure name
        | f =>
          let n ← core g fuel frame f
          match ofAddress? (← get) (n % 2 ^ 64).toNat with
          | some (name, 0) => pure name
          | _ => notConstant
      let values ← arguments.mapM fun (_, a) => core g fuel frame a
      match ← callable g symbol with
      | none => notConstant
      | some made =>
        let inner ← frameOf made
        for ((s, place), v) in made.parameters.zip values do
          write (inner[place]?.getD 0) s.size (v % 2 ^ (8 * s.size)).toNat
        let body := made.body.toArray
        steps g fuel inner body 0
    | .first a b =>
      let _ ← core g fuel frame a
      core g fuel frame b
    | .choose c yes no =>
      if (← core g fuel frame c) ≠ 0 then core g fuel frame yes else core g fuel frame no
    | .copy target source size =>
      let t := ((← core g fuel frame target) % 2 ^ 64).toNat
      let s := ((← core g fuel frame source) % 2 ^ 64).toNat
      if !(← isOpen t) then notConstant
      for i in [0:size] do
        match (← get).bytes[s + i]? with
        | some b => modify fun k => { k with bytes := k.bytes.insert (t + i) b }
        | none => modify fun k => { k with bytes := k.bytes.erase (t + i) }
      return t
    | .clear target size =>
      let t := ((← core g fuel frame target) % 2 ^ 64).toNat
      if !(← isOpen t) then notConstant
      if size < 100000 then
        for i in [0:size] do
          modify fun k => { k with bytes := k.bytes.insert (t + i) 0 }
      return t
    | .steps before value =>
      if !before.isEmpty then
        let _ ← steps g fuel frame before.toArray 0
      core g fuel frame value
    | .label _ | .framePointer | .reserve _ => notConstant

/-- Does steps from one of them on; the value is the one with which the function is left. -/
def steps (g : Grammar) : Nat → Frame → Array Step → Nat → Evaluate Int
  | 0, _, _, _ => notConstant
  | fuel + 1, frame, all, at_ => do
    count
    let find (n : Nat) : Option Nat := all.findIdx? fun
      | .label m => m == n
      | _ => false
    match all[at_]? with
    | none => return 0
    | some step => match step with
      | .value a =>
        let _ ← core g fuel frame a
        steps g fuel frame all (at_ + 1)
      | .label _ => steps g fuel frame all (at_ + 1)
      | .jump n => match find n with
        | some i => steps g fuel frame all i
        | none => notConstant
      | .unless c n =>
        if (← core g fuel frame c) ≠ 0 then steps g fuel frame all (at_ + 1)
        else match find n with
          | some i => steps g fuel frame all i
          | none => notConstant
      | .leave _ v => core g fuel frame v
      | .landing | .leap .. => notConstant

end

/-- How many steps may follow each other. -/
def fuel : Nat := 12000

/-- The places of the function that is being made, of which nothing is known yet. -/
def currentFrame : Evaluate Frame := do
  let places := (← (get : Compile Compiling)).making.places
  frameOf { places, parameters := [], body := [] }

/-- The value of a computation that needs nothing of the running program. -/
def value? (g : Grammar) (s : Scalar) (c : Core) : Compile (Option Int) := do
  let run : Compile (Int × Known) := (do
    core g fuel (← currentFrame) c : Evaluate Int).run {}
  match ← Compile.attempt run with
  | some (n, _) => return some (if s.isReal then n else s.wrap n)
  | none => return none

/-- The addresses among bytes that have been written. -/
def addresses (k : Known) (start size : Nat) : List (Nat × String × Nat) :=
  (List.range (size / 8)).filterMap fun i =>
    let n := (List.range 8).foldr (fun j acc =>
      256 * acc + ((k.bytes[start + 8 * i + j]?).map UInt8.toNat).getD 0) 0
    (ofAddress? k n).map fun (name, distance) => (8 * i, name, distance)

/-- The bytes with which a variable starts, if the steps that set it up can be done beforehand. -/
def data? (g : Grammar) (symbol : String) (size alignment : Nat) (setUp : Core) :
    Compile (Option CoreData) := do
  let run : Compile (Nat × Known) := (do
    let start ← addressOf symbol
    let _ ← core g fuel (← currentFrame) setUp
    return start : Evaluate Nat).run { target := symbol }
  match ← Compile.attempt run with
  | none => return none
  | some (start, k) =>
    let found := addresses k start size
    let known := (List.range size).map fun i => (k.bytes[start + i]?).getD 0
    let inAddress (i : Nat) : Bool := found.any fun (at_, _, _) => at_ ≤ i && i < at_ + 8
    let bytes := if found.isEmpty then known
      else (known.zip (List.range size)).map fun (b, i) => if inAddress i then 0 else b
    let trimmed := (bytes.reverse.dropWhile (· == 0)).reverse
    -- an address of a frame cannot be kept
    let escapes := (List.range (size / 8)).any fun i => (k.bytes[start + 8 * i + 7]?) == some 0x4B
    if escapes then return none
    return some { size, alignment, bytes := trimmed, addresses := found }

end Evaluate
end ModuleForge.Host.Native
