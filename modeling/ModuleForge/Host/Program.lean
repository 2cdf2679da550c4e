import ModuleForge.Host.Random
import ModuleForge.Host.FileTree
import ModuleForge.Host.Processor.Instruction

/-!
# Running programs

A program in memory, and what its code can reach beyond the processor: files, the environment, the
two streams of output, memory of its own, and what it wants to be called when it ends. `Run` is a
step of such a program; when one stops, all that it has done so far remains.
-/
namespace ModuleForge.Host

/-- What lies outside a program. -/
structure Outside where
  tree : FileTree := {}
  /-- The current directory. -/
  here : Nat := 0
  environment : List (ByteString × ByteString) := []
  processId : Nat := 1
  /-- The time in nanoseconds. -/
  clock : Nat := 0
  /-- What was written to the streams of output since the program was last looked at. -/
  output : ByteArray := ByteArray.empty
  complaints : ByteArray := ByteArray.empty

/-- What a descriptor stands for. -/
inductive Target where
  | output
  | complaints
  | nothing
  | zeros
  | file (node : Nat)
  deriving DecidableEq, Repr

structure OpenFile where
  target : Target
  offset : Nat := 0
  append : Bool := false
  readable : Bool := true
  writable : Bool := true

/-- A buffered stream over a descriptor. -/
structure Stream where
  descriptor : Nat
  /-- What waits to be written. -/
  pending : ByteArray := ByteArray.empty
  /-- Whether what is written waits at all. -/
  buffered : Bool := true
  /-- Whether what waits is given away with the end of a line. -/
  byLine : Bool := false
  ended : Bool := false
  faulty : Bool := false
  /-- A byte that was put back. -/
  returned : Option UInt8 := none

/-- A function that is called at the end, with an argument, for the module of an address. -/
structure Farewell where
  function : Nat
  argument : Nat
  owner : Nat

structure Program where
  processor : Processor
  outside : Outside := {}
  files : List (Nat × OpenFile) :=
    [(0, { target := .nothing }), (1, { target := .output }), (2, { target := .complaints })]
  streams : List (Nat × Stream) := []
  /-- Where the next memory is taken, and where that ends. -/
  free : Nat := 0
  limit : Nat := 0
  /-- Memory that was given back, by its size. -/
  unused : List (Nat × Nat) := []
  farewells : List Farewell := []
  /-- The row of numbers from which the next random one is made. -/
  randoms : List UInt32 := []
  /-- Where the search for the parts of a text goes on. -/
  cursor : Nat := 0
  /-- What to say of the functions that are nowhere. -/
  missing : Array String := #[]

/-- A step of a program. -/
abbrev Run := ExceptT Stop (StateM Program)

namespace Program

/-- Calls a function with arguments, and gives what it returns. -/
abbrev Invoke := Nat → List Nat → Run Nat

/-- Does something on the processor. -/
def onProcessor (step : Processor.Step α) : Run α := do
  let p ← modifyGet fun s => (s.processor, { s with processor := { next := 0, memory := {} } })
  match step.run p with
  | .ok (a, p) =>
    modify fun s => { s with processor := p }
    return a
  | .error e => throw e

def stop (signal : Nat) : Run α := throw (.signal signal)

/-! ## Memory -/

def read (address width : Nat) : Run Nat := do
  match (← get).processor.memory.read? address width with
  | some n => return n
  | none => stop Signal.segmentation

def write (address width value : Nat) : Run Unit :=
  onProcessor (Processor.writeMemory address width (Processor.cut width value))

/-- Bytes from memory. -/
def readBytes (address count : Nat) : Run ByteArray := do
  if count = 0 then return ByteArray.empty
  match (← get).processor.memory.bytes? address count with
  | some data => return data
  | none => stop Signal.segmentation

def writeBytes (address : Nat) (data : ByteArray) : Run Unit := do
  if data.size = 0 then return ()
  let memory ← modifyGet fun s =>
    (s.processor.memory, { s with processor := { s.processor with memory := {} } })
  let (done, memory) := memory.writeBytes address data
  modify fun s => { s with processor := { s.processor with memory } }
  if !done then stop Signal.segmentation

/-- The bytes from an address on up to the next 0. -/
def readText (address : Nat) : Run ByteString := do
  match (← get).processor.memory.text? address with
  | some bs => return bs
  | none => stop Signal.segmentation

def writeText (address : Nat) (bs : ByteString) : Run Unit :=
  writeBytes address ⟨(bs ++ [0]).toArray⟩

/-! ## Memory of its own -/

/-- Where a program's own memory begins. -/
def heapStart : Nat := 0x600000000000

/-- How much is taken at once. -/
def heapStep : Nat := 1 <<< 20

/-- What a block takes: its size stands before it. -/
def blockSize (size : Nat) : Nat := max 32 ((size + 8 + 15) / 16 * 16)

/-- Takes memory for a block. -/
def allocate (size : Nat) : Run Nat := do
  let whole := blockSize size
  let s ← get
  match s.unused.find? (·.1 = whole) with
  | some (_, address) =>
    set { s with unused := s.unused.filter (·.2 ≠ address) }
    return address
  | none =>
    if size ≥ 1 <<< 31 then return 0
    let start := if s.limit = 0 then heapStart else s.free
    if s.limit < start + whole then
      let more := (whole / heapStep + 1) * heapStep
      -- a gap keeps the pieces apart
      let start := if s.limit = 0 then heapStart else s.limit + 4096
      let memory := s.processor.memory.map start ⟨Array.replicate more 0⟩
      set { s with
        processor := { s.processor with memory }, free := start + whole, limit := start + more }
      write (start + 8) 8 (whole + 1)
      return start + 16
    else
      set { s with free := start + whole }
      write (start + 8) 8 (whole + 1)
      return start + 16

/-- How much a block holds. -/
def allocatedSize (address : Nat) : Run Nat := do
  let whole ← read (address - 8) 8
  return whole / 16 * 16 - 8

/-- Writes to the stream of complaints. -/
def complain (text : String) : Run Unit :=
  modify fun s => { s with outside := { s.outside with
    complaints := s.outside.complaints ++ text.toUTF8 } }

/-- Stops the program because it has lost its way. -/
def abortWith (text : String) : Run α := do
  complain text
  stop Signal.abort

/-- Gives a block back. -/
def release (address : Nat) : Run Unit := do
  if address = 0 then return ()
  if address % 16 ≠ 0 then abortWith "free(): invalid pointer\n"
  let whole := (← read (address - 8) 8) / 16 * 16
  if whole < 32 then abortWith "free(): invalid pointer\n"
  if (← get).unused.any (·.2 = address) then
    abortWith "free(): double free detected in tcache 2\n"
  modify fun s => { s with unused := (whole, address) :: s.unused }

/-! ## Arguments and results -/

/-- The registers of the first arguments, in their order. -/
def argumentRegisters : List Nat := [7, 6, 2, 1, 8, 9]

/-- An argument that is no fraction. -/
def argument (i : Nat) : Run Nat := do
  let p := (← get).processor
  match argumentRegisters[i]? with
  | some r => return p.registers.getD r 0
  | none =>
    let top := p.registers.getD Processor.stackPointer 0
    read (top + 8 * (i - argumentRegisters.length + 1)) 8

/-- An argument as a number of four bytes with a sign. -/
def intArgument (i : Nat) : Run Int := return Processor.signed 4 (Processor.cut 4 (← argument i))

def longArgument (i : Nat) : Run Int := return Processor.signed 8 (← argument i)

/-- An argument that is a fraction of eight bytes. -/
def doubleArgument (i : Nat) : Run Float :=
  return Processor.doubleOf (Processor.cut 8 ((← get).processor.vectors.getD i 0))

def singleArgument (i : Nat) : Run Float32 :=
  return Processor.singleOf (Processor.cut 4 ((← get).processor.vectors.getD i 0))

/-- What a function of the system gives back. -/
inductive Answer where
  | whole (value : Nat)
  | pair (first second : Nat)
  | double (value : Float)
  | single (value : Float32)
  /-- Nothing, and the program goes on elsewhere already. -/
  | elsewhere

/-- A number with a sign as an answer. -/
def Answer.int (n : Int) : Answer := .whole (Processor.unsigned 4 n)

def Answer.long (n : Int) : Answer := .whole (Processor.unsigned 8 n)

def Answer.none : Answer := .whole 0

/-- Goes back to the caller with an answer. -/
def reply (a : Answer) : Run Unit := onProcessor do
  match a with
  | .whole value => Processor.writeRegister Processor.accumulator 8 value
  | .pair first second =>
    Processor.writeRegister Processor.accumulator 8 first
    Processor.writeRegister Processor.data 8 second
  | .double value => Processor.writeVector 0 value.toBits.toNat
  | .single value => Processor.writeVector 0 value.toBits.toNat
  | .elsewhere => return ()
  match a with
  | .elsewhere => return ()
  | _ => Processor.jump (← Processor.pop)

/-! ## What is known by its place -/

/-- Where the data of the system's libraries begin. -/
def systemData : Nat := 0x7E8000000000

/-- Where the number of the last failed call stands. -/
def errorPlace : Nat := systemData

def setError (e : Errno) : Run Unit := write errorPlace 4 e.number.toNat

/-- Where a stream is known to be; the three usual ones come first. -/
def streamPlace (i : Nat) : Nat := systemData + 0x1000 + 256 * i

/-- Where what belongs to the thread lies; the blocks of modules lie below. -/
def threadPlace : Nat := 0x7E9000000000

/-- How much there is for the blocks of modules. -/
def threadSpace : Nat := 1 <<< 16

end Program
end ModuleForge.Host
