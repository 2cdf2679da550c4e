/-!
# Memory

The memory of a running program: regions of bytes at fixed places. Numbers stand in it with their
least byte first. Reading or writing outside every region is a fault (`none`).
-/
namespace ModuleForge.Host

/-- The byte at a place; bytes past the end count as 0. -/
def byteAt (data : ByteArray) (i : Nat) : UInt8 := if h : i < data.size then data.get i h else 0

def putByte (data : ByteArray) (i : Nat) (b : UInt8) : ByteArray :=
  if h : i < data.size then data.set i b h else data

/-- The number that stands in `count` bytes from `start` on. -/
def littleEndian (data : ByteArray) (start : Nat) : Nat → Nat
  | 0 => 0
  | count + 1 => (byteAt data start).toNat + 256 * littleEndian data (start + 1) count

/-- Puts a number into `count` bytes from `start` on. -/
def putLittleEndian (data : ByteArray) (start value : Nat) : Nat → ByteArray
  | 0 => data
  | count + 1 =>
    putLittleEndian (putByte data start (UInt8.ofNat value)) (start + 1) (value / 256) count

/-- The `count` bytes of a number. -/
def numberBytes (value : Nat) : Nat → List UInt8
  | 0 => []
  | count + 1 => UInt8.ofNat value :: numberBytes (value / 256) count

/-- The bytes from `start` on up to the first that is 0. -/
def textAt (data : ByteArray) (start : Nat) : List UInt8 :=
  if start < data.size then
    let b := byteAt data start
    if b = 0 then [] else b :: textAt data (start + 1)
  else []
  termination_by data.size - start

/-- Bytes at a place. -/
structure Region where
  start : Nat
  data : ByteArray

/-- Whether `count` bytes at an address lie in the region. -/
def Region.holds (r : Region) (address count : Nat) : Bool :=
  r.start ≤ address && address + count ≤ r.start + r.data.size

/-- Regions that do not overlap. -/
structure Memory where
  regions : Array Region := #[]

namespace Memory

/-- The number in `count` bytes. -/
def read? (m : Memory) (address count : Nat) : Option Nat :=
  (m.regions.find? (·.holds address count)).map fun r =>
    littleEndian r.data (address - r.start) count

/-- Memory with a number in `count` bytes, and whether there was a place for it. -/
def write (m : Memory) (address count value : Nat) : Bool × Memory :=
  match m.regions.findIdx? (·.holds address count) with
  | none => (false, m)
  | some i => (true, ⟨m.regions.modify i fun ⟨start, data⟩ =>
      ⟨start, putLittleEndian data (address - start) value count⟩⟩)

/-- `count` bytes from an address on. -/
def bytes? (m : Memory) (address count : Nat) : Option ByteArray :=
  (m.regions.find? (·.holds address count)).map fun r =>
    r.data.extract (address - r.start) (address - r.start + count)

/-- Memory with bytes at an address, and whether there was a place for them. -/
def writeBytes (m : Memory) (address : Nat) (bytes : ByteArray) : Bool × Memory :=
  match m.regions.findIdx? (·.holds address bytes.size) with
  | none => (false, m)
  | some i => (true, ⟨m.regions.modify i fun ⟨start, data⟩ =>
      ⟨start, bytes.copySlice 0 data (address - start) bytes.size⟩⟩)

/-- The bytes from an address on up to the next 0. -/
def text? (m : Memory) (address : Nat) : Option (List UInt8) :=
  (m.regions.find? (·.holds address 1)).map fun r => textAt r.data (address - r.start)

/-- Memory with one more region. -/
def map (m : Memory) (start : Nat) (data : ByteArray) : Memory := ⟨m.regions.push ⟨start, data⟩⟩

/-- Memory without the region at a place. -/
def unmap (m : Memory) (start : Nat) : Memory := ⟨m.regions.filter (·.start ≠ start)⟩

end Memory
end ModuleForge.Host
