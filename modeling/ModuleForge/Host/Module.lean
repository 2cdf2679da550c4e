import ModuleForge.Power
import ModuleForge.Host.FileTree
import ModuleForge.Host.Memory
import ModuleForge.Text.Bytes

/-!
# Module files

Reads a shared module for x86-64 in the ELF format: the bytes that it puts into memory, its symbols,
the places that have to be filled in when it is loaded (relocations), the modules that it needs, and
the functions to run first and last. Addresses are relative to the place where the module comes to
lie. What is wrong with a file is a `ModuleFault`.
-/
namespace ModuleForge.Host

/-- Why a file cannot be loaded as a module. -/
inductive ModuleFault where
  | tooShort
  | notModule
  | wrongClass
  | wrongByteOrder
  | wrongHeaderVersion
  | wrongSystem
  | wrongSystemVersion
  | padding
  | wrongVersion
  /-- For another processor. -/
  | foreign
  | wrongKind
  | wrongTableEntry
  | truncated
  | unaligned
  | misplaced
  | empty
  | notDynamic
  | executable
  | startable
  | refused
  deriving DecidableEq, Repr

def ModuleFault.message : ModuleFault → String
  | tooShort => "file too short"
  | notModule => "invalid ELF header"
  | wrongClass => "wrong ELF class: ELFCLASS32"
  | wrongByteOrder => "ELF file data encoding not little-endian"
  | wrongHeaderVersion => "ELF file version ident does not match current one"
  | wrongSystem => "ELF file OS ABI invalid"
  | wrongSystemVersion => "ELF file ABI version invalid"
  | padding => "nonzero padding in e_ident"
  | wrongVersion => "ELF file version does not match current one"
  | foreign => "cannot open shared object file: No such file or directory"
  | wrongKind => "only ET_DYN and ET_EXEC can be loaded"
  | wrongTableEntry => "ELF file's phentsize not the expected size"
  | truncated => "cannot read file data"
  | unaligned => "ELF load command alignment not page-aligned"
  | misplaced => "ELF load command address/offset not page-aligned"
  | empty => "object file has no loadable segments"
  | notDynamic => "object file has no dynamic section"
  | executable => "cannot dynamically load executable"
  | startable => "cannot dynamically load position-independent executable"
  | refused => "shared object cannot be dlopen()ed"

structure Symbol where
  name : ByteString
  value : Nat
  /-- Defined in this module, and not just used there. -/
  defined : Bool
  /-- The value is an address by itself. -/
  absolute : Bool := false
  /-- Not seen from outside. -/
  inner : Bool := false
  /-- Only for those who ask for its version. -/
  outdated : Bool := false
  /-- Belongs to the blocks that threads have. -/
  threadLocal : Bool := false
  /-- The address is found out by a function at this one. -/
  indirect : Bool := false
  /-- May stay undefined. -/
  weak : Bool := false

/-- A place that is filled in when the module is loaded. -/
structure Relocation where
  place : Nat
  kind : Nat
  symbol : Nat
  addend : Int

/-- What threads have a copy of: how it begins, and how much it takes. -/
structure Block where
  start : Nat
  given : Nat
  size : Nat
  alignment : Nat

structure Module where
  /-- What lies in memory, from the relative address 0 on. -/
  image : ByteArray := ByteArray.empty
  /-- The name that the module has for others. -/
  name? : Option ByteString := none
  needed : List ByteString := []
  /-- Where to look for what it needs: before everything else, and after it. -/
  firstDirs : List ByteString := []
  lastDirs : Option (List ByteString) := none
  symbols : Array Symbol := #[]
  /-- The versions that it has, and those that it wants, with the names of the modules. -/
  versions : List ByteString := []
  wanted : List (ByteString × ByteString) := []
  relocations : List Relocation := []
  /-- The places of functions, which may be filled in late. -/
  slots : List Relocation := []
  /-- Whether nothing may be filled in late. -/
  eager : Bool := false
  /-- Whether its names are looked for in itself before all others. -/
  inward : Bool := false
  block? : Option Block := none
  /-- The function to run first, and the places where the addresses of the next ones stand. -/
  firstFunction : Nat := 0
  first : List Nat := []
  /-- The same for functions that run last. -/
  lastFunction : Nat := 0
  last : List Nat := []

namespace Module

def pageSize : Nat := 4096

/-- The most memory that a module may take. -/
def maxImage : Nat := 1 <<< 28

/-! ## The header -/

/-- Checks the beginning of a file. -/
def checkHeader (data : ByteArray) : Except ModuleFault Unit := do
  let field := littleEndian data
  if data.size < 64 then throw .tooShort
  if field 0 4 ≠ 0x464C457F then throw .notModule
  if field 4 1 ≠ 2 then throw .wrongClass
  if field 5 1 ≠ 1 then throw .wrongByteOrder
  if field 6 1 ≠ 1 then throw .wrongHeaderVersion
  if field 7 1 ≠ 0 && field 7 1 ≠ 3 then throw .wrongSystem
  if field 8 1 ≠ 0 && (field 7 1 = 0 || 3 ≤ field 8 1) then throw .wrongSystemVersion
  if field 9 7 ≠ 0 then throw .padding
  if field 20 4 ≠ 1 then throw .wrongVersion
  if field 18 2 ≠ 62 then throw .foreign
  if field 16 2 ≠ 3 && field 16 2 ≠ 2 then throw .wrongKind
  if field 54 2 ≠ 56 then throw .wrongTableEntry

/-- A part of the file that belongs into memory, or a table within it. -/
structure Segment where
  kind : Nat
  offset : Nat
  address : Nat
  fileSize : Nat
  memorySize : Nat
  alignment : Nat

def segments (data : ByteArray) : Except ModuleFault (List Segment) := do
  let start := littleEndian data 32 8
  let count := littleEndian data 56 2
  if data.size < start + count * 56 then throw .truncated
  return (List.range count).map fun i =>
    let field (at_ width : Nat) := littleEndian data (start + i * 56 + at_) width
    { kind := field 0 4, offset := field 8 8, address := field 16 8, fileSize := field 32 8
      memorySize := field 40 8, alignment := field 48 8 }

/-- Zeros. -/
def zeros (count : Nat) : ByteArray := ⟨Array.replicate count 0⟩

/-- Bytes put at a place of others, which are made longer where they do not reach. -/
def overlay (image : ByteArray) (start : Nat) (bytes : ByteArray) : ByteArray :=
  image.extract 0 start ++ zeros (start - image.size) ++ bytes
    ++ image.extract (start + bytes.size) image.size

/-- What the segments put into memory. -/
def imageOf (data : ByteArray) (loads : List Segment) : ByteArray :=
  loads.foldl (fun image s =>
    let bytes := data.extract s.offset (s.offset + s.fileSize)
    overlay image s.address (bytes ++ zeros (s.memorySize - bytes.size))) ByteArray.empty

/-! ## The tables -/

/-- The entries of the table that tells where the other tables are. -/
def entries (image : ByteArray) (start : Nat) : Nat → List (Nat × Nat)
  | 0 => []
  | count + 1 =>
    let tag := littleEndian image start 8
    if tag = 0 then []
    else (tag, littleEndian image (start + 8) 8) :: entries image (start + 16) count

/-- A symbol; `version` is its entry in the table of versions. -/
def symbolAt (image : ByteArray) (names place version : Nat) : Symbol :=
  let info := littleEndian image (place + 4) 1
  let kind := info % 16
  let binding := info / 16
  let visibility := littleEndian image (place + 5) 1 % 4
  let section_ := littleEndian image (place + 6) 2
  let value := littleEndian image (place + 8) 8
  let absolute := section_ = 0xFFF1
  { name := textAt image (names + littleEndian image place 4)
    value, absolute
    defined := section_ ≠ 0 && (value ≠ 0 || absolute || kind = 6) && [0, 1, 2, 5, 6, 10].contains kind
    inner := !([1, 2, 10].contains binding) || visibility = 1 || visibility = 2
    outdated := 0x8000 ≤ version && 2 ≤ version % 0x8000
    threadLocal := kind = 6
    indirect := kind = 10
    weak := binding = 2 }

def relocationAt (image : ByteArray) (place : Nat) : Relocation where
  place := littleEndian image place 8
  kind := littleEndian image (place + 8) 4
  symbol := littleEndian image (place + 12) 4
  addend := Int.bmod (littleEndian image (place + 16) 8) (2 ^ 64)

def relocationsAt (image : ByteArray) (start size : Nat) : List Relocation :=
  (List.range (size / 24)).map fun i => relocationAt image (start + 24 * i)

/-- Relocations that only add the start of the module, packed: an even entry is a place, an odd one
has a bit for each of the next 63 words. -/
def packedAt (image : ByteArray) (place next : Nat) : Nat → List Relocation
  | 0 => []
  | count + 1 =>
    let entry := littleEndian image place 8
    let shift (at_ : Nat) : Relocation :=
      { place := at_, kind := 8, symbol := 0, addend := littleEndian image at_ 8 }
    if entry % 2 = 0 then shift entry :: packedAt image (place + 8) (entry + 8) count
    else
      let bits := ((List.range 63).filter fun i => entry / 2 ^ (i + 1) % 2 = 1).map fun i => next + 8 * i
      bits.map shift ++ packedAt image (place + 8) (next + 8 * 63) count

/-- How many symbols there are when they are found by their hashes: the last chain tells. -/
def hashedCount (image : ByteArray) (table : Nat) : Nat :=
  let buckets := littleEndian image table 4
  let first := littleEndian image (table + 4) 4
  let chains := table + 16 + 8 * littleEndian image (table + 8) 4 + 4 * buckets
  let last := (List.range buckets).foldl (fun n i =>
    max n (littleEndian image (chains - 4 * buckets + 4 * i) 4)) 0
  let rec walk (i : Nat) : Nat → Nat
    | 0 => i
    | fuel + 1 =>
      if littleEndian image (chains + 4 * (i - first)) 4 % 2 = 1 then i + 1 else walk (i + 1) fuel
  if last < first then first else walk last image.size

/-- The versions that a module has. -/
def versionsAt (image : ByteArray) (names place : Nat) : Nat → List ByteString
  | 0 => []
  | count + 1 =>
    let aside := place + littleEndian image (place + 12) 4
    textAt image (names + littleEndian image aside 4)
      :: versionsAt image names (place + littleEndian image (place + 16) 4) count

/-- The versions that a module wants of one that it needs; those that need not be there are left
out. -/
def wantedOf (image : ByteArray) (names place : Nat) : Nat → List ByteString
  | 0 => []
  | count + 1 =>
    let rest := wantedOf image names (place + littleEndian image (place + 12) 4) count
    if littleEndian image (place + 4) 2 / 2 % 2 = 1 then rest
    else textAt image (names + littleEndian image (place + 8) 4) :: rest

/-- The versions that a module wants, with the names of the modules. -/
def wantedAt (image : ByteArray) (names place : Nat) : Nat → List (ByteString × ByteString)
  | 0 => []
  | count + 1 =>
    let name := textAt image (names + littleEndian image (place + 4) 4)
    let versions :=
      wantedOf image names (place + littleEndian image (place + 8) 4) (littleEndian image (place + 2) 2)
    versions.map (name, ·) ++ wantedAt image names (place + littleEndian image (place + 12) 4) count

/-! ## The whole -/

/-- The directories of a search path, between colons. -/
def searchPath (bs : ByteString) : List ByteString := FileTree.searchDirs bs

/-- Reads a module file. -/
def read (data : ByteArray) : Except ModuleFault Module := do
  checkHeader data
  let segments ← segments data
  let loads := segments.filter (·.kind = 1)
  for s in loads do
    if s.alignment % pageSize ≠ 0 then throw .unaligned
    if (s.address + pageSize - s.offset % pageSize) % pageSize ≠ 0 then throw .misplaced
  if loads.isEmpty then throw .empty
  if littleEndian data 16 2 = 2 then throw .executable
  let some table := segments.find? (·.kind = 2) | throw .notDynamic
  if loads.any fun s => maxImage < s.address + s.memorySize then throw .truncated
  let image := imageOf data loads
  let entries := entries image table.address (table.memorySize / 16)
  let value? (tag : Nat) : Option Nat := entries.lookup tag
  let value (tag : Nat) : Nat := (value? tag).getD 0
  let flags := value 0x6FFFFFFB
  if flags / 0x08000000 % 2 = 1 then throw .startable
  if flags / 0x40 % 2 = 1 then throw .refused
  let names := value 5
  let table := value 6
  let text (n : Nat) : ByteString := textAt image (names + n)
  let count := match value? 0x6FFFFEF5, value? 4 with
    | _, some hash => littleEndian image (hash + 4) 4
    | some hash, none => hashedCount image hash
    | none, none => 0
  let version (i : Nat) : Nat := match value? 0x6FFFFFF0 with
    | some versions => littleEndian image (versions + 2 * i) 2
    | none => 1
  let places (start size : Nat) : List Nat := (List.range (value size / 8)).map fun i => value start + 8 * i
  return {
    image
    name? := (value? 14).map text
    needed := (entries.filter (·.1 = 1)).map fun (_, n) => text n
    firstDirs := ((value? 15).map fun n => searchPath (text n)).getD []
    lastDirs := (value? 29).map fun n => searchPath (text n)
    symbols := ((List.range count).map fun i =>
      symbolAt image names (table + 24 * i) (version i)).toArray
    versions := versionsAt image names (value 0x6FFFFFFC) (value 0x6FFFFFFD)
    wanted := wantedAt image names (value 0x6FFFFFFE) (value 0x6FFFFFFF)
    relocations := packedAt image (value 36) 0 (value 35 / 8) ++ relocationsAt image (value 7) (value 8)
    slots := relocationsAt image (value 23) (value 2)
    eager := (value? 24).isSome || value 30 / 8 % 2 = 1 || flags % 2 = 1
    inward := (value? 16).isSome || value 30 / 2 % 2 = 1
    block? := (segments.find? (·.kind = 7)).map fun s =>
      { start := s.address, given := s.fileSize, size := s.memorySize, alignment := max 1 s.alignment }
    firstFunction := value 12
    first := places 25 27
    lastFunction := value 13
    last := (places 26 28).reverse }

/-- The symbol of a name that others can see. -/
def find? (m : Module) (name : ByteString) : Option Symbol :=
  m.symbols.find? fun s => s.defined && !s.inner && !s.outdated && s.name == name

end Module
end ModuleForge.Host
