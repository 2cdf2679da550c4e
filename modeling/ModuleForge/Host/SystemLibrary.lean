import ModuleForge.Host.Library.Processes
import ModuleForge.Host.LibraryNames
import Std.Data.HashMap

/-!
# System libraries

The libraries of the machine: their names, where they are, what they need, and what they offer.
Their functions stand at fixed addresses where there is no memory; who comes to one of them calls
it. Their data lie in memory behind what the functions keep for themselves.
-/
namespace ModuleForge.Host

structure SystemLibrary where
  name : String
  /-- The directory in which it is found. -/
  dir : String := "/lib/x86_64-linux-gnu"
  needed : List String := []
  /-- Whether every program has it from its start. -/
  atHand : Bool := false
  functions : List String := []
  /-- Data with their sizes. -/
  data : List (String × Nat) := []
  /-- Names that stand for nothing. -/
  marks : List String := []

namespace SystemLibrary

open LibraryNames

def cLibrary : SystemLibrary where
  name := "libc.so.6"
  needed := ["ld-linux-x86-64.so.2"]
  atHand := true
  functions := cFunctions
  data := cData
  marks := cMarks

/-- A library whose parts have moved to the C library. -/
def emptied (name : String) (versions : List String) : SystemLibrary where
  name := name
  needed := ["libc.so.6"]
  marks := versions.map ("GLIBC_" ++ ·)

def all : List SystemLibrary := [
  { name := "libgcc_s.so.1", needed := ["libc.so.6"], atHand := true
    functions := unwindingFunctions, marks := unwindingMarks },
  cLibrary,
  { name := "ld-linux-x86-64.so.2", dir := "/lib64", atHand := true
    functions := loaderFunctions, data := loaderData, marks := loaderMarks },
  { name := "libm.so.6", needed := ["libc.so.6"]
    functions := mFunctions, data := mData, marks := mMarks },
  { name := "libstdc++.so.6", needed := ["libm.so.6", "libc.so.6", "ld-linux-x86-64.so.2", "libgcc_s.so.1"]
    functions := cxxFunctions, data := cxxData, marks := cxxMarks },
  emptied "libpthread.so.0" ["2.2.5", "2.2.6", "2.3.2", "2.3.3", "2.3.4", "2.4", "2.11", "2.12",
    "2.18", "2.28", "2.30", "2.31"],
  emptied "libdl.so.2" ["2.2.5", "2.3.3", "2.3.4"],
  emptied "librt.so.1" ["2.2.5", "2.3.3", "2.3.4", "2.4", "2.7"],
  emptied "libutil.so.1" ["2.2.5"],
  emptied "libanl.so.1" ["2.2.5"],
  { name := "libresolv.so.2", needed := ["libc.so.6"]
    functions := resolvingFunctions, data := resolvingData, marks := resolvingMarks },
  { name := "libcrypt.so.1", needed := ["libc.so.6"]
    functions := hashingFunctions, marks := hashingMarks },
  { name := "libz.so.1", needed := ["libc.so.6"]
    functions := compressingFunctions, marks := compressingMarks },
  { name := "libatomic.so.1", needed := ["libc.so.6"]
    functions := atomicFunctions, marks := atomicMarks } ]

def find? (name : String) : Option SystemLibrary := all.find? (·.name == name)

def path (l : SystemLibrary) : String := l.dir ++ "/" ++ l.name

/-! ## Functions -/

/-- All functions, in the order of their addresses. -/
def allFunctions : Array String := (all.flatMap (·.functions)).toArray

/-- Where the functions stand. -/
def start : Nat := 0x7F0000000000

/-- How far apart they are. -/
def distance : Nat := 16

/-- The name of the function at an address. -/
def functionAt? (address : Nat) : Option String :=
  if start ≤ address && (address - start) % distance = 0 then
    allFunctions[(address - start) / distance]?
  else none

/-- What the functions do, as far as they can be called. -/
def actions : Std.HashMap String (Program.Invoke → Run Program.Answer) :=
  Std.HashMap.ofList (List.flatten [
    Library.memory, Library.texts, Library.characters, Library.reading, Library.counting,
    Library.fractions, Library.names, Library.descriptors, Library.streams, Library.printing,
    Library.scanning, Library.blocks, Library.surroundings, Library.endings, Library.callbacks,
    Library.threads, Library.objects])

/-- Calls a function; the program cannot go on where it is not known what that does. -/
def run (name : String) (invoke : Program.Invoke) : Run Unit := do
  match actions[name]? with
  | some action => Program.reply (← action invoke)
  | none => Program.stop Signal.illegal

/-! ## Data -/

/-- Where the data of the libraries begin; before them lies what the functions keep. -/
def dataStart : Nat := Program.systemData + 0x10000

/-- How much memory there is for data. -/
def dataSize : Nat := 0x40000

/-- What stands in some of the data from the start on: their names, with the number of bytes. -/
def initialData : List (String × Nat × Nat) := [
  ("stdin", Program.streamPlace 0, 8), ("stdout", Program.streamPlace 1, 8),
  ("stderr", Program.streamPlace 2, 8), ("optind", 1, 4), ("opterr", 1, 4), ("optopt", 63, 4),
  ("__libc_single_threaded", 1, 1), ("obstack_exit_failure", 1, 4),
  ("argp_err_exit_status", 64, 4), ("__check_rhosts_file", 1, 4), ("__fpu_control", 0x37F, 2)]

/-! ## Addresses -/

/-- A name with its address. -/
abbrev Entry := String × Nat

/-- The entries of functions, from the one with a number on. -/
def functionEntries (names : List String) (first : Nat) : List Entry :=
  names.zipIdx.map fun (name, i) => (name, start + distance * (first + i))

/-- The entries of data from a place on, and the place behind them. -/
def dataEntries : List (String × Nat) → Nat → List Entry × Nat
  | [], place => ([], place)
  | (name, size) :: rest, place =>
    let (entries, stop) := dataEntries rest (place + (size + 31) / 16 * 16)
    ((name, place) :: entries, stop)

/-- What each library offers, where functions are counted and data placed from somewhere on. -/
def entriesFrom : List SystemLibrary → Nat → Nat → List (SystemLibrary × List Entry)
  | [], _, _ => []
  | l :: rest, first, place =>
    let (data, stop) := dataEntries l.data place
    (l, functionEntries l.functions first ++ data ++ l.marks.map (·, 0))
      :: entriesFrom rest (first + l.functions.length) stop

def entries : List (SystemLibrary × List Entry) := entriesFrom all 0 dataStart

/-- What the C library offers. -/
def cEntries : List Entry := (entries.find? (·.1.name == cLibrary.name)).elim [] (·.2)

/-- The code that tells the distance of a block: it stands behind the code's own address. -/
def distanceReader : Nat := Program.systemData + 0x800

/-- The memory of the libraries. -/
def image : ByteArray :=
  let zeros : ByteArray := ⟨Array.replicate (dataStart - Program.systemData + dataSize) 0⟩
  -- mov rax, [rax + 8]; ret
  let zeros := putLittleEndian zeros (distanceReader - Program.systemData) 0xC308408B48 5
  initialData.foldl (fun image (name, value, width) =>
    match cEntries.lookup name with
    | some place => putLittleEndian image (place - Program.systemData) value width
    | none => image) zeros

end SystemLibrary
end ModuleForge.Host
