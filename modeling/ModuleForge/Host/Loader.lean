import ModuleForge.Host.Module
import ModuleForge.Host.SystemLibrary

/-!
# The loader

Puts modules into memory and finds their symbols. A file is in memory once, however often and under
whatever name it is opened, and stays until it has been closed as often. A symbol is looked for in
the module itself and then in those that it needs; a module being loaded also sees what every
program has at hand.
-/
namespace ModuleForge.Host

open Program

/-- A module in memory. -/
structure Loaded where
  /-- The names under which it was opened; the first is where it was found. -/
  names : List ByteString
  node? : Option Nat := none
  start : Nat := 0
  /-- Where its block lies in the thread. -/
  block : Nat := 0
  module : Module
  /-- The modules in which its symbols are looked for. -/
  scope : List Nat := []
  opens : Nat := 0
  /-- Whether it is there from the start, and stays. -/
  fixed : Bool := false

/-- Where a symbol of a module is. -/
def Loaded.addressOf (m : Loaded) (s : Symbol) : Nat :=
  if s.absolute then s.value
  else if s.threadLocal then m.block + s.value
  else m.start + s.value

structure Loader where
  /-- All that were ever loaded; what has been removed leaves a gap. -/
  modules : Array (Option Loaded) := #[]
  program : Program
  /-- Where the next module comes to lie. -/
  free : Nat := 0x700000000000
  /-- How much of the thread's space is taken. -/
  blocks : Nat := 0
  /-- Directories that the user wants to be searched. -/
  userDirs : List ByteString := []
  /-- How the program ended, if it did not just go on. -/
  ended? : Option Stop := none

namespace Loader

/-! ## What is there from the start -/

/-- The program itself: without a name, and with the libraries at hand. -/
def mainProgram : Nat := 0

/-- A system library as a module. -/
def systemModule (l : SystemLibrary) (entries : List SystemLibrary.Entry) : Module where
  name? := some (ByteString.ofText l.name)
  needed := l.needed.map ByteString.ofText
  versions := l.marks.map ByteString.ofText
  symbols := (entries.map fun (name, place) =>
    { name := ByteString.ofText name, value := place, defined := true, absolute := true : Symbol }).toArray

/-- All system libraries as modules. -/
def systemModules : List (SystemLibrary × Module) :=
  SystemLibrary.entries.map fun (l, entries) => (l, systemModule l entries)

/-- The libraries that every program has. -/
def fixedModules : List (SystemLibrary × Module) := systemModules.filter (·.1.atHand)

/-- The modules that every program has. -/
def atHand : List Nat := (List.range fixedModules.length).map (· + 1)

/-- What a library needs, with itself. -/
def fixedScope (l : SystemLibrary) : List Nat :=
  let place? (name : String) : Option Nat :=
    (fixedModules.findIdx? (·.1.name == name)).map (· + 1)
  let below (name : String) : List String := ((SystemLibrary.find? name).map (·.needed)).getD []
  ((l.name :: l.needed ++ l.needed.flatMap below).filterMap place?).eraseDups

/-- A program's stack. -/
def stackStart : Nat := 0x7E0000000000

def stackSize : Nat := 1 <<< 18

/-- What lies at the beginning of a thread's space: where that is, and a number that guards
stacks. -/
def threadImage : ByteArray :=
  let zeros : ByteArray := ⟨Array.replicate (threadSpace + 4096) 0⟩
  let image := putLittleEndian zeros threadSpace threadPlace 8
  let image := putLittleEndian image (threadSpace + 16) threadPlace 8
  putLittleEndian image (threadSpace + 40) 0x5BD1E995A77C1900 8

def standardProgram : Program where
  processor :=
    { next := 0, threadBase := threadPlace
      memory := ((Memory.map {} stackStart (Module.zeros stackSize)).map systemData
        SystemLibrary.image).map (threadPlace - threadSpace) threadImage }

def standard : Loader where
  modules :=
    let main : Loaded :=
      { names := [[]], module := {}, scope := mainProgram :: atHand, fixed := true }
    let system := fixedModules.map fun (l, module) =>
      { names := [ByteString.ofText l.path], module, scope := fixedScope l, fixed := true : Loaded }
    ((main :: system).map some).toArray
  program := standardProgram

/-! ## Running code -/

/-- How many instructions a call may take. -/
def patience : Nat := 200000000

/-- The address that ends a call; calls within calls have one each. -/
def home (depth : Nat) : Nat := 0x7FFFFFFFF000 - 16 * depth

/-- Where functions are called that are nowhere. -/
def nowhere : Nat := 0x7D0000000000

/-- Goes on in the program's own code until something else is reached. -/
def runCode : Nat → Processor.Step Nat
  | 0 => return 0
  | fuel + 1 => do
    -- everything from here on is no memory with code
    if nowhere ≤ (← get).next && ((← get).next < stackStart || SystemLibrary.start ≤ (← get).next)
    then return fuel + 1
    Processor.step
    runCode fuel

/-- Complains about a function that is nowhere, and ends the program. -/
def missing (i : Nat) : Run Unit := do
  let text := (← get).missing.getD i ""
  complain s!"dynbuild: symbol lookup error: {text}\n"
  throw (.exit 127)

/-- Goes on until an address is reached. -/
def runTo (goal : Nat) (invoke : Invoke) : Nat → Nat → Run Unit
  | 0, _ => stop Signal.timeExceeded
  | fuel + 1, steps => do
    let steps ← onProcessor (runCode steps)
    if steps = 0 then stop Signal.timeExceeded
    let next := (← get).processor.next
    if next = goal then return ()
    if next < stackStart then missing (next - nowhere)
    else match SystemLibrary.functionAt? next with
      | some name => SystemLibrary.run name invoke
      | none => stop Signal.segmentation
    runTo goal invoke fuel steps

/-- Calls a function; those that it calls back may do so at most so many times within each other. -/
def callWithin : Nat → Invoke
  | 0 => fun _ _ => stop Signal.segmentation
  | depth + 1 => fun address arguments => do
    let before := (← get).processor.registers
    let top := (before.getD Processor.stackPointer 0 - 128) / 16 * 16 - 8
    write top 8 (home depth)
    let registers := (argumentRegisters.zip arguments).foldl
      (fun rs (r, a) => rs.setIfInBounds r (Processor.cut 8 a)) before
    let registers := registers.setIfInBounds Processor.stackPointer top
    modify fun s => { s with processor := { s.processor with
      registers := registers.setIfInBounds Processor.accumulator 0, next := address } }
    runTo (home depth) (callWithin depth) patience patience
    let result := (← get).processor.registers.getD Processor.accumulator 0
    modify fun s => { s with processor := { s.processor with
      registers := s.processor.registers.setIfInBounds Processor.stackPointer
        (before.getD Processor.stackPointer 0) } }
    return result

/-- How deep calls may go back and forth between a program and the functions of the system. -/
def maxDepth : Nat := 200

/-- Calls a function from the beginning of the stack. -/
def invoke : Invoke := fun address arguments => do
  modify fun s => { s with processor := { s.processor with
    registers := s.processor.registers.setIfInBounds Processor.stackPointer (stackStart + stackSize - 64) } }
  callWithin maxDepth address arguments

/-- Lets the program run; when it stops, it has ended. -/
def runs (act : Run α) : StateM Loader (Except Stop α) := fun l =>
  match l.ended? with
  | some e => (.error e, l)
  | none =>
    let program := l.program
    let l := { l with program := { processor := { next := 0, memory := {} } } }
    let (result, program) := act.run.run program
    match result with
    | .ok a => (.ok a, { l with program })
    | .error e => (.error e, { l with program, ended? := some e })

/-- Calls the function at an address: its result, or how the program ended. -/
def call (address : Nat) (arguments : List Nat) : StateM Loader (Except Stop Nat) :=
  runs (invoke address arguments)

/-- Calls functions one after the other. -/
def callAll (addresses : List Nat) : StateM Loader Unit := do
  let _ ← runs do
    for address in addresses do
      let _ ← invoke address []

/-- What a place in memory holds, as far as there is one. -/
def peek (l : Loader) (address width : Nat) : Option Nat := l.program.processor.memory.read? address width

/-- Changes the memory. -/
def modifyMemory (f : Memory → Memory) : StateM Loader Unit :=
  modify fun l => { l with program := { l.program with
    processor := { l.program.processor with memory := f l.program.processor.memory } } }

/-! ## Looking up -/

def module? (l : Loader) (i : Nat) : Option Loaded := (l.modules[i]?).join

/-- The first of some modules that has a name, with its symbol. -/
def search (l : Loader) (scope : List Nat) (name : ByteString) : Option (Nat × Loaded × Symbol) :=
  scope.findSome? fun i => do
    let m ← l.module? i
    let s ← m.module.find? name
    return (i, m, s)

private def shown (name : ByteString) : String := Text.lossy name

def undefinedSymbol (module name : ByteString) : String :=
  (if module.isEmpty then "" else shown module ++ ": ") ++ "undefined symbol: " ++ shown name

/-- The address of a symbol; a function may have to be asked for it. -/
def resolve (m : Loaded) (s : Symbol) : StateM Loader Nat := do
  let address := m.addressOf s
  if !s.indirect then return address
  match ← call address [] with
  | .ok address => return address
  | .error _ => return 0

/-- Looks a name up in a module and those that it needs. -/
def lookUp (handle : Nat) (name : ByteString) : StateM Loader (Except String Nat) := do
  let l ← get
  match l.module? handle with
  | none => return .error "invalid handle"
  | some m => match l.search m.scope name with
    | some (_, owner, s) => return .ok (← resolve owner s)
    | none => return .error (undefinedSymbol (m.names.headD []) name)

/-! ## Filling in -/

/-- What comes to a place, and how many bytes it takes. -/
structure Filling where
  place : Nat
  value : Nat
  width : Nat := 8
  /-- Whether the value is the address of a function that tells the value. -/
  asked : Bool := false

/-- What relocations of a module are about: the module and the symbol that is meant, if there is
one. -/
structure Meant where
  module : Nat
  owner : Loaded
  symbol? : Option Symbol

/-- The symbol that a relocation means; a weak one that is nowhere has no symbol. -/
def meant (l : Loader) (scope : List Nat) (i : Nat) (m : Loaded) (r : Relocation) :
    Except String Meant :=
  match if r.symbol = 0 then none else m.module.symbols[r.symbol]? with
  | none => .ok ⟨i, m, none⟩
  | some s =>
    if s.inner && s.defined then .ok ⟨i, m, some s⟩
    else match l.search scope s.name with
      | some (k, owner, found) => .ok ⟨k, owner, some found⟩
      | none =>
        if s.weak || s.inner then .ok ⟨i, m, none⟩ else .error (undefinedSymbol (m.names.headD []) s.name)

/-- A number in base 16 with at least two digits. -/
def hexadecimal (n : Nat) : String :=
  let digits := Nat.toDigits 16 n
  String.ofList (List.replicate (2 - digits.length) '0' ++ digits)

/-- What belongs into the places of a relocation. -/
def filling (l : Loader) (scope : List Nat) (i : Nat) (m : Loaded) (r : Relocation) :
    Except String (List Filling) := do
  let sum (n : Nat) : Nat := Processor.unsigned 8 (n + r.addend)
  let one (value : Nat) (asked : Bool := false) : List Filling := [{ place := r.place, value, asked }]
  match r.kind with
  | 0 => return []
  | 8 => return one (sum m.start)
  | 37 => return one (sum m.start) true
  | 1 | 6 | 7 | 16 | 17 | 18 | 24 | 36 =>
    let target ← l.meant scope i m r
    let asked := target.symbol?.any (·.indirect)
    let address := (target.symbol?.map target.owner.addressOf).getD 0
    let value := (target.symbol?.map (·.value)).getD 0
    -- a block is reached by its distance from the beginning of the thread's space
    let distance := Processor.unsigned 8 ((target.owner.block + value : Nat) + r.addend - threadPlace)
    match r.kind with
    | 1 => return one (if asked then address else sum address) asked
    | 16 => return one target.module
    | 17 => return one (sum value)
    | 18 => return one distance
    | 24 => return one (Processor.unsigned 8 (address + r.addend - (m.start + r.place : Nat)))
    | 36 => return [{ place := r.place, value := SystemLibrary.distanceReader },
        { place := r.place + 8, value := distance }]
    | _ => return one address asked
  | kind => throw (shown (m.names.headD []) ++ ": unexpected reloc type 0x" ++ hexadecimal kind)

/-- Fills in all places of a module, and puts it into memory. -/
def fill (scope : List Nat) (i : Nat) (m : Loaded) : ExceptT String (StateM Loader) Unit := do
  let l ← (get : StateM Loader Loader)
  let scope := if m.module.inward then i :: scope else scope
  let fillings ← m.module.relocations.mapM (l.filling scope i m ·)
  let late ← m.module.slots.mapM fun r => (do
    match l.filling scope i m r with
    | .ok fs => return (fs, none)
    | .error e =>
      if m.module.eager || r.kind ≠ 7 then throw e
      return ([{ place := r.place, value := 0 }], some e) :
        ExceptT String (StateM Loader) (List Filling × Option String))
  let missing := l.program.missing
  let (lateFillings, missing) := late.foldl (fun (out, missing) (fs, e?) => match e? with
    | none => (out ++ fs, missing)
    | some e => (out ++ fs.map (fun f => { f with value := nowhere + missing.size }), missing.push e))
    ([], missing)
  let all := fillings.flatten ++ lateFillings
  let image := all.foldl (fun image f => putLittleEndian image f.place f.value f.width) m.module.image
  modify fun l => { l with program := { l.program with missing } }
  modifyMemory fun memory => memory.map m.start image
  if let some b := m.module.block? then
    let bytes := image.extract b.start (b.start + b.given) ++ Module.zeros (b.size - b.given)
    modifyMemory fun memory =>
      ((memory.writeBytes m.block bytes).2.write (Library.blockTable i) 8 m.block).2
  for f in all do
    if f.asked then
      match ← (call f.value [] : StateM Loader _) with
      | .ok value => modifyMemory fun memory => (memory.write (m.start + f.place) 8 value).2
      | .error _ => pure ()

/-! ## Opening -/

/-- The directories in which a name without a directory is looked for. -/
def searchDirs : List ByteString :=
  ["/lib/x86_64-linux-gnu", "/usr/lib/x86_64-linux-gnu", "/lib", "/usr/lib"]

/-- What is found under a name. -/
inductive Found where
  | file (data : ByteArray)
  | library (name : String)

/-- What stands in the file of a node. -/
def contents (t : FileTree) (n : Nat) : Except String Found :=
  match t.node? n with
  | some (.file data) => .ok (.file data)
  | some (.library name) => .ok (.library name)
  | some (.tool _) => .error ModuleFault.startable.message
  | some (.directory ..) => .error ("cannot read file data: " ++ Errno.isDirectory.message)
  | _ => .ok (.file ByteArray.empty)

/-- A directory of a search path with the directory of the module in place of `$ORIGIN`. -/
def fromOrigin (dir origin : ByteString) : Nat → ByteString
  | 0 => dir
  | fuel + 1 => match dir with
    | [] => []
    | b :: rest =>
      let short := ByteString.ofText "$ORIGIN"
      let long := ByteString.ofText "$\x7bORIGIN\x7d"
      if long.isPrefixOf dir then origin ++ fromOrigin (dir.drop long.length) origin fuel
      else if short.isPrefixOf dir then origin ++ fromOrigin (dir.drop short.length) origin fuel
      else b :: fromOrigin rest origin fuel

/-- The directory of a module's file. -/
def originOf (m : Loaded) : ByteString := ((Path.parent? ⟨m.names.headD []⟩).map (·.bytes)).getD []

/-- The directories to search for what a module needs. -/
def dirsFor (l : Loader) (wanting? : Option Loaded) : List ByteString :=
  let dirs (m : Loaded) (ds : List ByteString) : List ByteString :=
    ds.map fun d => fromOrigin d (originOf m) (d.length + 1)
  match wanting? with
  | none => l.userDirs ++ searchDirs
  | some m => match m.module.lastDirs with
    | some last => l.userDirs ++ dirs m last ++ searchDirs
    | none => dirs m m.module.firstDirs ++ l.userDirs ++ searchDirs

/-- The path and the node of a name. -/
def locate (t : FileTree) (here : Nat) (dirs : List ByteString) (name : ByteString) :
    Except Errno (ByteString × Nat) :=
  if name.contains Path.separator then return (name, ← t.find here name)
  else if FileTree.maxName < name.length then .error .nameTooLong
  else
    let found := dirs.findSome? fun dir =>
      let path := if dir.isEmpty then name
        else if dir.getLast? = some Path.separator then dir ++ name else dir ++ Path.separator :: name
      match t.find here path with
      | .ok n => if t.isDirectory n then none else some (path, n)
      | .error _ => none
    match found with
    | some found => .ok found
    | none => .error .noEntry

/-- The module that has a name already. -/
def named? (l : Loader) (name : ByteString) : Option Nat :=
  l.modules.findIdx? fun
    | some m => m.names.contains name || m.module.name? == some name
    | none => false

/-- The module of a file that is in memory already. -/
def ofNode? (l : Loader) (n : Nat) : Option Nat :=
  l.modules.findIdx? fun
    | some m => m.node? == some n
    | none => false

def modifyModule (l : Loader) (i : Nat) (f : Loaded → Loaded) : Loader :=
  { l with modules := l.modules.modify i (·.map f) }

/-- A place for a module's block: below those that are there already. -/
def takeBlock (l : Loader) : Option Block → Nat × Loader
  | none => (0, l)
  | some b =>
    let blocks := (l.blocks + b.size + b.alignment - 1) / b.alignment * b.alignment
    (threadPlace - blocks, { l with blocks })

/-- Takes up a module under a name: its place, and whether it is new. -/
def enter (l : Loader) (t : FileTree) (here : Nat) (wanting? : Option Loaded) (name : ByteString) :
    Except String (Nat × Bool × Loader) := do
  if let some i := l.named? name then return (i, false, l)
  let fault (path : ByteString) (reason : String) : String := shown path ++ ": " ++ reason
  let name := match wanting? with
    | some m => if name.contains Path.separator then fromOrigin name (originOf m) (name.length + 1) else name
    | none => name
  let (path, n) ← (locate t here (l.dirsFor wanting?) name).mapError fun e =>
    fault name ("cannot open shared object file: " ++ e.message)
  let known (i : Nat) : Nat × Bool × Loader :=
    (i, false, l.modifyModule i fun m => { m with names := m.names ++ [name] })
  if let some i := l.ofNode? n then return known i
  match ← (contents t n).mapError (fault path) with
  | .library soname =>
    if let some i := l.named? (ByteString.ofText soname) then return known i
    match systemModules.find? (·.1.name == soname) with
    | none => throw (fault path ModuleFault.notModule.message)
    | some (_, module) =>
      let m : Loaded := { names := [path], node? := some n, module }
      return (l.modules.size, true, { l with modules := l.modules.push (some m) })
  | .file data =>
    let module ← (Module.read data).mapError fun e => fault path e.message
    let (block, l) := l.takeBlock module.block?
    let m : Loaded := { names := [path], node? := some n, start := l.free, block, module }
    let size := (module.image.size / Module.pageSize + 2) * Module.pageSize
    return (l.modules.size, true, { l with modules := l.modules.push (some m), free := l.free + size })

/-- Takes up the modules that others need, breadth first: all in their order, and those that are
new. -/
def enterNeeded (t : FileTree) (here : Nat) (all new : List Nat) (l : Loader) :
    Nat → List (Nat × ByteString) → Except String (List Nat × List Nat × Loader)
  | 0, _ | _, [] => .ok (all, new, l)
  | fuel + 1, (wanting, name) :: names => do
    let (i, isNew, l) ← l.enter t here (l.module? wanting) name
    let all := if all.contains i then all else all ++ [i]
    if isNew then
      let more := ((l.module? i).map (·.module.needed)).getD []
      enterNeeded t here all (new ++ [i]) l fuel (names ++ more.map (i, ·))
    else enterNeeded t here all new l fuel names

/-- How many modules one may need. -/
def maxNeeded : Nat := 1000

/-- Checks that the versions are there that a module wants. -/
def checkVersions (l : Loader) (m : Loaded) : Except String Unit :=
  m.module.wanted.forM fun (name, version) =>
    match (l.named? name).bind l.module? with
    | none => .ok ()
    | some owner =>
      if owner.module.versions.isEmpty || owner.module.versions.contains version then .ok ()
      else .error (shown (owner.names.headD []) ++ ": version \x60" ++ shown version
        ++ "' not found (required by " ++ shown (m.names.headD []) ++ ")")

/-- The modules below one that are new, each behind those that it needs. -/
def inOrder (l : Loader) (new : List Nat) : Nat → List Nat → List Nat → List Nat
  | 0, _, done => done
  | _ + 1, [], done => done
  | fuel + 1, i :: rest, done =>
    if done.contains i || !new.contains i then inOrder l new fuel rest done
    else
      let needed := ((l.module? i).map (·.module.needed)).getD []
      let below := (needed.filterMap l.named?).filter fun k => k ≠ i && !rest.contains k
      let done := inOrder l new fuel below done
      inOrder l new fuel rest (if done.contains i then done else done ++ [i])

/-- What to run first when a module has come into memory. -/
def beginning (l : Loader) (m : Loaded) : List Nat :=
  let listed := m.module.first.filterMap fun place => l.peek (m.start + place) 8
  (if m.module.firstFunction = 0 then [] else [m.start + m.module.firstFunction])
    ++ listed.filter fun a => a ≠ 0 && a ≠ 2 ^ 64 - 1

/-- What to run last before a module goes. -/
def ending (l : Loader) (m : Loaded) : List Nat :=
  let listed := m.module.last.filterMap fun place => l.peek (m.start + place) 8
  listed.filter (fun a => a ≠ 0 && a ≠ 2 ^ 64 - 1)
    ++ if m.module.lastFunction = 0 then [] else [m.start + m.module.lastFunction]

/-- Takes up a module and those that it needs. -/
def takeUp (l : Loader) (t : FileTree) (here : Nat) (name : ByteString) :
    Except String (Nat × List Nat × Loader) := do
  let (root, isNew, l) ← l.enter t here none name
  if !isNew then return (root, [], l)
  let needed := ((l.module? root).map (·.module.needed)).getD []
  let (all, new, l) ← enterNeeded t here [root] [root] l maxNeeded (needed.map (root, ·))
  let others := all.flatMap fun i => if new.contains i then []
    else ((l.module? i).map (·.scope)).getD []
  let scope := (all ++ others).eraseDups
  for i in new do
    if let some m := l.module? i then l.checkVersions m
  return (root, new, new.foldl (fun l i => l.modifyModule i fun m => { m with scope }) l)

/-- Opens a module: its handle. -/
def openNew (t : FileTree) (here : Nat) (name : ByteString) : ExceptT String (StateM Loader) Nat := do
  let l ← (get : StateM Loader Loader)
  let (root, new, l) ← l.takeUp t here name
  set l
  for i in new.reverse do
    if let some m := l.module? i then
      if m.start ≠ 0 then fill (atHand ++ m.scope) i m
  modify fun l => l.modifyModule root fun m => { m with opens := m.opens + 1 }
  for i in inOrder l new (2 * maxNeeded) [root] [] do
    let l ← (get : StateM Loader Loader)
    if let some m := l.module? i then callAll (l.beginning m)
  return root

/-- Opens a module; what was done so far is undone if that fails. -/
def openModule (t : FileTree) (here : Nat) (name : ByteString) : StateM Loader (Except String Nat) := do
  let before ← get
  match ← (openNew t here name).run with
  | .ok handle => return .ok handle
  | .error e =>
    -- a program that has ended is left as it is
    if (← get).ended?.isNone then set before
    return .error e

/-! ## Closing -/

/-- Whether a module is still wanted. -/
def isWanted (l : Loader) (i : Nat) : Bool :=
  l.modules.any fun
    | some m => (m.fixed || 0 < m.opens) && m.scope.contains i
    | none => false

/-- Removes a module: its last functions run, and its memory goes. -/
def remove (i : Nat) : StateM Loader Unit := do
  let l ← get
  if let some m := l.module? i then
    callAll (l.ending m)
    modify fun l => { l with modules := l.modules.setIfInBounds i none }
    modifyMemory (·.unmap m.start)

/-- Closes a module; when nobody wants it any more, it goes. -/
def close (handle : Nat) : StateM Loader Unit := do
  modify fun l => l.modifyModule handle fun m => { m with opens := m.opens - 1 }
  let l ← get
  for i in ((l.module? handle).map (·.scope)).getD [] do
    let l ← get
    let fixed := ((l.module? i).map (·.fixed)).getD true
    if !fixed && !l.isWanted i then remove i

/-- Ends the program: what wants to be called at the end is called, and what waits is written. -/
def finish : StateM Loader Unit := do
  let _ ← runs (Library.farewell invoke none Library.maxFarewells)
  let l ← get
  for m? in l.modules do
    if let some m := m? then callAll (l.ending m)
  let _ ← runs Library.flushAll

/-! ## Texts for calls -/

/-- Calls a function with a text. -/
def callWithText (address : Nat) (text : ByteString) : StateM Loader (Except Stop Nat) := do
  let place := (← get).free
  modifyMemory fun memory => memory.map place ⟨(text ++ [0]).toArray⟩
  let result ← call address [place]
  modifyMemory (·.unmap place)
  return result

end Loader
end ModuleForge.Host
