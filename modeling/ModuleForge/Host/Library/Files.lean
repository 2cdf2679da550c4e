import ModuleForge.Host.Library.Text

/-!
# Functions on files

The functions of the C library that work on directories, on files by their names, and on open files
by their descriptors. A function that fails leaves the number of the error behind and returns -1.
-/
namespace ModuleForge.Host.Library

open Program

/-- The answer of a function that has failed. -/
def failed (e : Errno) : Run Answer := do
  setError e
  return .long (-1)

/-- The answer of what may fail. -/
def orFailed : Except Errno Int → Run Answer
  | .ok n => return .long n
  | .error e => failed e

/-! ## Names -/

/-- Changes the tree. -/
def changeTree (f : FileTree → Nat → Except Errno FileTree) : Run (Except Errno Unit) := do
  let o := (← get).outside
  match f o.tree o.here with
  | .error e => return .error e
  | .ok tree =>
    modify fun s => { s with outside := { s.outside with tree } }
    return .ok ()

/-- The answer of a change of the tree. -/
def changing (f : FileTree → Nat → Except Errno FileTree) : Run Answer := do
  orFailed ((← changeTree f).map fun _ => 0)

/-- Removes a name, whatever it names. -/
def removeName (t : FileTree) (here : Nat) (path : ByteString) : Except Errno FileTree :=
  match t.unlink here path with
  | .error .isDirectory => t.removeDir here path
  | r => r

/-- Whether something may be done with a name: run it, or just find it. -/
def accessible (t : FileTree) (here : Nat) (path : ByteString) (mode : Nat) :
    Except Errno Int := do
  let n ← t.find here path
  if mode % 2 = 1 then match t.node? n with
    | some (.file _) => if t.isExecutable n then return 0 else throw .accessDenied
    | _ => return 0
  return 0

/-- Puts a text with its end into a place of limited size. -/
def putWithin (place size : Nat) (bs : ByteString) : Run (Except Errno Nat) := do
  if size < bs.length + 1 then return .error ⟨34⟩
  writeText place bs
  return .ok place

/-- Writes the path of the current directory. -/
def currentPath : Run Answer := do
  let place ← argument 0
  let size ← argument 1
  let o := (← get).outside
  let path := o.tree.pathOf o.here
  if place = 0 then
    let place ← allocate (max size (path.length + 1))
    writeText place path
    return .whole place
  match ← putWithin place size path with
  | .ok place => return .whole place
  | .error e =>
    setError e
    return .whole 0

def changeDirectory : Run Answer := do
  let path ← readText (← argument 0)
  let o := (← get).outside
  match o.tree.find o.here path with
  | .error e => failed e
  | .ok n =>
    if !o.tree.isDirectory n then failed .notDirectory
    else
      modify fun s => { s with outside := { s.outside with here := n } }
      return .whole 0

/-- Writes where a link leads. -/
def linkTarget : Run Answer := do
  let path ← readText (← argument 0)
  let o := (← get).outside
  match (o.tree.find o.here path false).map o.tree.node? with
  | .error e => failed e
  | .ok (some (.link target)) =>
    let target := target.take (← argument 2)
    writeBytes (← argument 1) ⟨target.toArray⟩
    return .whole target.length
  | .ok _ => failed .invalid

/-- The kind and the rights of a node, and its size. -/
def nodeState (rights : Nat) : Node → Nat × Nat
  | .file data => (0o100000 + rights, data.size)
  | .directory .. => (0o40000 + rights, 4096)
  | .link target => (0o120000 + rights, target.length)
  | .device _ => (0o20000 + rights, 0)
  | .tool _ | .library _ => (0o100000 + rights, 65536)

/-- Writes what is known of a node. -/
def putState (place : Nat) (n : Nat) (node : Node) : Run Unit := do
  let rights := (← get).outside.tree.rights n
  let (mode, size) := nodeState rights node
  writeBytes place ⟨Array.replicate 144 0⟩
  write (place + 8) 8 (n + 1)
  write (place + 16) 8 1
  write (place + 24) 4 mode
  write (place + 48) 8 size
  write (place + 56) 8 4096
  write (place + 64) 8 ((size + 511) / 512)

def stateOfName (follow : Bool) : Run Answer := do
  let path ← readText (← argument 0)
  let o := (← get).outside
  match o.tree.find o.here path follow with
  | .error e => failed e
  | .ok n => match o.tree.node? n with
    | some node =>
      putState (← argument 1) n node
      return .whole 0
    | none => failed .noEntry

/-! ## Descriptors -/

def openFile? (fd : Nat) : Run (Option OpenFile) := return (← get).files.lookup fd

def setOpenFile (fd : Nat) (f : OpenFile) : Run Unit :=
  modify fun s => { s with files := (fd, f) :: s.files.filter (·.1 ≠ fd) }

/-- The least free descriptor. -/
def freeDescriptor (files : List (Nat × OpenFile)) : Nat → Nat → Nat
  | 0, fd => fd
  | fuel + 1, fd => if files.any (·.1 = fd) then freeDescriptor files fuel (fd + 1) else fd

def takeDescriptor (f : OpenFile) : Run Nat := do
  let files := (← get).files
  let fd := freeDescriptor files (files.length + 1) 0
  setOpenFile fd f
  return fd

/-- How a file is opened. -/
structure Opening where
  readable : Bool
  writable : Bool
  create : Bool := false
  exclusive : Bool := false
  empty : Bool := false
  append : Bool := false

/-- What the flags of the system's call mean. -/
def Opening.ofFlags (flags : Nat) : Opening where
  readable := flags % 4 ≠ 1
  writable := flags % 4 ≠ 0
  create := flags / 64 % 2 = 1
  exclusive := flags / 128 % 2 = 1
  empty := flags / 512 % 2 = 1
  append := flags / 1024 % 2 = 1

/-- Opens a file: its descriptor. -/
def openPath (path : ByteString) (how : Opening) : Run (Except Errno Nat) := do
  let o := (← get).outside
  let exists? := (o.tree.find o.here path).toOption.isSome
  if how.create && how.exclusive && exists? then return .error .alreadyExists
  let found : Except Errno (Nat × FileTree) :=
    if how.create then o.tree.openOrMake o.here path
    else (o.tree.find o.here path).map (·, o.tree)
  match found with
  | .error e => return .error e
  | .ok (n, tree) =>
    if how.writable && tree.isDirectory n then return .error .isDirectory
    let tree := if how.empty && how.writable then tree.setData n ByteArray.empty else tree
    modify fun s => { s with outside := { s.outside with tree } }
    let target : Target := match tree.node? n with
      | some (.device (.descriptor 1)) => .output
      | some (.device (.descriptor 2)) => .complaints
      | some (.device .zero) => .zeros
      | some (.device _) => .nothing
      | _ => .file n
    return .ok (← takeDescriptor
      { target, append := how.append, readable := how.readable, writable := how.writable })

/-- Takes bytes from a descriptor. -/
def takeBytes (fd count : Nat) : Run (Except Errno ByteArray) := do
  let some f ← openFile? fd | return .error .badDescriptor
  if !f.readable then return .error .badDescriptor
  match f.target with
  | .zeros => return .ok ⟨Array.replicate count 0⟩
  | .file n => match (← get).outside.tree.node? n with
    | some (.file data) =>
      let part := data.extract f.offset (min data.size (f.offset + count))
      setOpenFile fd { f with offset := f.offset + part.size }
      return .ok part
    | some (.directory ..) => return .error .isDirectory
    | _ => return .ok ByteArray.empty
  | _ => return .ok ByteArray.empty

/-- Gives bytes to a descriptor. -/
def giveBytes (fd : Nat) (data : ByteArray) : Run (Except Errno Nat) := do
  let some f ← openFile? fd | return .error .badDescriptor
  if !f.writable then return .error .badDescriptor
  match f.target with
  | .output => modify fun s => { s with outside := { s.outside with
      output := s.outside.output ++ data } }
  | .complaints => modify fun s => { s with outside := { s.outside with
      complaints := s.outside.complaints ++ data } }
  | .nothing | .zeros => pure ()
  | .file n =>
    let tree := (← get).outside.tree
    if let some (.file old) := tree.node? n then
      let offset := if f.append then old.size else f.offset
      let tree := tree.setData n (FileTree.overwrite old offset data)
      modify fun s => { s with outside := { s.outside with tree } }
      setOpenFile fd { f with offset := offset + data.size }
  return .ok data.size

def closeDescriptor (fd : Nat) : Run (Except Errno Unit) := do
  if (← openFile? fd).isNone then return .error .badDescriptor
  modify fun s => { s with files := s.files.filter (·.1 ≠ fd) }
  return .ok ()

/-- How much a file holds. -/
def sizeOf (target : Target) : Run (Option Nat) := do
  let tree := (← get).outside.tree
  match target with
  | .file n => match tree.node? n with
    | some (.file data) => return some data.size
    | _ => return none
  | _ => return none

/-- Moves the place at which a file is read and written; it may count from the start, from the place
itself or from the end. -/
def seek (fd : Nat) (distance : Int) (whence : Nat) : Run (Except Errno Nat) := do
  let some f ← openFile? fd | return .error .badDescriptor
  let some size ← sizeOf f.target | return .error ⟨29⟩
  let start : Option Nat := match whence with
    | 0 => some 0
    | 1 => some f.offset
    | 2 => some size
    | _ => none
  match start with
  | none => return .error .invalid
  | some start =>
    let offset := start + distance
    if offset < 0 then return .error .invalid
    setOpenFile fd { f with offset := offset.toNat }
    return .ok offset.toNat

/-- Cuts a file, or makes it longer with zeros. -/
def setSize (n size : Nat) : Run (Except Errno Unit) :=
  changeTree fun t _ => t.resize n size

def fdArgument (i : Nat) : Run Nat := do
  let n ← intArgument i
  return if n < 0 then 2 ^ 31 else n.toNat

def openByFlags (i : Nat) : Run Answer := do
  let path ← readText (← argument i)
  orFailed ((← openPath path (Opening.ofFlags (← argument (i + 1)))).map Int.ofNat)

def readDescriptor : Run Answer := do
  match ← takeBytes (← fdArgument 0) (← argument 2) with
  | .error e => failed e
  | .ok data =>
    writeBytes (← argument 1) data
    return .whole data.size

def writeDescriptor : Run Answer := do
  let data ← readBytes (← argument 1) (← argument 2)
  orFailed ((← giveBytes (← fdArgument 0) data).map Int.ofNat)

def copyDescriptor (target? : Option Nat) : Run Answer := do
  match ← openFile? (← fdArgument 0) with
  | none => failed .badDescriptor
  | some f => match target? with
    | none => return .whole (← takeDescriptor f)
    | some target =>
      setOpenFile target f
      return .whole target

/-- Whether a descriptor is a terminal: never. -/
def terminal : Run Answer := do
  setError (if (← openFile? (← fdArgument 0)).isSome then ⟨25⟩ else .badDescriptor)
  return .whole 0

def stateOfDescriptor : Run Answer := do
  let some f ← openFile? (← fdArgument 0) | failed .badDescriptor
  let tree := (← get).outside.tree
  let (n, node) : Nat × Node := match f.target with
    | .file n => (n, (tree.node? n).getD (.device .null))
    | _ => (0, .device .null)
  putState (← argument 1) n node
  return .whole 0

def cutName : Run Answer := do
  let path ← readText (← argument 0)
  let o := (← get).outside
  match o.tree.find o.here path with
  | .error e => failed e
  | .ok n => orFailed ((← setSize n (← argument 1)).map fun _ => 0)

def cutDescriptor : Run Answer := do
  let target? : Option Target := (← openFile? (← fdArgument 0)).map (·.target)
  match target? with
  | some (.file n) => orFailed ((← setSize n (← argument 1)).map fun _ => 0)
  | some _ => failed .invalid
  | none => failed .badDescriptor

/-- A function of one name that changes the tree. -/
def onName (f : FileTree → Nat → ByteString → Except Errno FileTree) : Run Answer := do
  let path ← readText (← argument 0)
  changing fun t here => f t here path

/-- A function of two names that changes the tree. -/
def onNames (f : FileTree → Nat → ByteString → ByteString → Except Errno FileTree) :
    Run Answer := do
  let source ← readText (← argument 0)
  let target ← readText (← argument 1)
  changing fun t here => f t here source target

/-- Sets the rights to a file. -/
def setRights (t : FileTree) (here : Nat) (path : ByteString) (mode : Nat) :
    Except Errno FileTree := do
  return t.setRights (← t.find here path) (mode % 0o10000)

def names : Family :=
  [("unlink", fun _ => onName FileTree.unlink),
   ("rmdir", fun _ => onName FileTree.removeDir),
   ("remove", fun _ => onName removeName),
   ("mkdir", fun _ => onName FileTree.makeDir),
   ("rename", fun _ => onNames FileTree.rename),
   ("symlink", fun _ => onNames fun t here source target => t.makeLink here target source),
   ("chmod", fun _ => do
      let mode ← argument 1
      onName fun t here path => setRights t here path mode),
   ("access", fun _ => do
      let path ← readText (← argument 0)
      let mode ← argument 1
      let o := (← get).outside
      orFailed (accessible o.tree o.here path mode)),
   ("getcwd", fun _ => currentPath),
   ("chdir", fun _ => changeDirectory),
   ("readlink", fun _ => linkTarget),
   ("truncate", fun _ => cutName)]
  ++ shared ["stat", "stat64"] (fun _ => stateOfName true)
  ++ shared ["lstat", "lstat64"] (fun _ => stateOfName false)
  ++ shared ["umask"] (fun _ => return .whole 0o22)

def descriptors : Family :=
  shared ["open", "open64", "__open", "__open_2"] (fun _ => openByFlags 0)
  ++ shared ["openat", "openat64"] (fun _ => openByFlags 1)
  ++ shared ["creat", "creat64"] (fun _ => do
      let path ← readText (← argument 0)
      let how : Opening := { readable := false, writable := true, create := true, empty := true }
      orFailed ((← openPath path how).map Int.ofNat))
  ++ shared ["read", "__read", "__read_chk"] (fun _ => readDescriptor)
  ++ shared ["write", "__write"] (fun _ => writeDescriptor)
  ++ shared ["close", "__close"] (fun _ => do
      orFailed ((← closeDescriptor (← fdArgument 0)).map fun _ => 0))
  ++ shared ["lseek", "lseek64"] (fun _ => do
      let fd ← fdArgument 0
      let distance ← longArgument 1
      orFailed ((← seek fd distance (← argument 2)).map Int.ofNat))
  ++ [("dup", fun _ => copyDescriptor none),
    ("dup2", fun _ => do
      let target ← fdArgument 1
      copyDescriptor (some target)),
    ("isatty", fun _ => terminal)]
  ++ shared ["fstat", "fstat64"] (fun _ => stateOfDescriptor)
  ++ shared ["ftruncate", "ftruncate64"] (fun _ => cutDescriptor)
  ++ shared ["fsync", "fdatasync"] (fun _ => do
      if (← openFile? (← fdArgument 0)).isSome then return .whole 0 else failed .badDescriptor)
  ++ [("sync", fun _ => return .none)]

end ModuleForge.Host.Library
