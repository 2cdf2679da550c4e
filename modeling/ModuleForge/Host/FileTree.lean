import ModuleForge.Path
import ModuleForge.SystemError

/-!
# File trees

A file tree is a table of nodes: files, directories, links, devices, and the tools of the machine.
Node 0 is the root. A path is walked component by component (`walk`); a link on the way is replaced
by its target, at most 40 times.
-/
namespace ModuleForge.Host

/-- What stands behind a device file. -/
inductive Device where
  /-- Takes everything and is always at its end. -/
  | null
  /-- An endless row of zeros that takes nothing. -/
  | full
  /-- An endless row of zeros. -/
  | zero
  /-- Whatever the process that opens it has under this descriptor. -/
  | descriptor (number : Nat)
  deriving DecidableEq, Repr

inductive Node where
  | file (data : ByteArray)
  | directory (parent : Nat) (entries : List (ByteString × Nat))
  | link (target : ByteString)
  | device (device : Device)
  /-- A program of the machine itself. -/
  | tool (name : String)
  /-- A library of the machine itself. -/
  | library (name : String)

/-- The rights that a new node has, as far as they are not masked. -/
def Node.usualRights : Node → Nat
  | .file _ | .device _ => 0o666
  | _ => 0o777

/-- Whether rights to a new node are masked. -/
def Node.isMasked : Node → Bool
  | .file _ | .directory .. => true
  | _ => false

/-- A node with the rights to it and the time of its last change, in nanoseconds. -/
structure Slot where
  node : Node
  rights : Nat
  time : Int := 0

structure FileTree where
  slots : Array Slot := #[⟨.directory 0 [], 0o755, 0⟩]
  /-- The time at which changes are made. -/
  now : Int := 0
  /-- Which rights new files and directories do not get. -/
  mask : Nat := 0o022

/-- Where a path leads: the name in its directory, and the node if there is one. -/
structure Place where
  dir : Nat
  name : ByteString
  node? : Option Nat
  deriving DecidableEq, Repr

namespace FileTree

def root : Nat := 0

def node? (t : FileTree) (n : Nat) : Option Node := t.slots[n]?.map (·.node)

/-- The rights to a node, as twelve bits. -/
def rights (t : FileTree) (n : Nat) : Nat := (t.slots[n]?.map (·.rights)).getD 0

/-- When a node was changed. -/
def time (t : FileTree) (n : Nat) : Int := (t.slots[n]?.map (·.time)).getD 0

/-- How many nodes there have been. -/
def size (t : FileTree) : Nat := t.slots.size

/-- Whether a node may be run. -/
def isExecutable (t : FileTree) (n : Nat) : Bool := t.rights n &&& 0o111 != 0

/-- The longest path that is looked at. -/
def maxPath : Nat := 4095

/-- The longest name in a directory. -/
def maxName : Nat := 255

/-- The steps of a path; a separator at the end asks for a directory. -/
def steps (path : ByteString) : List ByteString :=
  let ps := (Path.pieces path).filter (· ≠ [])
  if path.getLast? = some Path.separator && !ps.isEmpty then ps ++ [[Path.dot]] else ps

/-- Follows steps from the directory `here`; `follow` tells whether a link at the end is
followed. -/
def walk (t : FileTree) (follow : Bool) (links here : Nat) (todo : List ByteString) :
    Except Errno Place :=
  match todo with
  | [] => .ok ⟨here, [Path.dot], some here⟩
  | step :: rest =>
    match t.node? here with
    | some (.directory parent entries) =>
      if maxName < step.length then .error .nameTooLong
      else if step = [Path.dot] then
        if rest.isEmpty then .ok ⟨here, step, some here⟩ else walk t follow links here rest
      else if step = [Path.dot, Path.dot] then
        if rest.isEmpty then .ok ⟨parent, step, some parent⟩ else walk t follow links parent rest
      else match entries.lookup step with
        | none => if rest.isEmpty then .ok ⟨here, step, none⟩ else .error .noEntry
        | some child =>
          match t.node? child with
          | some (.link target) =>
            if rest.isEmpty && !follow then .ok ⟨here, step, some child⟩
            else match links with
              | 0 => .error .linkLoop
              | links + 1 =>
                let start := if target.head? = some Path.separator then root else here
                walk t follow links start (steps target ++ rest)
          | _ =>
            if rest.isEmpty then .ok ⟨here, step, some child⟩
            else walk t follow links child rest
    | _ => .error .notDirectory
  termination_by (links, todo.length)

/-- Where a path leads, seen from the directory `here`. -/
def place (t : FileTree) (here : Nat) (path : ByteString) (follow : Bool) : Except Errno Place :=
  if path.isEmpty then .error .noEntry
  else if maxPath < path.length then .error .nameTooLong
  else walk t follow 40 (if path.head? = some Path.separator then root else here) (steps path)

/-- The node that a path names. -/
def find (t : FileTree) (here : Nat) (path : ByteString) (follow : Bool := true) :
    Except Errno Nat := do
  match (← t.place here path follow).node? with
  | some n => .ok n
  | none => .error .noEntry

def isDirectory (t : FileTree) (n : Nat) : Bool :=
  match t.node? n with
  | some (.directory ..) => true
  | _ => false

/-- The directories of a search path, between colons. -/
def searchDirs (path : ByteString) : List ByteString :=
  path.foldr (fun b acc => match acc with
    | [] => if b = 58 then [[], []] else [[b]]
    | d :: ds => if b = 58 then [] :: d :: ds else (b :: d) :: ds) [[]]

/-! ## Changes -/

/-- Changes a node, which notes the time. -/
def setNode (t : FileTree) (n : Nat) (node : Node) : FileTree :=
  { t with slots := t.slots.modify n fun s => { s with node, time := t.now } }

def setRights (t : FileTree) (n rights : Nat) : FileTree :=
  { t with slots := t.slots.modify n fun s => { s with rights } }

def setTime (t : FileTree) (n : Nat) (time : Int) : FileTree :=
  { t with slots := t.slots.modify n fun s => { s with time } }

/-- Changes the entries of a directory. -/
def modifyEntries (t : FileTree) (dir : Nat)
    (f : List (ByteString × Nat) → List (ByteString × Nat)) : FileTree :=
  match t.node? dir with
  | some (.directory parent entries) => t.setNode dir (.directory parent (f entries))
  | _ => t

/-- Puts a new node into a directory: its number and the tree with it. -/
def insert (t : FileTree) (dir : Nat) (name : ByteString) (node : Node) : Nat × FileTree :=
  let n := t.size
  let rights := node.usualRights
  let slot : Slot := ⟨node, if node.isMasked then rights - (rights &&& t.mask) else rights, t.now⟩
  (n, modifyEntries { t with slots := t.slots.push slot } dir (· ++ [(name, n)]))

private def withoutSlashes (path : ByteString) : ByteString :=
  match path.reverse.dropWhile (· = Path.separator) with
  | [] => path
  | bs => bs.reverse

/-- Makes a directory. -/
def makeDir (t : FileTree) (here : Nat) (path : ByteString) : Except Errno FileTree := do
  let p ← t.place here (withoutSlashes path) false
  match p.node? with
  | some _ => .error .alreadyExists
  | none => .ok (t.insert p.dir p.name (.directory p.dir [])).2

/-- Makes a link. -/
def makeLink (t : FileTree) (here : Nat) (path target : ByteString) : Except Errno FileTree := do
  let p ← t.place here path false
  match p.node? with
  | some _ => .error .alreadyExists
  | none => .ok (t.insert p.dir p.name (.link target)).2

/-- The file at a path, made empty if there is none. -/
def openOrMake (t : FileTree) (here : Nat) (path : ByteString) : Except Errno (Nat × FileTree) := do
  let p ← t.place here path true
  match p.node? with
  | some n => if t.isDirectory n then .error .isDirectory else .ok (n, t)
  | none =>
    if path.getLast? = some Path.separator then .error .isDirectory
    else .ok (t.insert p.dir p.name (.file ByteArray.empty))

/-- The contents of a file after a write at an offset; a gap is filled with zeros. -/
def overwrite (old : ByteArray) (offset : Nat) (data : ByteArray) : ByteArray :=
  let gap := ByteArray.mk (Array.replicate (offset - old.size) 0)
  old.extract 0 offset ++ gap ++ data ++ old.extract (offset + data.size) old.size

/-- Sets the contents of a file. -/
def setData (t : FileTree) (n : Nat) (data : ByteArray) : FileTree :=
  match t.node? n with
  | some (.file _) => t.setNode n (.file data)
  | _ => t

/-- Cuts a file, or makes it longer with zeros. -/
def resize (t : FileTree) (n size : Nat) : Except Errno FileTree :=
  match t.node? n with
  | some (.file data) =>
    .ok (t.setData n (data.extract 0 size ++ ⟨Array.replicate (size - data.size) 0⟩))
  | some (.directory ..) => .error .isDirectory
  | _ => .error .invalid

/-- Sets whether a file may be run. -/
def setExecutable (t : FileTree) (n : Nat) (executable : Bool) : FileTree :=
  t.setRights n (if executable then 0o755 else 0o644)

/-- Takes a name out of its directory. -/
def forget (t : FileTree) (p : Place) : FileTree :=
  t.modifyEntries p.dir (·.filter (·.1 ≠ p.name))

/-- Removes what is not a directory. -/
def unlink (t : FileTree) (here : Nat) (path : ByteString) : Except Errno FileTree := do
  let p ← t.place here path false
  match p.node? with
  | none => .error .noEntry
  | some n => if t.isDirectory n then .error .isDirectory else .ok (t.forget p)

/-- Removes an empty directory. -/
def removeDir (t : FileTree) (here : Nat) (path : ByteString) : Except Errno FileTree := do
  let p ← t.place here path false
  if p.name = [Path.dot] then .error .invalid
  else if p.name = [Path.dot, Path.dot] then .error .notEmpty
  else match p.node?.bind t.node? with
    | none => .error .noEntry
    | some (.directory _ []) => .ok (t.forget p)
    | some (.directory ..) => .error .notEmpty
    | some _ => .error .notDirectory

/-- Moves a node to another name, in place of what has that name. -/
def rename (t : FileTree) (here : Nat) (source target : ByteString) : Except Errno FileTree := do
  let p ← t.place here source false
  let q ← t.place here target false
  match p.node? with
  | none => .error .noEntry
  | some n =>
    if q.node? = some n then .ok t
    else
      let moved := (t.forget p).modifyEntries q.dir fun es =>
        es.filter (·.1 ≠ q.name) ++ [(q.name, n)]
      match t.node? n, q.node?.bind t.node? with
      | some (.directory _ entries), none | some (.directory _ entries), some (.directory _ []) =>
        .ok (moved.setNode n (.directory q.dir entries))
      | some (.directory ..), some (.directory ..) => .error .notEmpty
      | some (.directory ..), some _ => .error .notDirectory
      | _, some (.directory ..) => .error .isDirectory
      | _, _ => .ok moved

/-! ## Views -/

/-- The contents of a file. -/
def readData (t : FileTree) (here : Nat) (path : ByteString) : Except Errno ByteArray := do
  match t.node? (← t.find here path) with
  | some (.file data) => .ok data
  | some (.directory ..) => .error .isDirectory
  | _ => .ok ByteArray.empty

/-- The absolute path of a directory, climbing at most `fuel` times. -/
def pathOfDir (t : FileTree) (dir : Nat) : Nat → ByteString
  | 0 => []
  | fuel + 1 =>
    if dir = root then []
    else match t.node? dir with
      | some (.directory parent _) =>
        let name := match t.node? parent with
          | some (.directory _ entries) => (entries.find? (·.2 = dir)).elim [] (·.1)
          | _ => []
        t.pathOfDir parent fuel ++ Path.separator :: name
      | _ => []

/-- The absolute path of a directory. -/
def pathOf (t : FileTree) (dir : Nat) : ByteString :=
  match t.pathOfDir dir t.size with
  | [] => [Path.separator]
  | p => p

/-- The absolute path of what a path names, with every link followed. -/
def canonical (t : FileTree) (here : Nat) (path : ByteString) : Except Errno ByteString := do
  let p ← t.place here path true
  match p.node? with
  | none => .error .noEntry
  | some n =>
    if t.isDirectory n then .ok (t.pathOf n)
    else .ok (t.pathOfDir p.dir t.size ++ Path.separator :: p.name)

/-- Everything below a directory, by its path from there, directories with a separator at the
end. -/
def listing (t : FileTree) (dir : Nat) (above : ByteString) : Nat → List ByteString
  | 0 => []
  | fuel + 1 =>
    match t.node? dir with
    | some (.directory _ entries) => entries.flatMap fun (name, n) =>
      let path := above ++ name
      if t.isDirectory n then
        let path := path ++ [Path.separator]
        path :: t.listing n path fuel
      else [path]
    | _ => []

/-- Everything below a directory. -/
def below (t : FileTree) (dir : Nat) : List ByteString := t.listing dir [] t.size

/-- Makes a directory and those above it, as far as they are missing. -/
def makeDirs (t : FileTree) (here : Nat) (path : Path) : Nat → Except Errno FileTree
  | 0 => .error .noEntry
  | fuel + 1 =>
    if path.bytes.isEmpty then .ok t
    else
      let isThere (t : FileTree) : Bool :=
        match t.find here path.bytes with
        | .ok n => t.isDirectory n
        | .error _ => false
      let make (t : FileTree) : Except Errno FileTree :=
        match t.makeDir here path.bytes with
        | .ok t => .ok t
        | .error e => if isThere t then .ok t else .error e
      match t.makeDir here path.bytes with
      | .ok t => .ok t
      | .error e =>
        if e ≠ .noEntry then make t
        else match path.parent? with
          | none => .error e
          | some above => do make (← t.makeDirs here above fuel)

end FileTree
end ModuleForge.Host
