import ModuleForge.Text.Quoted

/-!
# Paths

A path is a byte string, kept as it is given. What it denotes is read off its `components`: repeated
separators, a separator at the end and `.` after the first component do not count, while `..` and a
leading `.` do. Two paths are the same (`same`) if their components are.
-/
namespace ModuleForge

/-- A path: any bytes. -/
structure Path where
  bytes : ByteString
  deriving DecidableEq, Repr

namespace Path

/-- The byte `/`. -/
def separator : UInt8 := 47

/-- The byte `.`. -/
def dot : UInt8 := 46

def ofText (s : String) : Path := ⟨ByteString.ofText s⟩

instance : Coe String Path := ⟨ofText⟩

/-- Whether the path starts at the root. -/
def isAbsolute (p : Path) : Bool := p.bytes.head? == some separator

/-- One step of a path. -/
inductive Component where
  | root
  | here
  | up
  | name (bytes : ByteString)
  deriving DecidableEq, Repr

/-- The bytes between separators; there is always at least one piece. -/
def pieces : ByteString → List ByteString
  | [] => [[]]
  | b :: rest =>
    if b = separator then [] :: pieces rest
    else match pieces rest with
      | [] => [[b]]
      | p :: ps => (b :: p) :: ps

def component (piece : ByteString) : Component :=
  if piece = [dot] then .here else if piece = [dot, dot] then .up else .name piece

/-- The components of a path. -/
def components (p : Path) : List Component :=
  let ps := (pieces p.bytes).filter (· ≠ [])
  let later (ps : List ByteString) : List Component :=
    (ps.filter (· ≠ [dot])).map component
  if p.isAbsolute then .root :: later ps
  else match ps with
    | [] => []
    | first :: more => component first :: later more

/-- Whether two paths have the same components. -/
def same (p q : Path) : Bool := p.components == q.components

/-- The path `q` as seen from `p`: an absolute `q` stands for itself. -/
def join (p q : Path) : Path :=
  if q.isAbsolute then q
  else match p.bytes.getLast? with
    | none => q
    | some b => if b = separator then ⟨p.bytes ++ q.bytes⟩ else ⟨p.bytes ++ separator :: q.bytes⟩

/-- What is left of a reversed relative path once nothing but names, `..` and a leading `.` stand at
its end. -/
private def trimReversed (rooted : Bool) : ByteString → ByteString
  | [] => []
  | b :: rest =>
    if b = separator then trimReversed rooted rest
    else if b = dot then
      match rest with
      | [] => if rooted then [] else [dot]
      | c :: more => if c = separator then trimReversed rooted more else b :: c :: more
    else b :: rest

/-- The path without its last component; a path without one has no parent. -/
def parent? (p : Path) : Option Path :=
  let rooted := p.isAbsolute
  let body := if rooted then p.bytes.drop 1 else p.bytes
  match trimReversed rooted body.reverse with
  | [] => none
  | last =>
    let left := trimReversed rooted (last.dropWhile (· ≠ separator))
    some ⟨(if rooted then [separator] else []) ++ left.reverse⟩

/-- The text that shows a path. -/
def display (p : Path) : String := Text.lossy p.bytes

/-- The path in quotes. -/
def debug (p : Path) : String := Text.quoteBytes p.bytes

end Path
end ModuleForge
