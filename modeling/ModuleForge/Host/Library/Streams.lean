import ModuleForge.Host.Library.Files

/-!
# Functions on streams

The functions of the C library that read and write streams. What is written to a buffered stream
waits until a block is full, the stream is flushed or closed, or the program ends.
-/
namespace ModuleForge.Host.Library

open Program

/-- How much a buffer holds. -/
def blockBytes : Nat := 4096

/-- The stream that is known by its place; any other place is a fault. -/
def streamAt (place : Nat) : Run Stream := do
  match (← get).streams.lookup place with
  | some s => return s
  | none =>
    if place = streamPlace 0 then return { descriptor := 0 }
    else if place = streamPlace 1 then return { descriptor := 1 }
    else if place = streamPlace 2 then return { descriptor := 2, buffered := false }
    else stop Signal.segmentation

def setStream (place : Nat) (s : Stream) : Run Unit :=
  modify fun p => { p with streams := (place, s) :: p.streams.filter (·.1 ≠ place) }

/-! ## Writing -/

/-- Gives away what waits in a stream. -/
def flush (place : Nat) : Run Bool := do
  let s ← streamAt place
  if s.pending.size = 0 then return true
  match ← giveBytes s.descriptor s.pending with
  | .ok _ =>
    setStream place { s with pending := ByteArray.empty }
    return true
  | .error e =>
    setError e
    setStream place { s with pending := ByteArray.empty, faulty := true }
    return false

/-- Gives away what waits in all streams, in the order in which they were made. -/
def flushAll : Run Unit := do
  for (place, _) in (← get).streams.reverse do
    let _ ← flush place

/-- What stays in a buffer when bytes come to it: once it is full, it is given away, and whole
blocks are not put there at all. -/
def staying (pending data : ByteArray) : ByteArray × ByteArray :=
  let all := pending ++ data
  if all.size ≤ blockBytes then (ByteArray.empty, all)
  else
    let whole := all.size / blockBytes * blockBytes
    (all.extract 0 whole, all.extract whole all.size)

/-- Writes to a stream; the answer tells whether that went well. -/
def put (place : Nat) (data : ByteArray) : Run Bool := do
  let s ← streamAt place
  let (out, rest) := if s.buffered then staying s.pending data else (s.pending ++ data, ByteArray.empty)
  -- a line buffer gives away all lines that are complete
  let (out, rest) :=
    if s.byLine && rest.data.contains 10 then (out ++ rest, ByteArray.empty) else (out, rest)
  setStream place { s with pending := rest }
  if out.size = 0 then
    if let some f ← openFile? s.descriptor then
      if f.writable then return true
    setError .badDescriptor
    setStream place { s with faulty := true }
    return false
  match ← giveBytes s.descriptor out with
  | .ok _ => return true
  | .error e =>
    setError e
    setStream place { s with faulty := true }
    return false

def putText (place : Nat) (bs : ByteString) : Run Bool := put place ⟨bs.toArray⟩

/-! ## Reading -/

/-- Takes bytes from a stream; less only at its end. -/
def take (place count : Nat) : Run ByteArray := do
  let _ ← flush place
  let s ← streamAt place
  let (back, s) : ByteArray × Stream := match s.returned with
    | some b => if count = 0 then (ByteArray.empty, s) else (⟨#[b]⟩, { s with returned := none })
    | none => (ByteArray.empty, s)
  match ← takeBytes s.descriptor (count - back.size) with
  | .ok data =>
    let all := back ++ data
    setStream place { s with ended := s.ended || all.size < count }
    return all
  | .error e =>
    setError e
    setStream place { s with faulty := true }
    return back

/-- The next byte of a stream. -/
def takeByte (place : Nat) : Run (Option UInt8) := do
  let data ← take place 1
  return data.data[0]?

/-- The rest of a line with its end, at most so many bytes. -/
def takeLine (place : Nat) : Nat → Run ByteString
  | 0 => return []
  | count + 1 => do
    match ← takeByte place with
    | none => return []
    | some b => if b = 10 then return [b] else return b :: (← takeLine place count)

/-! ## Opening -/

/-- What the mode of a stream means. -/
def openingOf : ByteString → Option Opening
  | [] => none
  | c :: rest =>
    let both := rest.contains 43
    let opening : Option Opening := match Char.ofNat c.toNat with
      | 'r' => some { readable := true, writable := both }
      | 'w' => some { readable := both, writable := true, create := true, empty := true }
      | 'a' => some { readable := both, writable := true, create := true, append := true }
      | _ => none
    opening.map fun o => { o with exclusive := rest.contains 120 && o.create }

/-- How many streams there may be at once. -/
def maxStreams : Nat := 48

/-- A new stream over a descriptor: its place. -/
def newStream (fd : Nat) : Run Nat := do
  let used := (← get).streams.map (·.1)
  match ((List.range maxStreams).drop 3).find? fun i => !used.contains (streamPlace i) with
  | some i =>
    setStream (streamPlace i) { descriptor := fd }
    return streamPlace i
  | none =>
    setError ⟨24⟩
    return 0

def openStream : Run Answer := do
  let path ← readText (← argument 0)
  match openingOf (← readText (← argument 1)) with
  | none =>
    setError .invalid
    return .whole 0
  | some how => match ← openPath path how with
    | .ok fd => return .whole (← newStream fd)
    | .error e =>
      setError e
      return .whole 0

def closeStream : Run Answer := do
  let place ← argument 0
  let good ← flush place
  let s ← streamAt place
  modify fun p => { p with streams := p.streams.filter (·.1 ≠ place) }
  match ← closeDescriptor s.descriptor with
  | .ok () => return .int (if good then 0 else -1)
  | .error e => failed e

/-- The answer that stands for the end. -/
def ending : Answer := .int (-1)

def okOrEnd (good : Bool) (answer : Answer := .whole 1) : Answer := if good then answer else ending

/-- Writes one byte. -/
def putByte (place : Nat) (n : Nat) : Run Answer := do
  let b := UInt8.ofNat n
  return okOrEnd (← put place ⟨#[b]⟩) (.whole b.toNat)

def byteAnswer : Option UInt8 → Answer
  | some b => .whole b.toNat
  | none => ending

/-- Reads a line into memory of limited size. -/
def lineInto : Run Answer := do
  let target ← argument 0
  let size := (← intArgument 1).toNat
  let line ← takeLine (← argument 2) (size - 1)
  if line.isEmpty then return .whole 0
  writeText target line
  return .whole target

/-- The longest line. -/
def maxLine : Nat := 1000000

/-- Reads a line into memory that grows with it. -/
def wholeLine : Run Answer := do
  let place ← argument 0
  let sizePlace ← argument 1
  let line ← takeLine (← argument 2) maxLine
  if line.isEmpty then return .long (-1)
  let old ← read place 8
  if old = 0 || (← read sizePlace 8) < line.length + 1 then
    let size := max 120 (line.length + 1)
    let new ← allocate size
    write place 8 new
    write sizePlace 8 size
  writeText (← read place 8) line
  return .whole line.length

/-- Tells what the number of the last error means. -/
def tellError : Run Answer := do
  let place ← argument 0
  let start ← if place = 0 then pure [] else readText place
  let e : Errno := ⟨(← read errorPlace 4 : Nat)⟩
  let head := if start.isEmpty then [] else start ++ ByteString.ofText ": "
  let _ ← putText (streamPlace 2) (head ++ ByteString.ofText (e.message ++ "\n"))
  return .none

/-- Moves the place of a stream. -/
def seekStream (place : Nat) (distance : Int) (whence : Nat) : Run Answer := do
  let _ ← flush place
  let s ← streamAt place
  let distance := if whence = 1 && s.returned.isSome then distance - 1 else distance
  setStream place { s with returned := none, ended := false }
  match ← seek s.descriptor distance whence with
  | .ok _ => return .whole 0
  | .error e => failed e

/-- The place in a stream. -/
def tellPlace : Run Answer := do
  let s ← streamAt (← argument 0)
  match ← seek s.descriptor 0 1 with
  | .ok n => return .long (n + s.pending.size - (if s.returned.isSome then 1 else 0))
  | .error e => failed e

/-- Makes a stream buffered, buffered by lines, or neither. -/
def setBuffering (place mode : Nat) : Run Answer := do
  let s ← streamAt place
  setStream place { s with buffered := mode ≠ 2, byLine := mode = 1 }
  return .whole 0

def streams : Family :=
  shared ["fopen", "fopen64"] (fun _ => openStream)
  ++ [("fdopen", fun _ => do return .whole (← newStream (← fdArgument 0))),
    ("fclose", fun _ => closeStream),
    ("fileno", fun _ => do return .whole (← streamAt (← argument 0)).descriptor)]
  ++ shared ["fflush", "fflush_unlocked"] (fun _ => do
      let place ← argument 0
      if place = 0 then
        flushAll
        return .whole 0
      return okOrEnd (← flush place) (.whole 0))
  ++ shared ["fputs", "fputs_unlocked"] (fun _ => do
      let text ← readText (← argument 0)
      return okOrEnd (← putText (← argument 1) text))
  ++ [("puts", fun _ => do
      let text ← readText (← argument 0)
      return okOrEnd (← putText (streamPlace 1) (text ++ [10])) (.whole (text.length + 1)))]
  ++ shared ["fputc", "putc", "_IO_putc", "putc_unlocked", "fputc_unlocked"] (fun _ => do
      putByte (← argument 1) (← argument 0))
  ++ shared ["putchar", "putchar_unlocked"] (fun _ => do
      putByte (streamPlace 1) (← argument 0))
  ++ shared ["fwrite", "fwrite_unlocked"] (fun _ => do
      let size ← argument 1
      let count ← argument 2
      let data ← readBytes (← argument 0) (size * count)
      if size * count = 0 then return .whole 0
      return .whole (if ← put (← argument 3) data then count else 0))
  ++ shared ["fread", "fread_unlocked"] (fun _ => do
      let size ← argument 1
      let count ← argument 2
      if size * count = 0 then return .whole 0
      let data ← take (← argument 3) (size * count)
      writeBytes (← argument 0) data
      return .whole (data.size / size))
  ++ shared ["fgets", "fgets_unlocked"] (fun _ => lineInto)
  ++ shared ["getline"] (fun _ => wholeLine)
  ++ shared ["fgetc", "getc", "_IO_getc", "getc_unlocked", "fgetc_unlocked"] (fun _ => do
      return byteAnswer (← takeByte (← argument 0)))
  ++ shared ["getchar", "getchar_unlocked"] (fun _ => do
      return byteAnswer (← takeByte (streamPlace 0)))
  ++ [("ungetc", fun _ => do
      let place ← argument 1
      let s ← streamAt place
      let b := UInt8.ofNat (← argument 0)
      setStream place { s with returned := some b, ended := false }
      return .whole b.toNat)]
  ++ shared ["feof", "feof_unlocked"] (fun _ => do
      return .whole (if (← streamAt (← argument 0)).ended then 1 else 0))
  ++ shared ["ferror", "ferror_unlocked"] (fun _ => do
      return .whole (if (← streamAt (← argument 0)).faulty then 1 else 0))
  ++ [("clearerr", fun _ => do
      let place ← argument 0
      setStream place { (← streamAt place) with ended := false, faulty := false }
      return .none)]
  ++ shared ["fseek", "fseeko", "fseeko64"] (fun _ => do
      let place ← argument 0
      let distance ← longArgument 1
      seekStream place distance (← argument 2))
  ++ shared ["ftell", "ftello", "ftello64"] (fun _ => tellPlace)
  ++ [("rewind", fun _ => do seekStream (← argument 0) 0 0),
    ("setvbuf", fun _ => do
      let place ← argument 0
      setBuffering place (← argument 2)),
    ("setbuf", fun _ => do
      let place ← argument 0
      setBuffering place (if (← argument 1) = 0 then 2 else 0)),
    ("setlinebuf", fun _ => do setBuffering (← argument 0) 1),
    ("perror", fun _ => tellError)]

end ModuleForge.Host.Library
