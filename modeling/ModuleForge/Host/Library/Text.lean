import ModuleForge.Host.Program
import ModuleForge.Text.Bytes

/-!
# Functions on texts and memory

The functions of the C library that copy, compare and search bytes and texts that end at a 0, and
those that tell about single characters.
-/
namespace ModuleForge.Host.Library

open Program

/-- The functions of a family, by name. -/
abbrev Family := List (String × (Invoke → Run Answer))

/-- Several functions that do the same. -/
def shared (names : List String) (f : Invoke → Run Answer) : Family := names.map (·, f)

/-! ## Memory -/

/-- The first difference of two rows of bytes. -/
def difference : ByteString → ByteString → Int
  | [], [] => 0
  | [], b :: _ => -(b.toNat : Int)
  | a :: _, [] => a.toNat
  | a :: as, b :: bs => if a = b then difference as bs else a.toNat - b.toNat

/-- Where a row of bytes begins in another. -/
def position? (needle : ByteString) : ByteString → Option Nat
  | [] => if needle.isEmpty then some 0 else none
  | b :: bs => if needle.isPrefixOf (b :: bs) then some 0 else (position? needle bs).map (· + 1)

/-- The address at a position, or 0. -/
def placeOf (start : Nat) (i : Option Nat) : Answer := .whole ((i.map (start + ·)).getD 0)

/-- Copies bytes; the answer is what is handed back. -/
def copy (back : Nat → Nat → Nat) : Run Answer := do
  let target ← argument 0
  let count ← argument 2
  writeBytes target (← readBytes (← argument 1) count)
  return .whole (back target count)

def memory : Family :=
  shared ["memcpy", "memmove", "__memcpy_chk", "__memmove_chk"] (fun _ => copy fun t _ => t)
  ++ shared ["mempcpy", "__mempcpy", "__mempcpy_chk"] (fun _ => copy fun t n => t + n)
  ++ shared ["memset", "__memset_chk"] (fun _ => do
      let target ← argument 0
      writeBytes target ⟨Array.replicate (← argument 2) (UInt8.ofNat (← argument 1))⟩
      return .whole target)
  ++ [("bzero", fun _ => do
      writeBytes (← argument 0) ⟨Array.replicate (← argument 1) 0⟩
      return .none),
    ("bcopy", fun _ => do
      writeBytes (← argument 1) (← readBytes (← argument 0) (← argument 2))
      return .none)]
  ++ shared ["memcmp", "bcmp"] (fun _ => do
      let count ← argument 2
      let a ← readBytes (← argument 0) count
      let b ← readBytes (← argument 1) count
      return .int (difference a.data.toList b.data.toList))
  ++ shared ["memchr", "rawmemchr"] (fun _ => do
      let start ← argument 0
      let bytes ← readBytes start (← argument 2)
      return placeOf start (bytes.data.toList.findIdx? (· == UInt8.ofNat (← argument 1))))
  ++ [("memrchr", fun _ => do
      let start ← argument 0
      let bytes := (← readBytes start (← argument 2)).data.toList
      let found := bytes.reverse.findIdx? (· == UInt8.ofNat (← argument 1))
      return placeOf start (found.map fun i => bytes.length - 1 - i)),
    ("memmem", fun _ => do
      let start ← argument 0
      let bytes ← readBytes start (← argument 1)
      let needle ← readBytes (← argument 2) (← argument 3)
      return placeOf start (position? needle.data.toList bytes.data.toList))]

/-! ## Texts -/

/-- Copies a text, or the beginning of it filled up with zeros. -/
def copyText (limit? : Option Nat) (back : Nat → ByteString → Nat) : Run Answer := do
  let target ← argument 0
  let text ← readText (← argument 1)
  match limit? with
  | none => writeText target text
  | some n => writeBytes target ⟨(text.take n ++ List.replicate (n - text.length) 0).toArray⟩
  return .whole (back target text)

/-- Adds a text, or the beginning of it, to another. -/
def appendText (limit? : Option Nat) : Run Answer := do
  let target ← argument 0
  let old ← readText target
  let text ← readText (← argument 1)
  writeText (target + old.length) ((limit?.map text.take).getD text)
  return .whole target

/-- A lower case letter for an upper case one. -/
def lowered (b : UInt8) : UInt8 := if 65 ≤ b && b ≤ 90 then b + 32 else b

/-- Compares two texts, or their beginnings. -/
def compareTexts (limit? : Option Nat) (f : UInt8 → UInt8) : Run Answer := do
  let a ← readText (← argument 0)
  let b ← readText (← argument 1)
  let first (t : ByteString) : ByteString := ((limit?.map t.take).getD t).map f
  return .int (difference (first a) (first b))

/-- A text in memory of its own. -/
def newText (bs : ByteString) : Run Answer := do
  let address ← allocate (bs.length + 1)
  writeText address bs
  return .whole address

/-- The next part of a text between separators, and where the search goes on. -/
def nextPart (start : Nat) (separators : ByteString) : Run (Nat × Nat) := do
  if start = 0 then return (0, 0)
  let text ← readText start
  let gap := (text.takeWhile separators.contains).length
  let part := (text.drop gap).takeWhile (!separators.contains ·)
  if part.isEmpty then return (0, 0)
  let stop := start + gap + part.length
  if gap + part.length = text.length then return (start + gap, stop)
  write stop 1 0
  return (start + gap, stop + 1)

/-- The next part of the text that was given first, or of the one that is gone through. -/
def tokenAfterCursor : Run Answer := do
  let first ← argument 0
  let cursor := (← get).cursor
  let separators ← readText (← argument 1)
  let found ← nextPart (if first = 0 then cursor else first) separators
  modify fun s => { s with cursor := found.2 }
  return .whole found.1

/-- The same, where the caller keeps the place at which the search goes on. -/
def tokenAfterPlace : Run Answer := do
  let first ← argument 0
  let place ← argument 2
  let kept ← if first = 0 then read place 8 else pure first
  let separators ← readText (← argument 1)
  let found ← nextPart kept separators
  write place 8 found.2
  return .whole found.1

/-- The part of a text before the next separator, which may be empty. -/
def separatedPart : Run Answer := do
  let place ← argument 0
  let start ← read place 8
  if start = 0 then return .none
  let separators ← readText (← argument 1)
  let text ← readText start
  match text.findIdx? separators.contains with
  | none => write place 8 0
  | some i =>
    write (start + i) 1 0
    write place 8 (start + i + 1)
  return .whole start

def texts : Family :=
  [("strlen", fun _ => return .whole (← readText (← argument 0)).length),
   ("strnlen", fun _ => return .whole (min (← argument 1) (← readText (← argument 0)).length))]
  ++ shared ["strcpy", "__strcpy_chk"] (fun _ => copyText none fun t _ => t)
  ++ shared ["stpcpy", "__stpcpy", "__stpcpy_chk"] (fun _ => copyText none fun t bs => t + bs.length)
  ++ shared ["strncpy", "__strncpy_chk"] (fun _ => do copyText (some (← argument 2)) fun t _ => t)
  ++ shared ["stpncpy", "__stpncpy_chk"] (fun _ => do
      let n ← argument 2
      copyText (some n) fun t bs => t + min n bs.length)
  ++ shared ["strcat", "__strcat_chk"] (fun _ => appendText none)
  ++ shared ["strncat", "__strncat_chk"] (fun _ => do appendText (some (← argument 2)))
  ++ shared ["strcmp", "strcoll"] (fun _ => compareTexts none id)
  ++ [("strncmp", fun _ => do compareTexts (some (← argument 2)) id),
    ("strcasecmp", fun _ => compareTexts none lowered),
    ("strncasecmp", fun _ => do compareTexts (some (← argument 2)) lowered)]
  ++ shared ["strchr", "index"] (fun _ => do
      let start ← argument 0
      let text ← readText start
      return placeOf start ((text ++ [0]).findIdx? (· == UInt8.ofNat (← argument 1))))
  ++ shared ["strchrnul"] (fun _ => do
      let start ← argument 0
      let text ← readText start
      let c := UInt8.ofNat (← argument 1)
      return .whole (start + (text.takeWhile (· ≠ c)).length))
  ++ shared ["strrchr", "rindex"] (fun _ => do
      let start ← argument 0
      let text ← readText start
      let c := UInt8.ofNat (← argument 1)
      let found := (text ++ [0]).reverse.findIdx? (· == c)
      return placeOf start (found.map fun i => text.length - i))
  ++ [("strstr", fun _ => do
      let start ← argument 0
      return placeOf start (position? (← readText (← argument 1)) (← readText start))),
    ("strcasestr", fun _ => do
      let start ← argument 0
      let needle ← readText (← argument 1)
      return placeOf start (position? (needle.map lowered) ((← readText start).map lowered))),
    ("strspn", fun _ => do
      let accepted ← readText (← argument 1)
      return .whole ((← readText (← argument 0)).takeWhile accepted.contains).length),
    ("strcspn", fun _ => do
      let refused ← readText (← argument 1)
      return .whole ((← readText (← argument 0)).takeWhile (!refused.contains ·)).length),
    ("strpbrk", fun _ => do
      let start ← argument 0
      let wanted ← readText (← argument 1)
      return placeOf start ((← readText start).findIdx? wanted.contains))]
  ++ shared ["strdup", "__strdup"] (fun _ => do newText (← readText (← argument 0)))
  ++ [("strndup", fun _ => do newText ((← readText (← argument 0)).take (← argument 1))),
    ("strtok", fun _ => tokenAfterCursor)]
  ++ shared ["strtok_r", "__strtok_r"] (fun _ => tokenAfterPlace)
  ++ [("strsep", fun _ => separatedPart)]

/-! ## Characters -/

/-- The classes of characters, each with the number that stands for it. -/
def classes : List (String × Nat × (Char → Bool)) := [
  ("isupper", 256, Char.isUpper), ("islower", 512, Char.isLower), ("isalpha", 1024, Char.isAlpha),
  ("isdigit", 2048, Char.isDigit),
  ("isxdigit", 4096, fun c => c.isDigit || ('a' ≤ c.toLower && c.toLower ≤ 'f')),
  ("isspace", 8192, fun c => c == ' ' || (9 ≤ c.toNat && c.toNat ≤ 13)),
  ("isprint", 16384, fun c => 32 ≤ c.toNat && c.toNat < 127),
  ("isgraph", 32768, fun c => 32 < c.toNat && c.toNat < 127),
  ("isblank", 1, fun c => c == ' ' || c == '\t'),
  ("iscntrl", 2, fun c => c.toNat < 32 || c.toNat = 127),
  ("ispunct", 4, fun c => 32 < c.toNat && c.toNat < 127 && !c.isAlphanum),
  ("isalnum", 8, Char.isAlphanum)]

/-- The numbers of all classes of a character together. -/
def classBits (n : Nat) : Nat :=
  if n < 128 then
    ((classes.filter fun (_, _, holds) => holds (Char.ofNat n)).map fun (_, bit, _) => bit).foldl (· + ·) 0
  else 0

/-- Where the tables of the characters stand: a pointer, and 384 entries from -128 on. -/
def characterTable (i : Nat) : Nat := systemData + 0x4000 + 0x1000 * i

/-- The place of a table, whose entries are made when it is first asked for. -/
def tablePlace (i width : Nat) (entry : Int → Nat) : Run Answer := do
  let place := characterTable i
  if (← read place 8) = 0 then
    for k in List.range 384 do
      write (place + 16 + width * k) width (entry ((k : Int) - 128))
    write place 8 (place + 16 + 128 * width)
  return .whole place

def lowerCase (n : Int) : Int := if 65 ≤ n && n ≤ 90 then n + 32 else n

def upperCase (n : Int) : Int := if 97 ≤ n && n ≤ 122 then n - 32 else n

def characters : Family :=
  (classes.map fun (name, bit, holds) => (name, fun _ => do
    let c := Processor.cut 4 (← argument 0)
    return .whole (if c < 128 && holds (Char.ofNat c) then bit else 0)))
  ++ [("toupper", fun _ => return .int (upperCase (← intArgument 0))),
    ("tolower", fun _ => return .int (lowerCase (← intArgument 0))),
    ("isascii", fun _ => return .whole (if Processor.cut 4 (← argument 0) < 128 then 1 else 0)),
    ("toascii", fun _ => return .whole ((← argument 0) % 128)),
    ("__ctype_b_loc", fun _ => tablePlace 0 2 fun n => if n < 0 then 0 else classBits n.toNat),
    ("__ctype_tolower_loc", fun _ => tablePlace 1 4 fun n => Processor.unsigned 4 (lowerCase n)),
    ("__ctype_toupper_loc", fun _ => tablePlace 2 4 fun n => Processor.unsigned 4 (upperCase n))]

end ModuleForge.Host.Library
