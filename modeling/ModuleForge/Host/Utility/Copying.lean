import ModuleForge.Host.Utility.Files

/-!
# Utilities that copy streams

What hands bytes on: all of them, to several files, the first or the last of them, or block by
block. Where a utility can begin before its input has ended, it does.
-/
namespace ModuleForge.Host.Utility

open Call

/-! ## All of it -/

/-- A byte as it is shown where every byte is to be seen. -/
def visible (b : UInt8) : List UInt8 :=
  let low (b : UInt8) : List UInt8 :=
    if b < 32 then [94, b + 64] else if b = 127 then [94, 63] else [b]
  if b < 128 then low b else [77, 45] ++ low (b - 128)

/-- How `cat` goes on from one input to the next: the number of the next line, how many line ends
came last, and whether a line has begun. -/
structure Decorating where
  number : Nat := 1
  ends : Nat := 1
  inLine : Bool := false

/-- Lines with what options of `cat` add to them: numbers, and marks for ends, tabs and other
bytes. -/
def decorate (o : Options) (s : Decorating) (data : List UInt8) : List UInt8 × Decorating :=
  let showEnds := o.has 'E' || o.has 'A' || o.has 'e'
  let showTabs := o.has 'T' || o.has 'A' || o.has 't'
  let showAll := o.has 'v' || o.has 'A' || o.has 'e' || o.has 't'
  let numbers := o.has 'n' || o.has 'b'
  let numbered (n : Nat) : List UInt8 := ByteString.ofText (padLeft 6 (toString n) ++ "\t")
  let (out, s) := data.foldl (fun (st : List (List UInt8) × Decorating) b =>
    let (out, s) := st
    if b = 10 then
      let empty := !s.inLine
      if empty && o.has 's' && 2 ≤ s.ends then (out, s)
      else
        let counts := empty && numbers && !o.has 'b'
        let front := if counts then numbered s.number else []
        ((front ++ (if showEnds then [36] else []) ++ [10]) :: out,
          { number := if counts then s.number + 1 else s.number
            ends := if empty then s.ends + 1 else 1, inLine := false })
    else
      let front := if !s.inLine && numbers then numbered s.number else []
      let shown := if b = 9 then if showTabs then [94, 73] else [9]
        else if showAll then visible b else [b]
      ((front ++ shown) :: out,
        { number := if !s.inLine && numbers then s.number + 1 else s.number, ends := 0, inLine := true }))
    ([], s)
  (out.reverse.flatten, s)

/-- Whether what is read from a descriptor is what is written to standard output. -/
def isOwnOutput (fd : Nat) : Task Bool := do
  match ← Task.position fd, ← Task.position 1 with
  | some (a, i), some (b, _) =>
    if a ≠ b then return false
    let size ← Task.look fun t _ => match t.node? a with
      | some (.file data) => data.size
      | _ => 0
    return i < size
  | _, _ => return false

def cat : Utility := fun c => c.withGrammar {
    flags := "nbsETAetuv"
    long := [("number", 'n'), ("number-nonblank", 'b'), ("squeeze-blank", 's'), ("show-ends", 'E'),
      ("show-tabs", 'T'), ("show-all", 'A'), ("show-nonprinting", 'v')] } fun o => do
  let decorates := "nbsETAetv".toList.any o.has
  let mut code := 0
  let mut s : Decorating := {}
  for path in inputs o.operands do
    let opened ← source path
    match opened with
    | .error e =>
      c.complain (named path ++ ": " ++ e.message)
      code := 1
    | .ok fd =>
      let shown := if path = [45] then "-" else named path
      if ← isOwnOutput fd then
        c.complain (shown ++ ": input file is output file")
        code := 1
      else if decorates then
        match ← Task.readAll fd with
        | .ok data =>
          let (out, next) := decorate o s data.data.toList
          s := next
          code := max code (← c.putBytes out)
        | .error e =>
          c.complain (shown ++ ": " ++ e.message)
          code := 1
      else
        match ← copy fd [1] with
        | .ok () => pure ()
        | .error e =>
          c.complain (shown ++ ": " ++ e.message)
          code := 1
      if path ≠ [45] then
        let _ ← Task.close fd
  return code

def tee : Utility := fun c => c.withGrammar {
    flags := "aip", long := [("append", 'a'), ("ignore-interrupts", 'i')] } fun o => do
  let mut fds := [1]
  let mut code := 0
  if o.has 'i' then Task.dispose 2 .ignored
  for path in o.operands do
    match ← Task.openFile path (if o.has 'a' then .append else .write) with
    | .ok fd => fds := fds ++ [fd]
    | .error e =>
      c.complain (named path ++ ": " ++ e.message)
      code := 1
  match ← copy 0 fds with
  | .ok () => return code
  | .error e =>
    c.complain ("'standard output': " ++ e.message)
    return 1

/-! ## The first and the last of it -/

/-- A count with the sign before it, in bytes or lines. -/
structure Portion where
  inBytes : Bool
  sign : UInt8
  count : Nat

def takeBytes (c : Call) (fd : Nat) : Nat → Nat → Task (Except Errno Nat)
  | _, 0 => return .ok 0
  | 0, _ => return .ok 0
  | fuel + 1, left => do
    match ← Task.read fd (min left 8192) with
    | .error e => return .error e
    | .ok data =>
      if data.isEmpty then return .ok 0
      let code ← c.put data
      if code != 0 then return .ok code
      takeBytes c fd fuel (left - data.size)

/-- How many leading bytes hold so many lines, and how many lines are still missing. -/
def linesLength (mark : UInt8) (data : ByteArray) (lines : Nat) : Nat × Nat :=
  data.data.foldl (fun (st : Nat × Nat) b =>
    if st.2 = 0 then st else (st.1 + 1, if b = mark then st.2 - 1 else st.2)) (0, lines)

/-- Hands on so many lines. What was read of a file behind them is left to be read again. -/
def takeLines (c : Call) (mark : UInt8) (fd : Nat) : Nat → Nat → Task (Except Errno Nat)
  | _, 0 => return .ok 0
  | 0, _ => return .ok 0
  | fuel + 1, left => do
    let before ← Task.position fd
    match ← Task.read fd 8192 with
    | .error e => return .error e
    | .ok data =>
      if data.isEmpty then return .ok 0
      let (length, left) := linesLength mark data left
      let code ← c.put (data.extract 0 length)
      if code != 0 then return .ok code
      if left = 0 then
        if let some (_, offset) := before then Task.seek fd (offset + length)
      takeLines c mark fd fuel left

/-- The lines of some data between marks, each with its end if it has one. -/
def markedLines (mark : UInt8) (data : List UInt8) : List (List UInt8) :=
  data.foldr (fun b acc => if b = mark then [b] :: acc else match acc with
    | [] => [[b]]
    | l :: ls => (b :: l) :: ls) []

/-- The words of `head` and `tail` with counts such as `-5` or `-5c` spelled out. -/
def spelledOut (plus : Bool) : List ByteString → List ByteString
  | (s :: d :: more) :: rest =>
    if (s = 45 || plus && s = 43) && 48 ≤ d && d ≤ 57 then
      let digits := (d :: more).takeWhile fun b => 48 ≤ b && b ≤ 57
      let value := (if s = 43 then [43] else []) ++ digits
      let letters := (d :: more).drop digits.length
      let (unit, letters) := letters.partition fun b => [98, 107, 109].contains b
      let scale : ByteString := unit.flatMap fun b => if b = 109 then [77] else [b]
      let inBytes := letters.contains 99 || !unit.isEmpty
      let others := letters.filter fun b => b ≠ 99 && b ≠ 108
      (if inBytes then [45, 99] else [45, 110]) :: (value ++ scale)
        :: (if others.isEmpty then [] else [45 :: others]) ++ rest
    else (s :: d :: more) :: rest
  | words => words

/-- Runs a step for each input under a headline with its name, if there are several. -/
def underHeadlines (c : Call) (o : Options) (body : Nat → Task (Except Errno Nat)) : Task Nat := do
  let mut code := 0
  let mut first := true
  for path in inputs o.operands do
    let choice := o.last? "qv"
    let headline := (1 < o.operands.length || choice == some 'v') && choice != some 'q'
    let shown := if path = [45] then "standard input" else plain path
    let gap := if first then "" else "\n"
    let opened ← source path
    match opened with
    | .error e =>
      c.complain ("cannot open " ++ quoted path ++ " for reading: " ++ e.message)
      code := 1
    | .ok fd =>
      if headline then
        let _ ← c.putText (gap ++ "==> " ++ shown ++ " <==\n")
      first := false
      match ← body fd with
      | .ok n => code := max code n
      | .error e =>
        let name := if path = [45] then "'standard input'" else quoted path
        c.complain ("error reading " ++ name ++ ": " ++ e.message)
        code := 1
      if path ≠ [45] then
        let _ ← Task.close fd
  return code

/-- Which part of its inputs a call of `head` or `tail` is about. -/
def withPortion (c : Call) (o : Options) (body : Portion → Task Nat) : Task Nat :=
  let letter := (o.last? "cn").getD 'n'
  let inBytes := letter == 'c'
  let value := (o.value? letter).getD (ByteString.ofText "10")
  let (sign, text) : UInt8 × ByteString := match value with
    | 45 :: rest => (45, rest)
    | 43 :: rest => (43, rest)
    | _ => (0, value)
  let refuse (why : String) : Task Nat := do
    c.complain ("invalid number of " ++ (if inBytes then "bytes" else "lines") ++ ": " ++ quoted text ++ why)
    return 1
  if text.isEmpty || !(text.head?.any fun b => 48 ≤ b && b ≤ 57) then refuse ""
  else match sizeOf? text with
    | some n => if n < 2 ^ 64 then body ⟨inBytes, sign, n⟩ else refuse ": Value too large for defined data type"
    | none => refuse ""

def portionGrammar : Grammar where
  flags := "qvzfFr"
  valued := "nc"
  longValued := "sp"
  long := [("bytes", 'c'), ("lines", 'n'), ("quiet", 'q'), ("silent", 'q'), ("verbose", 'v'),
    ("zero-terminated", 'z')]

def head : Utility := fun c =>
  { c with words := spelledOut false c.words }.withGrammar { portionGrammar with flags := "qvz" } fun o =>
    withPortion c o fun p => underHeadlines c o fun fd => do
      let mark : UInt8 := if o.has 'z' then 0 else 10
      if p.sign = 45 then
        match ← Task.readAll fd with
        | .error e => return .error e
        | .ok data =>
          if p.inBytes then return .ok (← c.put (data.extract 0 (data.size - p.count)))
          else
            let lines := markedLines mark data.data.toList
            return .ok (← c.putBytes (lines.take (lines.length - p.count)).flatten)
      else if p.inBytes then takeBytes c fd Task.patience p.count
      else if p.count = 0 then return .ok 0
      else takeLines c mark fd Task.patience p.count

def tail : Utility := fun c =>
  { c with words := spelledOut true c.words }.withGrammar { portionGrammar with
      flags := "qvzfF", valued := "ncs", longValued := "P"
      long := portionGrammar.long ++ [("pid", 'P'), ("sleep-interval", 's'), ("follow", 'f'), ("retry", 'F')] }
    fun o => withPortion c o fun p => underHeadlines c o fun fd => do
      let mark : UInt8 := if o.has 'z' then 0 else 10
      match ← Task.readAll fd with
      | .error e => return .error e
      | .ok data =>
        if p.inBytes then
          return .ok (← c.put (data.extract (if p.sign = 43 then p.count - 1 else data.size - p.count) data.size))
        else
          let lines := markedLines mark data.data.toList
          let from_ := if p.sign = 43 then p.count - 1 else lines.length - p.count
          return .ok (← c.putBytes (lines.drop from_).flatten)

/-! ## Block by block -/

/-- What a call of `dd` asks for. -/
structure Blocks where
  source : Option ByteString := none
  target : Option ByteString := none
  sourceSize : Nat := 512
  targetSize : Nat := 512
  /-- Whether blocks are written as they are read. -/
  asRead : Bool := false
  skip : Nat := 0
  seek : Nat := 0
  count : Option Nat := none
  recordSize : Nat := 0
  conversions : List String := []
  sourceFlags : List String := []
  targetFlags : List String := []
  status : String := ""

/-- How much was copied: whole blocks and parts of blocks that were read and that were written, and
the bytes. -/
structure Copied where
  fullIn : Nat := 0
  partIn : Nat := 0
  fullOut : Nat := 0
  partOut : Nat := 0
  bytes : Nat := 0

/-- A count of `dd`: a product of sizes. -/
def ddNumber? (w : ByteString) : Option Nat :=
  let factors := between 120 w
  let one (f : ByteString) : Option Nat :=
    if !(f.head?.any fun b => 48 ≤ b && b ≤ 57) then none
    else match f.reverse with
      | 99 :: ds => Shell.natural? ds.reverse
      | 119 :: ds => (Shell.natural? ds.reverse).map (· * 2)
      | 66 :: ds => (Shell.natural? ds.reverse) <|> sizeOf? f
      | _ => sizeOf? f
  if w.isEmpty then none else (factors.mapM one).map fun ns => ns.foldl (· * ·) 1

def conversionNames : List String := ["ascii", "ebcdic", "ibm", "block", "unblock", "lcase", "ucase",
  "sparse", "swab", "sync", "excl", "nocreat", "notrunc", "noerror", "fdatasync", "fsync"]

def sourceFlagNames : List String := ["append", "direct", "directory", "dsync", "sync", "fullblock",
  "nonblock", "noatime", "nocache", "noctty", "nofollow", "count_bytes", "skip_bytes"]

def targetFlagNames : List String := ["append", "direct", "directory", "dsync", "sync", "nonblock",
  "nocache", "noctty", "nofollow", "seek_bytes"]

/-- Takes up one setting of a call, or tells what is wrong with it and whether that calls for
help. -/
def Blocks.set (b : Blocks) (w : ByteString) : Except (String × Bool) Blocks :=
  let bad {α : Type} : Except (String × Bool) α := .error ("unrecognized operand " ++ quoted w, true)
  match Shell.assignment? w with
  | none => bad
  | some (name, value) =>
    let number (least : Nat) : Except (String × Bool) Nat := match ddNumber? value with
      | some n => if n < least then .error ("invalid number: " ++ quoted value, false) else .ok n
      | none => .error ("invalid number: " ++ quoted value, false)
    let words (what : String) (known : List String) : Except (String × Bool) (List String) := do
      let ws := (plain value).splitOn ","
      match ws.find? fun w => !known.contains w with
      | some w => throw ("invalid " ++ what ++ ": '" ++ w ++ "'", true)
      | none => return ws
    match plain name with
    | "if" => .ok { b with source := some value }
    | "of" => .ok { b with target := some value }
    | "bs" => (number 1).map fun n => { b with sourceSize := n, targetSize := n, asRead := true }
    | "ibs" => (number 1).map fun n => { b with sourceSize := n }
    | "obs" => (number 1).map fun n => { b with targetSize := n }
    | "cbs" => (number 1).map fun n => { b with recordSize := n }
    | "skip" | "iseek" => (number 0).map fun n => { b with skip := n }
    | "seek" | "oseek" => (number 0).map fun n => { b with seek := n }
    | "count" => do
      let n ← number 0
      -- a count in bytes is marked as such
      let b := if value.getLast? == some 66 && (sizeOf? value.dropLast).isSome
          && value.dropLast.all fun d => 48 ≤ d && d ≤ 57 then
        { b with sourceFlags := b.sourceFlags ++ ["count_bytes"] } else b
      return { b with count := some n }
    | "conv" => (words "conversion" conversionNames).map fun ws => { b with conversions := b.conversions ++ ws }
    | "iflag" => (words "input flag" sourceFlagNames).map fun ws => { b with sourceFlags := b.sourceFlags ++ ws }
    | "oflag" => (words "output flag" targetFlagNames).map fun ws => { b with targetFlags := b.targetFlags ++ ws }
    | "status" =>
      if ["none", "noxfer", "progress"].contains (plain value) then .ok { b with status := plain value }
      else .error ("invalid status level: " ++ quoted value, true)
    | _ => bad

namespace Blocks

def converts (b : Blocks) (name : String) : Bool := b.conversions.contains name

/-- What conversions of single bytes and of pairs make of a block. -/
def convert (b : Blocks) (data : List UInt8) : List UInt8 :=
  let data := if b.converts "ucase" then data.map fun x => if 97 ≤ x && x ≤ 122 then x - 32 else x
    else if b.converts "lcase" then data.map fun x => if 65 ≤ x && x ≤ 90 then x + 32 else x
    else data
  let rec pairs : List UInt8 → List UInt8
    | x :: y :: rest => y :: x :: pairs rest
    | xs => xs
  if b.converts "swab" then pairs data else data

/-- Lines as records of one length, or records as lines. -/
def reshape (b : Blocks) (data : List UInt8) : List UInt8 :=
  if b.recordSize = 0 then data
  else if b.converts "block" then
    (linesOf data).flatMap fun l => (l ++ List.replicate (b.recordSize - l.length) 32).take b.recordSize
  else if b.converts "unblock" then
    (parts b.recordSize data).flatMap fun r => (r.reverse.dropWhile (· = 32)).reverse ++ [10]
  else data

/-- Reads one block: what a single read gives, or as much as there is of a whole one. -/
def readBlock (b : Blocks) (fd size : Nat) : Nat → ByteArray → Task (Except Errno ByteArray)
  | 0, sofar => return .ok sofar
  | fuel + 1, sofar => do
    match ← Task.read fd (size - sofar.size) with
    | .error e => return .error e
    | .ok data =>
      let all := sofar ++ data
      if data.isEmpty || size ≤ all.size || !b.sourceFlags.contains "fullblock" then return .ok all
      else readBlock b fd size fuel all

/-- Reads all blocks that are asked for: their contents, and how many were whole. -/
def readBlocks (b : Blocks) (fd : Nat) (write : List UInt8 → Task (Except Errno Unit)) :
    Nat → Option Nat → List UInt8 → Copied → Task (List UInt8 × Copied × Option (Bool × Errno))
  | 0, _, held, done => return (held, done, none)
  | fuel + 1, left, held, done => do
    if left == some 0 then return (held, done, none)
    let inBytes := b.sourceFlags.contains "count_bytes"
    let size := if inBytes then min b.sourceSize (left.getD b.sourceSize) else b.sourceSize
    match ← b.readBlock fd size Task.patience ByteArray.empty with
    | .error e => return (held, done, some (true, e))
    | .ok data =>
      if data.isEmpty then return (held, done, none)
      let isFull := data.size = b.sourceSize
      let done := if isFull then { done with fullIn := done.fullIn + 1 }
        else { done with partIn := done.partIn + 1 }
      let filler : UInt8 := if b.converts "block" || b.converts "unblock" then 32 else 0
      let bytes := data.data.toList ++
        (if b.converts "sync" then List.replicate (b.sourceSize - data.size) filler else [])
      let bytes := b.convert bytes
      let left := left.map fun n => n - (if inBytes then data.size else 1)
      if b.asRead && b.recordSize = 0 then
        match ← write bytes with
        | .error e => return (held, done, some (false, e))
        | .ok () =>
          let done := if bytes.length = b.targetSize then { done with fullOut := done.fullOut + 1 }
            else { done with partOut := done.partOut + 1 }
          readBlocks b fd write fuel left held { done with bytes := done.bytes + bytes.length }
      else readBlocks b fd write fuel left (held ++ bytes) done

/-- The lines that tell how much was copied. The time that it took is taken as nothing. -/
def report (b : Blocks) (d : Copied) : Task Unit := do
  let scaled (base : Nat) (letters : List String) (mark : String) : String :=
    humanSizeFor base letters d.bytes ++ mark
  if b.status != "none" then
    say (toString d.fullIn ++ "+" ++ toString d.partIn ++ " records in\n"
      ++ toString d.fullOut ++ "+" ++ toString d.partOut ++ " records out")
    if b.status != "noxfer" then
      let size := if d.bytes = 1 then "1 byte"
        else toString d.bytes ++ " bytes" ++ (if d.bytes < 1000 then "" else
          " (" ++ scaled 1000 ["", "k", "M", "G", "T", "P"] "B"
            ++ (if d.bytes < 1024 then "" else ", " ++ scaled 1024 ["", "Ki", "Mi", "Gi", "Ti", "Pi"] "B") ++ ")")
      say (size ++ " copied, 0 s, 0.0 kB/s")
where
  /-- A number in the unit that leaves the least of it, with one place as long as it is below
  ten. -/
  humanSizeFor (base : Nat) (letters : List String) (n : Nat) : String :=
    let power := ((List.range letters.length).reverse.find? fun i => base ^ i ≤ n).getD 0
    let unit := base ^ power
    let tenths := Decimal.roundedQuotient (n * 10) unit
    let digits := if power = 0 then toString n
      else if tenths < 100 then toString (tenths / 10) ++ "." ++ toString (tenths % 10)
      else toString (Decimal.roundedQuotient n unit)
    digits ++ " " ++ letters.getD power ""

/-- Opens what is written to, cut or filled up to where writing begins. -/
def openTarget (b : Blocks) : Task (Except Errno Nat) := do
  match b.target with
  | none => return .ok 1
  | some path =>
    let exists_ ← Task.look fun t here => (t.find here path).toOption.isSome
    if b.converts "excl" && exists_ then return .error .alreadyExists
    else if b.converts "nocreat" && !exists_ then return .error .noEntry
    else
      let appends := b.targetFlags.contains "append"
      let start := if b.targetFlags.contains "seek_bytes" then b.seek else b.seek * b.targetSize
      match ← Task.openFile path (if appends then .append else .update) with
      | .error e => return .error e
      | .ok fd =>
        if !appends then
          if !b.converts "notrunc" then
            let _ ← Task.change fun t here => match t.find here path with
              | .ok n => match t.node? n with
                | some (.file _) => t.resize n start
                | _ => .ok t
              | .error _ => .ok t
          Task.seek fd start
        return .ok fd

end Blocks

/-- Copies blocks from one file to another. -/
def dd : Utility := fun c => c.withGrammar {} fun o => do
  let read := o.operands.foldl (fun (b : Except (String × Bool) Blocks) w => b.bind (·.set w)) (.ok {})
  match read with
  | .error (message, true) => c.misuse message
  | .error (message, false) =>
    c.complain message
    return 1
  | .ok b =>
    if b.converts "lcase" && b.converts "ucase" then
      c.complain "cannot combine lcase and ucase"
      return 1
    let source ← match b.source with
      | none => pure (.ok 0)
      | some path => Task.openFile path .read
    match source with
    | .error e =>
      c.complain ("failed to open " ++ quoted (b.source.getD []) ++ ": " ++ e.message)
      return 1
    | .ok source =>
      match ← b.openTarget with
      | .error e =>
        c.complain ("failed to open " ++ quoted (b.target.getD []) ++ ": " ++ e.message)
        return 1
      | .ok target =>
        let name (path : Option ByteString) (other : String) : String :=
          (path.map named).getD ("'" ++ other ++ "'")
        let skipped := if b.sourceFlags.contains "skip_bytes" then b.skip else b.skip * b.sourceSize
        let mut isBeyond := false
        match ← Task.position source with
        | some (node, offset) =>
          let size ← Task.look fun t _ => match t.node? node with
            | some (.file data) => data.size
            | _ => 0
          isBeyond := 0 < skipped && size < offset + skipped
          Task.seek source (offset + skipped)
        | none =>
          if b.sourceFlags.contains "skip_bytes" then
            let _ ← Blocks.readBlock { b with sourceFlags := ["fullblock"] } source skipped Task.patience
              ByteArray.empty
          else for _ in List.range b.skip do
            let _ ← b.readBlock source b.sourceSize Task.patience ByteArray.empty
        if isBeyond then c.complain (name b.source "standard input" ++ ": cannot skip to specified offset")
        let write (bytes : List UInt8) : Task (Except Errno Unit) := Task.writeAll target ⟨bytes.toArray⟩
        let (held, done, fault) ← b.readBlocks source write Task.patience b.count [] {}
        let mut done := done
        let mut code := 0
        let mut failed := fault
        if fault.isNone then
          for block in parts b.targetSize (b.reshape held) do
            if failed.isNone then
              match ← write block with
              | .ok () =>
                done := if block.length = b.targetSize then { done with fullOut := done.fullOut + 1 }
                  else { done with partOut := done.partOut + 1 }
                done := { done with bytes := done.bytes + block.length }
              | .error e => failed := some (false, e)
        if let some (reading, e) := failed then
          code := 1
          c.complain (if reading then "error reading " ++ quoted (b.source.getD (ByteString.ofText "standard input"))
              ++ ": " ++ e.message
            else "error writing " ++ quoted (b.target.getD (ByteString.ofText "standard output")) ++ ": " ++ e.message)
        b.report done
        return code

end ModuleForge.Host.Utility
