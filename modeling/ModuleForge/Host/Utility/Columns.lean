import ModuleForge.Host.Utility.Call

/-!
# Utilities for columns

What cuts columns out of lines, and puts lines side by side.
-/
namespace ModuleForge.Host.Utility

open Call

/-! ## Ranges -/

/-- Positions from one on to another, or without an end. -/
structure ColumnRange where
  first : Nat
  last : Option Nat

namespace ColumnRange

def holds (r : ColumnRange) (i : Nat) : Bool := r.first ≤ i && r.last.all (i ≤ ·)

/-- Reads one range such as `3`, `2-4`, `-4` or `7-`. -/
def read (fields : Bool) (w : ByteString) : Except String ColumnRange := do
  let number (ds : ByteString) : Except String Nat := match Shell.natural? ds with
    | some n =>
      if n < 2 ^ 64 - 1 then .ok n
      else .error ((if fields then "field number " else "byte/character offset ") ++ quoted ds ++ " is too large")
    | none => .error ((if fields then "invalid field value " else "invalid byte/character position ")
        ++ quoted (ds.dropWhile fun b => 48 ≤ b && b ≤ 57))
  let positive (n : Nat) : Except String Nat :=
    if n = 0 then .error (if fields then "fields are numbered from 1"
      else "byte/character positions are numbered from 1") else .ok n
  let first := w.takeWhile (· ≠ 45)
  match w.drop first.length with
  | [] => do
    if w.isEmpty then let _ ← positive 0
    let n ← positive (← number w)
    return ⟨n, some n⟩
  | _ :: last =>
    if last.contains 45 then
      throw (if fields then "invalid field range" else "invalid byte or character range")
    else if first.isEmpty && last.isEmpty then throw "invalid range with no endpoint: -"
    else do
      let a ← if first.isEmpty then pure 1 else positive (← number first)
      if last.isEmpty then return ⟨a, none⟩
      let b ← number last
      if b < a then throw "invalid decreasing range" else return ⟨a, some b⟩

/-- Takes ranges together that meet; they are in order. -/
def merged : List ColumnRange → List ColumnRange
  | a :: b :: rest => match a.last with
    | none => [a]
    | some z =>
      if b.first ≤ z then
        merged (⟨a.first, b.last.map fun y => max y z⟩ :: rest)
      else a :: merged (b :: rest)
  | rs => rs
  termination_by rs => rs.length

/-- The positions that are in no range. -/
def gaps (start : Nat) : List ColumnRange → List ColumnRange
  | [] => [⟨start, none⟩]
  | r :: rest =>
    let own := if start < r.first then [⟨start, some (r.first - 1)⟩] else []
    match r.last with
    | none => own
    | some z => own ++ gaps (z + 1) rest

def readAll (fields complement : Bool) (w : ByteString) : Except String (List ColumnRange) := do
  let words := cells (fun b => b == 44 || b == 32 || b == 9) w
  let ranges ← words.mapM (read fields)
  let ranges := merged (ranges.mergeSort fun a b => a.first ≤ b.first)
  return if complement then gaps 1 ranges else ranges

end ColumnRange

/-! ## Cutting -/

/-- The parts of a row that ranges name, range by range. -/
def chosen (ranges : List ColumnRange) (xs : List α) : List (List α) :=
  ranges.map fun r => match r.last with
    | some z => (xs.take z).drop (r.first - 1)
    | none => xs.drop (r.first - 1)

def cut : Utility := fun c => c.withGrammar {
    flags := "snz", valued := "bcfd", longValued := "O"
    long := [("bytes", 'b'), ("characters", 'c'), ("fields", 'f'), ("delimiter", 'd'), ("only-delimited", 's'),
      ("complement", 'C'), ("output-delimiter", 'O'), ("zero-terminated", 'z')] } fun o => do
  match o.letters.filter fun (l, _) => "bcf".toList.contains l with
  | [] => c.misuse "you must specify a list of bytes, characters, or fields"
  | _ :: _ :: _ => c.misuse "only one list may be specified"
  | [(kind, list)] =>
    let fields := kind == 'f'
    if !fields && (o.value? 'd').isSome then
      c.misuse "an input delimiter may be specified only when operating on fields"
    else if !fields && o.has 's' then
      c.misuse "suppressing non-delimited lines makes sense\n\tonly when operating on fields"
    else if (o.value? 'd').any (1 < ·.length) then c.misuse "the delimiter must be a single character"
    else match ColumnRange.readAll fields (o.has 'C') list with
      | .error message => c.misuse message
      | .ok ranges =>
        let separator := match o.value? 'd' with
          | some [] => 0
          | some (d :: _) => d
          | none => 9
        let mark : UInt8 := if o.has 'z' then 0 else 10
        let ofLine (l : List UInt8) : Option (List UInt8) :=
          if !fields then
            let parts := (chosen ranges l).filter (!·.isEmpty)
            some (match o.value? 'O' with
              | some d => (List.intersperse d parts).flatten
              | none => parts.flatten)
          else if !l.contains separator then if o.has 's' then none else some l
          else
            let fields := (chosen ranges (cells (· == separator) l)).flatten
            some (List.intersperse ((o.value? 'O').getD [separator]) fields).flatten
        c.eachContent o.operands fun _ data =>
          c.putBytes (((between mark data.data.toList).filterMap ofLine).flatMap (· ++ [mark]))

/-! ## Side by side -/

/-- The delimiters that a list stands for, one after the other; none for a list that ends in the
middle of an escape. -/
def delimiters? : ByteString → Option (List ByteString)
  | [] => some []
  | [92] => none
  | 92 :: b :: rest =>
    let one : ByteString := match Char.ofNat b.toNat with
      | '0' => []
      | c => [(Format.escape? c).getD b]
    (delimiters? rest).map (one :: ·)
  | b :: rest => (delimiters? rest).map ([b] :: ·)

/-- Rows of cells that are taken in turn from several sources; a source may stand in several
columns. -/
def rowsAcross : Nat → List Nat → List (List (List UInt8)) → List (List (List UInt8))
  | 0, _, _ => []
  | fuel + 1, columns, sources =>
    let (cells, left) := columns.foldl (fun (st : List (Option (List UInt8)) × List (List (List UInt8))) i =>
      let (cells, sources) := st
      match sources[i]? with
      | some (l :: _) => (cells ++ [some l], sources.modify i (·.drop 1))
      | _ => (cells ++ [none], sources)) ([], sources)
    if cells.all Option.isNone then [] else cells.map (·.getD []) :: rowsAcross fuel columns left

/-- Cells with delimiters between them, which are taken in turn. -/
def delimited (delimiters : List ByteString) (cells : List (List UInt8)) : List UInt8 :=
  (cells.zipIdx.map fun (cell, i) =>
    if i = 0 then cell
    else if delimiters.isEmpty then cell
    else (delimiters[(i - 1) % delimiters.length]?).getD [] ++ cell).flatten

/-- Joins the lines of each input, or lines of all inputs side by side. -/
def paste : Utility := fun c => c.withGrammar {
    flags := "sz", valued := "d", long := [("serial", 's'), ("delimiters", 'd'), ("zero-terminated", 'z')] }
    fun o => do
  let list := (o.value? 'd').getD [9]
  match delimiters? list with
  | none =>
    c.complain ("delimiter list ends with an unescaped backslash: " ++ plain list)
    return 1
  | some delimiters =>
    let mark : UInt8 := if o.has 'z' then 0 else 10
    let paths := inputs o.operands
    let named_ := paths.eraseDups
    let mut code := 0
    let mut sources : List (List (List UInt8)) := []
    for path in named_ do
      match ← source path with
      | .error e =>
        c.complain (named path ++ ": " ++ e.message)
        if !o.has 's' then return 1
        code := 1
        sources := sources ++ [[]]
      | .ok fd => match ← Task.readAll fd with
        | .error e =>
          c.complain (named path ++ ": " ++ e.message)
          code := 1
          sources := sources ++ [[]]
        | .ok data => sources := sources ++ [between mark data.data.toList]
    let place (path : ByteString) : Nat := named_.idxOf path
    if o.has 's' then
      -- standard input is used up where it comes first
      let rows := paths.zipIdx.map fun (path, i) =>
        if path = [45] && (paths.take i).contains [45] then [] else (sources[place path]?).getD []
      c.putBytes (rows.flatMap fun row => delimited delimiters row ++ [mark]) code
    else
      -- a file that is named twice is read twice, but there is only one standard input
      let streams := paths.map fun path => (sources[place path]?).getD []
      let columns := paths.zipIdx.map fun (path, i) => if path = [45] then paths.idxOf path else i
      let height := (streams.map (·.length)).foldl (· + ·) 0 + 1
      c.putBytes ((rowsAcross height columns streams).flatMap fun row => delimited delimiters row ++ [mark]) code

end ModuleForge.Host.Utility
