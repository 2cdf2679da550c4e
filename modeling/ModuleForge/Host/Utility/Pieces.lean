import ModuleForge.Host.Utility.Copying
import ModuleForge.Host.Utility.Expression

/-!
# Utilities that cut files to pieces

`split` cuts a file into pieces of one size, `csplit` where lines say so. Each piece becomes a file.
-/
namespace ModuleForge.Host.Utility

open Call

/-- Writes a piece into a file of its own. -/
def writePiece (c : Call) (name : ByteString) (data : List UInt8) : Task Bool := do
  match ← Task.openFile name .write with
  | .error e =>
    c.complain (named name ++ ": " ++ e.message)
    return false
  | .ok fd =>
    let _ ← Task.writeAll fd ⟨data.toArray⟩
    let _ ← Task.close fd
    return true

/-- How the names of pieces end. -/
structure PieceNaming where
  stem : ByteString
  ending : ByteString := []
  /-- The digits that are counted with. -/
  digits : List Char
  width : Nat
  start : Nat := 0
  grows : Bool := false

/-- The digits of a number in a base, at least so many. -/
def digitsIn (digits : List Char) (width n : Nat) : List Char :=
  let base := digits.length
  ((List.range width).reverse.map fun i => (digits[n / base ^ i % base]?).getD 'a')

/-- The name of a piece. If there are more than the width allows, longer names follow, which begin
with the highest digit. -/
def PieceNaming.name (p : PieceNaming) (i : Nat) : ByteString :=
  let base := p.digits.length
  let rec go (front : List Char) (width n : Nat) : Nat → List Char
    | 0 => front ++ digitsIn p.digits width n
    | fuel + 1 =>
      let room := if p.grows then base ^ (width - 1) * (base - 1) else base ^ width
      if n < room || !p.grows then front ++ digitsIn p.digits width n
      else go (front ++ [p.digits.getLastD 'z']) (width + 1) (n - room) fuel
  p.stem ++ Format.bytes (go [] p.width (p.start + i) 12) ++ p.ending

/-- Lines in pieces that hold so many bytes at most, as far as lines are not longer. -/
def linesWithin (size : Nat) (lines : List (List UInt8)) : List (List UInt8) :=
  let (done, current) := lines.foldl (fun (st : List (List UInt8) × List UInt8) (l : List UInt8) =>
    let (done, current) := st
    let (done, current) := if current.isEmpty || current.length + l.length ≤ size then (done, current ++ l)
      else (current :: done, l)
    let whole := (parts size current).dropLast
    if size < current.length then (whole.reverse ++ done, current.drop (size * whole.length))
    else (done, current)) ([], [])
  (if current.isEmpty then done else current :: done).reverse

/-- Data in just so many pieces of about one size. -/
def inPieces (n : Nat) (data : List UInt8) : List (List UInt8) :=
  let size := data.length / n
  let extra := data.length % n
  let (out, _) := (List.range n).foldl (fun (st : List (List UInt8) × List UInt8) i =>
    let k := size + if i < extra then 1 else 0
    (st.1 ++ [st.2.take k], st.2.drop k)) ([], data)
  out

/-- Lines in so many pieces, each in the piece in which it begins. -/
def linesInPieces (n total : Nat) (lines : List (List UInt8)) : List (List UInt8) :=
  let size := total / n
  let extra := total % n
  let limit (i : Nat) : Nat := size * (i + 1) + min extra (i + 1)
  let (rows, _) := lines.foldl (fun (st : List (Nat × List UInt8) × Nat) (l : List UInt8) =>
    let at_ := ((List.range n).find? fun i => st.2 < limit i).getD (n - 1)
    (st.1 ++ [(at_, l)], st.2 + l.length)) ([], 0)
  (List.range n).map fun i => (rows.filter (·.1 = i)).flatMap (·.2)

/-- Every `n`th line from one on. -/
def everyNth (n first : Nat) (lines : List (List UInt8)) : List UInt8 :=
  (lines.zipIdx.filter fun (_, i) => i % n = first).flatMap (·.1)

def split : Utility := fun c =>
  let words := c.words.map fun w => match w with
    | 45 :: d :: more => if 48 ≤ d && d ≤ 57 then 45 :: 108 :: d :: more else w
    | w => w
  { c with words }.withGrammar {
      flags := "deux", valued := "abClnt", longValued := "SF", longAttached := "DX"
      long := [("suffix-length", 'a'), ("bytes", 'b'), ("line-bytes", 'C'), ("lines", 'l'), ("number", 'n'),
        ("numeric-suffixes", 'D'), ("hex-suffixes", 'X'), ("additional-suffix", 'S'), ("elide-empty-files", 'e'),
        ("separator", 't'), ("unbuffered", 'u'), ("verbose", 'v'), ("filter", 'F')] } fun o => do
    let refuse (message : String) : Task Nat := do
      c.complain message
      return 1
    match o.operands with
    | _ :: _ :: extra :: _ => c.misuse ("extra operand " ++ quoted extra)
    | _ =>
      let input := o.operands.headD [45]
      match o.letters.filter fun (x : Char × ByteString) => "bCln".toList.contains x.1 with
      | _ :: _ :: _ => c.misuse "cannot split in more than one way"
      | way =>
        let (kind, value) : Char × ByteString := way.headD ('l', ByteString.ofText "1000")
        let asked : List Char × ByteString := if kind != 'n' then ([], value)
          else match Format.chars value with
            | 'l' :: '/' :: rest => (['l'], Format.bytes rest)
            | 'r' :: '/' :: rest => (['r'], Format.bytes rest)
            | rest => ([], Format.bytes rest)
        let (mode, amount) := asked
        let which? : Option ByteString := if kind == 'n' && amount.contains 47 then
            some (amount.takeWhile (· ≠ 47)) else none
        let count : ByteString := if which?.isSome then (amount.dropWhile (· ≠ 47)).drop 1 else amount
        match sizeOf? count, which?.map Shell.natural? with
        | none, _ | some 0, _ =>
          let what := match kind with
            | 'l' => "lines"
            | 'n' => "chunks"
            | 'b' | 'C' => "bytes"
            | _ => "lines"
          refuse ("invalid number of " ++ what ++ ": " ++ quoted count)
        | _, some none => refuse ("invalid chunk number: " ++ quoted (which?.getD []))
        | some n, which =>
          match ← source input with
          | .error e => refuse ("cannot open " ++ quoted input ++ " for reading: " ++ e.message)
          | .ok fd => match ← Task.readAll fd with
            | .error e => refuse (named input ++ ": read error: " ++ e.message)
            | .ok data =>
              let bytes : List UInt8 := data.data.toList
              let mark : UInt8 := match o.value? 't' with
                | some w => if w = [92, 48] then 0 else w.headD 10
                | none => 10
              let lines : List (List UInt8) := markedLines mark bytes
              let pieces : List (List UInt8) := match kind, mode with
                | 'b', _ => parts n bytes
                | 'C', _ => linesWithin n lines
                | 'n', ['l'] => linesInPieces n bytes.length lines
                | 'n', ['r'] => (List.range n).map fun i => everyNth n i lines
                | 'n', _ => inPieces n bytes
                | _, _ => (parts n lines).map List.flatten
              match which with
              | some (some k) =>
                if k = 0 || n < k then refuse ("invalid chunk number: " ++ quoted (ByteString.ofText (toString k)))
                else c.putBytes ((pieces[k - 1]?).getD [])
              | _ =>
                let pieces := if o.has 'e' then pieces.filter (fun (p : List UInt8) => !p.isEmpty) else pieces
                let numeric := o.has 'd' || o.has 'D'
                let hex := o.has 'x' || o.has 'X'
                let start := ((o.value? 'D' <|> o.value? 'X').bind Shell.natural?).getD 0
                let digits := if numeric then "0123456789".toList
                  else if hex then "0123456789abcdef".toList else "abcdefghijklmnopqrstuvwxyz".toList
                let width? := (o.value? 'a').bind Shell.natural?
                let needed := ((List.range 12).find? fun w => pieces.length ≤ digits.length ^ w).getD 2
                let width := match width? with
                  | some w => if w = 0 then max 2 needed else w
                  | none => if kind == 'n' then max 2 needed else 2
                let naming : PieceNaming := {
                  stem := (o.operands[1]?).getD [120], ending := (o.value? 'S').getD [], digits, width, start
                  grows := width?.isNone && kind != 'n' && start = 0 }
                let limit := if naming.grows then pieces.length else digits.length ^ width - start
                for (piece, i) in pieces.zipIdx do
                  if i < limit then
                    if o.has 'v' then
                      let _ ← c.putText ("creating file " ++ quoted (naming.name i) ++ "\n")
                    if !(← writePiece c (naming.name i) piece) then return 1
                if limit < pieces.length then refuse "output file suffixes exhausted" else return 0

/-! ## Cutting where lines say so -/

/-- Where a file is cut. -/
inductive CutPlace where
  | line (n : Nat)
  /-- Where an expression fits, so many lines later; what comes before may be left out. -/
  | fitting (e : Expression) (offset : Int) (left : Bool)

/-- A place with the word that gives it, and how often it is looked for; none stands for as often as
it is found. -/
structure CutStep where
  word : ByteString
  place : CutPlace
  times : Option Nat := some 1

def CutStep.read (w : ByteString) : Except String CutStep :=
  match w with
  | d :: rest =>
    if d = 47 || d = 37 then
      let body := rest.takeWhile (· ≠ d)
      let tail := rest.drop body.length
      match tail with
      | [] => .error (plain w ++ ": closing delimiter '" ++ String.singleton (Char.ofNat d.toNat) ++ "' missing")
      | _ :: offset =>
        match Expression.read { extended := false } body, if offset.isEmpty then some 0 else Shell.integer? offset with
        | .error f, _ => .error (plain w ++ ": invalid regular expression: " ++ f.message)
        | _, none => .error (plain w ++ ": integer expected after delimiter")
        | .ok (e, _), some n => .ok { word := w, place := .fitting e n (d = 37) }
    else match Shell.natural? w with
      | some n => if n = 0 then .error (plain w ++ ": line number must be greater than zero")
        else .ok { word := w, place := .line n }
      | none => .error (quoted w ++ ": invalid pattern")
  | [] => .error "'': invalid pattern"

/-- The steps that words give; a number in braces repeats the step before it. -/
def cutSteps : List ByteString → List CutStep → Except String (List CutStep)
  | [], steps => .ok steps.reverse
  | w :: rest, steps =>
    match w, steps with
    | 123 :: inner, s :: before =>
      if inner = [42, 125] then cutSteps rest ({ s with times := none } :: before)
      else match Shell.natural? inner.dropLast with
        | some n => cutSteps rest ({ s with times := some (n + 1) } :: before)
        | none => .error (plain w ++ "\x7d: integer required between '\x7b' and '\x7d'")
    | _, _ => do cutSteps rest ((← CutStep.read w) :: steps)

/-- What cutting has come to: the lines that are left, the number of the next one, the pieces so
far, and why it went no further. -/
structure Cutting where
  lines : List (List UInt8)
  number : Nat := 1
  pieces : List (List UInt8) := []
  fault : Option String := none

/-- Cuts once; `round` tells how often the step was taken before. -/
def Cutting.cut (s : Cutting) (step : CutStep) (round : Nat) : Cutting :=
  let suffix := if round = 0 then "" else " on repetition " ++ toString round
  let takeUpTo (n : Nat) (left : Bool) : Cutting :=
    { s with
      lines := s.lines.drop n, number := s.number + n
      pieces := if left then s.pieces else s.pieces ++ [(s.lines.take n).flatten] }
  match step.place with
  | .line n =>
    let goal := n * (round + 1)
    if s.number ≤ goal && goal < s.number + s.lines.length then takeUpTo (goal - s.number) false
    else
      let rest := takeUpTo s.lines.length false
      { rest with fault := some (quoted step.word ++ ": line number out of range" ++ suffix) }
  | .fitting e offset left =>
    -- the line at which a piece begins is not looked at again
    let skipped := if s.pieces.isEmpty && s.number = 1 then 0 else 1
    let found := ((s.lines.drop skipped).findIdx? fun l =>
      e.isIn (if l.getLast? == some 10 then l.dropLast else l)).map (· + skipped)
    match found with
    | some i =>
      let goal := (i : Int) + offset
      if goal < 0 || (s.lines.length : Int) < goal then
        { s with fault := some (quoted step.word ++ ": line number out of range" ++ suffix) }
      else takeUpTo goal.toNat left
    | none =>
      let rest := takeUpTo s.lines.length left
      { rest with fault := some (quoted step.word ++ ": match not found" ++ suffix) }

/-- Takes a step as often as it says. -/
def Cutting.repeated (s : Cutting) (step : CutStep) : Nat → Nat → Cutting
  | 0, _ => s
  | fuel + 1, round =>
    if s.fault.isSome || step.times.any (· ≤ round) then s
    else
      let next := s.cut step round
      match step.times, next.fault with
      | none, some _ => s
      | _, _ => next.repeated step fuel (round + 1)

def csplit : Utility := fun c => c.withGrammar {
    flags := "ksqz", valued := "bfn"
    long := [("suffix-format", 'b'), ("prefix", 'f'), ("keep-files", 'k'), ("digits", 'n'), ("quiet", 's'),
      ("silent", 's'), ("elide-empty-files", 'z'), ("suppress-matched", 'm')] } fun o => do
  let refuse (message : String) : Task Nat := do
    c.complain message
    return 1
  match o.operands with
  | [] => c.misuse "missing operand"
  | [one] => c.misuse ("missing operand after " ++ quoted one)
  | path :: words => match cutSteps words [] with
    | .error message => refuse message
    | .ok steps =>
      match ← source path with
      | .error e => refuse ("cannot open " ++ quoted path ++ " for reading: " ++ e.message)
      | .ok fd => match ← Task.readAll fd with
        | .error e => refuse ("read error: " ++ e.message)
        | .ok data =>
          let lines := markedLines 10 data.data.toList
          let done := steps.foldl (fun (s : Cutting) step => s.repeated step (lines.length + 2) 0) { lines }
          let pieces : List (List UInt8) := match done.fault with
            | some _ => done.pieces
            | none => done.pieces ++ [done.lines.flatten]
          let pieces := if o.has 'z' then pieces.filter (!·.isEmpty) else pieces
          let width := ((o.value? 'n').bind Shell.natural?).getD 2
          let stem := (o.value? 'f').getD (ByteString.ofText "xx")
          let name (i : Nat) : ByteString := match o.value? 'b' with
            | some f => stem ++ (Format.print Format.plainDialect f [ByteString.ofText (toString i)]).output
            | none => stem ++ Format.bytes (Decimal.paddedDigits width i)
          let mut made : List ByteString := []
          for (piece, i) in pieces.zipIdx do
            if !(← writePiece c (name i) piece) then return 1
            made := made ++ [name i]
          let sizes := String.join (pieces.map fun p => toString p.length ++ "\n")
          let quiet := o.has 's' || o.has 'q'
          match done.fault with
          | none => if quiet then return 0 else c.putText sizes
          | some message =>
            c.complain message
            if !quiet then
              let _ ← c.putText sizes
            if !o.has 'k' then
              for n in made do
                let _ ← Task.change fun t here => t.unlink here n
            return 1

end ModuleForge.Host.Utility
