import ModuleForge.Host.Random
import ModuleForge.Host.Utility.Awk.Grammar
import ModuleForge.Host.Utility.Awk.Value
import ModuleForge.Host.Utility.Call

/-!
# What a program over records has at hand

Variables, tables, the record with its fields, and channels: files that are read or written, and
commands that are fed or listened to. The channel that was used last is the first one.
-/
namespace ModuleForge.Host.Utility.Awk

/-!
## Separators

What stands between the fields of a record, and between records. A single byte stands for itself
unless it is a blank, and other texts are expressions; an expression separates only where it fits
some text.
-/

inductive Separator where
  | blanks
  /-- Nothing stands between two characters. -/
  | nothing
  | byte (b : UInt8)
  | expression (e : Expression)
  deriving Inhabited

namespace Separator

def ofText : ByteString → Except String Separator
  | [] => .ok .nothing
  | [32] => .ok .blanks
  | [b] => .ok (.byte b)
  | s => (Parse.expression s).map .expression

/-- The parts between the places where an expression fits. -/
def partsBetween (e : Expression) (line : Array UInt8) : Nat → Nat → List ByteString
  | 0, start => [Expression.slice line start line.size]
  | fuel + 1, start =>
    match e.findFrom line start fun from_ until_ => from_ < until_ with
    | some f => Expression.slice line start f.start :: partsBetween e line fuel f.stop
    | none => [Expression.slice line start line.size]

/-- The parts of a text; an empty text has none. -/
def split (s : Separator) (text : ByteString) : List ByteString :=
  if text.isEmpty then []
  else match s with
    | .blanks => Call.blankWords text
    | .nothing => text.map fun b => [b]
    | .byte b => Call.cells (· == b) text
    | .expression e => partsBetween e text.toArray text.length 0

/-! ## Records -/

/-- The place of a byte from some place on. -/
def placeOf (b : UInt8) (data : ByteArray) (start : Nat) : Nat → Option Nat
  | 0 => none
  | n + 1 => if start < data.size && data[start]! == b then some start else placeOf b data (start + 1) n

/-- A part of some data as text. -/
def cut (data : ByteArray) (start stop : Nat) : ByteString := (data.extract start stop).data.toList

/-- What a separator of records makes of data from a place on. -/
inductive Piece where
  /-- A record, and the place behind what ends it. -/
  | record (text : ByteString) (next : Nat)
  /-- More data may change what the next record is. -/
  | unclear
  /-- There is no record. -/
  | none

/-- The record before a gap in the data that an expression describes. -/
def recordBefore (e : Expression) (data : ByteArray) (start : Nat) (isEnded : Bool) : Piece :=
  match e.findFrom data.data start fun from_ until_ => from_ < until_ with
  | some f => if f.stop < data.size || isEnded then .record (cut data start f.start) f.stop else .unclear
  | none => if isEnded then .record (cut data start data.size) data.size else .unclear

/-- Several line ends in a row, which stand between paragraphs. -/
def gap : Expression := .both (.byte (· == 10)) (.many 1 none (.byte (· == 10)))

/-- The next record in data from a place on; `isEnded` tells that no more data will come. -/
def record (s : Separator) (data : ByteArray) (start : Nat) (isEnded : Bool) : Piece :=
  if data.size ≤ start then if isEnded then .none else .unclear
  else
    let upTo (b : UInt8) : Piece :=
      match placeOf b data start (data.size - start) with
      | some i => .record (cut data start i) (i + 1)
      | none => if isEnded then .record (cut data start data.size) data.size else .unclear
    match s with
    | .blanks => upTo 32
    | .byte b => upTo b
    | .expression e => recordBefore e data start isEnded
    | .nothing =>
      let first := start + ((cut data start data.size).takeWhile (· == 10)).length
      if data.size ≤ first then if isEnded then .none else .unclear
      else match recordBefore gap data first isEnded with
        | .record text next =>
          .record (if next = data.size && text.getLast? == some 10 then text.dropLast else text) next
        | piece => piece

end Separator

/-! ## Channels -/

inductive ChannelKind where
  /-- A file that is read. -/
  | source
  /-- A command whose output is read. -/
  | command
  /-- A file that is written. -/
  | sink
  /-- A command that is fed. -/
  | fed
  deriving DecidableEq, Inhabited

namespace ChannelKind

def isWritten (k : ChannelKind) : Bool := k == .sink || k == .fed

end ChannelKind

structure Channel where
  name : ByteString
  kind : ChannelKind
  descriptor : Nat
  /-- What was read and not yet handed out, or not yet written. -/
  data : ByteArray := .empty
  /-- How much of the data was handed out. -/
  used : Nat := 0
  isEnded : Bool := false
  /-- The process of a command. -/
  process : Nat := 0
  deriving Inhabited

namespace Channel

/-- How much is read at once. -/
def chunk : Nat := 4096

/-- Reads until there is a whole chunk or the end. -/
def fill (descriptor : Nat) : Nat → ByteArray → Task (Except Errno (ByteArray × Bool))
  | 0, sofar => return .ok (sofar, false)
  | fuel + 1, sofar => do
    if chunk ≤ sofar.size then return .ok (sofar, false)
    match ← Task.read descriptor (chunk - sofar.size) with
    | .error e => return .error e
    | .ok data => if data.isEmpty then return .ok (sofar, true) else fill descriptor fuel (sofar ++ data)

/-- The next record of a channel. -/
def next (s : Separator) : Nat → Channel → Task (Except Errno (Option ByteString × Channel))
  | 0, c => return .ok (none, c)
  | fuel + 1, c => do
    match s.record c.data c.used c.isEnded with
    | .record text used => return .ok (some text, { c with used })
    | .none => return .ok (none, c)
    | .unclear => match ← fill c.descriptor (chunk + 1) .empty with
      | .error e => return .error e
      | .ok (more, isEnded) =>
        next s fuel { c with data := c.data.extract c.used c.data.size ++ more, used := 0, isEnded }

end Channel

/-! ## Memory -/

/-- What a place of a call holds. -/
inductive Place where
  | value (v : Value)
  | table (n : Nat)
  deriving Inhabited

/-- How far the main input was read. -/
inductive MainInput where
  /-- Nothing was opened yet. -/
  | fresh
  | open_ (c : Channel)
  /-- A file has ended; the next one is to be opened. -/
  | between
  | ended

structure Memory where
  program : Program
  call : Call
  values : Array Value
  tables : Array Table
  frame : Array Place := #[]
  /-- The record, unless it is to be made from its fields. -/
  record : Option Value := some (.input [])
  /-- The fields of the record, if it has been split. -/
  fields : Option (Array Value) := some #[]
  fieldSeparator : Separator := .blanks
  recordSeparator : Separator := .byte 10
  main : MainInput := .fresh
  /-- The number of the next argument to be read from. -/
  nextArgument : Nat := 1
  channels : List Channel := [
    { name := "/dev/stdout", kind := .sink, descriptor := 1 },
    { name := "/dev/stderr", kind := .sink, descriptor := 2 }]
  /-- Which of the rules with a first and a last record are in between. -/
  within : Array Bool := #[]
  /-- The expressions that were read so far. -/
  expressions : Std.HashMap ByteString Expression := ∅
  randoms : List UInt32 := Random.row 1
  seed : Value := .number 1
  code : Nat := 0
  /-- How many steps have been done. -/
  steps : Nat := 0

/-- Why a part of a program is left. -/
inductive Departure where
  | next | nextFile | exit
  /-- The whole program ends at once. -/
  | abort (code : Nat)

/-- Parts of programs. -/
abbrev Machine := ExceptT Departure (StateT Memory Task)

namespace Machine

def task (t : Task α) : Machine α := ExceptT.lift (StateT.lift t)

/-- Counts a step, and lets other processes run from time to time. -/
def count : Machine Unit := do
  let s ← get
  set { s with steps := s.steps + 1 }
  if s.steps % 32 = 31 then task (Task.spend 3000)

/-- Complains under the name of the program. -/
def complain (message : String) : Machine Unit := do
  task ((← get).call.complain message)

/-- Ends the program with a complaint. -/
def abort (message : String) : Machine α := do
  complain message
  throw (.abort 2)

/-! ## Variables -/

def value (v : Nat) : Machine Value := return (← get).values.getD v .unset

def setValue (v : Nat) (x : Value) : Machine Unit := modify fun s => { s with values := s.values.set! v x }

/-- The text of a value in a place where no format is set. -/
def textOf (v : Value) : Machine ByteString := do
  match v with
  | .number _ => return v.toText ((← value Special.numberFormat).toText [])
  | _ => return v.toText []

def textOfValue (v : Nat) : Machine ByteString := do textOf (← value v)

/-- The text of a value that is printed. -/
def printedText (v : Value) : Machine ByteString := do
  match v with
  | .number _ => return v.toText ((← value Special.outputFormat).toText [])
  | _ => return v.toText []

/-- Ends the program with a complaint that tells how far the input was read. -/
def fault (message : String) : Machine α := do
  let file ← textOfValue Special.fileName
  let number (v : Nat) : Machine String := return Text.lossy ((Value.number (← value v).toFloat).toText [])
  let inFile ← number Special.fileRecordNumber
  let inAll ← number Special.recordNumber
  abort ("run time error: " ++ message ++ "\n\tFILENAME=\"" ++ Text.lossy file ++ "\" FNR=" ++ inFile
    ++ " NR=" ++ inAll)

/-! ## Expressions -/

/-- The expression that a text is. -/
def expressionOf (s : ByteString) : Machine Expression := do
  match (← get).expressions[s]? with
  | some e => return e
  | none => match Parse.expression s with
    | .error message => fault message
    | .ok e =>
      modify fun m => { m with expressions := m.expressions.insert s e }
      return e

def separatorOf (s : ByteString) : Machine Separator := do
  match s with
  | [] | [_] => match Separator.ofText s with
    | .ok x => return x
    | .error message => fault message
  | _ => return .expression (← expressionOf s)

/-! ## Fields -/

/-- The fields of the record. -/
def fields : Machine (Array Value) := do
  let s ← get
  match s.fields with
  | some fields => return fields
  | none =>
    let text ← textOf (s.record.getD .unset)
    let fields := ((s.fieldSeparator.split text).map Value.input).toArray
    modify fun m => { m with
      fields := some fields, values := m.values.set! Special.fieldCount (.ofNat fields.size) }
    return fields

/-- The record, made from its fields if one of them was changed. -/
def record : Machine Value := do
  match (← get).record with
  | some v => return v
  | none =>
    let mark ← textOfValue Special.outputFieldSeparator
    let texts ← (← fields).toList.mapM textOf
    let v := Value.input (List.intercalate mark texts)
    modify fun m => { m with record := some v }
    return v

def setRecord (v : Value) : Machine Unit := modify fun m => { m with record := some v, fields := none }

def field (n : Nat) : Machine Value := do
  if n = 0 then record else return (← fields).getD (n - 1) (.text [])

/-- Makes the record one of `n` fields. -/
def setFieldCount (n : Nat) : Machine Unit := do
  let old ← fields
  let missing := Array.replicate (n - old.size) (Value.text [])
  modify fun m => { m with record := none, fields := some (old.extract 0 n ++ missing) }

def setField (n : Nat) (v : Value) : Machine Unit := do
  if n = 0 then setRecord v
  else
    if (← fields).size < n then
      setFieldCount n
      setValue Special.fieldCount (.ofNat n)
    let now ← fields
    modify fun m => { m with record := none, fields := some (now.set! (n - 1) v) }

/-- The number of a field. -/
def fieldNumber (x : Float) : Machine Nat := do
  if x < 0 then fault ("negative field index $" ++ Text.lossy (Value.shown (ByteString.ofText "%.6g") x))
  return x.toUInt64.toNat

/-- Reads a variable of the program. -/
def readShared (v : Nat) : Machine Value := do
  if v = Special.fieldCount then
    let _ ← fields
  value v

/-- Writes a variable of the program; some of them change how records are taken apart. -/
def writeShared (v : Nat) (x : Value) : Machine Unit := do
  if v = Special.fieldSeparator then
    let _ ← fields
    setValue v x
    let fieldSeparator ← separatorOf (← textOf x)
    modify fun m => { m with fieldSeparator }
  else if v = Special.recordSeparator then
    setValue v x
    let recordSeparator ← separatorOf (← textOf x)
    modify fun m => { m with recordSeparator }
  else if v = Special.fieldCount then
    let n := x.toFloat
    if n < 0 then fault "negative value assigned to NF"
    setFieldCount n.toUInt64.toNat
    setValue v x
  else setValue v x

end Machine
end ModuleForge.Host.Utility.Awk
