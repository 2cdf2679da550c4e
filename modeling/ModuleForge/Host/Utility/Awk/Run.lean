import ModuleForge.Host.Utility.Awk.Channels
import ModuleForge.Host.Utility.Awk.Formatted

/-!
# Running programs over records

Terms give values, statements are done one after the other, and rules are applied to one record
after the other. The fuel of each function is enough for any program that ends.
-/
namespace ModuleForge.Host.Utility.Awk

/-- How a statement goes on. -/
inductive Course where
  | on | break_ | continue_
  | return_ (v : Value)

/-- A place in memory. -/
inductive Spot where
  | shared (v : Nat)
  | own (n : Nat)
  | field (n : Nat)
  | item (table : Nat) (key : Key)

namespace Machine

/-! ## Tables and places -/

/-- The number of the table of a variable. -/
def tableOf (v : Variable) : Machine Nat := do
  match v with
  | .shared n => return n
  | .own n => match (← get).frame[n]? with
    | some (.table t) => return t
    | _ =>
      -- a place that turns out to hold a table
      let t := (← get).tables.size
      modify fun s => { s with tables := s.tables.push {}, frame := s.frame.set! n (.table t) }
      return t

def changeTable (t : Nat) (f : Table → α × Table) : Machine α := do
  let s ← get
  let table := s.tables.getD t {}
  let s := { s with tables := s.tables.set! t {} }
  let (a, table) := f table
  set { s with tables := s.tables.set! t table }
  return a

/-- The key that a value is: whole numbers of a moderate size are looked for as numbers. -/
def keyOf (v : Value) : Machine Key := do
  match v with
  | .number x =>
    match Value.integer? x with
    | some n => if -2147483648 < n && n ≤ 2147483647 then return .number n else return .text (← textOf v)
    | none => return .text (← textOf v)
  | _ => return .text (← textOf v)

def readSpot : Spot → Machine Value
  | .shared v => readShared v
  | .own n => do match (← get).frame[n]? with
    | some (.value v) => return v
    | _ => return .unset
  | .field n => field n
  | .item t key => changeTable t (·.get key)

def writeSpot (spot : Spot) (v : Value) : Machine Unit := do
  match spot with
  | .shared n => writeShared n v
  | .own n => modify fun s => { s with frame := s.frame.set! n (.value v) }
  | .field n =>
    setField n v
    if n = 0 then
      let _ ← fields
  | .item t key => changeTable t fun table => ((), table.set key v)

/-! ## What is known without being defined -/

/-- A part of a text, from a place that counts from 1. -/
def part (text : ByteString) (start : Float) (length : Option Float) : ByteString :=
  let whole (x : Float) : Int := Value.bounded (-2147483648) 2147483647 x
  let first := whole start
  let stop := match length with
    | some n => first + whole n
    | none => 2147483648
  let from_ := (max first 1).toNat
  (text.drop (from_ - 1)).take (stop - max first 1).toNat

/-- The place of a text in another one, counted from 1; 0 if it is not there. -/
def placeWithin (wanted : ByteString) : Nat → ByteString → Nat
  | n, [] => if wanted.isEmpty then n else 0
  | n, b :: rest => if wanted.isPrefixOf (b :: rest) then n else placeWithin wanted (n + 1) rest

def mapLetters (f : Char → Char) (text : ByteString) : ByteString :=
  text.map fun b => if b < 128 then UInt8.ofNat (f (Char.ofNat b.toNat)).toNat else b

/-- What a value without arguments that need places gives. -/
def applyPure (b : Builtin) (vs : List Value) : Machine Value := do
  let number (i : Nat) : Float := (vs.getD i .unset).toFloat
  let text (i : Nat) : Machine ByteString := textOf (vs.getD i .unset)
  let ofNumber (f : Float → Float) : Machine Value := return .number (f (number 0))
  match b with
  | .length => return .ofNat (← text 0).length
  | .index =>
    let wanted ← text 1
    let whole ← text 0
    return .ofNat (if wanted.isEmpty then 0 else placeWithin wanted 1 whole)
  | .substr =>
    let whole ← text 0
    return .text (part whole (number 1) ((vs[2]?).map (·.toFloat)))
  | .sin => ofNumber Float.sin
  | .cos => ofNumber Float.cos
  | .atan2 => return .number (Float.atan2 (number 0) (number 1))
  | .exp => ofNumber Float.exp
  | .log => ofNumber Float.log
  | .sqrt => ofNumber Float.sqrt
  | .int => ofNumber fun x => if x < 0 then x.ceil else x.floor
  | .tolower => return .text (mapLetters Char.toLower (← text 0))
  | .toupper => return .text (mapLetters Char.toUpper (← text 0))
  | .rand =>
    let (n, randoms) := Random.next (← get).randoms
    modify fun s => { s with randoms }
    return .number (Float.ofNat n / 2147483647)
  | .srand =>
    let old := (← get).seed
    let seed := vs.getD 0 (.number 1)
    let words := match seed with
      | .text s | .input s => Table.mark s
      | v => (Value.unsigned v.toFloat) % 4294967296
    modify fun s => { s with seed, randoms := Random.row words }
    return old
  | .close => match ← closeNamed (← text 0) with
    | some status => return .ofNat status
    | none => return .number (-1)
  | .system => return .ofNat (← runCommand (← text 0))
  | .fflush =>
    match vs with
    | [] => flushStandard; return .number 0
    | _ =>
      let name ← text 0
      let isOpen := name.isEmpty || (← get).channels.any fun c => c.name == name && c.kind.isWritten
      flushAll
      return .number (if isOpen then 0 else -1)
  | .sprintf =>
    let format ← text 0
    let (result, fault?) := formatted (← textOfValue Special.numberFormat) format (vs.drop 1)
    match fault? with
    | some f => fault (f.message "sprintf" format)
    | none => return .text result
  | _ => return .number 0

/-! ## Terms -/

mutual

def term : Nat → Term → Machine Value
  | 0, _ => return .unset
  | fuel + 1, e => do
    count
    match e with
    | .number x => return .number x
    | .text s => return .text s
    | .pattern p => return .ofBool (p.isIn (← textOf (← field 0)))
    | .variable_ _ | .field _ | .item .. => readSpot (← spot fuel e)
    | .group a => term fuel a
    | .assign target operation value =>
      let place ← spot fuel target
      let v ← term fuel value
      let v ← match operation with
        | none => pure v
        | some o => pure (Value.number (o.apply (← readSpot place).toFloat v.toFloat))
      writeSpot place v
      return v
    | .choose c yes no => if ← holds fuel c then term fuel yes else term fuel no
    | .both a b => if ← holds fuel a then return .ofBool (← holds fuel b) else return .number 0
    | .either a b => if ← holds fuel a then return .number 1 else return .ofBool (← holds fuel b)
    | .not a => return .ofBool (!(← holds fuel a))
    | .negate a => return .number (-(← term fuel a).toFloat)
    | .plus a => return .number (← term fuel a).toFloat
    | .compute o a b =>
      let x ← term fuel a
      let y ← term fuel b
      return .number (o.apply x.toFloat y.toFloat)
    | .compare how a b =>
      let x ← term fuel a
      let y ← term fuel b
      return .ofBool (Value.isBetween (← textOfValue Special.numberFormat) how x y)
    | .join a b =>
      let x ← textOf (← term fuel a)
      let y ← textOf (← term fuel b)
      return .text (x ++ y)
    | .fits a p =>
      let text ← textOf (← term fuel a)
      return .ofBool ((← expression fuel p).isIn text)
    | .has table keys =>
      let key ← keysOf fuel keys
      return .ofBool (← changeTable (← tableOf table) (·.has key))
    | .step target amount after =>
      let place ← spot fuel target
      let old := (← readSpot place).toFloat
      writeSpot place (.number (old + amount))
      return .number (if after then old + amount else old)
    | .call f arguments => callFunction fuel f arguments
    | .apply b arguments => apply fuel b arguments
    | .nextRecord target file command => nextRecordInto fuel target file command

/-- Whether a term holds. -/
def holds : Nat → Term → Machine Bool
  | 0, _ => return false
  | fuel + 1, e => return (← term fuel e).isTrue

/-- The place that a term is. -/
def spot : Nat → Term → Machine Spot
  | 0, _ => return .field 0
  | fuel + 1, e => do
    match e with
    | .variable_ (.shared v) => return .shared v
    | .variable_ (.own n) => return .own n
    | .field n => return .field (← fieldNumber (← term fuel n).toFloat)
    | .item table keys =>
      let key ← keysOf fuel keys
      let t ← tableOf table
      changeTable t fun table => ((), (table.get key).2)
      return .item t key
    | .group a => spot fuel a
    | _ => return .field 0

/-- The key that some terms are. -/
def keysOf : Nat → List Term → Machine Key
  | 0, _ => return .text []
  | fuel + 1, keys => do
    match keys with
    | [k] => keyOf (← term fuel k)
    | _ =>
      let texts ← (← terms fuel keys).mapM textOf
      return .text (List.intercalate (← textOfValue Special.keySeparator) texts)

def terms : Nat → List Term → Machine (List Value)
  | 0, _ => return []
  | _ + 1, [] => return []
  | fuel + 1, e :: rest => do
    let v ← term fuel e
    return v :: (← terms fuel rest)

/-- The expression that a term stands for. -/
def expression : Nat → Term → Machine Expression
  | 0, _ => return .nothing
  | fuel + 1, e => do
    match e with
    | .pattern p => return p
    | e => expressionOf (← textOf (← term fuel e))

/-- What a function is handed for each of its places; the flags tell which of them hold tables. -/
def places : Nat → List Bool → List Term → Machine (List Place)
  | 0, _, _ => return []
  | _ + 1, [], _ => return []
  | fuel + 1, isTable :: kinds, arguments => do
    let newTable : Machine Place := do
      let t := (← get).tables.size
      modify fun s => { s with tables := s.tables.push {} }
      return .table t
    let place ← match arguments.head? with
      | none => if isTable then newTable else pure (.value .unset)
      | some (.variable_ v) =>
        let s ← get
        let holdsTable := isTable || (match v with
          | .shared n => (s.tables[n]?).any fun t => t.size ≠ 0
          | .own n => match s.frame[n]? with
            | some (.table _) => true
            | _ => false)
        if holdsTable then return (.table (← tableOf v)) :: (← places fuel kinds (arguments.drop 1))
        else pure (.value (← term fuel (.variable_ v)))
      | some e => if isTable then newTable else pure (.value (← term fuel e))
    return place :: (← places fuel kinds (arguments.drop 1))

def callFunction : Nat → Nat → List Term → Machine Value
  | 0, _, _ => return .unset
  | fuel + 1, n, arguments => do
    let s ← get
    match s.program.functions[n]? with
    | none => return .unset
    | some f =>
      let frame ← places fuel f.tables arguments
      let tables := s.tables.size
      -- what the places refer to in the calling frame may have become tables by now
      let calling := (← get).frame
      modify fun s => { s with frame := frame.toArray }
      let course ← statements fuel f.body
      modify fun s => { s with
        frame := calling
        tables := if calling.any (fun p => match p with
            | .table t => tables ≤ t
            | _ => false) then s.tables else s.tables.extract 0 tables }
      match course with
      | .return_ v => return v
      | _ => return .unset

def apply : Nat → Builtin → List Term → Machine Value
  | 0, _, _ => return .unset
  | fuel + 1, b, arguments => do
    match b, arguments with
    | .length, [] => return .ofNat (← textOf (← field 0)).length
    | .length, [.variable_ v] =>
      let s ← get
      let table? : Option Nat := match v with
        | .shared n => if (s.tables[n]?).any fun t => t.size ≠ 0 then some n else none
        | .own n => match s.frame[n]? with
          | some (.table t) => some t
          | _ => none
      match table? with
      | some t => return .ofNat (s.tables.getD t {}).size
      | none => return .ofNat (← textOf (← term fuel (.variable_ v))).length
    | .split, text :: .variable_ table :: rest =>
      let text ← textOf (← term fuel text)
      let separator ← match rest with
        | [] => pure (← get).fieldSeparator
        | .pattern p :: _ => pure (Separator.expression p)
        | e :: _ => separatorOf (← textOf (← term fuel e))
      let parts := separator.split text
      changeTable (← tableOf table) fun _ => ((), Table.ofList (parts.map .input))
      return .ofNat parts.length
    | .match_, [text, pattern] =>
      let text ← textOf (← term fuel text)
      let (start, length) := match (← expression fuel pattern).find? text with
        | some f => (Float.ofNat (f.start + 1), Float.ofNat (f.stop - f.start))
        | none => (0, -1)
      setValue Special.matchStart (.number start)
      setValue Special.matchLength (.number length)
      return .number start
    | .sub, pattern :: replacement :: rest => substitute fuel false pattern replacement (rest.headD (.field (.number 0)))
    | .gsub, pattern :: replacement :: rest => substitute fuel true pattern replacement (rest.headD (.field (.number 0)))
    | b, arguments => applyPure b (← terms fuel arguments)

def substitute : Nat → Bool → Term → Term → Term → Machine Value
  | 0, _, _, _, _ => return .unset
  | fuel + 1, everywhere, pattern, replacement, target => do
    let e ← expression fuel pattern
    let new ← textOf (← term fuel replacement)
    let isPlace := Parse.isPlace target
    let place ← if isPlace then spot fuel target else pure (.field 0)
    let text ← textOf (← if isPlace then readSpot place else term fuel target)
    let (result, n) := substituted e new everywhere text
    if n ≠ 0 && isPlace then writeSpot place (.text result)
    return .ofNat n

/-- Reads a record: 1 if there was one, 0 at the end, −1 if there is no such file. -/
def nextRecordInto : Nat → Option Term → Option Term → Option Term → Machine Value
  | 0, _, _, _ => return .unset
  | fuel + 1, target, file, command => do
    let place ← match target with
      | some t => spot fuel t
      | none => pure (.field 0)
    match file, command with
    | none, none => match ← nextRecord with
      | some text => writeSpot place (.input text); return .number 1
      | none => return .number 0
    | file, command =>
      let kind : ChannelKind := if file.isSome then .source else .command
      let name ← textOf (← term fuel (file.getD (command.getD (.text []))))
      match ← channel name kind with
      | none => return .number (-1)
      | some c =>
        let (text?, c) ← nextOf c
        keepFirst c
        match text? with
        | some text => writeSpot place (.input text); return .number 1
        | none => return .number 0

def statements : Nat → List Statement → Machine Course
  | 0, _ => return .on
  | _ + 1, [] => return .on
  | fuel + 1, s :: rest => do
    match ← statement fuel s with
    | .on => statements fuel rest
    | course => return course

/-- Hands text to where it is to go. -/
def putTo : Nat → Option Target → ByteString → Machine Unit
  | 0, _, _ => return
  | fuel + 1, target, text => do
    let (name, kind, appends) ← match target with
      | none => return ← putStandard text
      | some (.file e appends) => pure (← textOf (← term fuel e), ChannelKind.sink, appends)
      | some (.command e) => pure (← textOf (← term fuel e), ChannelKind.fed, false)
    match ← channel name kind appends with
    | none => return
    | some c => keepFirst (← put c text)

def statement : Nat → Statement → Machine Course
  | 0, _ => return .on
  | fuel + 1, s => do
    count
    match s with
    | .evaluate e => let _ ← term fuel e; return .on
    | .print values target =>
      let values ← if values.isEmpty then pure [← field 0] else terms fuel values
      let texts ← values.mapM printedText
      let between ← textOfValue Special.outputFieldSeparator
      let behind ← textOfValue Special.outputRecordSeparator
      putTo fuel target (List.intercalate between texts ++ behind)
      return .on
    | .printf values target =>
      match ← terms fuel values with
      | [] => return .on
      | format :: values =>
        let format ← textOf format
        let (text, fault?) := formatted (← textOfValue Special.numberFormat) format values
        putTo fuel target text
        match fault? with
        | some f => fault (f.message "printf" format)
        | none => return .on
    | .block inner => statements fuel inner
    | .if_ c yes no => if ← holds fuel c then statements fuel yes else statements fuel no
    | .while_ c inner => repeated fuel (some c) none inner
    | .doWhile inner c =>
      match ← statements fuel inner with
      | .break_ => return .on
      | .return_ v => return .return_ v
      | _ => repeated fuel (some c) none inner
    | .for_ start c step inner =>
      if let some e := start then
        let _ ← term fuel e
      repeated fuel c step inner
    | .forEach key table inner =>
      let keys ← changeTable (← tableOf table) (·.keys)
      forKeys fuel key keys inner
    | .break_ => return .break_
    | .continue_ => return .continue_
    | .next => throw .next
    | .nextFile => throw .nextFile
    | .exit code =>
      if let some e := code then
        let v ← term fuel e
        modify fun s => { s with code := (BitVec.ofInt 8 (Value.bounded (-2147483648) 2147483647 v.toFloat)).toNat }
      throw .exit
    | .return_ none => return .return_ .unset
    | .return_ (some e) => return .return_ (← term fuel e)
    | .delete table keys =>
      let t ← tableOf table
      match keys with
      | none => changeTable t fun _ => ((), {})
      | some keys =>
        let key ← keysOf fuel keys
        changeTable t fun table => ((), table.erase key)
      return .on

/-- Does statements as long as a term holds, and something behind them each time. -/
def repeated : Nat → Option Term → Option Term → List Statement → Machine Course
  | 0, _, _, _ => return .on
  | fuel + 1, condition, step, inner => do
    count
    let goesOn ← match condition with
      | some c => holds fuel c
      | none => pure true
    if !goesOn then return .on
    match ← statements fuel inner with
    | .break_ => return .on
    | .return_ v => return .return_ v
    | _ =>
      if let some e := step then
        let _ ← term fuel e
      repeated fuel condition step inner

def forKeys : Nat → Variable → List ByteString → List Statement → Machine Course
  | 0, _, _, _ => return .on
  | _ + 1, _, [], _ => return .on
  | fuel + 1, key, k :: rest, inner => do
    writeSpot (match key with
      | .shared v => .shared v
      | .own n => .own n) (.text k)
    match ← statements fuel inner with
    | .break_ => return .on
    | .return_ v => return .return_ v
    | _ => forKeys fuel key rest inner

end

/-! ## Rules -/

/-- Forgets the calls that were left early. -/
def leaveCalls : Machine Unit := modify fun s => { s with
  frame := #[], tables := s.tables.extract 0 s.program.names.size }

def body (r : Rule) : Machine Unit := do
  match r.body with
  | some inner => let _ ← statements Task.patience inner
  | none => let _ ← statement Task.patience (.print [] none)

/-- Whether the record is from one for which the first term holds to one for which the second
does. -/
def isWithin (n : Nat) (first last : Term) : Machine Bool := do
  let open_ := (← get).within.getD n false
  if !open_ && !(← holds Task.patience first) then return false
  let ends ← holds Task.patience last
  modify fun s => { s with within := s.within.set! n (!ends) }
  return true

def rulesFrom : Nat → List Rule → Machine Unit
  | _, [] => return
  | n, r :: rest => do
    let applies : Bool ← match r.condition with
      | .always => pure true
      | .holds e => holds Task.patience e
      | .between first last => isWithin n first last
    if applies then body r
    rulesFrom (n + 1) rest

/-- Applies the rules to one record after the other. -/
def records (rules : List Rule) : Nat → Machine Unit
  | 0 => return
  | fuel + 1 => do
    count
    match ← nextRecord with
    | none => return
    | some text =>
      setRecord (.input text)
      let step : Machine Unit := rulesFrom 0 rules
      tryCatch step fun d => match d with
        | .next => leaveCalls
        | .nextFile => do
          leaveCalls
          leaveFile
        | d => throw d
      records rules fuel

/-- What is done before the first record and what is done with the records. -/
def beginning : Machine Unit := do
  let p := (← get).program
  for inner in p.start do
    let _ ← statements Task.patience inner
  if !(p.rules.isEmpty && p.finish.isEmpty) then records p.rules Task.patience

/-- What is done behind the last record. -/
def ending : Machine Unit := do
  leaveCalls
  for inner in (← get).program.finish do
    let _ ← statements Task.patience inner

/-- Runs the program: its exit code. -/
def run : Machine Nat := do
  let final : Machine Nat := do
    tryCatch beginning fun d => match d with
      | .abort code => throw (.abort code)
      | _ => pure ()
    tryCatch ending fun d => match d with
      | .abort code => throw (.abort code)
      | _ => pure ()
    return (← get).code
  let code ← tryCatch final fun d => match d with
    | .abort code => pure code
    | _ => pure 2
  closeWritten
  return code

end Machine

/-!
## The command for programs over records

What `awk` is called with: options, the program itself unless it stands in a file, and arguments,
which name the files of the main input or set variables.
-/

def usage : String :=
  "Usage: mawk [Options] [Program] [file ...]\n" ++
  "\n" ++
  "Program:\n" ++
  "    The -f option value is the name of a file containing program text.\n" ++
  "    If no -f option is given, a \"--\" ends option processing; the following\n" ++
  "    parameters are the program text.\n" ++
  "\n" ++
  "Options:\n" ++
  "    -f program-file  Program  text is read from file instead of from the\n" ++
  "                     command-line.  Multiple -f options are accepted.\n" ++
  "    -F value         sets the field separator, FS, to value.\n" ++
  "    -v var=value     assigns value to program variable var.\n" ++
  "    --               unambiguous end of options.\n" ++
  "\n" ++
  "    Implementation-specific options are prefixed with \"-W\".  They can be\n" ++
  "    abbreviated:\n" ++
  "\n" ++
  "    -W version       show version information and exit.\n" ++
  "    -W dump          show assembler-like listing of program and exit.\n" ++
  "    -W help          show this message and exit.\n" ++
  "    -W interactive   set unbuffered output, line-buffered input.\n" ++
  "    -W exec file     use file as program as well as last option.\n" ++
  "    -W posix         stricter POSIX checking.\n" ++
  "    -W random=number set initial random seed.\n" ++
  "    -W sprintf=number adjust size of sprintf buffer.\n" ++
  "    -W usage         show this message and exit.\n"

/-- What the options say. -/
structure Setting where
  separator : Option ByteString := none
  assignments : List (String × ByteString) := []
  files : List ByteString := []
  rest : List ByteString := []
  /-- What is to be complained about before the program runs. -/
  warnings : List String := []

/-- How reading the options ends. -/
inductive Choice where
  | run (s : Setting)
  | help
  | version
  | wrong (message : String)

/-- The choice for an option that is spelled out. -/
def Choice.ofWord (shown word : ByteString) (goOn : List String → Choice) : Choice :=
  let name := Format.chars (word.takeWhile (· != 61))
  let isFor (full : String) : Bool := !name.isEmpty && name.isPrefixOf full.toList
  if isFor "help" || isFor "usage" then .help
  else if isFor "version" then .version
  else if ["posix", "interactive", "random", "sprintf", "compat"].any isFor then goOn []
  else if shown.take 1 == [45] then .wrong ("not an option: " ++ Text.lossy shown)
  else goOn ["vacuous option: -W \"" ++ Text.lossy word ++ "\""]

/-- Reads the options of a call. -/
def Choice.read : Nat → Setting → List ByteString → Choice
  | 0, s, words => .run { s with rest := words }
  | fuel + 1, s, words => match words with
    | [45, 45] :: rest => .run { s with rest }
    | (45 :: 45 :: word) :: rest => .ofWord (45 :: 45 :: word) word fun warnings =>
      read fuel { s with warnings := s.warnings ++ warnings } rest
    | (45 :: letter :: more) :: rest =>
      let c := Char.ofNat letter.toNat
      if "FvfW".toList.contains c then
        let given : Option (ByteString × List ByteString) :=
          if more.isEmpty then rest.head?.map fun w => (w, rest.drop 1) else some (more, rest)
        match given with
        | none => .wrong ("option -" ++ String.singleton c ++ " lacks argument")
        | some (w, rest) =>
          if c == 'F' then read fuel { s with separator := some (textOf (Format.chars w)) } rest
          else if c == 'f' then read fuel { s with files := s.files ++ [w] } rest
          else if c == 'W' then .ofWord w w fun warnings =>
            read fuel { s with warnings := s.warnings ++ warnings } rest
          else match Machine.assignment? w with
            | some a => read fuel { s with assignments := s.assignments ++ [a] } rest
            | none => .wrong ("improper assignment: -v " ++ Text.lossy w)
      else .wrong ("not an option: " ++ Text.lossy (45 :: letter :: more))
    | words => .run { s with rest := words }

/-- The text of a program that stands in files. -/
def sourceOf (c : Call) : List ByteString → Task (Option ByteString)
  | [] => return some []
  | f :: rest => do
    match ← Call.source f with
    | .error e =>
      c.complain ("cannot open \"" ++ Text.lossy f ++ "\" (" ++ e.message ++ ")")
      return none
    | .ok fd => match ← Task.readAll fd with
      | .error e =>
        c.complain ("read error (" ++ e.message ++ ")")
        return none
      | .ok data =>
        if fd ≠ 0 then
          let _ ← Task.close fd
        return (← sourceOf c rest).map fun more => data.data.toList ++ more

/-- What a program starts with. -/
def Memory.ofCall (c : Call) (p : Program) (arguments : List ByteString) : Memory :=
  let count := p.names.size
  let environment := c.environment.foldl (fun (t : Table) (name, value) => t.set (.text name) (.input value)) {}
  let (table, _) := arguments.foldl (fun (t, n) w => (Table.set t (.number n) (.input w), n + 1))
    (({} : Table).set (.number 0) (.text (ByteString.ofText c.program)), (1 : Int))
  let text (s : String) : Value := .text (ByteString.ofText s)
  let values := [
    (Special.fieldCount, Value.number 0), (Special.recordNumber, .number 0), (Special.fileRecordNumber, .number 0),
    (Special.fieldSeparator, text " "), (Special.outputFieldSeparator, text " "),
    (Special.outputRecordSeparator, text "\n"), (Special.recordSeparator, text "\n"),
    (Special.keySeparator, .text [28]),
    (Special.numberFormat, text "%.6g"), (Special.outputFormat, text "%.6g"),
    (Special.argumentCount, .ofNat (arguments.length + 1))]
  { program := p
    call := c
    values := values.foldl (fun vs (n, v) => vs.set! n v) (Array.replicate count .unset)
    tables := ((Array.replicate count {}).set! Special.environment environment).set! Special.arguments table
    within := Array.replicate p.rules.length false }

/-- Runs a program. -/
def runProgram (c : Call) (s : Setting) (source : ByteString) (arguments : List ByteString) : Task Nat := do
  match Program.read source with
  | .error f =>
    let place := match s.files with
      | file :: _ => if f.message.startsWith "line " then Text.lossy file ++ ": " else ""
      | [] => ""
    c.complain (place ++ f.message)
    return 2
  | .ok p =>
    let all : Machine Nat := do
      match s.separator with
      | some text => Machine.writeShared Special.fieldSeparator (.text text)
      | none => pure ()
      for (name, text) in s.assignments do
        Machine.assign name text
      Machine.run
    let (result, _) ← StateT.run (ExceptT.run all) (Memory.ofCall c p arguments)
    match result with
    | .ok code => return code
    | .error (.abort code) => return code
    | .error _ => return 2

def awk : Utility := fun call => do
  -- messages show the name without its directory
  let c := { call with program := (call.program.splitOn "/").getLastD "awk" }
  match Choice.read (c.words.length + 1) {} c.words with
  | .help => c.putText usage
  | .version => c.putText "mawk 1.3.4 20200120\n"
  | .wrong message =>
    c.complain message
    return 2
  | .run s =>
    for w in s.warnings do
      c.complain w
    match s.files, s.rest with
    | [], [] =>
      let _ ← Task.writeAll 2 usage.toUTF8
      return 0
    | [], source :: arguments => runProgram c s source arguments
    | files, arguments => match ← sourceOf c files with
      | none => return 2
      | some source => runProgram c s source arguments

end ModuleForge.Host.Utility.Awk
