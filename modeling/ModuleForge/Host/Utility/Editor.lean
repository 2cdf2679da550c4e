import ModuleForge.Host.Utility.Expression
import ModuleForge.Host.Utility.LineReader

/-!
# The stream editor

`sed` applies a script to each line. A script is a row of instructions, each with the addresses of
the lines that it is for; it works on the line in hand and on a second text that is kept from line
to line.
-/
namespace ModuleForge.Host.Utility.Editor

open Call

/-! ## Scripts -/

inductive Address where
  | line (n : Nat)
  | last
  /-- Every line from one on, in steps. -/
  | every (first step : Nat)
  /-- Lines in which an expression fits; without one, the expression used last. -/
  | search (e : Option Expression)

inductive Selection where
  | always
  | one (a : Address)
  | span (a b : Address)
  /-- A line and some that follow it. -/
  | counted (a : Address) (n : Nat)

/-- A part of what takes the place of a text. -/
inductive Part where
  | text (bs : List UInt8)
  /-- A group of what was found, or all of it. -/
  | group (n : Nat)

structure Substitution where
  expression : Option Expression
  parts : List Part
  everywhere : Bool := false
  prints : Bool := false
  /-- Which of the texts found is the first to be replaced. -/
  first : Nat := 1

inductive Action where
  | substitute (s : Substitution)
  | translate (pairs : List (UInt8 × UInt8))
  | print | printFirst | delete | deleteFirst | number
  | quit (code : Nat) (silently : Bool)
  | append (text : List UInt8)
  | insert (text : List UInt8)
  | change (text : List UInt8)
  | next | nextAppended
  | keep | keepAppended | bring | bringAppended | exchange
  | label (name : List UInt8)
  | jump (name : List UInt8)
  /-- Jumps if something was replaced since the line was read or since the last such jump. -/
  | jumpIfReplaced (name : List UInt8)
  | opening | closing

structure Instruction where
  selection : Selection
  negated : Bool
  action : Action

/-! ## Reading scripts -/

abbrev Reader := StateT (List UInt8) (Except String)

def peek : Reader (Option Char) := return (← get).head?.map fun b => Char.ofNat b.toNat

def skip (n : Nat) : Reader Unit := modify (·.drop n)

def isBlank (b : UInt8) : Bool := b == 32 || b == 9

def isGap (b : UInt8) : Bool := isBlank b || b == 10 || b == 59

def skipBlanks : Reader Unit := modify (·.dropWhile isBlank)

def digits : Reader (Option Nat) := do
  let ds := (← get).takeWhile fun b => 48 ≤ b && b ≤ 57
  skip ds.length
  return if ds.isEmpty then none else some (Format.digitsValue 10 (Format.chars ds))

/-- Text up to a delimiter that is not escaped; an escaped delimiter stands for itself. -/
def delimited (delimiter : UInt8) : List UInt8 → Option (List UInt8 × List UInt8)
  | [] => none
  | 92 :: c :: rest =>
    (delimited delimiter rest).map fun (text, left) =>
      (if c = delimiter then c :: text
        else 92 :: c :: text, left)
  | c :: rest =>
    if c = delimiter then some ([], rest)
    else (delimited delimiter rest).map fun (text, left) => (c :: text, left)

def upTo (delimiter : UInt8) (complaint : String) : Reader (List UInt8) := do
  match delimited delimiter (← get) with
  | some (text, rest) =>
    set rest
    return text
  | none => throw complaint

def expression (extended ignoreCase : Bool) (text : List UInt8) : Reader (Option Expression) := do
  if text.isEmpty then return none
  match Expression.read { extended, ignoreCase, lenient := false } text with
  | .ok (e, _) => return some e
  | .error f => throw f.message

def address? (extended : Bool) : Reader (Option Address) := do
  match ← peek with
  | some '$' =>
    skip 1
    return some .last
  | some '/' =>
    skip 1
    let text ← upTo 47 "unterminated address regex"
    let ignoreCase := (← peek) == some 'I'
    if ignoreCase then skip 1
    return some (.search (← expression extended ignoreCase text))
  | _ => match ← digits with
    | none => return none
    | some n =>
      if (← peek) == some '~' then
        skip 1
        return some (.every n ((← digits).getD 0))
      return some (.line n)

def selection (extended : Bool) : Reader Selection := do
  match ← address? extended with
  | none => return .always
  | some a =>
    skipBlanks
    if (← peek) != some ',' then return .one a
    skip 1
    skipBlanks
    if (← peek) == some '+' then
      skip 1
      return .counted a ((← digits).getD 0)
    match ← address? extended with
    | some b => return .span a b
    | none => throw "unexpected ','"

/-- The parts of a replacement. -/
def parts : List UInt8 → List Part
  | [] => []
  | 38 :: rest => .group 0 :: parts rest
  | 92 :: c :: rest =>
    if 48 ≤ c && c ≤ 57 then .group (c.toNat - 48) :: parts rest
    else if c = 110 then .text [10] :: parts rest
    else if c = 116 then .text [9] :: parts rest
    else .text [c] :: parts rest
  | c :: rest => .text [c] :: parts rest

/-- The flags of a substitution, and whether case does not matter. -/
def flags : Nat → Substitution → Bool → Reader (Substitution × Bool)
  | 0, s, i => return (s, i)
  | fuel + 1, s, i => do
    match ← peek with
    | some 'g' => skip 1; flags fuel { s with everywhere := true } i
    | some 'p' => skip 1; flags fuel { s with prints := true } i
    | some 'i' | some 'I' => skip 1; flags fuel s true
    | some c =>
      if c.isDigit then flags fuel { s with first := (← digits).getD 1 } i
      else if isGap (UInt8.ofNat c.toNat) || c == '}' || c == '#' then return (s, i)
      else throw "unknown option to \x60s'"
    | none => return (s, i)

/-- The text of an instruction that brings one, up to the end of its line. -/
def textOfLine : Reader (List UInt8) := do
  skipBlanks
  if (← get).head? == some 92 then
    skip 1
    skipBlanks
    if (← get).head? == some 10 then skip 1
  let text := (← get).takeWhile (· ≠ 10)
  skip text.length
  return text ++ [10]

def labelName : Reader (List UInt8) := do
  skipBlanks
  let name := (← get).takeWhile fun b => !isGap b && b ≠ 125
  skip name.length
  return name

def action (extended : Bool) : Reader Action := do
  match ← peek with
  | none => throw "missing command"
  | some c =>
    skip 1
    match c with
    | 's' =>
      let some d := (← get).head? | throw "unterminated \x60s' command"
      skip 1
      let text ← upTo d "unterminated \x60s' command"
      let replacement ← upTo d "unterminated \x60s' command"
      let (s, ignoreCase) ← flags ((← get).length + 1) ⟨none, parts replacement, false, false, 1⟩ false
      return .substitute { s with expression := ← expression extended ignoreCase text }
    | 'y' =>
      let some d := (← get).head? | throw "unterminated \x60y' command"
      skip 1
      let one ← upTo d "unterminated \x60y' command"
      let two ← upTo d "unterminated \x60y' command"
      let plainText (bs : List UInt8) : List UInt8 := (parts bs).flatMap fun
        | .text t => t
        | .group _ => [38]
      let (one, two) := (plainText one, plainText two)
      if one.length ≠ two.length then throw "strings for \x60y' command are different lengths"
      return .translate (List.zip one two)
    | 'p' => return .print
    | 'P' => return .printFirst
    | 'd' => return .delete
    | 'D' => return .deleteFirst
    | '=' => return .number
    | 'q' | 'Q' =>
      skipBlanks
      return .quit ((← digits).getD 0) (c == 'Q')
    | 'a' => return .append (← textOfLine)
    | 'i' => return .insert (← textOfLine)
    | 'c' => return .change (← textOfLine)
    | 'n' => return .next
    | 'N' => return .nextAppended
    | 'h' => return .keep
    | 'H' => return .keepAppended
    | 'g' => return .bring
    | 'G' => return .bringAppended
    | 'x' => return .exchange
    | ':' => return .label (← labelName)
    | 'b' => return .jump (← labelName)
    | 't' => return .jumpIfReplaced (← labelName)
    | '\x7b' => return .opening
    | '\x7d' => return .closing
    | _ => throw ("unknown command: \x60" ++ String.singleton c ++ "'")

def instructions (extended : Bool) : Nat → Reader (List Instruction)
  | 0 => return []
  | fuel + 1 => do
    modify (·.dropWhile isGap)
    match ← peek with
    | none => return []
    | some '#' =>
      modify (·.dropWhile (· ≠ 10))
      instructions extended fuel
    | some _ =>
      let selection ← selection extended
      skipBlanks
      let negated := (← peek) == some '!'
      if negated then skip 1
      skipBlanks
      let action ← action extended
      skipBlanks
      match action, ← peek with
      | .opening, _ => pure ()
      | _, none | _, some ';' | _, some '\n' | _, some '\x7d' | _, some '#' => pure ()
      | .append _, _ | .insert _, _ | .change _, _ => pure ()
      | _, _ => throw "extra characters after command"
      return ⟨selection, negated, action⟩ :: (← instructions extended fuel)

/-- Reads a script. -/
def script (extended : Bool) (text : List UInt8) : Except String (List Instruction) :=
  ((instructions extended (text.length + 1)).run text).map (·.1)

/-! ## Editing -/

structure State where
  reader : LineReader
  line : Line := ⟨[], true⟩
  kept : Line := ⟨[], true⟩
  number : Nat := 0
  /-- Spans that have begun, by the place of their instruction, with the line that ends them if that
  is known. -/
  open_ : List (Nat × Option Nat) := []
  replaced : Bool := false
  /-- What is to be written after the line. -/
  after : List UInt8 := []
  lastExpression : Option Expression := none
  /-- What was written, where it is not written at once. -/
  gathered : List UInt8 := []
  /-- Whether the end of a line is to be written before anything else. -/
  owed : Bool := false
  code : Nat := 0

/-- How a script is run. -/
structure Setting where
  call : Call
  quiet : Bool := false
  /-- Whether what is written is gathered. -/
  gathers : Bool := false

abbrev Editing := StateT State Task

def run (t : Task α) : Editing α := StateT.lift t

def write (c : Setting) (bs : List UInt8) : Editing Unit := do
  let bs := if (← get).owed then 10 :: bs else bs
  modify fun s => { s with owed := false }
  if c.gathers then modify fun s => { s with gathered := s.gathered ++ bs }
  else
    let _ ← run (c.call.putBytes bs)

def writeLine (c : Setting) : Editing Unit := do
  let l := (← get).line
  write c (if l.closed then l.text ++ [10] else l.text)
  modify fun s => { s with owed := !l.closed }

def resolve (e : Option Expression) : Editing Expression := do
  match e with
  | some e =>
    modify fun s => { s with lastExpression := some e }
    return e
  | none => return (← get).lastExpression.getD .nothing

def holds (a : Address) : Editing Bool := do
  let s ← get
  match a with
  | .line n => return s.number == n
  | .last => return s.reader.isLast
  | .every first step =>
    return first ≤ s.number && (if step = 0 then s.number == first else (s.number - first) % step == 0)
  | .search e =>
    let e ← resolve e
    return e.isIn s.line.text

/-- Whether an instruction is for the line in hand. -/
def isSelected (place : Nat) (selection : Selection) : Editing Bool := do
  let s ← get
  let close : Editing Unit := modify fun s => { s with open_ := s.open_.filter (·.1 ≠ place) }
  let begin_ (upTo : Option Nat) : Editing Unit :=
    modify fun s => { s with open_ := (place, upTo) :: s.open_ }
  match selection with
  | .always => return true
  | .one a => holds a
  | .counted a n => match s.open_.lookup place with
    | some limit =>
      if limit.all (s.number ≥ ·) then close
      return true
    | none =>
      if ← holds a then
        if 0 < n then begin_ (some (s.number + n))
        return true
      return false
  | .span a b => match s.open_.lookup place with
    | some _ =>
      match b with
      | .line n =>
        if n ≤ s.number then close
        return true
      | b =>
        if ← holds b then close
        return true
    | none =>
      if ← holds a then
        match b with
        | .line n => if s.number < n then begin_ none
        | .last => if !s.reader.isLast then begin_ none
        | _ => begin_ none
        return true
      return false

/-- A line with what was found replaced; none if nothing was. -/
def substituted (s : Substitution) (e : Expression) (line : List UInt8) : Option (List UInt8) :=
  let (out, count) := go line.toArray (line.length + 2) 0 0 none
  if count < s.first then none else some out
where
  filled (line : Array UInt8) (f : Expression.Found) : List UInt8 := s.parts.flatMap fun
    | .text t => t
    | .group n => f.group line n
  /-- The rest of the line from a place on, and how many texts were found. `last` is where the one
  before ended. -/
  go (line : Array UInt8) : Nat → Nat → Nat → Option Nat → List UInt8 × Nat
    | 0, n, at_, _ => (Expression.slice line at_ line.size, n)
    | fuel + 1, n, at_, last =>
      -- nothing is found twice at one place
      match e.findFrom line at_ fun i j => !(i = j && last == some i) with
      | none => (Expression.slice line at_ line.size, n)
      | some f =>
        let skipped := Expression.slice line at_ f.start
        let n := n + 1
        let shown := if n < s.first then f.text line else filled line f
        if s.first ≤ n && !s.everywhere then
          (skipped ++ shown ++ Expression.slice line f.stop line.size, n)
        else if line.size < f.stop + 1 && f.start = f.stop then (skipped ++ shown, n)
        else
          let (rest, n) := go line fuel n f.stop (some f.stop)
          (skipped ++ shown ++ rest, n)

/-- How the work on a line goes on after an instruction. -/
inductive Course where
  | on
  | jump (place : Nat)
  /-- The line is done; `shown` tells whether it is still to be written. -/
  | done (shown : Bool)
  /-- Once more with what is left of the line. -/
  | again
  | quit (shown : Bool)

/-- The place behind the instruction that closes a block. -/
def behindBlock (program : Array Instruction) : Nat → Nat → Nat → Nat
  | 0, place, _ => place
  | fuel + 1, place, depth => match program[place]? with
    | none => place
    | some i => match i.action with
      | .opening => behindBlock program fuel (place + 1) (depth + 1)
      | .closing =>
        if depth ≤ 1 then place + 1 else behindBlock program fuel (place + 1) (depth - 1)
      | _ => behindBlock program fuel (place + 1) depth

/-- The place of a label, or the end if it has no name. -/
def placeOf (program : Array Instruction) (name : List UInt8) : Nat :=
  if name.isEmpty then program.size
  else (program.findIdx? fun i => match i.action with
    | .label n => n == name
    | _ => false).getD program.size

/-- Writes what was to follow the line. -/
def flush (c : Setting) : Editing Unit := do
  let s ← get
  if !s.after.isEmpty then
    set { s with after := [] }
    write c s.after

/-- Takes the next line in hand; whether there was one. -/
def advance (appended : Bool) : Editing Bool := do
  let s ← get
  match ← run s.reader.next with
  | (none, reader) =>
    set { s with reader }
    return false
  | (some l, reader) =>
    let line := if appended then { l with text := s.line.text ++ 10 :: l.text } else l
    set { s with reader, line, number := s.number + 1 }
    return true

def setText (f : List UInt8 → List UInt8) : Editing Unit :=
  modify fun s => { s with line := { s.line with text := f s.line.text } }

def perform (c : Setting) (program : Array Instruction) (i : Instruction) : Editing Course := do
  let s ← get
  let text := s.line.text
  match i.action with
  | .substitute sub =>
    let e ← resolve sub.expression
    match substituted sub e text with
    | none => return .on
    | some out =>
      setText fun _ => out
      modify fun s => { s with replaced := true }
      if sub.prints then writeLine c
      return .on
  | .translate pairs => setText (·.map fun b => (pairs.lookup b).getD b); return .on
  | .print => writeLine c; return .on
  | .printFirst => write c (text.takeWhile (· ≠ 10) ++ [10]); return .on
  | .delete => return .done false
  | .deleteFirst =>
    if text.contains 10 then
      setText fun t => (t.dropWhile (· ≠ 10)).drop 1
      return .again
    return .done false
  | .number => write c (ByteString.ofText (toString s.number ++ "\n")); return .on
  | .quit code silently =>
    modify fun s => { s with code }
    return .quit !silently
  | .append t => modify fun s => { s with after := s.after ++ t }; return .on
  | .insert t => write c t; return .on
  | .change t =>
    let inSpan := match i.selection with
      | .span .. | .counted .. => !i.negated && !s.open_.isEmpty
      | _ => false
    if !inSpan then write c t
    return .done false
  | .next =>
    if s.reader.isLast then return .quit true
    if !c.quiet then writeLine c
    flush c
    let _ ← advance false
    return .on
  | .nextAppended =>
    if s.reader.isLast then return .quit true
    flush c
    let _ ← advance true
    return .on
  | .keep => set { s with kept := s.line }; return .on
  | .keepAppended => set { s with kept := s.kept.append s.line }; return .on
  | .bring => setText fun _ => s.kept.text; return .on
  | .bringAppended => set { s with line := s.line.append s.kept }; return .on
  | .exchange => set { s with kept := s.line, line := s.kept }; return .on
  | .label _ | .opening | .closing => return .on
  | .jump name => return .jump (placeOf program name)
  | .jumpIfReplaced name =>
    if s.replaced then
      set { s with replaced := false }
      return .jump (placeOf program name)
    return .on

/-- Runs the instructions from a place on. -/
def work (c : Setting) (program : Array Instruction) : Nat → Nat → Editing Course
  | 0, _ => return .done true
  | fuel + 1, place => do
    match program[place]? with
    | none => return .done true
    | some i =>
      let selected ← isSelected place i.selection
      if selected == i.negated then
        let next := match i.action with
          | .opening => behindBlock program (program.size + 1) place 0
          | _ => place + 1
        work c program fuel next
      else
        match ← perform c program i with
        | .on => work c program fuel (place + 1)
        | .jump place => work c program fuel place
        | course => return course

/-- Works on line after line. -/
def cycles (c : Setting) (program : Array Instruction) : Nat → Bool → Editing Unit
  | 0, _ => pure ()
  | fuel + 1, fresh => do
    let some_ ← if fresh then advance false else pure true
    if some_ then
      modify fun s => { s with replaced := false }
      let course ← work c program Task.patience 0
      let shown := match course with
        | .done shown | .quit shown => shown
        | _ => false
      if shown && !c.quiet then writeLine c
      flush c
      match course with
      | .quit _ => pure ()
      | .again => cycles c program fuel false
      | _ => cycles c program fuel true

def sed : Utility := fun c => c.withOptions "nErisuz" "e" fun o => do
  let (scripts, paths) := match o.values 'e', o.operands with
    | [], s :: rest => ([s], rest)
    | ss, paths => (ss, paths)
  if scripts.isEmpty then
    say ("Usage: " ++ c.program ++ " [OPTION]... \x7bscript-only-if-no-other-script\x7d [input-file]...")
    return 1
  let text := (List.intersperse [10] scripts).flatten
  match script (o.has 'E' || o.has 'r') text with
  | .error message =>
    c.complain ("-e expression #1, char " ++ toString text.length ++ ": " ++ message)
    return 1
  | .ok is =>
    let program := is.toArray
    let setting : Setting := { call := c, quiet := o.has 'n', gathers := o.has 'i' }
    let mut code := 0
    let mut sources : List (ByteString × Nat) := []
    for path in inputs paths do
      let opened ← source path
      match opened with
      | .ok fd => sources := sources ++ [(path, fd)]
      | .error e =>
        c.complain ("can't read " ++ plain path ++ ": " ++ e.message)
        code := 2
    let edit (fds : List Nat) : Task State := do
      let ((), s) ← (cycles setting program Task.patience true).run { reader := { sources := fds } }
      return s
    if o.has 'i' then
      for (path, fd) in sources do
        let s ← edit [fd]
        match ← Task.openFile path .write with
        | .ok out =>
          let _ ← Task.writeAll out ⟨s.gathered.toArray⟩
          let _ ← Task.close out
        | .error _ => code := 4
      return code
    let s ← edit (sources.map (·.2))
    return if s.code = 0 then code else s.code

end ModuleForge.Host.Utility.Editor
