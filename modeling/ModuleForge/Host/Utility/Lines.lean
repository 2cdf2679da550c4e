import ModuleForge.Host.Utility.Copying
import ModuleForge.Host.Utility.Expression

/-!
# Utilities for lines

What turns lines around, numbers, counts and folds them, fills paragraphs, and changes tabs and
blanks.
-/
namespace ModuleForge.Host.Utility

open Call

/-! ## Backwards -/

/-- The pieces of a text, each with the separator behind it, or before it. -/
def piecesAround (separator : ByteString) (inFront : Bool) : Nat → List UInt8 → List UInt8 →
    List (List UInt8)
  | 0, current, rest => [current.reverse ++ rest]
  | _ + 1, current, [] => if current.isEmpty then [] else [current.reverse]
  | fuel + 1, current, b :: rest =>
    if !separator.isEmpty && separator.isPrefixOf (b :: rest) then
      let after := (b :: rest).drop separator.length
      if inFront then
        (if current.isEmpty then [] else [current.reverse])
          ++ piecesAround separator inFront fuel separator.reverse after
      else (current.reverse ++ separator) :: piecesAround separator inFront fuel [] after
    else piecesAround separator inFront fuel (b :: current) rest

/-- The same where an expression tells what separates. -/
def piecesBetween (e : Expression) (line : Array UInt8) : Nat → Nat → List (List UInt8)
  | 0, start => [Expression.slice line start line.size]
  | fuel + 1, start =>
    if line.size ≤ start then []
    else match e.findFrom line start fun i j => i < j with
      | some f => Expression.slice line start f.stop :: piecesBetween e line fuel f.stop
      | none => [Expression.slice line start line.size]

def tac : Utility := fun c => c.withGrammar {
    flags := "br", valued := "s"
    long := [("before", 'b'), ("regex", 'r'), ("separator", 's')] } fun o => do
  let mut code := 0
  for path in inputs o.operands do
    let opened ← source path
    match opened with
    | .error e =>
      c.complain ("failed to open " ++ quoted path ++ " for reading: " ++ e.message)
      code := 1
    | .ok fd => match ← Task.readAll fd with
      | .error e =>
        c.complain (named path ++ ": read error: " ++ e.message)
        code := 1
      | .ok data =>
        let bytes := data.data.toList
        let separator := match o.value? 's' with
          | some [] => [0]
          | some s => s
          | none => [10]
        let rows := match o.has 'r', Expression.read { extended := false } separator with
          | true, .ok (e, _) => piecesBetween e data.data (bytes.length + 1) 0
          | _, _ => piecesAround separator (o.has 'b') (bytes.length + 1) [] bytes
        code := max code (← c.putBytes rows.reverse.flatten)
  return code

def rev : Utility := fun c => c.withGrammar { flags := "0", long := [("zero", '0')] } fun o => do
  let mark : UInt8 := if o.has '0' then 0 else 10
  let mut code := 0
  for path in inputs o.operands do
    let opened ← source path
    match opened with
    | .error e =>
      c.complain ("cannot open " ++ plain path ++ ": " ++ e.message)
      code := 1
    | .ok fd => match ← Task.readAll fd with
      | .error e =>
        c.complain (plain path ++ ": " ++ e.message)
        code := 1
      | .ok data =>
        let turned := (markedLines mark data.data.toList).map fun l =>
          if l.getLast? == some mark then l.dropLast.reverse ++ [mark] else l.reverse
        code := max code (← c.putBytes turned.flatten)
  return code

/-! ## Numbers -/

/-- Which lines of a section are numbered. -/
inductive Numbered where
  | all | nonempty | none
  | fitting (e : Expression)

def Numbered.read? (w : ByteString) : Except String (Option Numbered) :=
  match w with
  | [97] => .ok (some .all)
  | [116] => .ok (some .nonempty)
  | [110] => .ok (some .none)
  | 112 :: pattern => match Expression.read { extended := false } pattern with
    | .ok (e, _) => .ok (some (.fitting e))
    | .error f => .error f.message
  | _ => .ok .none

/-- How a call of `nl` numbers lines. -/
structure Numbering where
  header : Numbered
  body : Numbered
  footer : Numbered
  start : Int
  step : Int
  width : Nat
  separator : ByteString
  form : String
  /-- How many empty lines count as one. -/
  together : Nat
  mark : ByteString
  goesOn : Bool

/-- Where numbering has come to: the section (0 to 2), the number, and empty lines in a row. -/
structure NumberingState where
  section_ : Nat := 1
  number : Int
  empty : Nat := 0

namespace Numbering

def shown (n : Numbering) (k : Int) : ByteString :=
  let digits := toString k.natAbs
  let sign := if k < 0 then "-" else ""
  ByteString.ofText (match n.form with
    | "ln" => padRight n.width (sign ++ digits)
    | "rz" => sign ++ String.ofList (List.replicate (n.width - sign.length - digits.length) '0') ++ digits
    | _ => padLeft n.width (sign ++ digits))

def step_ (n : Numbering) (s : NumberingState) (l : List UInt8) : List UInt8 × NumberingState :=
  let section? : Option Nat :=
    if n.mark.isEmpty then none
    else if l = n.mark ++ n.mark ++ n.mark then some 0
    else if l = n.mark ++ n.mark then some 1
    else if l = n.mark then some 2
    else none
  match section? with
  | some k => ([10], { section_ := k, number := if n.goesOn then s.number else n.start })
  | none =>
    let empty := if l.isEmpty then s.empty + 1 else 0
    let counts := match if s.section_ = 0 then n.header else if s.section_ = 1 then n.body else n.footer with
      | .all => !l.isEmpty || n.together ≤ 1 || empty = n.together
      | .nonempty => !l.isEmpty
      | .none => false
      | .fitting e => e.isIn l
    let empty := if empty = n.together then 0 else empty
    if counts then
      (n.shown s.number ++ n.separator ++ l ++ [10], { s with number := s.number + n.step, empty })
    else (List.replicate (n.width + n.separator.length) 32 ++ l ++ [10], { s with empty })

end Numbering

def nl : Utility := fun c => c.withGrammar {
    flags := "p", valued := "bdfhilnsvw"
    long := [("body-numbering", 'b'), ("section-delimiter", 'd'), ("footer-numbering", 'f'),
      ("header-numbering", 'h'), ("line-increment", 'i'), ("join-blank-lines", 'l'), ("number-format", 'n'),
      ("no-renumber", 'p'), ("number-separator", 's'), ("starting-line-number", 'v'), ("number-width", 'w')] }
    fun o => do
  let style (l : Char) (usual what : String) : Except String Numbered :=
    let w := (o.value? l).getD (ByteString.ofText usual)
    match Numbered.read? w with
    | .ok (some s) => .ok s
    | .ok .none => .error ("invalid " ++ what ++ " numbering style: " ++ quoted w)
    | .error m => .error m
  let number (l : Char) (usual : Int) (least : Option Int) (what : String) : Except String Int :=
    match o.value? l with
    | none => .ok usual
    | some v => match Shell.integer? v with
      | none => .error ("invalid " ++ what ++ ": " ++ quoted v)
      | some n => if least.any (n < ·) then
          .error ("invalid " ++ what ++ ": " ++ quoted v ++ ": Numerical result out of range") else .ok n
  let form := ((o.value? 'n').map plain).getD "rn"
  let styles := do
    return (← style 'h' "n" "header", ← style 'b' "t" "body", ← style 'f' "n" "footer")
  let numbers := do
    return (← number 'v' 1 none "starting line number", ← number 'i' 1 none "line number increment",
      ← number 'w' 6 (some 1) "line number field width",
      ← number 'l' 1 (some 1) "line number of blank lines")
  match styles, numbers with
  | .error m, _ => c.misuse m
  | _, .error m =>
    c.complain m
    return 1
  | .ok (header, body, footer), .ok (start, step, width, together) =>
    if !(["ln", "rn", "rz"].contains form) then
      c.misuse ("invalid line numbering format: '" ++ form ++ "'")
    else
      let mark : ByteString := match o.value? 'd' with
        | none => [92, 58]
        | some [one] => [one, 58]
        | some m => m
      let n : Numbering := {
        header, body, footer, start, step, width := width.toNat, form, together := together.toNat, mark
        separator := (o.value? 's').getD [9], goesOn := o.has 'p' }
      let mut code := 0
      let mut s : NumberingState := { number := start }
      for path in inputs o.operands do
        let (failed, data) ← c.wholeInput [path]
        code := max code failed
        let (out, next) := (linesOf data).foldl (fun (st : List (List UInt8) × NumberingState) l =>
          let (text, s) := n.step_ st.2 l
          (text :: st.1, s)) ([], s)
        s := next
        code := max code (← c.putBytes out.reverse.flatten)
      return code

/-! ## Folding -/

/-- The column behind a byte. -/
def columnBehind (inBytes : Bool) (column : Nat) (b : UInt8) : Nat :=
  if inBytes then column + 1
  else match b with
    | 8 => column - 1
    | 13 => 0
    | 9 => column + 8 - column % 8
    | _ => column + 1

/-- The column behind a row of bytes. -/
def widthOf (inBytes : Bool) (bs : List UInt8) : Nat := bs.foldl (columnBehind inBytes) 0

/-- A line cut into pieces that are at most so wide; at blanks if there are some. -/
def folded (inBytes atBlanks : Bool) (width : Nat) : Nat → List UInt8 → List UInt8 → List (List UInt8)
  | 0, current, rest => [current.reverse ++ rest]
  | _ + 1, current, [] => [current.reverse]
  | fuel + 1, current, b :: rest =>
    if columnBehind inBytes (widthOf inBytes current.reverse) b ≤ width || current.isEmpty then
      folded inBytes atBlanks width fuel (b :: current) rest
    else
      let tail := current.takeWhile fun x => x ≠ 32 && x ≠ 9
      if atBlanks && tail.length < current.length then
        (current.drop tail.length).reverse :: folded inBytes atBlanks width fuel tail (b :: rest)
      else current.reverse :: folded inBytes atBlanks width fuel [] (b :: rest)

/-- The words of a call with a width such as `-20` spelled out. -/
def withWidth (words : List ByteString) : List ByteString :=
  words.flatMap fun w => match w with
    | 45 :: d :: more => if 48 ≤ d && d ≤ 57 then [[45, 119], d :: more] else [w]
    | w => [w]

def fold : Utility := fun c => { c with words := withWidth c.words }.withGrammar {
    flags := "bsc", valued := "w", long := [("bytes", 'b'), ("spaces", 's'), ("width", 'w')] } fun o => do
  let width := (o.value? 'w').getD (ByteString.ofText "80")
  match Shell.natural? width with
  | none =>
    c.complain ("invalid number of columns: " ++ quoted width)
    return 1
  | some 0 =>
    c.complain ("invalid number of columns: " ++ quoted width ++ ": Numerical result out of range")
    return 1
  | some width =>
    let cut (l : List UInt8) : List UInt8 :=
      let closed := l.getLast? == some 10
      let body := if closed then l.dropLast else l
      let pieces := folded (o.has 'b') (o.has 's') width (2 * body.length + 2) [] body
      (List.intersperse [10] pieces).flatten ++ (if closed then [10] else [])
    c.eachContent o.operands fun _ data =>
      c.putBytes ((markedLines 10 data.data.toList).flatMap cut)

/-! ## Tabs -/

/-- Where tabs stop: at some columns, and then at multiples of a number. -/
structure TabStops where
  stops : List Nat := []
  every : Nat := 0

namespace TabStops

/-- The next column behind one at which a tab stops. -/
def next? (t : TabStops) (column : Nat) : Option Nat :=
  match t.stops.find? (column < ·) with
  | some s => some s
  | none => if t.every = 0 then none else some ((column / t.every + 1) * t.every)

/-- Reads stops such as `4` or `2,5,9`. -/
def read (texts : List ByteString) : Except String TabStops := do
  if texts.isEmpty then return { every := 8 }
  let words := texts.flatMap fun w =>
    (w.splitBy fun a b => (isGap a) == (isGap b)).filter fun p => !(p.head?.any isGap)
  let numbers ← words.mapM fun w =>
    match Shell.natural? (if w.head? == some 47 || w.head? == some 43 then w.drop 1 else w) with
    | some n => if n = 0 then .error "tab size cannot be 0" else .ok (n, w.head? == some 47)
    | none => .error ("tab size contains invalid character(s): " ++ quoted (w.dropWhile fun b => 48 ≤ b && b ≤ 57))
  let fixed := (numbers.filter fun (_, r) => !r).map (·.1)
  let rising := (List.zip fixed (fixed.drop 1)).all fun (a, b) => a < b
  if !rising then throw "tab sizes must be ascending"
  match fixed, numbers.find? (·.2) with
  | [n], none => return { every := n }
  | stops, some (n, _) => return { stops, every := n }
  | stops, none => return { stops }
where
  isGap (b : UInt8) : Bool := b == 44 || b == 32 || b == 9

end TabStops

/-- A line with blanks in the place of tabs. -/
def expanded (t : TabStops) (onlyFirst : Bool) (l : List UInt8) : List UInt8 :=
  let (out, _, _) := l.foldl (fun (st : List UInt8 × Nat × Bool) b =>
    let (out, column, blank) := st
    if b = 9 && blank then
      let next := (t.next? column).getD (column + 1)
      (List.replicate (next - column) 32 ++ out, next, blank)
    else
      let blank := blank && (!onlyFirst || b = 32 || b = 9)
      (b :: out, if b = 8 then column - 1 else column + 1, blank)) ([], 0, true)
  out.reverse

/-- A line with tabs in the place of blanks that reach a stop; `gap` is the width of the blanks
before `column` that are not yet written. -/
def unexpanded (t : TabStops) (everywhere : Bool) : Nat → Nat → List UInt8 → Bool → List UInt8 → List UInt8
  | _, _, gap, _, [] => gap
  | start, column, gap, blank, b :: rest =>
    if blank && (b = 32 || b = 9) then
      match t.next? column with
      | none => gap ++ b :: unexpanded t everywhere column column [] false rest
      | some next =>
        if b = 9 then
          -- blanks before a tab go into it
          9 :: unexpanded t everywhere next next [] blank rest
        else if column + 1 = next then
          if gap.isEmpty && start = column && next - start = 1 && !(rest.head? == some 32 || rest.head? == some 9) then
            32 :: unexpanded t everywhere next next [] blank rest
          else 9 :: unexpanded t everywhere next next [] blank rest
        else unexpanded t everywhere start (column + 1) (gap ++ [32]) blank rest
    else
      let column := if b = 8 then column - 1 else column + 1
      gap ++ b :: unexpanded t everywhere column column [] (blank && everywhere || everywhere) rest

/-- The words of a call with stops such as `-4` spelled out. -/
def withStops (words : List ByteString) : List ByteString :=
  words.flatMap fun w => match w with
    | 45 :: d :: more => if 48 ≤ d && d ≤ 57 then [[45, 116], d :: more] else [w]
    | w => [w]

def eachTabbed (c : Call) (o : Options) (change : TabStops → List UInt8 → List UInt8) : Task Nat := do
  match TabStops.read (o.values 't') with
  | .error message =>
    c.complain message
    return 1
  | .ok t => c.eachContent o.operands fun _ data =>
    c.putBytes ((markedLines 10 data.data.toList).flatMap fun l =>
      if l.getLast? == some 10 then change t l.dropLast ++ [10] else change t l)

def expand : Utility := fun c => { c with words := withStops c.words }.withGrammar {
    flags := "i", valued := "t", long := [("initial", 'i'), ("tabs", 't')] } fun o =>
  eachTabbed c o fun t l => expanded t (o.has 'i') l

def unexpand : Utility := fun c => { c with words := withStops c.words }.withGrammar {
    flags := "af", valued := "t", long := [("all", 'a'), ("first-only", 'f'), ("tabs", 't')] } fun o =>
  let everywhere := (o.has 'a' || (o.value? 't').isSome) && !o.has 'f'
  eachTabbed c o fun t l => unexpanded t everywhere 0 0 [] true l

/-! ## Paragraphs -/

/-- A word of a paragraph, with the blanks behind it. -/
structure ParagraphWord where
  text : List UInt8
  space : Nat
  opens : Bool
  period : Bool
  punctuation : Bool
  /-- Whether it ends a sentence. -/
  final : Bool

def wordOf (text : List UInt8) (space : Nat) (atEnd : Bool) : ParagraphWord :=
  let isClose (b : UInt8) : Bool := [41, 93, 125, 39, 34].contains b
  let punctuation := text.getLast?.any fun b => isPrinting b && b ≠ 32 && !(Char.ofNat b.toNat).isAlphanum
  let core := match text with
    | first :: rest => first :: (rest.reverse.dropWhile isClose).reverse
    | [] => []
  let period := core.getLast?.any fun b => b == 46 || b == 63 || b == 33
  let final := period && (atEnd || 1 < space)
  { text, space := if atEnd then if final then 2 else 1 else space
    opens := text.head?.any fun b => [40, 91, 123, 39, 34, 96].contains b, period, punctuation, final }

/-- The best way to break lines from a word on: what it costs, where the next line begins, and how
long this one is. -/
structure BestBreak where
  cost : Int := 0
  next : Nat := 0
  length : Nat := 0

/-- What it costs to begin a line with a word. -/
def startCost (ws : Array ParagraphWord) (i : Nat) : Int :=
  let before : Int := match if i = 0 then none else ws[i - 1]? with
    | none => 0
    | some p =>
      if p.period then if p.final then -2500 else 360000
      else if p.punctuation then -1600
      else if 1 < i && (ws[i - 2]?).any (·.final) then 40000 / (p.text.length + 2 : Nat)
      else 0
  let own : Int := match ws[i]? with
    | some w => if w.opens then -1600 else if w.final then 22500 / (w.text.length + 2 : Nat) else 0
    | none => 0
  4900 + before + own

/-- Fills a paragraph: the words of each line. -/
def filled (width goal firstIndent otherIndent : Nat) (words : List ParagraphWord) : List (List ParagraphWord) :=
  let ws := words.toArray
  let n := ws.size
  let lengthOf (i : Nat) : Nat := if i = n then width else (ws[i]?.map (·.text.length)).getD 0
  let lineCost (best : Array BestBreak) (next len : Nat) : Int :=
    if next = n then 0
    else
      let short : Int := ((goal : Int) - len) * 10
      let b := (best[next]?).getD {}
      let ragged : Int := if b.next = n then 0 else
        let d : Int := ((len : Int) - b.length) * 10
        d * d / 2
      short * short + ragged
  let rec breaks (best : Array BestBreak) (i w len : Nat) (found : Option BestBreak) : Nat → BestBreak
    | 0 => found.getD {}
    | fuel + 1 =>
      let cost := lineCost best w len + ((best[w]?).getD {}).cost
      let found := match found with
        | some f => if cost < f.cost then some ⟨cost, w, len⟩ else some f
        | none => some ⟨cost, w, len⟩
      if w = n then found.getD {}
      else
        let len := len + ((ws[w - 1]?).map (·.space)).getD 1 + lengthOf w
        if len < width then breaks best i (w + 1) len found fuel
        else found.getD {}
  let best := (List.range n).reverse.foldl (fun (best : Array BestBreak) i =>
    let indent := if i = 0 then firstIndent else otherIndent
    let b := breaks best i (i + 1) (indent + lengthOf i) none (n + 1)
    best.set! i { b with cost := b.cost + startCost ws i }) (Array.replicate (n + 1) {})
  let rec rows : Nat → Nat → List (List ParagraphWord)
    | 0, _ => []
    | fuel + 1, i =>
      if n ≤ i then []
      else
        let next := max (i + 1) ((best[i]?).getD {}).next
        (ws.extract i next).toList :: rows fuel next
  rows (n + 1) 0

/-- A line as words, with its indentation. -/
def indentedWords (l : List UInt8) : Nat × List ParagraphWord :=
  let indent := widthOf false (l.takeWhile isBlankByte)
  let rec go : Nat → List UInt8 → List ParagraphWord
    | 0, _ => []
    | fuel + 1, rest =>
      let word := rest.takeWhile (!isBlankByte ·)
      if word.isEmpty then []
      else
        let behind := rest.drop word.length
        let gap := behind.takeWhile isBlankByte
        let left := behind.drop gap.length
        wordOf word gap.length left.isEmpty :: go fuel left
  (indent, go (l.length + 1) (l.dropWhile isBlankByte))

/-- How lines are taken together to paragraphs. -/
structure Filling where
  width : Nat
  goal : Nat
  split : Bool
  crown : Bool
  tagged : Bool
  uniform : Bool

/-- Fills the paragraphs of some lines. -/
def paragraphs (f : Filling) : Nat → List (List UInt8) → List (List UInt8)
  | 0, _ => []
  | _ + 1, [] => []
  | fuel + 1, l :: rest =>
    if l.all isBlankByte then [] :: paragraphs f fuel rest
    else
      let (indent, _) := indentedWords l
      let indentOf (l : List UInt8) : Option Nat := if l.all isBlankByte then none else some (indentedWords l).1
      let second := rest.head?.bind indentOf
      let other := if f.crown || f.tagged && second != some indent then second.getD indent else indent
      let goesOn := !f.split && (!f.tagged || second != some indent)
      let more := if goesOn then rest.takeWhile fun l => indentOf l == some other else []
      let left := rest.drop more.length
      let lines := l :: more
      let words := lines.flatMap fun l => (indentedWords l).2
      let words := if f.uniform then words.map fun w => { w with space := if w.final then 2 else 1 } else words
      let words := match words.reverse with
        | w :: ws => ({ w with final := true } :: ws).reverse
        | [] => []
      let rows := filled f.width f.goal indent other words
      let shown := rows.zipIdx.map fun (row, i) =>
        let front := List.replicate (if i = 0 then indent else other) (32 : UInt8)
        let text := row.dropLast.flatMap fun w => w.text ++ List.replicate w.space 32
        front ++ text ++ ((row.getLast?).map (·.text)).getD []
      shown ++ paragraphs f fuel left

def fmt : Utility := fun c => { c with words := withWidth c.words }.withGrammar {
    flags := "cstu", valued := "wgp"
    long := [("crown-margin", 'c'), ("split-only", 's'), ("tagged-paragraph", 't'), ("uniform-spacing", 'u'),
      ("width", 'w'), ("goal", 'g'), ("prefix", 'p')] } fun o => do
  let number (l : Char) : Except ByteString (Option Nat) := match o.value? l with
    | none => Except.ok none
    | some v => match Shell.natural? v with
      | some n => if n ≤ 2500 then .ok (some n) else .error v
      | none => .error v
  match number 'w', number 'g' with
  | .error v, _ | _, .error v =>
    c.complain ("invalid width: " ++ quoted v)
    return 1
  | .ok width?, .ok goal? =>
    let width := width?.getD (match goal? with
      | some g => g + 10
      | none => 75)
    let goal := goal?.getD (width * 187 / 200)
    let f : Filling := {
      width, goal, split := o.has 's', crown := o.has 'c', tagged := o.has 't', uniform := o.has 'u' }
    let mut code := 0
    for path in inputs o.operands do
      let opened ← source path
      match opened with
      | .error e =>
        c.complain ("cannot open " ++ quoted path ++ " for reading: " ++ e.message)
        code := 1
      | .ok fd => match ← Task.readAll fd with
        | .error e =>
          c.complain ("read error: " ++ e.message)
          code := 1
        | .ok data =>
          let lines := linesOf data.data.toList
          code := max code (← c.putBytes (unlines (paragraphs f (lines.length + 1) lines)))
    return code

/-! ## Counting -/

/-- What is counted of an input. -/
structure Counts where
  lines : Nat := 0
  words : Nat := 0
  bytes : Nat := 0
  /-- The width of the widest line. -/
  width : Nat := 0

/-- Both counts together; the widest line is the wider one. -/
def Counts.add (a b : Counts) : Counts :=
  ⟨a.lines + b.lines, a.words + b.words, a.bytes + b.bytes, max a.width b.width⟩

/-- The place in a text at which counting is. -/
structure CountState where
  lines : Nat := 0
  words : Nat := 0
  width : Nat := 0
  column : Nat := 0
  inWord : Bool := false

def CountState.take (s : CountState) (b : UInt8) : CountState :=
  match b with
  | 10 => { s with lines := s.lines + 1, width := max s.width s.column, column := 0, inWord := false }
  | 12 | 13 => { s with width := max s.width s.column, column := 0, inWord := false }
  | 9 => { s with column := s.column + 8 - s.column % 8, inWord := false }
  | 32 => { s with column := s.column + 1, inWord := false }
  | 11 => { s with inWord := false }
  | b =>
    if isPrinting b then
      { s with column := s.column + 1, words := if s.inWord then s.words else s.words + 1, inWord := true }
    else s

/-- Counts what is in some data. -/
def counts (data : ByteArray) : Counts :=
  let s := data.data.foldl CountState.take {}
  ⟨s.lines, s.words, data.size, max s.width s.column⟩

/-- What is known of an input before it is read: its size, if it is a file. -/
inductive InputKind where
  | missing
  | file (size : Nat)
  | other

def kindOf (path : ByteString) : Task InputKind := do
  let sizeOf (t : FileTree) (n : Nat) : InputKind := match t.node? n with
    | some (.file data) => .file data.size
    | _ => .other
  if path = [45] then
    match ← Task.position 0 with
    | some (n, _) => Task.look fun t _ => sizeOf t n
    | none => return .other
  else Task.look fun t here => match t.find here path with
    | .ok n => sizeOf t n
    | .error _ => .missing

def wc : Utility := fun c => c.withGrammar {
    flags := "lwcmL", longValued := "TF"
    long := [("lines", 'l'), ("words", 'w'), ("bytes", 'c'), ("chars", 'm'), ("max-line-length", 'L'),
      ("total", 'T'), ("files0-from", 'F')] } fun o => do
  let asked := o.letters.filter fun (l, _) => "lwcmL".toList.contains l
  let columns (n : Counts) : List Nat :=
    [('l', n.lines), ('w', n.words), ('m', n.bytes), ('c', n.bytes), ('L', n.width)].filterMap
      fun (l, n) => if o.has l || (asked.isEmpty && "lwc".toList.contains l) then some n else none
  let listed : Except Errno (List ByteString) ← match o.value? 'F' with
    | none => pure (.ok (inputs o.operands))
    | some path => do
      let opened ← source path
      match opened with
      | .error e => pure (.error e)
      | .ok fd => match ← Task.readAll fd with
        | .ok data => pure (.ok (between 0 data.data.toList))
        | .error e => pure (.error e)
  match listed with
  | .error e =>
    c.complain ("cannot open " ++ quoted ((o.value? 'F').getD []) ++ " for reading: " ++ e.message)
    return 1
  | .ok paths =>
    let mut kinds : List InputKind := []
    for path in paths do kinds := kinds ++ [← kindOf path]
    let single := (columns {}).length ≤ 1 && paths.length ≤ 1
    let sizes := (kinds.map fun
      | .file n => n
      | _ => 0).foldl (· + ·) 0
    let others := kinds.any fun
      | .other => true
      | _ => false
    let firstMissing := match kinds with
      | .missing :: _ => true
      | _ => false
    let width := if single || firstMissing || (o.value? 'F').isSome then 1
      else max (toString sizes).length (if others then 7 else 1)
    let line (n : Counts) (name : ByteString) : ByteString :=
      ByteString.ofText (" ".intercalate ((columns n).map fun n => padLeft width (toString n))) ++ name ++ [10]
    let totals := plain ((o.value? 'T').getD (ByteString.ofText "auto"))
    let mut code := 0
    let mut total : Counts := {}
    for path in paths do
      let opened ← source path
      match opened with
      | .error e =>
        c.complain (named path ++ ": " ++ e.message)
        code := 1
      | .ok fd =>
        let n : Counts ← match ← Task.readAll fd with
          | .ok data => pure (counts data)
          | .error e => do
            c.complain (named path ++ ": " ++ e.message)
            code := 1
            pure {}
        total := total.add n
        if path ≠ [45] then
          let _ ← Task.close fd
        let name : ByteString := if o.operands.isEmpty && (o.value? 'F').isNone then [] else 32 :: path
        if totals != "only" then code := max code (← c.putBytes (line n name))
    let showsTotal := totals == "always" || totals == "only" || totals == "auto" && 1 < paths.length
    if showsTotal then
      c.putBytes (line total (if totals == "only" then [] else ByteString.ofText " total")) code
    else return code

end ModuleForge.Host.Utility
