import ModuleForge.Host.Format
import ModuleForge.Host.Shell.Pattern

/-!
# Regular expressions

Expressions that describe parts of a line, in the two usual spellings: in the basic one parentheses,
braces, `+`, `?` and `|` work behind a backslash, in the extended one without. `Expression.read`
reads one, and `Expression.find?` finds the first place where one fits: of all that fit there the
longest, and in it each part takes as much as it can.
-/
namespace ModuleForge.Host

inductive Expression where
  | nothing
  /-- One byte of some kind. -/
  | byte (holds : UInt8 → Bool)
  /-- A place, by the bytes before and behind it. -/
  | edge (holds : Option UInt8 → Option UInt8 → Bool)
  | both (a b : Expression)
  | either (a b : Expression)
  /-- A part whose text can be spoken of by its number. -/
  | group (number : Nat) (e : Expression)
  /-- The text of a group once more. -/
  | again (number : Nat)
  | many (least : Nat) (most : Option Nat) (e : Expression)

namespace Expression

/-! ## Reading -/

/-- Why a text is no expression. -/
inductive Fault where
  | openGroup | strayClosing | openBracket | openBrace | badBrace | badClass | badGroupNumber
  | strayBackslash | nothingRepeated | badRange | badElement | tooLarge
  /-- A class stands without the bracket around it. -/
  | bareClass
  deriving DecidableEq, Repr

def Fault.message : Fault → String
  | openGroup => "Unmatched ( or \\("
  | strayClosing => "Unmatched ) or \\)"
  | openBracket => "Unmatched [, [^, [:, [., or [="
  | openBrace => "Unmatched \\\x7b"
  | badBrace => "Invalid content of \\\x7b\\\x7d"
  | badClass => "Invalid character class name"
  | badGroupNumber => "Invalid back reference"
  | strayBackslash => "Trailing backslash"
  | nothingRepeated => "Invalid preceding regular expression"
  | badRange => "Invalid range end"
  | badElement => "Invalid collation character"
  | tooLarge => "Regular expression too big"
  | bareClass => "character class syntax is [[:space:]], not [:space:]"

/-- How expressions are written. -/
structure Spelling where
  extended : Bool
  ignoreCase : Bool := false
  /-- Whether lines begin and end also at line feeds inside a text. -/
  manyLines : Bool := false
  /-- Whether marks that have no meaning where they stand are themselves. -/
  lenient : Bool := true
  /-- Whether braces say how often. -/
  braces : Bool := true
  /-- Whether a backslash makes a byte itself also inside a bracket. -/
  escapesInBrackets : Bool := false
  /-- Whether a backslash before a letter can stand for a kind of byte or place. -/
  moreKinds : Bool := true
  /-- Whether more letters do so: for digits, and for bytes that cannot be printed. -/
  perl : Bool := false

/-- What reading has come to. -/
structure Reading where
  rest : List UInt8
  /-- How many groups were opened, and which are closed. -/
  groups : Nat := 0
  closed : List Nat := []
  depth : Nat := 0
  warnings : List String := []

abbrev Reader := StateT Reading (Except Fault)

/-- The byte that a backslash before a byte stands for. -/
def escapedByte (b : UInt8) : UInt8 := (Format.escape? (Char.ofNat b.toNat)).getD b

def foldCase (ignoreCase : Bool) (b : UInt8) : UInt8 :=
  if ignoreCase && 65 ≤ b && b ≤ 90 then b + 32 else b

def isWordByte (b : UInt8) : Bool := (Char.ofNat b.toNat).isAlphanum || b == 95

def isSpace (b : UInt8) : Bool := b == 32 || (9 ≤ b && b ≤ 13)

/-- A kind of place or byte that a letter behind a backslash stands for. -/
def kind? (s : Spelling) (c : Char) : Option Expression :=
  let perlKind : Option Expression :=
    if !s.perl then none
    else match c with
      | 'd' => some (.byte fun b => 48 ≤ b && b ≤ 57)
      | 'D' => some (.byte fun b => !(48 ≤ b && b ≤ 57))
      | 'A' => some (.edge fun a _ => a.isNone)
      | 'z' | 'Z' => some (.edge fun _ b => b.isNone)
      | 'n' | 't' | 'r' | 'f' | 'e' | 'a' => (Format.escape? c).map fun x => .byte (· == x)
      | _ => none
  let word (o : Option UInt8) : Bool := o.any isWordByte
  match c with
  | 'w' => some (.byte isWordByte)
  | 'W' => some (.byte (!isWordByte ·))
  | 's' => some (.byte isSpace)
  | 'S' => some (.byte (!isSpace ·))
  | 'b' => some (.edge fun a b => word a != word b)
  | 'B' => some (.edge fun a b => word a == word b)
  | '<' => some (.edge fun a b => !word a && word b)
  | '>' => some (.edge fun a b => word a && !word b)
  | '\x60' => some (.edge fun a _ => a.isNone)
  | '\'' => some (.edge fun _ b => b.isNone)
  | _ => perlKind

def lineStart (s : Spelling) : Expression := .edge fun a _ => a.isNone || (s.manyLines && a == some 10)

def lineEnd (s : Spelling) : Expression := .edge fun _ b => b.isNone || (s.manyLines && b == some 10)

def isDigit (b : UInt8) : Bool := 48 ≤ b && b ≤ 57

def numberOf (ds : List UInt8) : Nat := ds.foldl (fun n b => n * 10 + (b.toNat - 48)) 0

/-- The bounds in braces, and what stands behind them. -/
def bounds (extended : Bool) (bs : List UInt8) : Except Fault (Nat × Option Nat × List UInt8) :=
  let closed (least : Nat) (most : Option Nat) (rest : List UInt8) :
      Except Fault (Nat × Option Nat × List UInt8) :=
    match extended, rest with
    | true, 125 :: rest | false, 92 :: 125 :: rest =>
      if most.any (· < least) then .error .badBrace
      else if 32767 < least || most.any (32767 < ·) then .error .tooLarge
      else .ok (least, most, rest)
    | _, [] => .error .openBrace
    | _, _ => .error .badBrace
  let first := bs.takeWhile isDigit
  match bs.drop first.length with
  | 44 :: rest =>
    let second := rest.takeWhile isDigit
    let most := if second.isEmpty then none else some (numberOf second)
    closed (numberOf first) most (rest.drop second.length)
  | [] => .error .openBrace
  | rest => if first.isEmpty then .error .badBrace else closed (numberOf first) (some (numberOf first)) rest

/-- What stands between a mark and the same mark before a closing bracket, and what follows. -/
def named? (mark : UInt8) : List UInt8 → Option (List UInt8 × List UInt8)
  | [] => none
  | b :: rest =>
    if b = mark && rest.head? == some 93 then some ([], rest.drop 1)
    else (named? mark rest).map fun (name, left) => (b :: name, left)

/-- One end of a range: a byte by itself, or between dots. -/
def element (s : Spelling) : List UInt8 → Except Fault (UInt8 × List UInt8)
  | [] => .error .openBracket
  | 91 :: 46 :: rest => match named? 46 rest with
    | some ([b], rest) => .ok (b, rest)
    | some _ => .error .badElement
    | none => .error .openBracket
  | b :: rest =>
    if s.escapesInBrackets && b = 92 then match rest with
      | c :: rest => .ok (escapedByte c, rest)
      | [] => .error .openBracket
    else .ok (b, rest)

/-- The members of a bracket up to its end. -/
def members (s : Spelling) (isFirst : Bool) (holds : UInt8 → Bool) : Nat → List UInt8 →
    Except Fault ((UInt8 → Bool) × List UInt8)
  | 0, _ => .error .openBracket
  | fuel + 1, bs => match bs with
    | [] => .error .openBracket
    | 91 :: 58 :: rest => match named? 58 rest with
      | none => .error .openBracket
      | some (name, rest) => match Shell.classOf? (Text.lossy name) with
        | none => .error .badClass
        | some inClass =>
          let inClass := if s.ignoreCase && (name == "upper".toUTF8.data.toList
            || name == "lower".toUTF8.data.toList) then fun b => (Char.ofNat b.toNat).isAlpha else inClass
          members s false (fun b => holds b || inClass b) fuel rest
    | 91 :: 61 :: rest => match named? 61 rest with
      | some ([x], rest) => members s false (fun b => holds b || b == x) fuel rest
      | some _ => .error .badElement
      | none => .error .openBracket
    | 93 :: rest =>
      if isFirst then memberFrom fuel bs else .ok (holds, rest)
    | _ => memberFrom fuel bs
where
  memberFrom (fuel : Nat) (bs : List UInt8) : Except Fault ((UInt8 → Bool) × List UInt8) := do
    let (a, rest) ← element s bs
    match fuel, rest with
    | 0, _ => throw .openBracket
    | fuel + 1, 45 :: c :: rest =>
      if c = 93 then members s false (fun b => holds b || b == a) fuel (45 :: c :: rest)
      else
        let (z, rest) ← element s (c :: rest)
        if z < a then throw .badRange
        else members s false (fun b => holds b || (a ≤ b && b ≤ z)) fuel rest
    | fuel + 1, rest => members s false (fun b => holds b || b == a) fuel rest

/-- A bracket behind its opening. -/
def bracket (s : Spelling) (bs : List UInt8) : Except Fault (Expression × List UInt8) := do
  let (negated, inner) := match bs with
    | 94 :: inner => (true, inner)
    | inner => (false, inner)
  let (holds, rest) ← members s true (fun _ => false) (2 * inner.length + 2) inner
  let whole := bs.take (bs.length - rest.length - 1)
  if 2 ≤ whole.length && whole.head? == some 58 && whole.getLast? == some 58 && !s.escapesInBrackets then
    throw .bareClass
  return (.byte fun b => holds b != negated, rest)

/-- An operator at the head of a text, and what stands behind it. -/
inductive Operator where
  | opening | closing | bar | star | plus | question | brace
  deriving DecidableEq

def operator? (s : Spelling) (bs : List UInt8) : Option (Operator × List UInt8) :=
  let ofChar (b : UInt8) : Option Operator := match Char.ofNat b.toNat with
    | '(' => some .opening
    | ')' => some .closing
    | '|' => some .bar
    | '+' => some .plus
    | '?' => some .question
    | '\x7b' => if s.braces then some .brace else none
    | _ => none
  match bs with
  | 42 :: rest => some (.star, rest)
  | 92 :: b :: rest => if s.extended then none else (ofChar b).map (·, rest)
  | b :: rest =>
    if s.extended then (ofChar b).map (·, rest) else none
  | [] => none

def advanceTo (rest : List UInt8) : Reader Unit := modify fun r => { r with rest }

/-- An expression as often as the marks to come say; `starred` tells that a star was the last of
them. -/
def repeated (s : Spelling) (starred : Bool) : Nat → Expression → Reader Expression
  | 0, e => return e
  | fuel + 1, e => do
    let strict : Reader Unit := do
      if starred && !s.extended && !s.lenient then throw .nothingRepeated
    match operator? s (← get).rest with
    | some (.star, rest) => do
      strict
      advanceTo rest
      repeated s true fuel (.many 0 none e)
    | some (.plus, rest) => do
      strict
      advanceTo rest
      repeated s true fuel (.many 1 none e)
    | some (.question, rest) => do
      strict
      advanceTo rest
      repeated s true fuel (.many 0 (some 1) e)
    | some (.brace, rest) =>
      match bounds s.extended rest with
      | .ok (least, most, rest) => do
        strict
        advanceTo rest
        repeated s true fuel (.many least most e)
      | .error f =>
        if s.extended && s.lenient && f ≠ .tooLarge && !(f = .badBrace && isWellFormed rest) then
          return e
        else throw f
    | _ => return e
where
  /-- Whether what stands in braces are bounds, even if they cannot be. -/
  isWellFormed (bs : List UInt8) : Bool :=
    let inner := bs.takeWhile (· ≠ 125)
    inner.length < bs.length && inner.all fun b => isDigit b || b == 44

/-- Whether an anchor for the end may stand before some text. -/
def atEnd (s : Spelling) (rest : List UInt8) : Bool :=
  s.extended || match rest with
    | [] | 92 :: 41 :: _ | 92 :: 124 :: _ => true
    | _ => false

mutual

/-- One part with its repetitions; none where a row ends. -/
def single (s : Spelling) (atStart : Bool) : Nat → Reader (Option Expression)
  | 0 => return none
  | fuel + 1 => do
    let r ← get
    let done (e : Expression) (rest : List UInt8) : Reader (Option Expression) := do
      advanceTo rest
      return some (← repeated s false (rest.length + 1) e)
    let only (e : Expression) (rest : List UInt8) : Reader (Option Expression) := do
      advanceTo rest
      return some e
    let misplaced (sign : String) (rest : List UInt8) : Reader (Option Expression) := do
      if !s.lenient then throw .nothingRepeated
      modify fun r => { r with warnings := r.warnings ++ [sign ++ " at start of expression"] }
      done .nothing rest
    match operator? s r.rest with
    | some (.opening, rest) => do
      let n := r.groups + 1
      set { r with rest, groups := n, depth := r.depth + 1 }
      let e ← alternatives s fuel
      match operator? s (← get).rest with
      | some (.closing, rest) => do
        modify fun r => { r with closed := n :: r.closed, depth := r.depth - 1 }
        done (.group n e) rest
      | _ => throw .openGroup
    | some (.closing, rest) =>
      if 0 < r.depth then return none
      else if s.extended && s.lenient then done (.byte (· == 41)) rest
      else throw .strayClosing
    | some (.bar, _) => return none
    | some (.star, rest) =>
      if s.extended then misplaced "*" rest else done (.byte (· == 42)) rest
    | some (.plus, rest) =>
      if s.extended then misplaced "+" rest else done (.byte (· == 43)) rest
    | some (.question, rest) =>
      if s.extended then misplaced "?" rest else done (.byte (· == 63)) rest
    | some (.brace, rest) =>
      if s.extended then
        match bounds true rest with
        | .ok (_, _, rest) => misplaced "\x7b...\x7d" rest
        | .error _ =>
          if s.lenient then done (.byte (· == 123)) rest else throw .nothingRepeated
      else if s.lenient then done (.byte (· == 123)) rest else throw .nothingRepeated
    | none => match r.rest with
      | [] => return none
      | 92 :: [] => throw .strayBackslash
      | 92 :: b :: rest =>
        let c := Char.ofNat b.toNat
        if c.isDigit && c != '0' && !s.escapesInBrackets then
          if r.closed.contains (b.toNat - 48) then done (.again (b.toNat - 48)) rest
          else throw .badGroupNumber
        else match if s.moreKinds then kind? s c else none with
          | some e => done e rest
          | none =>
            if s.escapesInBrackets then
              let digits := ((b :: rest).take 3).takeWhile fun d => 48 ≤ d && d ≤ 55
              if digits.isEmpty then done (.byte (· == escapedByte b)) rest
              else
                let x := UInt8.ofNat (digits.foldl (fun n d => n * 8 + (d.toNat - 48)) 0)
                done (.byte (· == x)) ((b :: rest).drop digits.length)
            else done (.byte (· == b)) rest
      | 46 :: rest => done (.byte fun _ => true) rest
      | 91 :: rest => do
        let (e, rest) ← bracket s rest
        done e rest
      | 94 :: rest =>
        if s.extended then
          -- what repeats a place repeats nothing
          match operator? s rest with
          | some (.star, _) | some (.plus, _) | some (.question, _) | some (.brace, _) =>
            only (lineStart s) rest
          | _ => only (lineStart s) rest
        else if atStart then only (lineStart s) rest
        else done (.byte (· == 94)) rest
      | 36 :: rest =>
        if atEnd s rest then
          if s.extended then done (lineEnd s) rest else only (lineEnd s) rest
        else done (.byte (· == 36)) rest
      | b :: rest => done (.byte (· == b)) rest

def row (s : Spelling) (atStart : Bool) : Nat → Reader Expression
  | 0 => return .nothing
  | fuel + 1 => do
    let anchored := atStart && !s.extended && (← get).rest.head? == some 94
    match ← single s atStart fuel with
    | none => return .nothing
    | some e => return .both e (← row s (anchored && (← get).rest.head? == some 42) fuel)

def alternatives (s : Spelling) : Nat → Reader Expression
  | 0 => return .nothing
  | fuel + 1 => do
    let e ← row s true fuel
    match operator? s (← get).rest with
    | some (.bar, rest) => do
      advanceTo rest
      return .either e (← alternatives s fuel)
    | _ => return e

end

/-- Every kind of byte taken without regard to case. -/
def caseless : Expression → Expression
  | byte holds => byte fun b =>
    holds b || holds (foldCase true b) || (97 ≤ b && b ≤ 122 && holds (b - 32))
  | both a b => both a.caseless b.caseless
  | either a b => either a.caseless b.caseless
  | group n e => group n e.caseless
  | many least most e => many least most e.caseless
  | e => e

/-- Reads an expression; what is left of the reading tells its groups and the warnings. -/
def read (s : Spelling) (bs : List UInt8) : Except Fault (Expression × Reading) := do
  let (e, r) ← (alternatives s (4 * bs.length + 8)).run { rest := bs }
  if r.rest.isEmpty then return (if s.ignoreCase then e.caseless else e, r)
  else throw .strayClosing

/-- The expression that describes just one text. -/
def ofLiteral (ignoreCase : Bool) (bs : List UInt8) : Expression :=
  let e := bs.foldr (fun b e => both (byte (· == b)) e) nothing
  if ignoreCase then e.caseless else e

/-! ## Finding -/

/-- Where something was found: from where, up to where, and the groups with their ends. -/
structure Found where
  start : Nat
  stop : Nat
  groups : List (Nat × Nat × Nat) := []

def slice (line : Array UInt8) (start stop : Nat) : List UInt8 := (line.extract start stop).toList

namespace Found

def text (f : Found) (line : Array UInt8) : List UInt8 := slice line f.start f.stop

/-- The text of a group; group 0 is all that was found. -/
def group (f : Found) (line : Array UInt8) : Nat → List UInt8
  | 0 => f.text line
  | n => match f.groups.lookup n with
    | some (a, b) => slice line a b
    | none => []

end Found

/-- Whether the text of a group is asked for once more. -/
def repeatsGroups : Expression → Bool
  | again _ => true
  | both a b | either a b => a.repeatsGroups || b.repeatsGroups
  | group _ e | many _ _ e => e.repeatsGroups
  | _ => false

/-- Two growing rows of places as one. -/
def merged (a b : List Nat) : List Nat :=
  ((a ++ b).mergeSort).eraseReps

def byteAt? (bytes : Array UInt8) (i : Nat) : Option UInt8 := bytes[i]?

/-- The places behind a place, and before it. -/
def edgeAt (line : Array UInt8) (i : Nat) : Option UInt8 × Option UInt8 :=
  (if i = 0 then none else byteAt? line (i - 1), byteAt? line i)

/-- Goes on from places until no new ones come up, `fuel` times at most. -/
def closure (step : List Nat → List Nat) : Nat → List Nat → List Nat → List Nat
  | 0, all, _ => all
  | fuel + 1, all, fresh =>
    let new := (step fresh).filter fun i => !all.contains i
    if new.isEmpty then all else closure step fuel (merged all new) new

/-- Where an expression can end that begins at one of some places; groups are not repeated in it. -/
def ends (line : Array UInt8) : Expression → List Nat → List Nat
  | nothing, starts => starts
  | byte holds, starts => starts.filterMap fun i => if (byteAt? line i).any holds then some (i + 1) else none
  | edge holds, starts => starts.filter fun i => holds (edgeAt line i).1 (edgeAt line i).2
  | both a b, starts => ends line b (ends line a starts)
  | either a b, starts => merged (ends line a starts) (ends line b starts)
  | group _ e, starts => ends line e starts
  | again _, starts => starts
  | many least most e, starts =>
    let first := (List.range least).foldl (fun at_ _ => ends line e at_) starts
    closure (ends line e) (match most with
      | some n => n - least
      | none => line.size + 1) first first

/-- Fits an expression at a place and goes on with `k` at its end. -/
def fit (line : Array UInt8) : Nat → Expression → Found → (Found → Option Found) → Option Found
  | 0, _, _, _ => none
  | fuel + 1, e, f, k => match e with
    | .nothing => k f
    | .byte holds => if (byteAt? line f.stop).any holds then k { f with stop := f.stop + 1 } else none
    | .edge holds => if holds (edgeAt line f.stop).1 (edgeAt line f.stop).2 then k f else none
    | .both a b => fit line fuel a f fun g => fit line fuel b g k
    | .either a b => fit line fuel a f k <|> fit line fuel b f k
    | .group n e => fit line fuel e f fun g =>
      k { g with groups := (n, f.stop, g.stop) :: g.groups.filter (·.1 ≠ n) }
    | .again n => match f.groups.lookup n with
      | none => none
      | some (a, b) =>
        if slice line a b == slice line f.stop (f.stop + (b - a)) then k { f with stop := f.stop + (b - a) }
        else none
    | .many least most e =>
      let stop : Option Found := if least = 0 then k f else none
      if most == some 0 then stop
      else
        let more := fit line fuel e f fun g =>
          if g.stop = f.stop && least = 0 then none
          else fit line fuel (.many (least - 1) (most.map (· - 1)) e) g k
        more <|> stop

/-- How far a search may go into one expression at one place. -/
def reach (line : Array UInt8) : Nat := 100000 + 64 * line.size

/-- The longest text that fits at a place and ends where `accepts` allows it. -/
def fitAt? (e : Expression) (line : Array UInt8) (accepts : Nat → Bool) (start : Nat) : Option Found :=
  let upTo (stop : Nat) : Option Found := fit line (reach line) e ⟨start, start, []⟩ fun f =>
    if f.stop = stop then some f else none
  let stops := if e.repeatsGroups then List.range' start (line.size + 1 - start) else ends line e [start]
  (stops.filter accepts).reverse.findSome? upTo

/-- The first place from `start` on at which an expression fits. -/
def findFrom (e : Expression) (line : Array UInt8) (start : Nat)
    (accepts : Nat → Nat → Bool := fun _ _ => true) : Option Found :=
  let places := List.range' start (line.size + 1 - start)
  if !e.repeatsGroups && (ends line e places).isEmpty then none
  else places.findSome? fun i => e.fitAt? line (accepts i) i

def find? (e : Expression) (line : List UInt8) : Option Found := e.findFrom line.toArray 0

/-- Whether an expression fits somewhere in a line. -/
def isIn (e : Expression) (line : List UInt8) : Bool :=
  let line := line.toArray
  if e.repeatsGroups then (e.findFrom line 0).isSome
  else !(ends line e (List.range (line.size + 1))).isEmpty

end Expression
end ModuleForge.Host
