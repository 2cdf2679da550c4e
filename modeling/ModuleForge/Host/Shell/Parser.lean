import ModuleForge.Host.Shell.Command

/-!
# Reading scripts

A script is read one complete command at a time (`nextCommand`), so what stands before a mistake is
run before the mistake is seen. The bytes of the script are looked at as the characters of the same
numbers.

All readers take a bound on the depth of their recursion; `nextCommand` gives them one that grows
with the script and is never reached.
-/
namespace ModuleForge.Host.Shell

/-- The text of an alias that is being read: how much of the script is left behind it, and whether
the word behind it may be an alias too. -/
structure Entered where
  name : ByteString
  left : Nat
  andNext : Bool

/-- What is left of a script, and the line reached. -/
structure Scanner where
  rest : List Char
  line : Nat := 1
  /-- Other texts for words at the beginning of commands. -/
  aliases : List (ByteString × ByteString) := []
  entered : List Entered := []

structure SyntaxError where
  line : Nat
  message : String
  deriving DecidableEq, Repr

abbrev Parse := StateT Scanner (Except SyntaxError)

namespace Parse

def ofBytes (bs : ByteString) : List Char := bs.map fun b => Char.ofNat b.toNat

def toBytes (cs : List Char) : ByteString := cs.map fun c => UInt8.ofNat c.toNat

def refuse (message : String) : Parse α := do
  throw ⟨(← get).line, message⟩

def rest : Parse (List Char) := return (← get).rest

/-- The character to come. -/
def peek : Parse (Option Char) := return (← get).rest.head?

def skip (n : Nat) : Parse Unit := modify fun s =>
  { s with rest := s.rest.drop n, line := s.line + ((s.rest.take n).filter (· == '\n')).length }

def isNameStart (c : Char) : Bool := c.isAlpha || c == '_'

def isNameChar (c : Char) : Bool := c.isAlphanum || c == '_'

/-- Whether a character ends an unquoted word. -/
def endsWord (c : Char) : Bool := " \t\n;&|<>()".toList.contains c

/-- Past blanks, comments and continued lines. -/
def skipBlanks : Nat → Parse Unit
  | 0 => pure ()
  | fuel + 1 => do
    match ← rest with
    | ' ' :: _ | '\t' :: _ => skip 1; skipBlanks fuel
    | '\\' :: '\n' :: _ => skip 2; skipBlanks fuel
    | '#' :: more => skip (1 + (more.takeWhile (· != '\n')).length)
    | _ => pure ()

/-- Past blanks and ends of lines. -/
def skipLines : Nat → Parse Unit
  | 0 => pure ()
  | fuel + 1 => do
    skipBlanks (← rest).length
    if (← peek) == some '\n' then
      skip 1
      skipLines fuel

/-- The unquoted word to come, without reading it. -/
def peekWord : Parse (List Char) := do
  skipBlanks (← rest).length
  return (← rest).takeWhile fun c => !endsWord c

/-- Words that mean something to the grammar where a command is expected. -/
def keywords : List String :=
  ["!", "case", "do", "done", "elif", "else", "esac", "fi", "for", "if", "in", "then", "until",
   "while", "\x7b", "\x7d"]

/-- Puts the texts of aliases in place of the word to come. The text of an alias is not looked at
for the same alias again. -/
def replaceAlias (besideKeywords : Bool) : Nat → Parse Unit
  | 0 => pure ()
  | fuel + 1 => do
    let word ← peekWord
    let s ← get
    if besideKeywords && keywords.contains (String.ofList word) then pure ()
    else match s.aliases.lookup (toBytes word) with
      | none => pure ()
      | some text =>
        let entered := s.entered.filter (·.left < s.rest.length)
        if entered.any (·.name == toBytes word) then pure ()
        else
          let after := s.rest.drop word.length
          let andNext : Bool := text.getLast?.any fun b => b == 32 || b == 9
          set { s with
            rest := ofBytes text ++ after
            entered := { name := toBytes word, left := after.length, andNext } :: entered }
          replaceAlias besideKeywords fuel

/-- The word to come where a command is expected. -/
def commandWord : Parse String := do
  if !(← get).aliases.isEmpty then replaceAlias true 64
  return String.ofList (← peekWord)

/-- Behind a text that ends in a blank the next word may be an alias too. -/
def followAlias : Parse Unit := do
  let s ← get
  if !s.entered.isEmpty then
    let (ended, inside) := s.entered.partition (s.rest.length ≤ ·.left)
    set { s with entered := inside }
    if ended.any (·.andNext) then replaceAlias false 64

/-- What the parser calls the thing at which it stands. -/
def describe : Parse String := do
  let word ← peekWord
  match ← rest with
  | [] => return "end of file"
  | '\n' :: _ => return "newline"
  | ';' :: ';' :: _ => return "\";;\""
  | '&' :: '&' :: _ => return "\"&&\""
  | '|' :: '|' :: _ => return "\"||\""
  | c :: _ =>
    if !word.isEmpty then return "word"
    else if c == '<' || c == '>' then return "redirection"
    else return "\"" ++ String.singleton c ++ "\""

/-- Words that open or close a construct where a command is expected. -/
def closers : List String := ["then", "else", "elif", "fi", "do", "done", "esac", "\x7d"]

/-- Refuses what comes next. -/
def unexpected (expecting : String) : Parse α := do
  let word := String.ofList (← peekWord)
  let found ← if closers.contains word then pure ("\"" ++ word ++ "\"") else describe
  let tail := if expecting.isEmpty then "" else " (expecting \"" ++ expecting ++ "\")"
  refuse (found ++ " unexpected" ++ tail)

/-- Reads an expected word. -/
def keyword (word : String) : Parse Unit := do
  if (← peekWord) == word.toList then skip word.length else unexpected word

/-- Text up to a single quote. -/
def singleQuoted : Parse (List Char) := do
  let text := (← rest).takeWhile (· != '\'')
  skip text.length
  if (← peek).isNone then refuse "Unterminated quoted string"
  skip 1
  return text

/-- The name of a parameter: letters and digits, a number, or one special character. -/
def parameterName : Parse (List Char) := do
  match ← rest with
  | c :: more =>
    if isNameStart c then
      let name := c :: more.takeWhile isNameChar
      skip name.length
      return name
    else if c.isDigit || "@*#?$!-".toList.contains c then
      skip 1
      return [c]
    else return []
  | [] => return []

def isRedirection (cs : List Char) : Bool :=
  match cs.dropWhile Char.isDigit with
  | '<' :: _ | '>' :: _ => true
  | _ => false

/-- A literal piece in front of others; neighbouring literal pieces of one kind are joined. -/
def consText (bytes : ByteString) (quoted : Bool) : List Piece → List Piece
  | .text more q :: ps =>
    if q == quoted then .text (bytes ++ more) quoted :: ps
    else .text bytes quoted :: .text more q :: ps
  | ps => .text bytes quoted :: ps

/-- Cuts the body of a text that stands in the script itself out of the lines to come. -/
def cutBody (delimiter : List Char) (tabs : Bool) : Nat → List Char → List Char × List Char
  | 0, cs => ([], cs)
  | fuel + 1, cs =>
    let line := cs.takeWhile (· != '\n')
    let after := cs.drop line.length
    let shown := if tabs then line.dropWhile (· == '\t') else line
    if cs.isEmpty || shown == delimiter then ([], after.drop 1)
    else match after with
      | [] => (shown, [])
      | _ :: after =>
        let (body, left) := cutBody delimiter tabs fuel after
        (shown ++ '\n' :: body, left)

/-- The commands between backquotes, and what stands behind them; none if they are not closed. In
double quotes a backslash also makes a quote literal. -/
def backquoted (inQuotes : Bool) : List Char → Option (List Char × List Char)
  | [] => none
  | '\\' :: c :: rest =>
    (backquoted inQuotes rest).map fun (inner, after) =>
      let literal := "$\\\x60".toList.contains c || inQuotes && c == '"'
      (if literal then c :: inner else '\\' :: c :: inner, after)
  | c :: rest =>
    if c == '\x60' then some ([], rest)
    else (backquoted inQuotes rest).map fun (inner, after) => (c :: inner, after)

/-- An arithmetic expression up to the two parentheses that close it, and what stands behind them;
`depth` counts the parentheses opened inside. -/
def expressionText (depth : Nat) : List Char → Option (List Char × List Char)
  | [] => none
  | ')' :: rest => match depth, rest with
    | 0, ')' :: after => some ([], after)
    | 0, _ => none
    | depth + 1, _ => (expressionText depth rest).map fun (inner, after) => (')' :: inner, after)
  | c :: rest =>
    (expressionText (if c == '(' then depth + 1 else depth) rest).map fun (inner, after) =>
      (c :: inner, after)

/-- What text stands in: nothing, double quotes, or a text inside the script, where a double quote
is a character like any other. -/
inductive Quoting where
  | bare
  | double
  | body
  deriving DecidableEq

def Quoting.isQuoted (q : Quoting) : Bool := q != .bare

/-- The characters that a backslash in front makes literal. -/
def Quoting.escapable : Quoting → List Char
  | .body => "$\\\x60".toList
  | _ => "$\"\\\x60\x7d".toList

mutual

/-- Reads pieces of a word up to an unquoted character at which `stop` holds. -/
def pieces (stop : Char → Bool) (quoting : Quoting) : Nat → Parse (List Piece)
  | 0 => refuse "Too deep"
  | fuel + 1 => do
    match ← rest with
    | [] => return []
    | c :: more =>
      if stop c then return []
      else if c == '\\' then
        match more with
        | [] => skip 1; return [.text [92] true]
        | '\n' :: _ => skip 2; pieces stop quoting fuel
        | d :: _ =>
          skip 2
          let kept := quoting.isQuoted && !quoting.escapable.contains d
          let bytes := toBytes (if kept then [c, d] else [d])
          return consText bytes true (← pieces stop quoting fuel)
      else if c == '\'' && quoting = .bare then
        skip 1
        let text ← singleQuoted
        return consText (toBytes text) true (← pieces stop quoting fuel)
      else if c == '"' && quoting != .body then
        skip 1
        let inner ← pieces (· == '"') .double fuel
        if (← peek) != some '"' then refuse "Unterminated quoted string"
        skip 1
        let inner := if inner.isEmpty then [.text [] true] else inner
        return inner ++ (← pieces stop quoting fuel)
      else if c == '$' then
        skip 1
        let p ← dollar quoting fuel
        return p ++ (← pieces stop quoting fuel)
      else if c == '\x60' then
        skip 1
        let some (inner, after) := backquoted (quoting = .double) more | refuse "EOF in backquote substitution"
        skip (more.length - after.length)
        let body ← inside inner fuel
        return .output body quoting.isQuoted :: (← pieces stop quoting fuel)
      else
        skip 1
        return consText (toBytes [c]) quoting.isQuoted (← pieces stop quoting fuel)

/-- Reads what follows a dollar sign. -/
def dollar (quoting : Quoting) : Nat → Parse (List Piece)
  | 0 => refuse "Too deep"
  | fuel + 1 => do
    let inQuotes := quoting.isQuoted
    match ← rest with
    | '(' :: '(' :: _ =>
      skip 2
      let s ← get
      let some (text, after) := expressionText 0 s.rest | refuse "Missing '))'"
      set { s with rest := text }
      let inner ← pieces (fun _ => false) .double fuel
      set { s with rest := after }
      return [.arithmetic inner inQuotes]
    | '(' :: _ =>
      skip 1
      let body ← list fuel
      skipLines (← rest).length
      if (← peek) != some ')' then unexpected ")"
      skip 1
      return [.output body inQuotes]
    | '\x7b' :: '#' :: '\x7d' :: _ =>
      skip 3
      return [.parameter [35] .plain inQuotes]
    | '\x7b' :: '#' :: _ =>
      skip 2
      let name ← parameterName
      let digits := (← rest).takeWhile Char.isDigit
      let digits := if name.all Char.isDigit then digits else []
      skip digits.length
      let use ← if (← peek) == some '\x7d' then pure Use.length else toBrace fuel
      skip 1
      return [.parameter (toBytes (name ++ digits)) use inQuotes]
    | '\x7b' :: _ =>
      skip 1
      let first ← parameterName
      let behind := (← rest).takeWhile Char.isDigit
      let digits := if first.all Char.isDigit then behind else []
      skip digits.length
      let use ← parameterUse quoting fuel
      if (← peek) != some '\x7d' then
        refuse (if quoting = .double then "Unterminated quoted string" else "Missing '\x7d'")
      skip 1
      return [.parameter (toBytes (first ++ digits)) use inQuotes]
    | _ =>
      let name ← parameterName
      if name.isEmpty then return [.text [36] inQuotes]
      return [.parameter (toBytes name) .plain inQuotes]

/-- Reads what is to be made of a parameter, up to the closing brace. -/
def parameterUse (quoting : Quoting) : Nat → Parse Use
  | 0 => refuse "Too deep"
  | fuel + 1 => do
    let orEmpty := (← peek) == some ':'
    if orEmpty then skip 1
    let operator := (← rest).take 2
    let word (n : Nat) : Parse (List Piece) := do
      skip n
      pieces (· == '\x7d') quoting fuel
    match operator with
    | '-' :: _ => return .fallback (← word 1) orEmpty
    | '=' :: _ => return .assign (← word 1) orEmpty
    | '?' :: _ => return .require (← word 1) orEmpty
    | '+' :: _ => return .replace (← word 1) orEmpty
    | ['#', '#'] => return .remove .front true (← word 2)
    | '#' :: _ => return .remove .front false (← word 1)
    | ['%', '%'] => return .remove .back true (← word 2)
    | '%' :: _ => return .remove .back false (← word 1)
    | '\x7d' :: _ | [] => return .plain
    | _ => toBrace fuel

/-- Past what cannot be made of a parameter. -/
def toBrace : Nat → Parse Use
  | 0 => refuse "Too deep"
  | fuel + 1 => do
    let _ ← pieces (· == '\x7d') .double fuel
    return .unknown

/-- Reads a whole text as commands. -/
def inside (text : List Char) : Nat → Parse Command
  | 0 => refuse "Too deep"
  | fuel + 1 => do
    let s ← get
    set { s with rest := text, entered := [] }
    let body ← list fuel
    set s
    return body

/-- Reads one redirection. -/
def redirection : Nat → Parse Redirection
  | 0 => refuse "Too deep"
  | fuel + 1 => do
    let digits := (← rest).takeWhile Char.isDigit
    skip digits.length
    let given := digits.foldl (fun n c => n * 10 + (c.toNat - 48)) 0
    let fd (usual : Nat) : Nat := if digits.isEmpty then usual else given
    let word : Parse (List Piece) := do
      skipBlanks (← rest).length
      let w ← pieces endsWord .bare fuel
      if w.isEmpty then unexpected "" else return w
    match ← rest with
    | '<' :: '<' :: more =>
      let tabs := more.head? == some '-'
      skip (if tabs then 3 else 2)
      let w ← word
      let quoted := w.any fun
        | .text _ q => q
        | _ => false
      let delimiter := ofBytes (w.flatMap fun
        | .text bs _ => bs
        | _ => [])
      let s ← get
      let line := s.rest.takeWhile (· != '\n')
      let after := (s.rest.drop line.length).drop 1
      let (body, left) := cutBody delimiter tabs (after.length + 1) after
      set { s with rest := line ++ '\n' :: left }
      if quoted then return .mk (fd 0) (.text [.text (toBytes body) true])
      let s ← get
      set { s with rest := body }
      let content ← pieces (fun _ => false) .body fuel
      set s
      return .mk (fd 0) (.text content)
    | '<' :: '&' :: _ => skip 2; return .mk (fd 0) (.copy (← word))
    | '<' :: '>' :: _ => skip 2; return .mk (fd 0) (.update (← word))
    | '<' :: _ => skip 1; return .mk (fd 0) (.input (← word))
    | '>' :: '>' :: _ => skip 2; return .mk (fd 1) (.append (← word))
    | '>' :: '&' :: _ => skip 2; return .mk (fd 1) (.copy (← word))
    | '>' :: '|' :: _ => skip 2; return .mk (fd 1) (.output (← word) true)
    | _ => skip 1; return .mk (fd 1) (.output (← word) false)

/-- Reads redirections as long as there are some. -/
def redirections : Nat → Parse (List Redirection)
  | 0 => refuse "Too deep"
  | fuel + 1 => do
    skipBlanks (← rest).length
    if !isRedirection (← rest) then return []
    let r ← redirection fuel
    return r :: (← redirections fuel)

/-- Reads the assignments, words and redirections of a simple command. -/
def simple (line : Nat) (assignments : List (ByteString × List Piece)) (words : List (List Piece))
    (redirs : List Redirection) : Nat → Parse Command
  | 0 => refuse "Too deep"
  | fuel + 1 => do
    skipBlanks (← rest).length
    if isRedirection (← rest) then
      let r ← redirection fuel
      simple line assignments words (redirs ++ [r]) fuel
    else
      if words.isEmpty then
        if !(← get).aliases.isEmpty then replaceAlias false 64
      else followAlias
      let cs ← rest
      let name := cs.takeWhile isNameChar
      let isAssignment := words.isEmpty && name.head?.any isNameStart
        && (cs.drop name.length).head? == some '='
      if isAssignment then
        skip (name.length + 1)
        let value ← pieces endsWord .bare fuel
        simple line (assignments ++ [(toBytes name, value)]) words redirs fuel
      else
        let w ← pieces endsWord .bare fuel
        if w.isEmpty then
          if (← peek) == some '(' then
            match assignments, words, redirs with
            | [], [[.text fname false]], [] =>
              skip 1
              skipBlanks (← rest).length
              if (← peek) != some ')' then unexpected ")"
              skip 1
              let isGood : Bool := (ofBytes fname).head?.any isNameStart && (ofBytes fname).all isNameChar
              if !isGood || special.contains (Text.lossy fname) then refuse "Bad function name"
              skipLines (← rest).length
              return .define fname (← command fuel)
            | _, _, _ => unexpected ""
          return .simple line assignments words redirs
        else simple line assignments (words ++ [w]) redirs fuel

/-- Reads the branches of a selection. -/
def branches : Nat → Parse (List (List (List Piece) × Command))
  | 0 => refuse "Too deep"
  | fuel + 1 => do
    skipLines (← rest).length
    if (← peekWord) == "esac".toList then
      skip 4
      return []
    if (← peek) == some '(' then skip 1
    let patterns ← alternatives fuel
    let body ← list fuel
    skipLines (← rest).length
    if (← rest).take 2 == [';', ';'] then
      skip 2
      return (patterns, body) :: (← branches fuel)
    else
      keyword "esac"
      return [(patterns, body)]

/-- Reads patterns up to a closing parenthesis. -/
def alternatives : Nat → Parse (List (List Piece))
  | 0 => refuse "Too deep"
  | fuel + 1 => do
    skipBlanks (← rest).length
    let w ← pieces endsWord .bare fuel
    if w.isEmpty then unexpected ")"
    skipBlanks (← rest).length
    match ← peek with
    | some ')' => skip 1; return [w]
    | some '|' => skip 1; return w :: (← alternatives fuel)
    | _ => unexpected ")"

/-- Reads what follows the condition of a choice. -/
def choiceTail : Nat → Parse (Command × Command)
  | 0 => refuse "Too deep"
  | fuel + 1 => do
    keyword "then"
    let yes ← nonemptyList fuel
    let word := String.ofList (← peekWord)
    if word == "elif" then
      skip 4
      let condition ← nonemptyList fuel
      let (y, n) ← choiceTail fuel
      return (yes, .choice condition y n)
    else if word == "else" then
      skip 4
      let no ← nonemptyList fuel
      keyword "fi"
      return (yes, no)
    else
      keyword "fi"
      return (yes, .nothing)

/-- Reads words up to the end of the command. -/
def wordList : Nat → Parse (List (List Piece))
  | 0 => refuse "Too deep"
  | fuel + 1 => do
    skipBlanks (← rest).length
    let w ← pieces endsWord .bare fuel
    if w.isEmpty then return [] else return w :: (← wordList fuel)

/-- Reads the body of a loop. -/
def loopBody : Nat → Parse Command
  | 0 => refuse "Too deep"
  | fuel + 1 => do
    skipLines (← rest).length
    keyword "do"
    let body ← nonemptyList fuel
    keyword "done"
    return body

/-- Reads one command. -/
def command : Nat → Parse Command
  | 0 => refuse "Too deep"
  | fuel + 1 => do
    let word ← commandWord
    let line := (← get).line
    let compound (c : Command) : Parse Command := do
      let rs ← redirections fuel
      return if rs.isEmpty then c else .placed line (.redirected c rs)
    if word.isEmpty && (← peek) == some '(' then
      skip 1
      let body ← nonemptyList fuel
      if (← peek) != some ')' then unexpected ")"
      skip 1
      compound (.placed line (.subshell body))
    else if word == "\x7b" then
      skip 1
      let body ← nonemptyList fuel
      keyword "\x7d"
      compound body
    else if word == "if" then
      skip 2
      let condition ← nonemptyList fuel
      let (yes, no) ← choiceTail fuel
      compound (.choice condition yes no)
    else if word == "while" || word == "until" then
      skip 5
      let condition ← nonemptyList fuel
      compound (.loop (word == "until") condition (← loopBody fuel))
    else if word == "for" then
      skip 3
      let name ← peekWord
      if !name.head?.any isNameStart || !name.all isNameChar then refuse "Bad for loop variable"
      skip name.length
      skipLines (← rest).length
      let words ← if (← peekWord) == "in".toList then do
          skip 2
          pure (some (← wordList fuel))
        else pure none
      skipBlanks (← rest).length
      if (← peek) == some ';' then skip 1
      compound (.placed line (.each (toBytes name) words (← loopBody fuel)))
    else if word == "case" then
      skip 4
      skipBlanks (← rest).length
      let w ← pieces endsWord .bare fuel
      skipLines (← rest).length
      keyword "in"
      compound (.placed line (.select w (← branches fuel)))
    else if closers.contains word then unexpected ""
    else
      let c ← simple line [] [] [] fuel
      match c with
      | .simple _ [] [] [] => unexpected ""
      | c => return c

/-- Reads commands joined by `|`. -/
def pipelineParts : Nat → Parse (List Command)
  | 0 => refuse "Too deep"
  | fuel + 1 => do
    let c ← command fuel
    skipBlanks (← rest).length
    match ← rest with
    | '|' :: '|' :: _ => return [c]
    | '|' :: _ =>
      skip 1
      skipLines (← rest).length
      return c :: (← pipelineParts fuel)
    | _ => return [c]

/-- Reads a pipeline. -/
def pipeline : Nat → Parse Command
  | 0 => refuse "Too deep"
  | fuel + 1 => do
    let negated := (← commandWord) == "!"
    if negated then
      skip 1
      skipBlanks (← rest).length
    let c ← match ← pipelineParts fuel with
      | [c] => pure c
      | cs => pure (.pipeline cs)
    return if negated then .negated c else c

/-- Reads what follows a pipeline in a chain of `&&` and `||`. -/
def chain (left : Command) : Nat → Parse Command
  | 0 => refuse "Too deep"
  | fuel + 1 => do
    skipBlanks (← rest).length
    match ← rest with
    | '&' :: '&' :: _ =>
      skip 2
      skipLines (← rest).length
      chain (.both left (← pipeline fuel)) fuel
    | '|' :: '|' :: _ =>
      skip 2
      skipLines (← rest).length
      chain (.either left (← pipeline fuel)) fuel
    | _ => return left

/-- Reads a list of commands over any number of lines, up to something that closes it. -/
def list : Nat → Parse Command
  | 0 => refuse "Too deep"
  | fuel + 1 => do
    skipLines (← rest).length
    let word ← commandWord
    match ← rest with
    | [] | ')' :: _ | ';' :: ';' :: _ => return .nothing
    | _ =>
      if closers.contains word then return .nothing
      let c ← chain (← pipeline fuel) fuel
      skipBlanks (← rest).length
      match ← rest with
      | ';' :: ';' :: _ => return c
      | ';' :: _ => skip 1; following c fuel
      | '&' :: _ => skip 1; following (.background c) fuel
      | '\n' :: _ => following c fuel
      | _ => return c

/-- Reads the commands that follow one in a list. -/
def following (c : Command) : Nat → Parse Command
  | 0 => refuse "Too deep"
  | fuel + 1 => do
    match ← list fuel with
    | .nothing => return c
    | d => return .sequence c d

/-- A list with at least one command. At the end of the script it is for the caller to say what is
missing. -/
def nonemptyList : Nat → Parse Command
  | 0 => refuse "Too deep"
  | fuel + 1 => do
    match ← list fuel with
    | .nothing => if (← rest).isEmpty then return .nothing else unexpected ""
    | c => return c

/-- Reads the rest of a line of commands. -/
def line : Nat → Parse Command
  | 0 => refuse "Too deep"
  | fuel + 1 => do
    let c ← chain (← pipeline fuel) fuel
    skipBlanks (← rest).length
    let next (c : Command) : Parse Command := do
      skip 1
      skipBlanks (← rest).length
      match ← rest with
      | [] => return c
      | '\n' :: _ => skip 1; return c
      | _ => return .sequence c (← line fuel)
    match ← rest with
    | ';' :: ';' :: _ => unexpected ""
    | ';' :: _ => next c
    | '&' :: _ => next (.background c)
    | '\n' :: _ => skip 1; return c
    | [] => return c
    | _ => unexpected ""

end

end Parse

/-- Reads a text as what stands between double quotes. -/
def readQuoted (text : List Char) : Except SyntaxError (List Piece) := do
  let (pieces, _) ← (Parse.pieces (fun _ => false) .body (8 * text.length + 8)).run { rest := text }
  return pieces

/-- Reads the next complete command; there is none at the end of the script. `true` tells that
nothing stands behind it. -/
def nextCommand (s : Scanner) : Except SyntaxError (Option (Command × Bool × Scanner)) := do
  let (_, s) ← (Parse.skipLines (s.rest.length + 1)).run s
  if s.rest.isEmpty then return none
  let (c, after) ← (Parse.line (64 * s.rest.length + 64)).run s
  return some (c, after.rest.isEmpty && s.rest.getLast? != some '\n', after)

end ModuleForge.Host.Shell
