import ModuleForge.Host.Format
import ModuleForge.Host.Shell.State

/-!
# What builtins have in common

Numbers and options among the words of a builtin, its output, the builtins that only print,
and the one that reads a line.
-/
namespace ModuleForge.Host.Shell

open Step

/-- A natural number in decimal digits. -/
def natural? (bs : ByteString) : Option Nat :=
  if !bs.isEmpty && bs.all fun b => 48 ≤ b && b ≤ 57 then (Text.lossy bs).toNat? else none

/-- A whole number in decimal digits. -/
def integer? (bs : ByteString) : Option Int :=
  match bs with
  | 45 :: rest => (natural? rest).map fun n => -(n : Int)
  | 43 :: rest => (natural? rest).map fun n => (n : Int)
  | _ => (natural? bs).map fun n => (n : Int)

/-- The name and the value around the first `=`. -/
def assignment? (bs : ByteString) : Option (ByteString × ByteString) :=
  let name := bs.takeWhile (· ≠ 61)
  match bs.drop name.length with
  | _ :: value => some (name, value)
  | [] => none

/-- A number among the words of a builtin. -/
def numberOf (w : ByteString) : Step Nat := do
  match natural? w with
  | some n => if n < 2 ^ 31 then return n
  | none => pure ()
  fail ("Illegal number: " ++ Text.lossy w)

/-- A text in single quotes, as the shell would read it; quotes inside stand in quotes of the other
kind. -/
def singleQuoted (bs : ByteString) : ByteString := go (bs.length + 1) bs
where
  go : Nat → ByteString → ByteString
    | 0, _ => []
    | fuel + 1, bs =>
      let plain := bs.takeWhile (· ≠ 39)
      let quotes := (bs.drop plain.length).takeWhile (· = 39)
      let rest := bs.drop (plain.length + quotes.length)
      let start := 39 :: plain ++ [39]
      if quotes.isEmpty then start
      else start ++ 34 :: quotes ++ 34 :: (if rest.isEmpty then [] else go fuel rest)

/-- Writes to standard output: the exit code of a builtin whose own code is `code`. -/
def put (code : Nat) (data : ByteString) : Step Nat := do
  if data.isEmpty then return code
  match ← task (Task.writeAll 1 ⟨data.toArray⟩) with
  | .ok () => return code
  | .error _ =>
    warn "I/O error"
    return code ||| 1

def putText (code : Nat) (text : String) : Step Nat := put code (ByteString.ofText text)

/-! ## Options -/

/-- Options among the words of a builtin: letters, each with a value if it takes one, and the other
words. -/
structure Options where
  letters : List (Char × ByteString) := []
  operands : List ByteString := []

def Options.has (o : Options) (c : Char) : Bool := o.letters.any (·.1 == c)

/-- Reads the letters of one word; `valued` take the rest of the word or the next word as their
value. -/
def optionLetters (flags valued : List Char) : List UInt8 → List ByteString →
    Step (List (Char × ByteString) × List ByteString)
  | [], words => return ([], words)
  | b :: rest, words => do
    let c := Char.ofNat b.toNat
    if valued.contains c then
      if !rest.isEmpty then return ([(c, rest)], words)
      match words with
      | w :: words => return ([(c, w)], words)
      | [] => fail ("No arg for -" ++ String.singleton c ++ " option")
    else if flags.contains c then
      let (more, words) ← optionLetters flags valued rest words
      return ((c, []) :: more, words)
    else fail ("Illegal option -" ++ Text.lossy [b])

/-- Sorts words into options and operands; options end at `--` or at the first other word. -/
def optionsWithin (flags valued : String) : Nat → List ByteString → Step Options
  | 0, words => return { operands := words }
  | _ + 1, [45, 45] :: rest => return { operands := rest }
  | fuel + 1, (45 :: c :: more) :: rest => do
    let (letters, rest) ← optionLetters flags.toList valued.toList (c :: more) rest
    let o ← optionsWithin flags valued fuel rest
    return { o with letters := letters ++ o.letters }
  | _ + 1, words => return { operands := words }

def options (flags valued : String) (words : List ByteString) : Step Options :=
  optionsWithin flags valued (words.length + 1) words

/-! ## Printing -/

/-- Whether a word is the option that keeps a line open. -/
def isKeepLine (w : ByteString) : Bool := w = [45, 110]

def runEcho (words : List ByteString) : Step Nat := do
  let (words, newline) := match words with
    | w :: rest => if isKeepLine w then (rest, false) else (w :: rest, true)
    | [] => ([], true)
  let text := (List.intersperse [32] words).flatten
  let (bytes, stop) := Format.unescape false (Format.chars text)
  put 0 (if newline && !stop then bytes ++ [10] else bytes)

/-- The shell's own way of printing. -/
def dialect : Format.Dialect where
  noNumber w := w ++ ": expected numeric value"
  badTail w := w ++ ": not completely converted"
  outOfRange w := w ++ ": Numerical result out of range"
  badDirective w := w ++ ": invalid directive"
  noDirective _ := "missing format character"
  bareQuote := true
  moreEscapes := false
  readFraction cs := (Decimal.readFloat cs).map fun (x, tail) => (⟨Decimal.negative x, .ofFloat x⟩, tail)

def runPrintf (words : List ByteString) : Step Nat := do
  match (← options "" "" words).operands with
  | [] => fail "usage: printf format [arg ...]"
  | format :: arguments =>
    let p := Format.print dialect format arguments
    let code ← put (if p.refused then 2 else if p.failed then 1 else 0) p.output
    for c in p.complaints do warn c
    return code

/-! ## Reading lines

The builtin that reads a line and distributes it over variables. -/

/-- Reads one line byte by byte: the bytes, each with whether it was escaped, and whether the line
was ended. -/
def readLine (raw : Bool) : Nat → Step (List (UInt8 × Bool) × Bool)
  | 0 => return ([], false)
  | fuel + 1 => do
    match ← task (Task.read 0 1) with
    | .error _ => return ([], false)
    | .ok data => match data.data.toList with
      | [] => return ([], false)
      | 10 :: _ => return ([], true)
      | 92 :: _ =>
        if raw then
          let (more, ended) ← readLine raw fuel
          return ((92, false) :: more, ended)
        else match ← task (Task.read 0 1) with
          | .error _ => return ([], false)
          | .ok data => match data.data.toList with
            | [] => return ([], false)
            | 10 :: _ => readLine raw fuel
            | b :: _ =>
              let (more, ended) ← readLine raw fuel
              return ((b, true) :: more, ended)
      | b :: _ =>
        let (more, ended) ← readLine raw fuel
        return ((b, false) :: more, ended)

def isBlankSeparator (seps : ByteString) (x : UInt8 × Bool) : Bool :=
  !x.2 && seps.contains x.1 && (x.1 == 32 || x.1 == 9 || x.1 == 10)

def isSeparator (seps : ByteString) (x : UInt8 × Bool) : Bool := !x.2 && seps.contains x.1

/-- Distributes a line over variables; the last one takes what is left. -/
def distribute (seps : ByteString) : List ByteString → List (UInt8 × Bool) → Step Unit
  | [], _ => pure ()
  | [name], line => do
    let line := line.dropWhile (isBlankSeparator seps)
    let kept := (line.reverse.dropWhile (isBlankSeparator seps)).reverse
    assign name (kept.map (·.1))
  | name :: names, line => do
    let line := line.dropWhile (isBlankSeparator seps)
    let field := line.takeWhile (!isSeparator seps ·)
    let after := (line.drop field.length).dropWhile (isBlankSeparator seps)
    let after := match (line.drop field.length).head? with
      | some x => if isBlankSeparator seps x then after else line.drop (field.length + 1)
      | none => []
    assign name (field.map (·.1))
    distribute seps names after

def runRead (words : List ByteString) : Step Nat := do
  let o ← options "r" "p" words
  if o.operands.isEmpty then fail "arg count"
  let (line, ended) ← readLine (o.has 'r') Task.patience
  distribute (separators (← get)) o.operands line
  return if ended then 0 else 1

end ModuleForge.Host.Shell
