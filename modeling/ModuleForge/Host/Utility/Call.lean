import ModuleForge.Host.Format
import ModuleForge.Host.Shell.Builtin

/-!
# Calls of utilities

A utility is a small program of the machine: it is called under a name, with words and variables,
and gives an exit code. Here is what all of them share: complaints, quoting of names in complaints,
options, and the handling of their streams.
-/
namespace ModuleForge.Host

/-- What a utility is called with. -/
structure Call where
  /-- The name under which it was called, as its messages show it. -/
  program : String
  words : List ByteString
  environment : Variables := []

abbrev Utility := Call → Task Nat

namespace Call

/-- Bytes as text in messages. -/
def plain (bs : ByteString) : String := Text.lossy bs

/-! ## Quoting -/

/-- Bytes that a shell takes as they are wherever they stand. -/
def isSafe (b : UInt8) : Bool :=
  let c := Char.ofNat b.toNat
  c.isAlphanum || "%+,-./:]_@".toList.contains c

def isPrinting (b : UInt8) : Bool := 32 ≤ b && b < 127

/-- The escape of a byte that cannot be printed. -/
def escaped (b : UInt8) : String :=
  match b with
  | 7 => "\\a"
  | 8 => "\\b"
  | 9 => "\\t"
  | 10 => "\\n"
  | 11 => "\\v"
  | 12 => "\\f"
  | 13 => "\\r"
  | _ =>
    let digits := Nat.toDigits 8 b.toNat
    "\\" ++ String.ofList (List.replicate (3 - digits.length) '0' ++ digits)

/-- The inside of single quotes; bytes that cannot be printed stand in quotes of another kind. -/
def quotedInside (inEscapes : Bool) : ByteString → String
  | [] => ""
  | b :: rest =>
    if isPrinting b then
      let text := if b = 39 then "'\\''" else String.singleton (Char.ofNat b.toNat)
      (if inEscapes then "''" else "") ++ text ++ quotedInside false rest
    else (if inEscapes then "" else "'$'") ++ escaped b ++ quotedInside true rest

/-- A name as a shell would have to be given it, in quotes. -/
def quoted (bs : ByteString) : String :=
  let inner := bs.contains 39 && bs.all fun b => isSafe b || b == 39 || b == 32
  if inner then "\"" ++ plain bs ++ "\"" else "'" ++ quotedInside false bs ++ "'"

/-- The same with quotes only where a shell needs them. -/
def named (bs : ByteString) : String :=
  match bs with
  | [] => "''"
  | b :: rest =>
    let follows (c : UInt8) : Bool := isSafe c || c == 35 || c == 126
    if isSafe b && rest.all follows then plain bs else quoted bs

/-! ## Messages and streams -/

/-- Writes a line to standard error. -/
def say (line : String) : Task Unit := do
  let _ ← Task.writeAll 2 (line ++ "\n").toUTF8

/-- Complains under the name of the utility. -/
def complain (c : Call) (message : String) : Task Unit :=
  say (c.program ++ ": " ++ message)

/-- Complains about how the utility was called. -/
def misuse (c : Call) (message : String) (code : Nat := 1) : Task Nat := do
  c.complain message
  say ("Try '" ++ c.program ++ " --help' for more information.")
  return code

/-- Writes to standard output: the exit code, which is 1 if that failed. -/
def put (c : Call) (data : ByteArray) (code : Nat := 0) : Task Nat := do
  match ← Task.writeAll 1 data with
  | .ok () => return code
  | .error e =>
    c.complain ("write error: " ++ e.message)
    return 1

def putBytes (c : Call) (bs : ByteString) (code : Nat := 0) : Task Nat := c.put ⟨bs.toArray⟩ code

def putText (c : Call) (text : String) (code : Nat := 0) : Task Nat := c.put text.toUTF8 code

/-- Hands everything from one descriptor to others. -/
def copyWithin (source : Nat) (targets : List Nat) : Nat → Task (Except Errno Unit)
  | 0 => return .ok ()
  | fuel + 1 => do
    match ← Task.read source 131072 with
    | .error e => return .error e
    | .ok data =>
      if data.isEmpty then return .ok ()
      for t in targets do
        match ← Task.writeAll t data with
        | .error e => return .error e
        | .ok () => pure ()
      copyWithin source targets fuel

def copy (source : Nat) (targets : List Nat) : Task (Except Errno Unit) :=
  copyWithin source targets Task.patience

/-- Opens a file to be read; `-` stands for standard input. -/
def source (path : ByteString) : Task (Except Errno Nat) :=
  if path = [45] then pure (.ok 0) else Task.openFile path .read

/-- Opens a file for a step; `-` stands for standard input. -/
def withInput (c : Call) (path : ByteString) (body : Nat → Task Nat) : Task Nat := do
  if path = [45] then body 0
  else match ← Task.openFile path .read with
    | .error e =>
      c.complain (named path ++ ": " ++ e.message)
      return 1
    | .ok fd =>
      let code ← body fd
      let _ ← Task.close fd
      return code

/-- The files to read: standard input if none are named. -/
def inputs (paths : List ByteString) : List ByteString := if paths.isEmpty then [[45]] else paths

/-- Runs a step for each file, or for standard input if there is none. -/
def eachInput (c : Call) (paths : List ByteString) (body : ByteString → Nat → Task Nat) : Task Nat := do
  let mut code := 0
  for path in inputs paths do
    code := max code (← c.withInput path (body path))
  return code

/-- Runs a step on the whole contents of each file. -/
def eachContent (c : Call) (paths : List ByteString) (body : ByteString → ByteArray → Task Nat) :
    Task Nat :=
  c.eachInput paths fun path fd => do
    match ← Task.readAll fd with
    | .ok data => body path data
    | .error e =>
      c.complain (named path ++ ": " ++ e.message)
      return 1

/-- The contents of all files together. -/
def wholeInput (c : Call) (paths : List ByteString) : Task (Nat × List UInt8) := do
  let mut code := 0
  let mut all : List UInt8 := []
  for path in inputs paths do
    let opened ← source path
    match opened with
    | .error e =>
      c.complain (named path ++ ": " ++ e.message)
      code := 1
    | .ok fd => match ← Task.readAll fd with
      | .ok data => all := all ++ data.data.toList
      | .error e =>
        c.complain (named path ++ ": " ++ e.message)
        code := 1
  return (code, all)

/-- The parts of a text between marks. -/
def cells (isMark : UInt8 → Bool) (data : List UInt8) : List ByteString :=
  data.foldr (fun b acc => if isMark b then [] :: acc else match acc with
    | [] => [[b]]
    | l :: ls => (b :: l) :: ls) [[]]

/-- The parts of a text that each end with a mark; the last one may lack it. -/
def between (mark : UInt8) (data : List UInt8) : List ByteString :=
  let parts := cells (· == mark) data
  if parts.getLast? == some [] then parts.dropLast else parts

/-- The lines of a text, each without its end. -/
def linesOf (data : List UInt8) : List ByteString := between 10 data

/-- The lines of some data, each with its end if it has one. -/
def wholeLines (data : List UInt8) : List (List UInt8) :=
  let lines := linesOf data
  let closed := data.getLast? == some 10
  lines.dropLast.map (· ++ [10]) ++ (lines.getLast?.map fun l => if closed then l ++ [10] else l).toList

def isBlankByte (b : UInt8) : Bool := b == 32 || (9 ≤ b && b ≤ 13)

/-- The words of a text between blanks. -/
def blankWords (data : List UInt8) : List ByteString :=
  let (words, current) := data.foldl (fun (st : List ByteString × ByteString) b =>
    if isBlankByte b then if st.2.isEmpty then st else (st.2.reverse :: st.1, [])
    else (st.1, b :: st.2)) ([], [])
  (if current.isEmpty then words else current.reverse :: words).reverse

/-- A list cut into parts of `n` elements; the last part may be shorter. -/
def parts (n : Nat) (xs : List α) : List (List α) := go (xs.length + 1) xs
where
  go : Nat → List α → List (List α)
    | 0, _ => []
    | _ + 1, [] => []
    | fuel + 1, xs => if n = 0 then [xs] else xs.take n :: go fuel (xs.drop n)

def padLeft (n : Nat) (s : String) : String := String.ofList (List.replicate (n - s.length) ' ') ++ s

def padRight (n : Nat) (s : String) : String := s ++ String.ofList (List.replicate (n - s.length) ' ')

def unlines (lines : List (List UInt8)) : ByteString := lines.flatMap (· ++ [10])

/-! ## Options -/

/-- What options a utility knows: letters that stand alone, letters that take a value, and letters
whose value must follow at once if there is one. Long names stand for letters; such a letter may be
one that is no option by itself. -/
structure Grammar where
  flags : String := ""
  valued : String := ""
  attached : String := ""
  /-- Letters that only long names stand for and that take a value. -/
  longValued : String := ""
  /-- The same for a value that may be left out. -/
  longAttached : String := ""
  long : List (String × Char) := []
  /-- Whether options end at the first other word. -/
  inFront : Bool := false

/-- The options of a call: letters, each with a value if it takes one, and the other words. -/
structure Options where
  letters : List (Char × ByteString) := []
  operands : List ByteString := []
  /-- What is wrong with the first option that cannot be taken. -/
  wrong : Option String := none

def Options.has (o : Options) (letter : Char) : Bool := o.letters.any (·.1 == letter)

/-- The last value given with a letter. -/
def Options.value? (o : Options) (letter : Char) : Option ByteString :=
  (o.letters.reverse.find? (·.1 == letter)).map (·.2)

def Options.values (o : Options) (letter : Char) : List ByteString :=
  o.letters.filterMap fun (l, v) => if l == letter then some v else none

/-- The last of some letters that was given. -/
def Options.last? (o : Options) (choices : String) : Option Char :=
  (o.letters.reverse.find? fun (l, _) => choices.toList.contains l).map (·.1)

/-- Takes the letters of one word apart; `next` is the word behind it. -/
def letters (g : Grammar) (next : Option ByteString) :
    List UInt8 → List (Char × ByteString) × Bool × Option String
  | [] => ([], false, none)
  | l :: rest =>
    let c := Char.ofNat l.toNat
    if g.valued.toList.contains c then
      if !rest.isEmpty then ([(c, rest)], false, none)
      else match next with
        | some v => ([(c, v)], true, none)
        | none => ([], false, some ("option requires an argument -- '" ++ plain [l] ++ "'"))
    else if g.attached.toList.contains c then ([(c, rest)], false, none)
    else if g.flags.toList.contains c then
      let (more, took, wrong) := letters g next rest
      ((c, []) :: more, took, wrong)
    else ([], false, some ("invalid option -- '" ++ plain [l] ++ "'"))

/-- The option that a long word asks for; a name may be cut short as long as it is clear. -/
def longOption (g : Grammar) (word : ByteString) (next : Option ByteString) :
    List (Char × ByteString) × Bool × Option String :=
  let name := plain ((word.drop 2).takeWhile (· ≠ 61))
  let value? : Option ByteString :=
    if word.contains 61 then some ((word.dropWhile (· ≠ 61)).drop 1) else none
  let fitting := g.long.filter fun (n, _) => n.startsWith name
  let found : List (String × Char) := match fitting.find? (·.1 == name) with
    | some f => [f]
    | none => if (fitting.map (·.2)).eraseDups.length ≤ 1 then fitting.take 1 else fitting
  match found with
  | [] => ([], false, some ("unrecognized option '" ++ plain word ++ "'"))
  | [(full, c)] =>
    if g.valued.toList.contains c || g.longValued.toList.contains c then
      match value?, next with
      | some v, _ => ([(c, v)], false, none)
      | none, some v => ([(c, v)], true, none)
      | none, none => ([], false, some ("option '--" ++ full ++ "' requires an argument"))
    else match value? with
      | none => ([(c, [])], false, none)
      | some v =>
        if g.attached.toList.contains c || g.longAttached.toList.contains c then ([(c, v)], false, none)
        else ([], false, some ("option '--" ++ full ++ "' doesn't allow an argument"))
  | several =>
    let names := String.join (several.map fun (n, _) => " '--" ++ n ++ "'")
    ([], false, some ("option '" ++ plain word ++ "' is ambiguous; possibilities:" ++ names))

/-- Sorts the words of a call into options and operands, which may stand in any order up to `--`. -/
def parse (g : Grammar) : Nat → List ByteString → Options
  | 0, _ => {}
  | _ + 1, [] => {}
  | _ + 1, [45, 45] :: rest => { operands := rest }
  | fuel + 1, (45 :: c :: more) :: rest =>
    let (ls, took, wrong) := if c = 45 then longOption g (45 :: c :: more) rest.head?
      else letters g rest.head? (c :: more)
    match wrong with
    | some _ => { letters := ls, wrong }
    | none =>
      let o := parse g fuel (if took then rest.drop 1 else rest)
      { o with letters := ls ++ o.letters }
  | fuel + 1, w :: rest =>
    if g.inFront then { operands := w :: rest }
    else
      let o := parse g fuel rest
      { o with operands := w :: o.operands }

/-- Runs a utility with its options, or complains about them and ends with a code for that. -/
def withGrammarOr (c : Call) (misused : Nat) (g : Grammar) (body : Options → Task Nat) : Task Nat := do
  let o := parse g (c.words.length + 1) c.words
  match o.wrong with
  | none => body o
  | some text => c.misuse text misused

def withGrammar (c : Call) (g : Grammar) (body : Options → Task Nat) : Task Nat :=
  c.withGrammarOr 1 g body

def withOptionsOr (c : Call) (misused : Nat) (flags valued : String) (body : Options → Task Nat) :
    Task Nat := c.withGrammarOr misused { flags, valued } body

def withOptions (c : Call) (flags valued : String) (body : Options → Task Nat) : Task Nat :=
  c.withGrammar { flags, valued } body

end Call
end ModuleForge.Host
