import ModuleForge.Host.Utility.Expression
import ModuleForge.Host.Utility.LineReader

/-!
# Searching lines

`grep` shows the lines in which an expression fits, or what it finds in them, with lines around them
if these are wanted.
-/
namespace ModuleForge.Host.Utility

open Call

/-- What is searched for: an expression, and whether it must describe a whole word or line. -/
structure Search where
  expression : Expression
  wholeWord : Bool := false
  wholeLine : Bool := false

namespace Search

/-- Whether what was found between two places is what is asked for. -/
def accepts (s : Search) (line : Array UInt8) (start stop : Nat) : Bool :=
  let word (o : Option UInt8) : Bool := o.any Expression.isWordByte
  (!s.wholeLine || start = 0 && stop = line.size)
    && (!s.wholeWord || !(0 < start && word (Expression.byteAt? line (start - 1))) && !word (Expression.byteAt? line stop))

/-- The first place at which something fits that is asked for. -/
def find? (s : Search) (line : Array UInt8) (start : Nat) : Option Expression.Found :=
  s.expression.findFrom line start (s.accepts line)

def isIn (s : Search) (line : List UInt8) : Bool :=
  if s.wholeWord || s.wholeLine then (s.find? line.toArray 0).isSome else s.expression.isIn line

/-- All texts found in a line from a place on, with their places; empty ones are passed over. -/
def texts (s : Search) (line : Array UInt8) : Nat → Nat → List (Nat × List UInt8)
  | 0, _ => []
  | fuel + 1, start =>
    if line.size < start then []
    else match s.find? line start with
      | none => []
      | some f =>
        if f.stop = f.start then texts s line fuel (f.start + 1)
        else (f.start, f.text line) :: texts s line fuel f.stop

end Search

/-- How lines are shown. -/
structure GrepStyle where
  search : Search
  inverted : Bool
  /-- The name to put before lines. -/
  label : Option ByteString := none
  numbered : Bool
  offsets : Bool
  onlyFound : Bool
  colored : Bool
  aligned : Bool
  nul : Bool
  before : Nat
  after : Nat
  separator : Option ByteString
  mark : UInt8
  most : Option Nat
  /-- Whether lines are only counted. -/
  silent : Bool
  /-- Whether one line is enough. -/
  first : Bool
  textual : Bool

/-- What searching an input has come to. -/
structure Findings where
  hits : Nat := 0
  number : Nat := 0
  offset : Nat := 0
  /-- The lines before the next one that may still be shown, with their numbers and places. -/
  held : List (Nat × Nat × List UInt8) := []
  /-- How many lines are still to be shown behind the last one found. -/
  left : Nat := 0
  /-- The number of the last line that was shown. -/
  shown : Option Nat := none
  binary : Bool := false
  code : Nat := 0

namespace GrepStyle

def paint (g : GrepStyle) (color : String) (text : ByteString) : ByteString :=
  if g.colored then
    ByteString.ofText ("\x1b[" ++ color ++ "m\x1b[K") ++ text ++ ByteString.ofText "\x1b[m\x1b[K"
  else text

/-- What stands before a line: its file, its number and its place. -/
def front (g : GrepStyle) (number offset : Nat) (sign : UInt8) : ByteString :=
  let separator := g.paint "36" [sign]
  let name := match g.label with
    | some l => g.paint "35" l ++ (if g.nul then [0] else separator)
    | none => []
  let part (width n : Nat) : ByteString :=
    let text := toString n
    g.paint "32" (ByteString.ofText (if g.aligned then padLeft width text else text)) ++ separator
  let all := name ++ (if g.numbered then part 4 number else []) ++ (if g.offsets then part 0 offset else [])
  if g.aligned && !all.isEmpty then all ++ [9] else all

/-- A line with what was found in it in color. -/
def painted (g : GrepStyle) (line : List UInt8) : List UInt8 :=
  if !g.colored || g.inverted then line
  else
    let found := g.search.texts line.toArray (line.length + 1) 0
    let (out, last) := found.foldl (fun (st : List UInt8 × Nat) (start, text) =>
      (st.1 ++ (line.take start).drop st.2 ++ g.paint "01;31" text, start + text.length)) ([], 0)
    out ++ line.drop last

/-- What is shown of a line that was found, or of one around it. -/
def shownLine (g : GrepStyle) (isHit : Bool) (number offset : Nat) (line : List UInt8) : List UInt8 :=
  let sign : UInt8 := if isHit then 58 else 45
  if g.onlyFound then
    if !isHit || g.inverted then []
    else (g.search.texts line.toArray (line.length + 1) 0).flatMap fun (start, text) =>
      g.front number (offset + start) sign ++ g.paint "01;31" text ++ [g.mark]
  else g.front number offset sign ++ (if isHit then g.painted line else line) ++ [g.mark]

/-- Takes up one line; the answer tells whether more lines are wanted. -/
def take (g : GrepStyle) (c : Call) (f : Findings) (l : Line) : Task (Findings × Bool) := do
  let f := { f with number := f.number + 1, binary := f.binary || !g.textual && l.text.contains 0 }
  let offset := f.offset
  let f := { f with offset := f.offset + l.text.length + 1 }
  let isHit := g.search.isIn l.text != g.inverted
  if isHit then
    let f := { f with hits := f.hits + 1 }
    if g.silent then
      return (f, !g.first && g.most.all (f.hits < ·))
    else if f.binary then return (f, false)
    else
      let gap := match f.shown with
        | some n => n + 1 < f.number - f.held.length && (0 < g.before || 0 < g.after || g.separator.isNone)
        | none => false
      let contextual := 0 < g.before || 0 < g.after
      let separator := if gap && contextual then
          match g.separator with
          | some s => g.paint "36" s ++ [10]
          | none => []
        else []
      let earlier := f.held.flatMap fun (n, o, text) => g.shownLine false n o text
      let code ← c.putBytes (separator ++ earlier ++ g.shownLine true f.number offset l.text)
      let f := { f with held := [], left := g.after, shown := some f.number, code := max f.code code }
      return (f, code = 0 && (g.most.all (f.hits < ·) || 0 < g.after))
  else if g.silent then return (f, true)
  else if 0 < f.left then
    let code ← c.putBytes (g.shownLine false f.number offset l.text)
    let f := { f with left := f.left - 1, shown := some f.number, code := max f.code code }
    return (f, g.most.all (f.hits < ·) || 0 < f.left)
  else if g.most.any (· ≤ f.hits) then return (f, false)
  else
    let held := f.held ++ [(f.number, offset, l.text)]
    return ({ f with held := held.drop (held.length - g.before) }, true)

end GrepStyle

/-- The line reader for other ends of lines: texts between NUL bytes, all read at once. -/
def foldMarked (mark : UInt8) (fd : Nat) (step : Findings → Line → Task (Findings × Bool)) (f : Findings) :
    Task (Except Errno Findings) := do
  match ← Task.readAll fd with
  | .error e => return .error e
  | .ok data =>
    let mut f := f
    for text in between mark data.data.toList do
      let (next, goesOn) ← step f ⟨text, true⟩
      f := next
      if !goesOn then return .ok f
    return .ok f

/-- The files below a directory that are to be searched, in the order of its entries. -/
def filesBelow (o : Options) (t : FileTree) (here : Nat) : Nat → ByteString → Nat → List ByteString
  | 0, _, _ => []
  | fuel + 1, path, n =>
    let describes (letter : Char) (name : ByteString) : Bool :=
      (o.values letter).any fun p => Shell.Field.describes (p.map fun b => (b, true)) name
    match t.node? n with
    | some (.directory _ entries) => entries.flatMap fun (name, m) =>
      let inner := if path.isEmpty then name else (Path.join ⟨path⟩ ⟨name⟩).bytes
      match t.node? m with
      | some (.directory ..) => if describes 'Q' name then [] else filesBelow o t here fuel inner m
      | some (.file _) =>
        if describes 'X' name || !(o.values 'N').isEmpty && !describes 'N' name then [] else [inner]
      | _ => []
    | _ => []

def grepNames : List (String × Char) := [("extended-regexp", 'E'), ("fixed-strings", 'F'), ("basic-regexp", 'G'),
  ("perl-regexp", 'P'), ("regexp", 'e'), ("file", 'f'), ("ignore-case", 'i'), ("no-ignore-case", 'j'),
  ("word-regexp", 'w'), ("line-regexp", 'x'), ("null-data", 'z'), ("no-messages", 's'), ("invert-match", 'v'),
  ("max-count", 'm'), ("byte-offset", 'b'), ("line-number", 'n'), ("line-buffered", 'u'), ("with-filename", 'H'),
  ("no-filename", 'h'), ("label", 'Y'), ("only-matching", 'o'), ("quiet", 'q'), ("silent", 'q'),
  ("binary-files", 'W'), ("text", 'a'), ("directories", 'd'), ("recursive", 'r'),
  ("dereference-recursive", 'R'), ("include", 'N'), ("exclude", 'X'), ("exclude-dir", 'Q'),
  ("files-without-match", 'L'), ("files-with-matches", 'l'), ("count", 'c'), ("initial-tab", 'T'), ("null", 'Z'),
  ("before-context", 'B'), ("after-context", 'A'), ("context", 'C'), ("group-separator", 'S'),
  ("no-group-separator", 'J'), ("color", 'K'), ("colour", 'K')]

/-- The words of a call with contexts such as `-2` spelled out. -/
def withContexts (words : List ByteString) : List ByteString :=
  words.flatMap fun w => match w with
    | 45 :: d :: more =>
      if 48 ≤ d && d ≤ 57 && more.all (fun b => 48 ≤ b && b ≤ 57) then [[45, 67], d :: more] else [w]
    | w => [w]

def grep : Utility := fun c => do
  let usage : Task Nat := do
    say ("Usage: " ++ c.program ++ " [OPTION]... PATTERNS [FILE]...")
    say ("Try '" ++ c.program ++ " --help' for more information.")
    return 2
  let grammar : Grammar := {
    flags := "EFGPiywxzsvbnHhoqaIrRLlcTZUu", valued := "efmABCd", longValued := "NXWSYQ", longAttached := "K"
    long := grepNames }
  let words := withContexts c.words
  let o := Call.parse grammar (words.length + 1) words
  let refuse (message : String) : Task Nat := do
    c.complain message
    return 2
  if let some message := o.wrong then
    c.complain message
    return ← usage
  let fromFiles ← contentsOf (o.values 'f')
  match fromFiles with
  | .error (path, e) => refuse (plain path ++ ": " ++ e.message)
  | .ok contents =>
    let given : List ByteString := (o.values 'e').flatMap fun p => match linesOf p with
      | [] => [[]]
      | ls => ls
    let given := given ++ contents.flatMap linesOf
    let named? := (o.value? 'e').isSome || (o.value? 'f').isSome
    let (patterns, paths) : List ByteString × List ByteString :=
      if named? then (given, o.operands)
      else match o.operands with
        | p :: rest => ((match linesOf p with
          | [] => [[]]
          | ls => ls), rest)
        | [] => ([], [])
    if !named? && o.operands.isEmpty then return ← usage
    let number (l : Char) : Except String (Option Nat) := match o.value? l with
      | none => .ok none
      | some v => match Shell.natural? v with
        | some n => .ok (some n)
        | none => .error (if l == 'm' then "invalid max count" else plain v ++ ": invalid context length argument")
    let kinds := "EFGP".toList.filter o.has
    let ignoreCase := o.last? "iyj" != some 'j' && (o.has 'i' || o.has 'y')
    let read (p : ByteString) : Except Expression.Fault (Expression × Expression.Reading) :=
      if o.has 'F' then .ok (.ofLiteral ignoreCase p, { rest := [] })
      else Expression.read { extended := o.has 'E' || o.has 'P', ignoreCase, perl := o.has 'P' } p
    if 1 < kinds.length then return ← refuse "conflicting matchers specified"
    match patterns.mapM read, number 'm', number 'A', number 'B', number 'C' with
    | .error f, _, _, _, _ => refuse f.message
    | _, .error m, _, _, _ | _, _, .error m, _, _ | _, _, _, .error m, _ | _, _, _, _, .error m => refuse m
    | .ok read, .ok most, .ok after, .ok before, .ok around =>
      for (_, r) in read do
        for w in r.warnings do c.complain ("warning: " ++ w)
      let expression : Expression := match read.map (·.1) with
        | [] => .edge fun _ _ => false
        | e :: es => es.foldl .either e
      let recursive := o.has 'r' || o.has 'R'
      let roots := if paths.isEmpty then if recursive then [[Path.dot]] else [[45]] else paths
      let skipsDirs := (o.value? 'd').map plain == some "skip"
      let targets ← if !recursive then pure (roots.map fun p => (p, false)) else
        Task.look fun t here => roots.flatMap fun root =>
          match t.find here root with
          | .ok n =>
            if t.isDirectory n then
              let front : ByteString := if paths.isEmpty then [] else root
              (filesBelow o t here t.size front n).map fun p => (p, true)
            else [(root, false)]
          | .error _ => [(root, false)]
      let quiet := o.has 'q'
      let lists := o.has 'l' || o.has 'L'
      let several := recursive || 1 < paths.length
      let colored := match o.value? 'K' with
        | some v => plain v == "always"
        | none => false
      let g : GrepStyle := {
        search := { expression, wholeWord := o.has 'w', wholeLine := o.has 'x' }
        inverted := o.has 'v', numbered := o.has 'n', offsets := o.has 'b', onlyFound := o.has 'o', colored
        aligned := o.has 'T', nul := o.has 'Z'
        before := (before <|> around).getD 0, after := (after <|> around).getD 0
        separator := if o.has 'J' then none else some ((o.value? 'S').getD [45, 45])
        mark := if o.has 'z' then 0 else 10, most, silent := quiet || o.has 'c' || lists
        first := quiet || lists, textual := o.has 'a' || o.has 'z' }
      let contextual := (before <|> after <|> around).isSome
      let mut code := 1
      let mut troubled := false
      let mut separated := false
      for (path, _) in targets do
        let isDirectory ← if path = [45] then pure false else
          Task.look fun t here => ((t.find here path).toOption).any t.isDirectory
        match ← source path with
        | .error e =>
          if !o.has 's' then c.complain (plain path ++ ": " ++ e.message)
          troubled := true
        | .ok fd =>
          if isDirectory then
            if !skipsDirs && !o.has 's' then c.complain (plain path ++ ": Is a directory")
            if !skipsDirs then troubled := true
          else
            let shown := if path = [45] then (o.value? 'Y').getD (ByteString.ofText "(standard input)") else path
            let own ← Task.position fd
            let out ← Task.position 1
            let same := match own, out with
              | some (a, _), some (b, _) => a = b && !quiet && !lists && most != some 0
              | _, _ => false
            if same then
              c.complain (plain shown ++ ": input file is also the output")
              troubled := true
            else
              let label := if o.last? "Hh" == some 'H' || several && o.last? "Hh" != some 'h' then some shown else none
              let g := { g with label }
              let start : Findings := { shown := if separated && contextual then some 0 else none }
              let f ← if most == some 0 then pure start
                else if g.mark = 0 then do
                  match ← foldMarked 0 fd (g.take c) start with
                  | .ok f => pure f
                  | .error _ => pure start
                else do
                  let reader ← LineReader.fill Task.patience { sources := [fd] }
                  let binary := !g.textual && (reader.part.contains 0 || reader.ready.any (·.text.contains 0))
                  if binary && o.has 'I' then pure start
                  else LineReader.fold reader (g.take c) { start with binary }
              if f.shown.isSome then separated := true
              if path ≠ [45] then
                let _ ← Task.close fd
              let hit := 0 < f.hits
              if o.has 'L' then
                if !hit then code := 0
              else if hit then code := 0
              if f.code ≠ 0 then troubled := true
              if !quiet then
                let name : ByteString := g.paint "35" shown ++ (if o.has 'Z' then [0] else [10])
                if lists then
                  if hit == o.has 'l' then
                    let _ ← c.putBytes name
                else if o.has 'c' then
                  let front : ByteString := match label with
                    | some l => g.paint "35" l ++ (if o.has 'Z' then [0] else g.paint "36" [58])
                    | none => []
                  let _ ← c.putBytes (front ++ ByteString.ofText (toString f.hits ++ "\n"))
                else if f.binary && hit then c.complain (plain shown ++ ": binary file matches")
              if quiet && hit then return 0
      return if troubled then 2 else code
where
  /-- The contents of files, or the first that cannot be read. -/
  contentsOf : List ByteString → Task (Except (ByteString × Errno) (List (List UInt8)))
    | [] => return .ok []
    | path :: rest => do
      match ← source path with
      | .error e => return .error (path, e)
      | .ok fd => match ← Task.readAll fd with
        | .error e => return .error (path, e)
        | .ok data => match ← contentsOf rest with
          | .ok more => return .ok (data.data.toList :: more)
          | .error e => return .error e

end ModuleForge.Host.Utility
