import ModuleForge.Host.Utility.Expression
import ModuleForge.Host.Utility.Listing
import ModuleForge.Host.Utility.Starting

/-!
# Finding files

`find` walks through directories and asks a query of each path that it comes to. A query is made of
tests and actions; an action is a test that does something and tells whether it could.
-/
namespace ModuleForge.Host.Utility

open Call

/-! ## Queries -/

/-- A number to compare with: more than it, less than it, or just it. -/
structure Comparison where
  sign : Ordering := .eq
  number : Nat

def Comparison.holds (c : Comparison) (n : Int) : Bool := compare n c.number == c.sign

/-- How rights are compared with some bits. -/
inductive RightsTest where
  | exactly | allOf | anyOf

inductive Query where
  | constant (value : Bool)
  /-- A pattern for the name, or for the whole path. -/
  | name (whole ignoreCase : Bool) (pattern : ByteString)
  | target (ignoreCase : Bool) (pattern : ByteString)
  | expression (e : Expression)
  | kind (letters : List UInt8) (followed : Bool)
  | size (c : Comparison) (unit : Nat)
  | empty
  | newer (time : Int)
  | age (c : Comparison) (unit : Nat)
  | rights (how : RightsTest) (bits : Nat)
  | mayDo (bits : Nat)
  | links (c : Comparison)
  | id (c : Comparison)
  | sameAs (node : Nat)
  | print (closing : UInt8)
  | printAs (format : ByteString)
  | listed
  /-- Runs a program with the path in the place of each pair of braces. -/
  | run (words : List ByteString) (inDirectory asks : Bool)
  /-- Runs a program with all paths at the end of its words. -/
  | runTogether (words : List ByteString) (inDirectory : Bool)
  | delete | prune | quit
  | negated (q : Query)
  | both (a b : Query)
  | either (a b : Query)
  | second (a b : Query)

namespace Query

/-- Whether a query does something with what is found. -/
def acts : Query → Bool
  | print _ | printAs _ | listed | run .. | runTogether .. | delete => true
  | negated q => q.acts
  | both a b | either a b | second a b => a.acts || b.acts
  | _ => false

end Query

/-- A query, with what holds for all of the search. -/
structure Plan where
  query : Query
  least : Nat := 0
  most : Option Nat := none
  deepestFirst : Bool := false

/-! ## Reading queries -/

structure QueryReading where
  words : List ByteString
  least : Nat := 0
  most : Option Nat := none
  deepestFirst : Bool := false

abbrev QueryReader := StateT QueryReading (ExceptT String Task)

namespace QueryReader

def comparison? (w : ByteString) : Option Comparison :=
  let of (sign : Ordering) (ds : ByteString) : Option Comparison :=
    (Shell.natural? ds).map fun n => ⟨sign, n⟩
  match w with
  | 43 :: ds => of .gt ds
  | 45 :: ds => of .lt ds
  | ds => of .eq ds

/-- A size with its unit, which is 512 bytes if none is given. -/
def sizeTest? (w : ByteString) : Option Query :=
  let unit? : Option Nat := match w.getLast?.map fun b => Char.ofNat b.toNat with
    | some 'c' => some 1
    | some 'w' => some 2
    | some 'b' => some 512
    | some 'k' => some 1024
    | some 'M' => some 1048576
    | some 'G' => some 1073741824
    | _ => none
  match unit? with
  | some unit => (comparison? w.dropLast).map (.size · unit)
  | none => (comparison? w).map (.size · 512)

/-- The value of a predicate. -/
def value (predicate : String) : QueryReader ByteString := do
  match (← get).words with
  | v :: rest => do
    modify fun s => { s with words := rest }
    return v
  | [] => throw ("missing argument to \x60" ++ predicate ++ "'")

def compared (predicate : String) (make : Comparison → Query) : QueryReader Query := do
  let v ← value predicate
  match comparison? v with
  | some c => return make c
  | none => throw ("invalid argument \x60" ++ plain v ++ "' to \x60" ++ predicate ++ "'")

/-- The kinds that an argument lists. -/
def kinds (predicate : String) (followed : Bool) : QueryReader Query := do
  let v ← value predicate
  go predicate followed v.length v []
where
  go (predicate : String) (followed : Bool) : Nat → ByteString → List UInt8 → QueryReader Query
    | 0, _, _ => throw ("Arguments to " ++ predicate ++ " should contain at least one letter")
    | fuel + 1, w, sofar => do
      match w with
      | [] => throw ("Arguments to " ++ predicate ++ " should contain at least one letter")
      | l :: rest =>
        if !("bcdpflsD".toList.contains (Char.ofNat l.toNat)) then
          throw ("Unknown argument to " ++ predicate ++ ": " ++ String.singleton (Char.ofNat l.toNat))
        match rest with
        | [] => return .kind (sofar ++ [l]) followed
        | [44] => throw ("Last file type in list argument to " ++ predicate
            ++ " is missing, i.e., list is ending on: ','")
        | 44 :: rest => go predicate followed fuel rest (sofar ++ [l])
        | _ => throw ("Must separate multiple arguments to " ++ predicate ++ " using: ','")

/-- The words of a program up to `;`, or up to braces and `+`. -/
def program (predicate : String) (inDirectory asks : Bool) : QueryReader Query := do
  let words := (← get).words
  let isEnd (i : Nat) : Bool := words[i]? == some [59]
    || !asks && words[i]? == some [43] && 0 < i && words[i - 1]? == some [123, 125]
  match (List.range words.length).find? isEnd with
  | none | some 0 => throw ("missing argument to \x60" ++ predicate ++ "'")
  | some n => do
    modify fun s => { s with words := words.drop (n + 1) }
    if words[n]? == some [59] then return .run (words.take n) inDirectory asks
    else if 1 < (words.take n).count [123, 125] then
      throw ("Only one instance of \x7b\x7d is supported with " ++ predicate ++ " ... +")
    else return .runTogether (words.take (n - 1)) inDirectory

/-- The bits that rights are compared with. -/
def rightsTest (v : ByteString) : Except String Query :=
  let (how, text) : RightsTest × ByteString := match v with
    | 45 :: rest => (.allOf, rest)
    | 47 :: rest => (.anyOf, rest)
    | v => (.exactly, v)
  match Rights.change? ⟨0, false⟩ 0 (plain text) with
  | some bits => .ok (.rights how bits)
  | none => .error ("invalid mode " ++ quoted v)

def timeOf (path : ByteString) : QueryReader Int := do
  let found ← (Task.look fun t here => (t.find here path).map t.time : Task (Except Errno Int))
  match found with
  | .ok time => return time
  | .error e => throw (quoted path ++ ": " ++ e.message)

def depth (predicate : String) : QueryReader Nat := do
  let v ← value predicate
  match Shell.natural? v with
  | some n => return n
  | none => throw ("Expected a positive decimal integer argument to " ++ predicate ++ ", but got " ++ quoted v)

/-- The query of one predicate. -/
def predicate (w : String) : QueryReader Query := do
  match w with
  | "-true" => return .constant true
  | "-false" => return .constant false
  | "-name" => return .name false false (← value w)
  | "-iname" => return .name false true (← value w)
  | "-path" | "-wholename" => return .name true false (← value w)
  | "-ipath" | "-iwholename" => return .name true true (← value w)
  | "-lname" => return .target false (← value w)
  | "-ilname" => return .target true (← value w)
  | "-regex" | "-iregex" =>
    let v ← value w
    match Expression.read { extended := false, ignoreCase := w == "-iregex" } v with
    | .ok (e, _) => return .expression e
    | .error f => throw ("failed to compile regular expression " ++ quoted v ++ ": " ++ f.message)
  | "-regextype" =>
    let _ ← value w
    return .constant true
  | "-type" => kinds w false
  | "-xtype" => kinds w true
  | "-size" =>
    let v ← value w
    match sizeTest? v with
    | some q => return q
    | none => throw ("invalid -size type \x60" ++ plain v ++ "'")
  | "-empty" => return .empty
  | "-newer" | "-anewer" | "-cnewer" | "-newermm" => return .newer (← timeOf (← value w))
  | "-mtime" | "-atime" | "-ctime" => compared w (.age · 86400)
  | "-mmin" | "-amin" | "-cmin" => compared w (.age · 60)
  | "-perm" =>
    match rightsTest (← value w) with
    | .ok q => return q
    | .error message => throw message
  | "-readable" => return .mayDo 0
  | "-writable" => return .mayDo 0
  | "-executable" => return .mayDo 0o111
  | "-links" => compared w .links
  | "-inum" => compared w .id
  | "-user" | "-group" | "-uid" | "-gid" =>
    let v ← value w
    return .constant (plain v == "root" || v == [48])
  | "-nouser" | "-nogroup" => return .constant false
  | "-samefile" =>
    let v ← value w
    let found ← (Task.look fun t here => t.find here v false : Task (Except Errno Nat))
    match found with
    | .ok n => return .sameAs n
    | .error e => throw (quoted v ++ ": " ++ e.message)
  | "-print" => return .print 10
  | "-print0" => return .print 0
  | "-printf" => return .printAs (← value w)
  | "-ls" => return .listed
  | "-exec" => program w false false
  | "-execdir" => program w true false
  | "-ok" => program w false true
  | "-okdir" => program w true true
  | "-delete" =>
    modify fun s => { s with deepestFirst := true }
    return .delete
  | "-prune" => return .prune
  | "-quit" => return .quit
  | "-depth" | "-d" =>
    modify fun s => { s with deepestFirst := true }
    return .constant true
  | "-maxdepth" =>
    let n ← depth w
    modify fun s => { s with most := some n }
    return .constant true
  | "-mindepth" =>
    let n ← depth w
    modify fun s => { s with least := n }
    return .constant true
  | "-daystart" | "-follow" | "-xdev" | "-mount" | "-noleaf" | "-ignore_readdir_race"
  | "-noignore_readdir_race" | "-warn" | "-nowarn" => return .constant true
  | _ => throw ("unknown predicate \x60" ++ w ++ "'")

def isBinary (w : String) : Bool := ["-a", "-and", "-o", "-or", ","].contains w

mutual

/-- One predicate, its negation, or a query in parentheses; `after` is the operator before it. -/
def primary (after : String) : Nat → QueryReader Query
  | 0 => throw "invalid expression"
  | fuel + 1 => do
    match (← get).words with
    | [] => throw ("expected an expression after '" ++ after ++ "'")
    | w :: rest =>
      let text := plain w
      modify fun s => { s with words := rest }
      if text == "!" || text == "-not" then return .negated (← primary text fuel)
      else if text == "(" then
        if rest.head? == some [41] then throw "invalid expression; empty parentheses are not allowed."
        let q ← alternatives fuel
        match (← get).words with
        | [41] :: rest =>
          modify fun s => { s with words := rest }
          return q
        | _ => throw "invalid expression; I was expecting to find a ')' somewhere but did not see one."
      else if text == ")" then throw "you have too many ')'"
      else if isBinary text then
        throw ("invalid expression; you have used a binary operator '" ++ text ++ "' with nothing before it.")
      else if w.head? == some 45 then predicate text
      else throw ("paths must precede expression: \x60" ++ text ++ "'")

def conjunction (q : Query) : Nat → QueryReader Query
  | 0 => return q
  | fuel + 1 => do
    match (← get).words with
    | [] => return q
    | w :: rest =>
      let text := plain w
      if text == "-a" || text == "-and" then
        modify fun s => { s with words := rest }
        conjunction (.both q (← primary text fuel)) fuel
      else if isBinary text || text == ")" then return q
      else conjunction (.both q (← primary text fuel)) fuel

def disjunction (q : Query) : Nat → QueryReader Query
  | 0 => return q
  | fuel + 1 => do
    match (← get).words with
    | w :: rest =>
      let text := plain w
      if text == "-o" || text == "-or" then
        modify fun s => { s with words := rest }
        disjunction (.either q (← conjunction (← primary text fuel) fuel)) fuel
      else return q
    | [] => return q

def alternatives : Nat → QueryReader Query
  | 0 => throw "invalid expression"
  | fuel + 1 => do
    let q ← disjunction (← conjunction (← primary "(" fuel) fuel) fuel
    rows q fuel

def rows (q : Query) : Nat → QueryReader Query
  | 0 => return q
  | fuel + 1 => do
    match (← get).words with
    | [44] :: rest =>
      modify fun s => { s with words := rest }
      rows (.second q (← disjunction (← conjunction (← primary "," fuel) fuel) fuel)) fuel
    | _ => return q

end

/-- Reads all words of a query. -/
def plan (words : List ByteString) : QueryReader Query := do
  if words.isEmpty then return .print 10
  let q ← alternatives (4 * words.length + 4)
  match (← get).words with
  | [] => return if q.acts then q else .both q (.print 10)
  | _ => throw "you have too many ')'"

end QueryReader

/-! ## Searching -/

/-- A path that a search has come to. -/
structure Visit where
  path : ByteString
  /-- The path at which the search began. -/
  root : ByteString
  depth : Nat
  shown : Shown

structure SearchState where
  code : Nat := 0
  pruned : Bool := false
  stopped : Bool := false
  /-- Programs that are still to be run, with their paths. -/
  waiting : List ((List ByteString × Bool) × List ByteString) := []

abbrev Searching := StateT SearchState Task

/-- A pattern, in which a backslash takes the meaning from what follows. -/
def patternOf : ByteString → Shell.Field
  | [] => []
  | 92 :: b :: rest => (b, false) :: patternOf rest
  | b :: rest => (b, true) :: patternOf rest

def describes (ignoreCase : Bool) (pattern text : ByteString) : Bool :=
  let fold (bs : ByteString) : ByteString := bs.map (Expression.foldCase ignoreCase)
  (patternOf (fold pattern)).describes (fold text)

/-- The path seen from where the search began. -/
def Visit.inner (v : Visit) : ByteString :=
  let rest := v.path.drop v.root.length
  if rest.head? == some Path.separator then rest.drop 1 else rest

/-- The directory in which a path stands. -/
def Visit.directory (v : Visit) : ByteString :=
  if v.path.contains Path.separator then
    (v.path.reverse.dropWhile (· ≠ Path.separator)).drop 1 |>.reverse
  else [Path.dot]

/-- One directive of a format. -/
def Visit.directive (v : Visit) (c : Char) : Option ByteString :=
  let text (s : String) : Option ByteString := some (ByteString.ofText s)
  let s := v.shown
  match c with
  | 'p' => some v.path
  | 'f' => some (baseName v.path)
  | 'h' => some v.directory
  | 'P' => some v.inner
  | 'H' => some v.root
  | 's' => text (toString s.size)
  | 'd' => text (toString v.depth)
  | 'y' | 'Y' => text (if s.kindLetter == "-" then "f" else s.kindLetter)
  | 'm' => text (Rights.octal s.rights)
  | 'M' => text s.modeText
  | 'l' => some (s.target.getD [])
  | 'n' => text (toString s.links)
  | 'i' => text (toString (s.id + 2))
  | 'k' => text (toString s.room)
  | 'b' => text (toString (s.room * 2))
  | 'u' | 'g' => text "root"
  | 'U' | 'G' => text "0"
  | 't' | 'a' | 'c' => text ((Moment.ofNanos s.time).write "%a %b %e %H:%M:%S.%N0 %Y")
  | _ => none

/-- What a format makes of a path, and what it warns of. -/
def Visit.write (v : Visit) : Nat → List Char → ByteString × List String
  | 0, _ => ([], [])
  | _ + 1, [] => ([], [])
  | fuel + 1, '%' :: '%' :: rest =>
    let (bs, ws) := v.write fuel rest
    (37 :: bs, ws)
  | fuel + 1, '%' :: rest =>
    let (l, rest, _) := Format.layout Format.plainDialect rest []
    match rest with
    | [] => ([37], [])
    | 'T' :: k :: rest | 'A' :: k :: rest | 'C' :: k :: rest =>
      let moment := Moment.ofNanos v.shown.time
      let text := if k == '@' then toString (v.shown.time / 1000000000) ++ "."
          ++ moment.write "%N" ++ "0" else moment.write (String.ofList ['%', k])
      let (bs, ws) := v.write fuel rest
      (ByteString.ofText text ++ bs, ws)
    | c :: rest =>
      let (bs, ws) := v.write fuel rest
      match v.directive c with
      | some value => (Format.bytes (l.text (Format.chars value)) ++ bs, ws)
      | none => (37 :: UInt8.ofNat c.toNat :: bs,
          ("warning: unrecognized format directive \x60%" ++ String.singleton c ++ "'") :: ws)
  | fuel + 1, '\\' :: rest =>
    match Format.escape false false rest with
    | none => ([], [])
    | some (out, left) =>
      if rest.head? == some 'c' then ([], [])
      else
        let (bs, ws) := v.write fuel left
        if out == [92] && rest.head? != some '\\' then
          let c := String.ofList (rest.take 1)
          (92 :: bs, ("warning: unrecognized escape \x60\\" ++ c ++ "'") :: ws)
        else (out ++ bs, ws)
  | fuel + 1, c :: rest =>
    let (bs, ws) := v.write fuel rest
    (UInt8.ofNat c.toNat :: bs, ws)

def runIn (c : Call) (directory : Option ByteString) (words : List ByteString) : Task Nat := do
  let child ← Task.fork do
    if let some d := directory then
      let _ ← Task.changeDir d
    become c "" words c.environment
  match ← Task.wait (some child) true with
  | .ok (some (_, word)) => return Shell.Step.codeOf word
  | _ => return 127

/-- The answer to a query at a path. -/
def Query.ask (c : Call) (v : Visit) : Query → Searching Bool
  | constant value => return value
  | name whole ignoreCase pattern =>
    let text := if whole then v.path else baseName v.path
    return Utility.describes ignoreCase pattern text
  | target ignoreCase pattern => return v.shown.target.any (Utility.describes ignoreCase pattern)
  | expression e =>
    let line := v.path.toArray
    return (e.fitAt? line (· == line.size) 0).isSome
  | kind letters followed => do
    let s ← if followed then StateT.lift (Task.look fun t here =>
        ((t.find here v.path).toOption.bind (shownOf t v.path v.path)).getD v.shown) else pure v.shown
    let letter := if s.kindLetter == "-" then "f" else s.kindLetter
    return letters.any fun l => String.singleton (Char.ofNat l.toNat) == letter
  | size n unit => return n.holds ((v.shown.size + unit - 1) / unit : Nat)
  | empty => return match v.shown.node with
      | .file data => data.isEmpty
      | .directory _ entries => entries.isEmpty
      | _ => false
  | newer time => return time < v.shown.time
  | age n unit => do
    let now ← StateT.lift (Task.look fun t _ => t.now)
    return n.holds ((now - v.shown.time) / (unit * 1000000000 : Nat))
  | rights how bits =>
    let own := v.shown.rights
    return match how with
      | .exactly => own == bits
      | .allOf => own &&& bits == bits
      | .anyOf => bits == 0 || own &&& bits != 0
  | mayDo bits => return bits == 0 || v.shown.rights &&& bits != 0
  | links n => return n.holds v.shown.links
  | id n => return n.holds (v.shown.id + 2)
  | sameAs node => return v.shown.id == node
  | print closing => do
    let code ← StateT.lift (c.putBytes (v.path ++ [closing]))
    modify fun s => { s with code := max s.code code }
    return true
  | printAs format => do
    let (bs, warnings) := v.write (format.length + 1) (Format.chars format)
    let code ← StateT.lift (c.putBytes bs)
    for w in warnings do StateT.lift (c.complain w)
    modify fun s => { s with code := max s.code code }
    return true
  | listed => do
    let now ← StateT.lift (Task.look fun t _ => t.now)
    let line := (longLines {} now [{ v.shown with name := v.path }]).flatten
    let front := padLeft 9 (toString (v.shown.id + 2)) ++ " " ++ padLeft 6 (toString v.shown.room) ++ " "
    let _ ← StateT.lift (c.putBytes (ByteString.ofText front ++ line ++ [10]))
    return true
  | run words inDirectory asks => do
    let path := if inDirectory then ByteString.ofText "./" ++ baseName v.path else v.path
    let words := words.map (replaceAll [123, 125] path)
    let agreed ← if asks then StateT.lift do
        let _ ← Task.writeAll 2
          ("< " ++ plain (words.headD []) ++ " ... " ++ plain v.path ++ " > ? ").toUTF8
        agrees.answer 4096 none
      else pure true
    if !agreed then return false
    let code ← StateT.lift (runIn c (if inDirectory then some v.directory else none) words)
    return code == 0
  | runTogether words inDirectory => do
    let path := if inDirectory then ByteString.ofText "./" ++ baseName v.path else v.path
    let key := (words, inDirectory)
    modify fun s =>
      let known : Option (List ByteString) := s.waiting.lookup key
      match known with
      | some paths =>
        let others := s.waiting.filter (·.1 != key)
        { s with waiting := others ++ [(key, paths ++ [path])] }
      | none => { s with waiting := s.waiting ++ [(key, [path])] }
    return true
  | delete => do
    if v.path = [Path.dot] then return true
    let isDirectory := match v.shown.node with
      | .directory .. => true
      | _ => false
    let outcome ← StateT.lift (Task.change fun t here =>
      if isDirectory then t.removeDir here v.path else t.unlink here v.path)
    match outcome with
    | .ok () => return true
    | .error e =>
      StateT.lift (c.complain ("cannot delete " ++ quoted v.path ++ ": " ++ e.message))
      modify fun s => { s with code := 1 }
      return false
  | prune => do
    modify fun s => { s with pruned := true }
    return true
  | quit => do
    modify fun s => { s with stopped := true }
    return false
  | negated q => return !(← q.ask c v)
  | both a b => do
    if ← a.ask c v then
      if (← get).stopped then return false else b.ask c v
    else return false
  | either a b => do
    if ← a.ask c v then return true
    else if (← get).stopped then return false else b.ask c v
  | second a b => do
    let _ ← a.ask c v
    if (← get).stopped then return false else b.ask c v

/-- Walks through a path and everything below it. -/
def search (c : Call) (p : Plan) (follow : Bool) (root : ByteString) :
    Nat → Nat → ByteString → Searching Unit
  | 0, _, _ => pure ()
  | fuel + 1, depth, path => do
    if (← get).stopped then return
    let found ← StateT.lift (Task.look fun t here => do
      let n ← if follow || depth = 0 && path.getLast? == some Path.separator then
          match t.find here path with
          | .ok n => pure n
          | .error _ => t.find here path false
        else t.find here path false
      return shownOf t path path n)
    match (found : Except Errno (Option Shown)) with
    | .error e =>
      StateT.lift (c.complain (quoted path ++ ": " ++ e.message))
      modify fun s => { s with code := 1 }
    | .ok none => pure ()
    | .ok (some shown) =>
      let v : Visit := { path, root, depth, shown }
      let ask : Searching Unit := do
        if p.least ≤ depth then
          let _ ← p.query.ask c v
      modify fun s => { s with pruned := false }
      if !p.deepestFirst then ask
      let goesOn := !(← get).pruned || p.deepestFirst
      if goesOn && p.most.all (depth < ·) then
        if let .directory _ entries := shown.node then
          for (name, _) in entries do
            search c p follow root fuel (depth + 1) (Path.join ⟨path⟩ ⟨name⟩).bytes
      if p.deepestFirst && !(← get).stopped then ask

/-- Runs the programs that were left for the end. -/
def runWaiting (c : Call) : Searching Unit := do
  for ((words, inDirectory), paths) in (← get).waiting do
    let directory := if inDirectory then some [Path.dot] else none
    let code ← StateT.lift (runIn c directory (words ++ paths))
    if code ≠ 0 then modify fun s => { s with code := 1 }

def find : Utility := fun c => do
  let fronts : List ByteString := c.words.takeWhile fun w => ["-H", "-L", "-P"].contains (plain w)
  let words := c.words.drop fronts.length
  let isPath (w : ByteString) : Bool := w.head? != some 45 && !([[33], [40], [41], [44]].contains w)
  let roots := words.takeWhile isPath
  let query := words.drop roots.length
  let outcome ← ((QueryReader.plan query).run { words := query }).run
  match outcome with
  | .error message =>
    c.complain message
    return 1
  | .ok (query, r) =>
    let p : Plan := { query, least := r.least, most := r.most, deepestFirst := r.deepestFirst }
    let follow := (fronts.getLast?.map plain) == some "-L"
    let depth ← Task.look fun t _ => t.size + 2
    let walk : Searching Unit := do
      for root in if roots.isEmpty then [[Path.dot]] else roots do
        search c p follow root depth 0 root
      runWaiting c
    let ((), s) ← walk.run {}
    return s.code

end ModuleForge.Host.Utility
