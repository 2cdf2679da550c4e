import ModuleForge.Host.Utility.Files

/-!
# Utilities that show files

What lists directories and tells what is known of files.
-/
namespace ModuleForge.Host.Utility

open Call

/-! ## What is known of a file -/

/-- A file as it is shown. -/
structure Shown where
  name : ByteString
  path : ByteString
  id : Nat
  node : Node
  rights : Nat
  time : Int
  links : Nat
  target : Option ByteString := none

/-- How many names a node has; a directory is also named by itself and by those below it. -/
def linkCount (t : FileTree) (n : Nat) : Nat :=
  let named := t.slots.foldl (fun count s => match s.node with
    | .directory _ entries => count + (entries.filter (·.2 = n)).length
    | _ => count) 0
  match t.node? n with
  | some (.directory _ entries) => 2 + (entries.filter fun (_, m) => t.isDirectory m).length
  | _ => named

def shownOf (t : FileTree) (name path : ByteString) (n : Nat) : Option Shown :=
  (t.node? n).map fun node => {
    name, path, id := n, node, rights := t.rights n, time := t.time n, links := linkCount t n
    target := match node with
      | .link target => some target
      | _ => none }

namespace Shown

def size (s : Shown) : Nat :=
  match s.node with
  | .file data => data.size
  | .link target => target.length
  | .directory .. => 4096
  | .device _ => 0
  | _ => 65536

/-- How much room a file takes, in units of 1024 bytes. -/
def room (s : Shown) : Nat :=
  match s.node with
  | .link _ | .device _ => 0
  | _ => (s.size + 4095) / 4096 * 4

def kindLetter (s : Shown) : String :=
  match s.node with
  | .directory .. => "d"
  | .link _ => "l"
  | .device _ => "c"
  | _ => "-"

def modeText (s : Shown) : String := s.kindLetter ++ Rights.letters s.rights

def kind (s : Shown) : String :=
  match s.node with
  | .file data => if data.isEmpty then "regular empty file" else "regular file"
  | .directory .. => "directory"
  | .link _ => "symbolic link"
  | .device _ => "character special file"
  | _ => "regular file"

/-- The mark behind a name for what it is. -/
def mark (s : Shown) : ByteString :=
  match s.node with
  | .directory .. => [Path.separator]
  | .link _ => [64]
  | .device _ => []
  | _ => if s.rights &&& 0o111 != 0 then [42] else []

end Shown

/-! ## Listing -/

/-- A size in units of 1024 or of 1000, rounded up, with one place as long as it is below ten. -/
def humanSize (base : Nat) (n : Nat) : String :=
  go base n 0 8
where
  go (base n i : Nat) : Nat → String
    | 0 => toString n
    | fuel + 1 =>
      let unit := base ^ i
      if n < base * unit || i = 8 then
        let letter := (if base = 1024 then ["", "K", "M", "G", "T", "P", "E", "Z", "Y"]
          else ["", "k", "M", "G", "T", "P", "E", "Z", "Y"]).getD i ""
        if i = 0 then toString n
        else
          let tenths := (n * 10 + unit - 1) / unit
          if tenths < 100 then toString (tenths / 10) ++ "." ++ toString (tenths % 10) ++ letter
          else
            let whole := (n + unit - 1) / unit
            if whole = base then go base (base * unit) (i + 1) fuel else toString whole ++ letter
      else go base n (i + 1) fuel

/-- Names compared with the numbers inside them as numbers. -/
def versionOrder : Nat → List Char → List Char → Ordering
  | 0, _, _ => .eq
  | fuel + 1, a, b =>
    let textOf (cs : List Char) : List Char := cs.takeWhile fun c => !c.isDigit
    let (x, y) := (textOf a, textOf b)
    let weight (c : Option Char) : Nat := match c with
      | none => 1
      | some '~' => 0
      | some c => if c.isAlpha then c.toNat + 1 else c.toNat + 256
    let rec texts : Nat → List Char → List Char → Ordering
      | 0, _, _ => .eq
      | n + 1, xs, ys =>
        if xs.isEmpty && ys.isEmpty then .eq
        else
          let o := compare (weight xs.head?) (weight ys.head?)
          if o != .eq then o else texts n (xs.drop 1) (ys.drop 1)
    let o := texts (x.length + y.length + 1) x y
    if o != .eq then o
    else
      let (a, b) := (a.drop x.length, b.drop y.length)
      let (m, n) := (a.takeWhile Char.isDigit, b.takeWhile Char.isDigit)
      let o := compare (Moment.value m) (Moment.value n)
      if o != .eq then o
      else
        let (a, b) := (a.drop m.length, b.drop n.length)
        if a.isEmpty && b.isEmpty then .eq else versionOrder fuel a b

/-- The order in which files are listed. -/
def listingOrder (o : Options) (a b : Shown) : Bool :=
  let byName (a b : Shown) : Ordering :=
    if a.name = b.name then .eq else if Shell.byteOrder a.name b.name then .lt else .gt
  let sortWord := match o.value? 'O' with
    | some w => plain w
    | none => match o.last? "StvXUf" with
      | some 'S' => "size"
      | some 't' => "time"
      | some 'v' => "version"
      | some 'X' => "extension"
      | some _ => "none"
      | none => "name"
  let ending (s : Shown) : ByteString :=
    if s.name.contains 46 then (s.name.reverse.takeWhile (· ≠ 46)).reverse else []
  let primary := match sortWord with
    | "size" => (compare b.size a.size).then (byName a b)
    | "time" => (compare b.time a.time).then (byName a b)
    | "version" => versionOrder (a.name.length + b.name.length + 1) (Format.chars a.name) (Format.chars b.name)
    | "extension" =>
      let (x, y) := (ending a, ending b)
      (if x = y then Ordering.eq else if Shell.byteOrder x y then .lt else .gt).then (byName a b)
    | "none" => .eq
    | _ => byName a b
  let primary := if o.has 'r' then primary.swap else primary
  let isDir (s : Shown) : Nat := match s.node with
    | .directory .. => 0
    | _ => 1
  let whole := if o.has 'D' then (compare (isDir a) (isDir b)).then primary else primary
  whole != .gt

/-- A name as it is shown. -/
def shownName (o : Options) (s : Shown) : ByteString :=
  let text := if o.has 'Q' then
      [34] ++ (s.name.flatMap fun b => if b = 34 || b = 92 then [92, b] else [b]) ++ [34]
    else if o.has 'q' then s.name.map fun b => if isPrinting b then b else 63
    else if o.has 'b' then s.name.flatMap fun b =>
      if b = 32 then [92, 32] else if isPrinting b then [b] else ByteString.ofText (escaped b)
    else s.name
  let mark := if o.has 'F' then s.mark else if o.has 'p' then match s.node with
      | .directory .. => [Path.separator]
      | _ => []
    else []
  text ++ mark

/-- The date of a change: with the time of day if it is not long ago, else with the year. -/
def dateText (o : Options) (now time : Int) : String :=
  let m := Moment.ofNanos time
  match o.value? 'Y' with
  | some w => match plain w with
    | "full-iso" => m.write "%Y-%m-%d %H:%M:%S.%N %z"
    | "long-iso" => m.write "%Y-%m-%d %H:%M"
    | "iso" => m.write "%m-%d %H:%M"
    | text => if text.startsWith "+" then m.write (String.ofList (text.toList.drop 1)) else m.write "%b %e %H:%M"
  | none =>
    if o.has 'T' then m.write "%Y-%m-%d %H:%M:%S.%N %z"
    else
      let recent := now - 15778476 * 1000000000 < time && time ≤ now
      m.write (if recent then "%b %e %H:%M" else "%b %e  %Y")

/-- Lines of a long listing, in columns. -/
def longLines (o : Options) (now : Int) (files : List Shown) : List ByteString :=
  let size (s : Shown) : String :=
    if o.has 'h' then humanSize 1024 s.size else if o.has 'H' then humanSize 1000 s.size
    else match s.node with
      | .device _ => "1, 3"
      | _ => toString s.size
  let owner := if o.has 'n' then "0" else "root"
  let widest (f : Shown → String) : Nat := (files.map fun s => (f s).length).foldl max 0
  let links (s : Shown) : String := toString s.links
  let (linksWidth, sizeWidth) := (widest links, widest size)
  files.map fun s =>
    let who := (if o.has 'g' then "" else owner ++ " ") ++ (if o.has 'o' || o.has 'G' then "" else owner ++ " ")
    let front := s.modeText ++ " " ++ padLeft linksWidth (links s) ++ " " ++ who
      ++ padLeft sizeWidth (size s) ++ " " ++ dateText o now s.time ++ " "
    let target := match s.target with
      | some target => ByteString.ofText " -> " ++ target
      | none => []
    let shown := if s.target.isSome then shownName { o with letters := o.letters.filter (·.1 != 'F') } s
      else shownName o s
    ByteString.ofText front ++ shown ++ target

/-- Blanks and tabs from one column to another. -/
def gapTo : Nat → Nat → Nat → ByteString
  | 0, _, _ => []
  | fuel + 1, here, goal =>
    if goal ≤ here then []
    else if goal / 8 > (here + 1) / 8 then 9 :: gapTo fuel (here + 8 - here % 8) goal
    else 32 :: gapTo fuel (here + 1) goal

/-- Names in as many columns as fit into a line, one column after the other or row by row. -/
def inColumns (width : Nat) (byRows : Bool) (names : List ByteString) : List ByteString :=
  let n := names.length
  let layout (cols : Nat) : List Nat × Nat :=
    let rows := (n + cols - 1) / cols
    let widths := (List.range cols).map fun c =>
      let members := names.zipIdx.filter fun (_, i) => (if byRows then i % cols else i / rows) = c
      let longest := (members.map fun (m, _) => m.length).foldl max 0
      if members.isEmpty then 0 else longest + (if c + 1 = cols then 0 else 2)
    (widths, rows)
  let cols := ((List.range (min n (max 1 (width / 3)))).reverse.map (· + 1)).find? fun c =>
    (layout c).1.foldl (· + ·) 0 < width
  let cols := max 1 (cols.getD 1)
  let (widths, rows) := layout cols
  (List.range rows).map fun r =>
    let cells := (List.range cols).filterMap fun c =>
      (names[if byRows then r * cols + c else c * rows + r]?).map fun name => (c, name)
    let (line, _) := cells.foldl (fun (acc : ByteString × Nat) (c, name) =>
      let start := (widths.take c).foldl (· + ·) 0
      (acc.1 ++ gapTo 200 acc.2 start ++ name, start + name.length)) ([], 0)
    line

/-- The lines for some files in the form that is asked for. -/
def listingLines (o : Options) (now : Int) (files : List Shown) : ByteString :=
  let form := match o.value? 'M' with
    | some w => match plain w with
      | "long" | "verbose" => 'l'
      | "commas" => 'm'
      | "across" | "horizontal" => 'x'
      | "vertical" => 'C'
      | _ => '1'
    | none =>
      if o.has 'T' then 'l'
      else match o.last? "lgno1Cxm" with
        | some 'g' | some 'n' | some 'o' => 'l'
        | some '1' => if o.has 'l' || o.has 'g' || o.has 'n' || o.has 'o' then 'l' else '1'
        | some c => c
        | none => '1'
  let idWidth := (files.map fun s => (toString (s.id + 2)).length).foldl max 0
  let roomText (s : Shown) : String :=
    if o.has 'h' then humanSize 1024 (s.room * 1024) else toString s.room
  let roomWidth := (files.map fun s => (roomText s).length).foldl max 0
  let front (s : Shown) : ByteString :=
    ByteString.ofText ((if o.has 'i' then padLeft idWidth (toString (s.id + 2)) ++ " " else "")
      ++ (if o.has 's' then padLeft roomWidth (roomText s) ++ " " else ""))
  let short := files.map fun s => front s ++ shownName o s
  match form with
  | 'l' => unlines (List.zipWith (fun s line => front s ++ line) files (longLines o now files))
  | 'm' =>
    let width := (o.value? 'w').bind Shell.natural? |>.getD 80
    let (lines, last) := short.zipIdx.foldl (fun (acc : List ByteString × ByteString) (name, i) =>
      let (lines, current) := acc
      let text := name ++ (if i + 1 = short.length then [] else [44])
      if current.isEmpty then (lines, text)
      else if current.length + 1 + text.length < width then (lines, current ++ 32 :: text)
      else (lines ++ [current], text)) ([], [])
    unlines (if files.isEmpty then [] else lines ++ [last])
  | 'C' | 'x' =>
    let width := (o.value? 'w').bind Shell.natural? |>.getD 80
    unlines (inColumns width (form == 'x') short)
  | _ => unlines short

/-- The lines for a directory, and those for the ones below it. -/
def directoryBlocks (o : Options) (now : Int) (t : FileTree) (headed : Bool) :
    Nat → ByteString → Nat → List ByteString
  | 0, _, _ => []
  | fuel + 1, path, n =>
    match t.node? n with
    | some (.directory parent entries) =>
      let all := o.has 'a' || o.has 'f'
      let ignored (name : ByteString) : Bool :=
        (o.values 'I').any (fun p => Shell.Field.describes (p.map fun b => (b, true)) name)
          || o.has 'B' && name.getLast? == some 126
      let visible := entries.filter fun (name, _) =>
        (all || o.has 'A' || name.head? != some Path.dot) && !ignored name
      let dots := if all then [([Path.dot], n), ([Path.dot, Path.dot], parent)] else []
      let nodeOf (path : ByteString) (m : Nat) : Nat :=
        if o.has 'L' then ((t.find n path).toOption).getD m else m
      let files := (dots ++ visible).filterMap fun (name, m) =>
        shownOf t name (Path.join ⟨path⟩ ⟨name⟩).bytes (nodeOf name m)
      let sorted := files.mergeSort (listingOrder o)
      let total := (files.map (·.room)).foldl (· + ·) 0
      let isLong := o.has 'l' || o.has 'g' || o.has 'n' || o.has 'o' || o.has 's' || o.has 'T'
      let head := (if headed then path ++ [58, 10] else [])
        ++ (if isLong then ByteString.ofText ("total "
          ++ (if o.has 'h' then humanSize 1024 (total * 1024) else toString total) ++ "\n") else [])
      let own := head ++ listingLines o now sorted
      let below := if !o.has 'R' then [] else sorted.flatMap fun s =>
        match s.node with
        | .directory .. =>
          if s.name = [Path.dot] || s.name = [Path.dot, Path.dot] then []
          else directoryBlocks o now t headed fuel s.path s.id
        | _ => []
      own :: below
    | _ => []

def ls : Utility := fun c => c.withGrammarOr 2 {
    flags := "1aAbBCdfFgGhHiklLmnNopqQrRsStuUvxXc", valued := "IwT"
    longValued := "OYM", attached := ""
    long := [("all", 'a'), ("almost-all", 'A'), ("escape", 'b'), ("ignore-backups", 'B'), ("directory", 'd'),
      ("human-readable", 'h'), ("inode", 'i'), ("ignore", 'I'), ("dereference", 'L'),
      ("numeric-uid-gid", 'n'), ("literal", 'N'), ("hide-control-chars", 'q'), ("quote-name", 'Q'),
      ("reverse", 'r'), ("recursive", 'R'), ("size", 's'), ("sort", 'O'), ("time-style", 'Y'), ("width", 'w'),
      ("group-directories-first", 'D'), ("full-time", 'T'), ("no-group", 'G'), ("si", 'H'), ("format", 'M')] }
    fun o => do
  let paths := if o.operands.isEmpty then [[Path.dot]] else o.operands
  let now ← Task.look fun t _ => t.now
  let mut code := 0
  let mut plainFiles : List Shown := []
  let mut dirs : List Shown := []
  for path in paths do
    let isLong := o.has 'l' || o.has 'g' || o.has 'n' || o.has 'o'
    let found ← Task.look fun t here => do
      let n ← if o.has 'd' || isLong && !o.has 'L' then t.find here path false
        else match t.find here path with
          | .ok n => pure n
          | .error _ => t.find here path false
      return shownOf t path path n
    match (found : Except Errno (Option Shown)) with
    | .ok (some s) => match s.node with
      | .directory .. => if o.has 'd' then plainFiles := plainFiles ++ [s] else dirs := dirs ++ [s]
      | _ => plainFiles := plainFiles ++ [s]
    | .ok none => pure ()
    | .error e =>
      c.complain ("cannot access " ++ quoted path ++ ": " ++ e.message)
      code := 2
  let headed := 1 < paths.length || o.has 'R'
  let first := if plainFiles.isEmpty then []
    else [listingLines o now (plainFiles.mergeSort (listingOrder o))]
  let blocks ← Task.look fun t _ => (dirs.mergeSort (listingOrder o)).flatMap fun s =>
    directoryBlocks o now t headed t.size s.path s.id
  c.putBytes (List.intersperse [10] (first ++ blocks)).flatten code

/-! ## Details -/

/-- The value of one letter of a format for what is known of a file. -/
def detail (s : Shown) (letter : Char) : ByteString :=
  let text (s : String) : ByteString := ByteString.ofText s
  let number (n : Nat) : ByteString := text (toString n)
  let kindBits := match s.node with
    | .directory .. => 0o40000
    | .link _ => 0o120000
    | .device _ => 0o20000
    | _ => 0o100000
  let moment := (Moment.ofNanos s.time).write "%Y-%m-%d %H:%M:%S.%N %z"
  match letter with
  | 'n' => s.path
  | 'N' => text (quoted s.path ++ (match s.target with
    | some target => " -> " ++ quoted target
    | none => ""))
  | 's' => number s.size
  | 'F' => text s.kind
  | 'a' => text (Rights.octal s.rights)
  | 'A' => text s.modeText
  | 'f' => text (String.ofList (Nat.toDigits 16 (kindBits + s.rights)))
  | 'h' => number s.links
  | 'i' => number (s.id + 2)
  | 'u' | 'g' => text "0"
  | 'U' | 'G' => text "root"
  | 'b' => number (s.room * 2)
  | 'B' => text "512"
  | 'o' => text "4096"
  | 'd' => text "65024"
  | 'D' => text "fe00"
  | 't' => text (match s.node with
    | .device _ => "1"
    | _ => "0")
  | 'T' => text (match s.node with
    | .device .null => "3"
    | .device .zero => "5"
    | .device .full => "7"
    | _ => "0")
  | 'm' => [Path.separator]
  | 'x' | 'y' | 'z' => text moment
  | 'X' | 'Y' | 'Z' => text (toString (s.time / 1000000000))
  | 'w' => text "-"
  | 'W' => text "0"
  | _ => [63]

/-- What is known of a file in a format, with flags and widths; `escapes` tells whether backslashes
mean something in it. -/
def details (s : Shown) (escapes : Bool) : Nat → List Char → ByteString
  | 0, _ => []
  | _ + 1, [] => []
  | fuel + 1, '%' :: '%' :: rest => 37 :: details s escapes fuel rest
  | fuel + 1, '%' :: rest =>
    let (l, rest, _) := Format.layout Format.plainDialect rest []
    match rest with
    | [] => [37]
    | c :: rest =>
      let value := detail s c
      let cs := Format.chars value
      let shown := if l.has '0' && "abBdghiostuX".toList.contains c && !l.has '-' then
          List.replicate (l.width - cs.length) '0' ++ cs
        else l.text cs
      Format.bytes shown ++ details s escapes fuel rest
  | fuel + 1, '\\' :: rest =>
    if escapes then match Format.escape true false rest with
      | some (bs, rest) => bs ++ details s escapes fuel rest
      | none => details s escapes fuel rest
    else 92 :: details s escapes fuel rest
  | fuel + 1, c :: rest => UInt8.ofNat c.toNat :: details s escapes fuel rest

/-- All that is known of a file, over several lines. -/
def fullDetails (s : Shown) : ByteString :=
  let d (c : Char) : String := plain (detail s c)
  let kindLine := "  Size: " ++ padRight 10 (d 's') ++ "\tBlocks: " ++ padRight 10 (d 'b')
    ++ " IO Block: " ++ padRight 6 (d 'o') ++ " " ++ s.kind ++ "\n"
  let name := match s.target with
    | some target => plain s.path ++ " -> " ++ plain target
    | none => plain s.path
  ByteString.ofText ("  File: " ++ name ++ "\n" ++ kindLine
    ++ "Device: 254,0\tInode: " ++ padRight 11 (d 'i') ++ " Links: " ++ d 'h' ++ "\n"
    ++ "Access: (" ++ Rights.octal4 s.rights ++ "/" ++ s.modeText ++ ")  Uid: (    0/    root)   Gid: (    0/    root)\n"
    ++ "Access: " ++ d 'x' ++ "\nModify: " ++ d 'y' ++ "\nChange: " ++ d 'z' ++ "\n Birth: -\n")

def stat : Utility := fun c => c.withGrammar {
    flags := "Ltf", valued := "c", longValued := "P"
    long := [("dereference", 'L'), ("format", 'c'), ("printf", 'P'), ("terse", 't')] } fun o => do
  if o.operands.isEmpty then c.misuse "missing operand"
  else
    let mut code := 0
    for path in o.operands do
      let found ← Task.look fun t here => do
        let n ← t.find here path (o.has 'L')
        return shownOf t (baseName path) path n
      match (found : Except Errno (Option Shown)) with
      | .ok (some s) =>
        let run (escapes : Bool) (w : ByteString) : ByteString :=
          details s escapes (w.length + 1) (Format.chars w)
        let out := match o.value? 'P', o.value? 'c' with
          | some w, _ => run true w
          | none, some w => run false w ++ [10]
          | none, none =>
            if o.has 't' then run false (ByteString.ofText
              "%n %s %b %f %u %g %D %i %h %t %T %X %Y %Z %W %o") ++ [10]
            else fullDetails s
        code := max code (← c.putBytes out)
      | .ok none => code := 1
      | .error e =>
        c.complain ("cannot statx " ++ quoted path ++ ": " ++ e.message)
        code := 1
    return code

/-! ## Room -/

/-- The room that a path and everything below it takes, with a line for each directory, or for
everything. -/
def roomBelow (o : Options) (t : FileTree) (most : Option Nat) (shownAs : Nat → String) (depth : Nat) :
    Nat → ByteString → Nat → Nat × List ByteString
  | 0, _, _ => (0, [])
  | fuel + 1, path, n =>
    match shownOf t path path n with
    | none => (0, [])
    | some s =>
      let own := if o.has 'b' then s.size else s.room * 1024
      let line (total : Nat) : ByteString :=
        ByteString.ofText (shownAs total ++ "\t") ++ path ++ [10]
      match s.node with
      | .directory _ entries =>
        let below := entries.map fun (name, m) =>
          roomBelow o t most shownAs (depth + 1) fuel (Path.join ⟨path⟩ ⟨name⟩).bytes m
        let total := own + (below.map (·.1)).foldl (· + ·) 0
        let shown := most.all (depth ≤ ·)
        (total, below.flatMap (·.2) ++ (if shown then [line total] else []))
      | _ =>
        let shown := (o.has 'a' || depth = 0) && most.all (depth ≤ ·)
        (own, if shown then [line own] else [])

def du : Utility := fun c => c.withGrammar {
    flags := "abchksmSlLx", valued := "dB"
    long := [("all", 'a'), ("bytes", 'b'), ("total", 'c'), ("human-readable", 'h'), ("summarize", 's'),
      ("max-depth", 'd'), ("apparent-size", 'b'), ("block-size", 'B')] } fun o => do
  let most := if o.has 's' then some 0 else (o.value? 'd').bind Shell.natural?
  let unit := if o.has 'm' then 1048576 else if o.has 'b' && !o.has 'k' then 1
    else ((o.value? 'B').bind sizeOf?).getD 1024
  let shown (n : Nat) : String :=
    if o.has 'h' then humanSize 1024 n else toString ((n + unit - 1) / unit)
  let mut code := 0
  let mut total := 0
  for path in if o.operands.isEmpty then [[Path.dot]] else o.operands do
    match ← Task.look fun t here => (t.find here path false).map fun n =>
        roomBelow o t most shown 0 t.size path n with
    | .ok (n, lines) =>
      total := total + n
      code := max code (← c.putBytes lines.flatten)
    | .error e =>
      c.complain ("cannot access " ++ quoted path ++ ": " ++ e.message)
      code := 1
  if o.has 'c' then c.putText (shown total ++ "\ttotal\n") code else return code

end ModuleForge.Host.Utility
