import ModuleForge.Host.Utility.Copying
import ModuleForge.Host.Utility.Expression

/-!
# Comparing files

`cmp` compares byte by byte; `diff` finds the lines that must be left out of one file and put in
from another, as few as possible, and shows them in one of several forms.
-/
namespace ModuleForge.Host.Utility

open Call

/-! ## Byte by byte -/

/-- Complains under the name of a utility whose advice bears its name too. -/
def misuseNamed (c : Call) (message : String) : Task Nat := do
  c.complain message
  c.complain ("Try '" ++ c.program ++ " --help' for more information.")
  return 2

/-- A byte as `cmp` shows it: its digits in base 8, and what it looks like. -/
def octal (b : UInt8) : String := padLeft 3 (String.ofList (Nat.toDigits 8 b.toNat))

def cmp : Utility := fun c => do
  let g : Grammar := {
    flags := "bls", valued := "in", long := [("print-bytes", 'b'), ("verbose", 'l'), ("quiet", 's'), ("silent", 's'),
      ("ignore-initial", 'i'), ("bytes", 'n')] }
  let o := Call.parse g (c.words.length + 1) c.words
  if let some message := o.wrong then return ← misuseNamed c message
  let skipOf (w : ByteString) : Option (Nat × Nat) := match cells (· == 58) w with
    | [a] => (sizeOf? a).map fun n => (n, n)
    | [a, b] => do return (← sizeOf? a, ← sizeOf? b)
    | _ => none
  let skips? : Except String (Nat × Nat) := match o.operands[2]?, o.operands[3]?, o.value? 'i' with
    | some a, b?, _ =>
      match sizeOf? a, (b?.map sizeOf?) with
      | none, _ => .error ("invalid --ignore-initial value " ++ quoted a)
      | _, some none => .error ("invalid --ignore-initial value " ++ quoted (b?.getD []))
      | some m, some (some n) => .ok (m, n)
      | some m, none => .ok (m, 0)
    | none, _, some w => match skipOf w with
      | some s => .ok s
      | none => .error ("invalid --ignore-initial value " ++ quoted w)
    | none, _, none => .ok (0, 0)
  let most? : Except String (Option Nat) := match o.value? 'n' with
    | none => .ok none
    | some w => match sizeOf? w with
      | some n => .ok (some n)
      | none => .error ("invalid --bytes value " ++ quoted w)
  match o.operands, skips?, most? with
  | [], _, _ => misuseNamed c ("missing operand after " ++ quoted (ByteString.ofText c.program))
  | _ :: _ :: _ :: _ :: extra :: _, _, _ => misuseNamed c ("extra operand " ++ quoted extra)
  | _, .error m, _ | _, _, .error m => misuseNamed c m
  | a :: rest, .ok (skipA, skipB), .ok most =>
    let b := rest.headD [45]
    let contents (path : ByteString) (skip : Nat) : Task (Except Errno (List UInt8)) := do
      match ← source path with
      | .error e => return .error e
      | .ok fd => match ← Task.readAll fd with
        | .error e => return .error e
        | .ok data =>
          let bytes := data.data.toList.drop skip
          return .ok ((most.map bytes.take).getD bytes)
    let first ← contents a skipA
    let second ← contents b skipB
    match first, second with
    | .error e, _ =>
      if !o.has 's' then c.complain (plain a ++ ": " ++ e.message)
      return 2
    | _, .error e =>
      if !o.has 's' then c.complain (plain b ++ ": " ++ e.message)
      return 2
    | .ok x, .ok y =>
      if x = y then return 0
      if o.has 's' then return 1
      let common := min x.length y.length
      let pairs := (List.zip x y).zipIdx.filter fun ((p, q), _) => p ≠ q
      let shorter := if x.length < y.length then a else b
      let line := (x.take common).count 10
      let endText := if common = 0 then "EOF on " ++ plain shorter ++ " which is empty"
        else "EOF on " ++ plain shorter ++ " after byte " ++ toString common
          ++ (if o.has 'l' then "" else
            if (x.take common).getLast? == some 10 then ", line " ++ toString line
            else ", in line " ++ toString (line + 1))
      if o.has 'l' then
        let width := (toString (max x.length y.length)).length
        let row (p q : UInt8) (i : Nat) : String :=
          padLeft width (toString (i + 1)) ++ " "
            ++ (if o.has 'b' then
              octal p ++ " " ++ padRight 4 (plain (visible p)) ++ " " ++ octal q ++ " " ++ plain (visible q)
            else octal p ++ " " ++ octal q) ++ "\n"
        if x.length ≠ y.length then c.complain endText
        c.putText (String.join (pairs.map fun ((p, q), i) => row p q i)) 1
      else match pairs with
        | [] =>
          c.complain endText
          return 1
        | ((p, q), i) :: _ =>
          let what := if o.has 'b' then "byte " else "char "
          let shown := if o.has 'b' then " is " ++ octal p ++ " " ++ plain (visible p) ++ " " ++ octal q ++ " "
            ++ plain (visible q) else ""
          c.putText (plain a ++ " " ++ plain b ++ " differ: " ++ what ++ toString (i + 1) ++ ", line "
            ++ toString ((x.take i).count 10 + 1) ++ shown ++ "\n") 1

/-! ## Line by line -/

/-- A stretch of lines in which two files differ: from where and how many, in each of them. -/
structure Hunk where
  start : Nat
  count : Nat
  otherStart : Nat
  otherCount : Nat
  deriving DecidableEq

/-- How many lines two rows have in common in order, for all their ends: row `i`, place `j` tells it
of what stands from `i` and `j` on. -/
def commonCounts (same : Nat → Nat → Bool) (n m : Nat) : Array (Array Nat) :=
  let rows := (List.range n).reverse.foldl (fun (rows : List (Array Nat)) i =>
    let below := rows.headD #[]
    let row := (List.range m).reverse.foldl (fun (row : Array Nat) j =>
      -- `row` is built from its end
      let right := row.back?.getD 0
      let diagonal := (below[m - 1 - j]?).getD 0
      let down := (below[m - j]?).getD 0
      row.push (if same i j then diagonal + 1 else max right down)) #[0]
    row :: rows) [Array.replicate (m + 1) 0]
  (rows.map Array.reverse).toArray

/-- The stretches in which two rows of lines differ. Where there is a choice, equal lines are taken
together as early as possible. -/
def hunksOf (same : Nat → Nat → Bool) (n m : Nat) : List Hunk :=
  -- what both have at their beginnings and ends needs no search
  let front := ((List.range (min n m)).takeWhile fun i => same i i).length
  let left := min n m - front
  let back := ((List.range left).takeWhile fun i => same (n - 1 - i) (m - 1 - i)).length
  let (p, q) := (n - front - back, m - front - back)
  let table := commonCounts (fun i j => same (front + i) (front + j)) p q
  let at_ (i j : Nat) : Nat := (((table[i]?).getD #[])[j]?).getD 0
  let rec walk : Nat → Nat → Nat → Option Hunk → List Hunk
    | 0, _, _, h => h.toList
    | fuel + 1, i, j, h =>
      if p ≤ i && q ≤ j then h.toList
      else if i < p && j < q && same (front + i) (front + j) then
        h.toList ++ walk fuel (i + 1) (j + 1) none
      else
        let current := h.getD ⟨front + i, 0, front + j, 0⟩
        if i < p && (q ≤ j || at_ i (j + 1) ≤ at_ (i + 1) j) then
          walk fuel (i + 1) j (some { current with count := current.count + 1 })
        else walk fuel i (j + 1) (some { current with otherCount := current.otherCount + 1 })
  walk (p + q + 1) 0 0 none

/-- The lines of a file, and whether the last one has its end. -/
structure FileLines where
  lines : Array (List UInt8)
  closed : Bool

def FileLines.ofData (data : List UInt8) : FileLines :=
  ⟨(linesOf data).toArray, data.isEmpty || data.getLast? == some 10⟩

namespace FileLines

def size (f : FileLines) : Nat := f.lines.size

/-- A line behind a mark, with the note that its end is missing if it is. -/
def marked (f : FileLines) (mark : ByteString) (i : Nat) : List UInt8 :=
  mark ++ (f.lines[i]?).getD [] ++ [10]
    ++ (if i + 1 = f.size && !f.closed then ByteString.ofText "\\ No newline at end of file\n" else [])

def stretch (f : FileLines) (mark : ByteString) (start count : Nat) : List UInt8 :=
  (List.range' start count).flatMap (f.marked mark)

end FileLines

/-- What of lines does not count when they are compared. -/
structure LineLook where
  ignoreCase : Bool
  /-- No blanks at all, blanks only as one, or none at the end. -/
  noBlanks : Bool
  oneBlank : Bool
  noTail : Bool
  noReturn : Bool

def LineLook.key (k : LineLook) (l : List UInt8) : List UInt8 :=
  let l := if k.noReturn && l.getLast? == some 13 then l.dropLast else l
  let l := l.map (Expression.foldCase k.ignoreCase)
  let isGap := isBlankByte
  let trimmed (l : List UInt8) : List UInt8 := (l.reverse.dropWhile isGap).reverse
  if k.noBlanks then l.filter (!isGap ·)
  else if k.oneBlank then
    trimmed ((l.splitBy fun a b => isGap a == isGap b).flatMap fun w => if w.head?.any isGap then [32] else w)
  else if k.noTail then trimmed l
  else l

/-- How differences are shown. -/
inductive DiffForm where
  | normal | brief | script | numbered | sideBySide
  | unified (around : Nat)
  | context (around : Nat)

namespace DiffForm

/-- A range of lines: from one to another, or just one, or the one before an empty range. -/
def range (start count : Nat) : String :=
  if count ≤ 1 then toString (start + count) else toString (start + 1) ++ "," ++ toString (start + count)

def text (s : String) : ByteString := ByteString.ofText s

def normalHunk (a b : FileLines) (h : Hunk) : List UInt8 :=
  let letter := if h.count = 0 then "a" else if h.otherCount = 0 then "d" else "c"
  text (range h.start h.count ++ letter ++ range h.otherStart h.otherCount ++ "\n")
    ++ a.stretch (text "< ") h.start h.count
    ++ (if h.count ≠ 0 && h.otherCount ≠ 0 then text "---\n" else [])
    ++ b.stretch (text "> ") h.otherStart h.otherCount

/-- Hunks that are near each other together. -/
def grouped (around : Nat) : List Hunk → List (List Hunk)
  | [] => []
  | h :: rest => match grouped around rest with
    | (g :: gs) :: more =>
      if g.start ≤ h.start + h.count + 2 * around then (h :: g :: gs) :: more else [h] :: (g :: gs) :: more
    | more => [h] :: more

/-- The stretch that a group of hunks covers with the lines around it. -/
def covered (around : Nat) (a b : FileLines) (hs : List Hunk) : Hunk :=
  let first := hs.headD ⟨0, 0, 0, 0⟩
  let last := hs.getLastD first
  let before := min around (min first.start first.otherStart)
  let start := first.start - min around first.start
  let otherStart := first.otherStart - min around first.otherStart
  let _ := before
  let stop := min a.size (last.start + last.count + around)
  let otherStop := min b.size (last.otherStart + last.otherCount + around)
  ⟨start, stop - start, otherStart, otherStop - otherStart⟩

def unifiedRange (start count : Nat) : String :=
  if count = 1 then toString (start + 1)
  else if count = 0 then toString start ++ ",0"
  else toString (start + 1) ++ "," ++ toString count

def unifiedGroup (around : Nat) (a b : FileLines) (hs : List Hunk) : List UInt8 :=
  let all := covered around a b hs
  let (body, last) := hs.foldl (fun (st : List UInt8 × Nat) h =>
    (st.1 ++ a.stretch (text " ") st.2 (h.start - st.2) ++ a.stretch (text "-") h.start h.count
      ++ b.stretch (text "+") h.otherStart h.otherCount, h.start + h.count)) ([], all.start)
  text ("@@ -" ++ unifiedRange all.start all.count ++ " +" ++ unifiedRange all.otherStart all.otherCount ++ " @@\n")
    ++ body ++ a.stretch (text " ") last (all.start + all.count - last)

def contextGroup (around : Nat) (a b : FileLines) (hs : List Hunk) : List UInt8 :=
  let all := covered around a b hs
  let side (f : FileLines) (start count : Nat) (own other : Hunk → Nat × Nat) (mark : String) : List UInt8 :=
    if hs.all fun h => (own h).2 = 0 then []
    else
      let (body, last) := hs.foldl (fun (st : List UInt8 × Nat) h =>
        let (s, n) := own h
        (st.1 ++ f.stretch (text "  ") st.2 (s - st.2)
          ++ f.stretch (text (if (other h).2 = 0 then mark else "! ")) s n, s + n)) ([], start)
      body ++ f.stretch (text "  ") last (start + count - last)
  let ofFirst (h : Hunk) : Nat × Nat := (h.start, h.count)
  let ofSecond (h : Hunk) : Nat × Nat := (h.otherStart, h.otherCount)
  text ("***************\n*** " ++ range all.start all.count ++ " ****\n")
    ++ side a all.start all.count ofFirst ofSecond "- "
    ++ text ("--- " ++ range all.otherStart all.otherCount ++ " ----\n")
    ++ side b all.otherStart all.otherCount ofSecond ofFirst "+ "

def scriptHunk (b : FileLines) (h : Hunk) : List UInt8 :=
  let letter := if h.count = 0 then "a" else if h.otherCount = 0 then "d" else "c"
  text (range h.start h.count ++ letter ++ "\n")
    ++ (if h.otherCount = 0 then [] else
      (List.range' h.otherStart h.otherCount).flatMap (fun i => (b.lines[i]?).getD [] ++ [10]) ++ text ".\n")

def numberedHunk (b : FileLines) (h : Hunk) : List UInt8 :=
  (if h.count = 0 then [] else text ("d" ++ toString (h.start + 1) ++ " " ++ toString h.count ++ "\n"))
    ++ (if h.otherCount = 0 then [] else
      text ("a" ++ toString (h.start + h.count) ++ " " ++ toString h.otherCount ++ "\n")
        ++ (List.range' h.otherStart h.otherCount).flatMap fun i => (b.lines[i]?).getD [] ++ [10])

/-- Tabs and blanks from one column to another. -/
def gap : Nat → Nat → Nat → ByteString
  | 0, _, _ => []
  | fuel + 1, here, goal =>
    if goal ≤ here then []
    else if here / 8 * 8 + 8 ≤ goal then 9 :: gap fuel (here / 8 * 8 + 8) goal
    else 32 :: gap fuel (here + 1) goal

/-- Both files side by side. -/
def sideBySideText (width : Nat) (onlyDifferent : Bool) (a b : FileLines) (hs : List Hunk) : List UInt8 :=
  -- the right column begins at a stop of tabs if there is room for the mark before it
  let offset := (width + 8 + 3) / 2 / 8 * 8
  let half := max 0 (min (offset - 3) (width - offset))
  let offset := if half = 0 then width else offset
  let shown (f : FileLines) (i : Nat) : List UInt8 := ((f.lines[i]?).getD []).take half
  let row (left? right? : Option Nat) (mark : UInt8) : List UInt8 :=
    let left := (left?.map (shown a)).getD []
    let right := (right?.map (shown b)).getD []
    let column := left.length
    let (middle, column) := if mark = 32 then ([], column)
      else (gap 400 column (half + 1) ++ [mark], max column (half + 1) + 1)
    let tail := if right.isEmpty then [] else gap 400 column offset ++ right
    left ++ middle ++ tail ++ [10]
  let same (i j n : Nat) : List UInt8 :=
    if onlyDifferent then [] else (List.range n).flatMap fun k => row (some (i + k)) (some (j + k)) 32
  let (out, i, j) := hs.foldl (fun (st : List UInt8 × Nat × Nat) h =>
    let (out, i, j) := st
    let n := min h.count h.otherCount
    let changed := (List.range n).flatMap fun k => row (some (h.start + k)) (some (h.otherStart + k)) 124
    let gone := (List.range' (h.start + n) (h.count - n)).flatMap fun k => row (some k) none 60
    let new := (List.range' (h.otherStart + n) (h.otherCount - n)).flatMap fun k => row none (some k) 62
    (out ++ same i j (h.start - i) ++ changed ++ gone ++ new, h.start + h.count, h.otherStart + h.otherCount))
    ([], 0, 0)
  out ++ same i j (a.size - i)

end DiffForm

/-- What of two files is compared. -/
structure Comparand where
  path : ByteString
  label : ByteString
  time : Int
  data : List UInt8

/-- How a call of `diff` works. -/
structure Differing where
  look : LineLook
  form : DiffForm
  labels : List ByteString
  textual : Bool
  tellsSame : Bool
  ignoreEmpty : Bool
  ignored : List Expression
  newFile : Bool
  recursive : Bool
  excluded : List ByteString
  width : Nat
  onlyDifferent : Bool
  /-- The options as they were given, for the lines before files in directories. -/
  given : ByteString

namespace Differing

def hunks (d : Differing) (a b : FileLines) : List Hunk :=
  let keys (f : FileLines) : Array (List UInt8 × Bool) := f.lines.mapIdx fun i l =>
    -- a line without its end is another line
    (d.look.key l, i + 1 = f.size && !f.closed && !d.look.noBlanks && !d.look.oneBlank && !d.look.noTail)
  let (x, y) := (keys a, keys b)
  let all := hunksOf (fun i j => x[i]? == y[j]?) x.size y.size
  let trivial (h : Hunk) : Bool :=
    let lines := (List.range' h.start h.count).map (fun i => (a.lines[i]?).getD [])
      ++ (List.range' h.otherStart h.otherCount).map fun i => (b.lines[i]?).getD []
    d.ignoreEmpty && lines.all (d.look.key · |>.isEmpty)
      || !d.ignored.isEmpty && lines.all fun l => d.ignored.any (·.isIn l)
  if all.all trivial then [] else all.filter fun h => !trivial h

def heading (d : Differing) (first second : String) (a b : Comparand) (stamp : Int → String) : ByteString :=
  let line (mark : String) (i : Nat) (x : Comparand) : ByteString :=
    ByteString.ofText (mark ++ " ") ++ (match d.labels[i]? with
      | some l => l
      | none => x.label ++ ByteString.ofText ("\t" ++ stamp x.time)) ++ [10]
  line first 0 a ++ line second 1 b

/-- Compares two files: what is shown, and the exit code. -/
def compare (d : Differing) (a b : Comparand) : ByteString × Nat :=
  let shown (s : String) : ByteString := ByteString.ofText s
  let named (before middle after : String) : ByteString :=
    shown before ++ a.label ++ shown middle ++ b.label ++ shown after
  if a.data = b.data then
    (if d.tellsSame then named "Files " " and " " are identical\n" else [], 0)
  else
    let brief := match d.form with
      | .brief => true
      | _ => false
    let binary := !d.textual && (a.data.contains 0 || b.data.contains 0)
    if binary then
      if brief then (named "Files " " and " " differ\n", 1) else (named "Binary files " " and " " differ\n", 2)
    else
      let (x, y) := (FileLines.ofData a.data, FileLines.ofData b.data)
      let hs := d.hunks x y
      if hs.isEmpty then
        (match d.form with
          | .sideBySide => DiffForm.sideBySideText d.width d.onlyDifferent x y []
          | _ => if d.tellsSame then named "Files " " and " " are identical\n" else [], 0)
      else
        let stamp := fun (t : Int) => (Moment.ofNanos t).write "%Y-%m-%d %H:%M:%S.%N %z"
        let oldStamp := fun (t : Int) => (Moment.ofNanos t).write "%a %b %e %H:%M:%S %Y"
        let body := match d.form with
          | .brief => named "Files " " and " " differ\n"
          | .normal => hs.flatMap (DiffForm.normalHunk x y)
          | .script => hs.reverse.flatMap (DiffForm.scriptHunk y)
          | .numbered => hs.flatMap (DiffForm.numberedHunk y)
          | .sideBySide => DiffForm.sideBySideText d.width d.onlyDifferent x y hs
          | .unified n => d.heading "---" "+++" a b stamp
              ++ (DiffForm.grouped n hs).flatMap (DiffForm.unifiedGroup n x y)
          | .context n => d.heading "***" "---" a b oldStamp
              ++ (DiffForm.grouped n hs).flatMap (DiffForm.contextGroup n x y)
        (body, 1)

/-- What stands behind a path. -/
inductive Target where
  | file (data : List UInt8) (time : Int)
  | directory (names : List ByteString)
  | missing (e : Errno)

def targetOf (path : ByteString) : Task Target := do
  if path = [45] then
    match ← Task.readAll 0 with
    | .ok data => return .file data.data.toList (← Task.look fun t _ => t.now)
    | .error e => return .missing e
  else
    let found ← (Task.look fun t here => match t.find here path with
      | .error e => Except.error e
      | .ok n => match t.node? n with
        | some (.directory _ entries) => Except.ok (some (entries.map (·.1)), t.time n)
        | _ => Except.ok (none, t.time n) : Task (Except Errno (Option (List ByteString) × Int)))
    match found with
    | .error e => return .missing e
    | .ok (some names, _) => return .directory names
    | .ok (none, time) => match ← Task.openFile path .read with
      | .error e => return .missing e
      | .ok fd =>
        let outcome ← Task.readAll fd
        let _ ← Task.close fd
        match outcome with
        | .ok data => return .file data.data.toList time
        | .error e => return .missing e

def pathIn (dir name : ByteString) : ByteString := (Path.join ⟨dir⟩ ⟨name⟩).bytes

/-- Compares what two paths stand for. -/
def run (c : Call) (d : Differing) (inside : Bool) : Nat → ByteString → ByteString → Task Nat
  | 0, _, _ => return 2
  | fuel + 1, a, b => do
    let labelA : ByteString := if a = [45] then [45] else a
    let first ← targetOf a
    let second ← if b = [45] && a = [45] then pure first else targetOf b
    let show_ (x : List UInt8) (s : Int) (y : List UInt8) (t : Int) : Task Nat := do
      let (out, code) := d.compare ⟨a, labelA, s, x⟩ ⟨b, b, t, y⟩
      let front : ByteString := if inside && !out.isEmpty && !(match d.form with
        | .brief => true
        | _ => false) && code ≠ 2 then
          ByteString.ofText "diff" ++ d.given ++ [32] ++ a ++ [32] ++ b ++ [10]
        else []
      let written ← c.putBytes (front ++ out)
      return if written ≠ 0 then 2 else code
    match first, second with
    | .file x s, .file y t => show_ x s y t
    | .directory xs, .directory ys =>
      if inside && !d.recursive then
        let _ ← c.putBytes (ByteString.ofText "Common subdirectories: " ++ a ++ ByteString.ofText " and " ++ b ++ [10])
        return 0
      else
        let excluded (n : ByteString) : Bool :=
          d.excluded.any fun p => Shell.Field.describes (p.map fun b => (b, true)) n
        let names := ((xs ++ ys).eraseDups.filter (!excluded ·)).mergeSort fun m n => m ≤ n
        let mut code := 0
        for n in names do
          let lone (dir : ByteString) : Task Nat := do
            let _ ← c.putBytes (ByteString.ofText "Only in " ++ dir ++ ByteString.ofText ": " ++ n ++ [10])
            return 1
          if xs.contains n && ys.contains n || d.newFile then
            let isDirectory (p : ByteString) : Task Bool :=
              Task.look fun t here => ((t.find here p).toOption).any t.isDirectory
            let skips ← if xs.contains n && ys.contains n || d.recursive then pure false
              else isDirectory (pathIn (if xs.contains n then a else b) n)
            if skips then code := max code (← lone (if xs.contains n then a else b))
            else code := max code (← run c d true fuel (pathIn a n) (pathIn b n))
          else code := max code (← lone (if xs.contains n then a else b))
        return code
    | .directory _, .file .. =>
      if inside then
        let _ ← c.putBytes (ByteString.ofText "File " ++ a ++ ByteString.ofText " is a directory while file " ++ b
          ++ ByteString.ofText " is a regular file\n")
        return 1
      else run c d false fuel (pathIn a (baseName b)) b
    | .file .., .directory _ =>
      if inside then
        let _ ← c.putBytes (ByteString.ofText "File " ++ a ++ ByteString.ofText " is a regular file while file " ++ b
          ++ ByteString.ofText " is a directory\n")
        return 1
      else run c d false fuel a (pathIn b (baseName a))
    | .missing .noEntry, .file y t =>
      if d.newFile then show_ [] 0 y t
      else
        c.complain (plain a ++ ": " ++ Errno.noEntry.message)
        return 2
    | .file x s, .missing .noEntry =>
      if d.newFile then show_ x s [] 0
      else
        c.complain (plain b ++ ": " ++ Errno.noEntry.message)
        return 2
    | .missing .noEntry, .directory ys =>
      if d.newFile && inside then
        let mut code := 0
        for n in ys.mergeSort fun m n => m ≤ n do
          code := max code (← run c d true fuel (pathIn a n) (pathIn b n))
        return code
      else
        c.complain (plain a ++ ": " ++ Errno.noEntry.message)
        return 2
    | .directory xs, .missing .noEntry =>
      if d.newFile && inside then
        let mut code := 0
        for n in xs.mergeSort fun m n => m ≤ n do
          code := max code (← run c d true fuel (pathIn a n) (pathIn b n))
        return code
      else
        c.complain (plain b ++ ": " ++ Errno.noEntry.message)
        return 2
    | .missing e, .missing f =>
      c.complain (plain a ++ ": " ++ e.message)
      c.complain (plain b ++ ": " ++ f.message)
      return 2
    | .missing e, _ =>
      c.complain (plain a ++ ": " ++ e.message)
      return 2
    | _, .missing e =>
      c.complain (plain b ++ ": " ++ e.message)
      return 2

end Differing

def diffNames : List (String × Char) := [("normal", 'M'), ("brief", 'q'), ("report-identical-files", 's'),
  ("context", 'c'), ("unified", 'u'), ("ed", 'e'), ("rcs", 'n'), ("side-by-side", 'y'), ("width", 'W'),
  ("left-column", 'K'), ("suppress-common-lines", 'Y'), ("show-c-function", 'p'), ("label", 'L'),
  ("expand-tabs", 't'), ("initial-tab", 'T'), ("recursive", 'r'), ("new-file", 'N'), ("exclude", 'x'),
  ("ignore-case", 'i'), ("ignore-tab-expansion", 'E'), ("ignore-trailing-space", 'Z'), ("ignore-space-change", 'b'),
  ("ignore-all-space", 'w'), ("ignore-blank-lines", 'B'), ("ignore-matching-lines", 'I'), ("text", 'a'),
  ("strip-trailing-cr", 'R'), ("minimal", 'd'), ("speed-large-files", 'H'), ("color", 'O')]

def diff : Utility := fun c => do
  let g : Grammar := {
    flags := "qcuensyptTrNiEZbwBadHl", valued := "CUWLxIFSD", longAttached := "cuO", long := diffNames }
  -- numbers for the lines around may stand by themselves
  let words := c.words.flatMap fun w => match w with
    | 45 :: letter :: d :: more =>
      if (letter = 117 || letter = 99) && 48 ≤ d && d ≤ 57 then [[45, if letter = 117 then 85 else 67], d :: more]
      else [w]
    | w => [w]
  let o := Call.parse g (words.length + 1) words
  if let some message := o.wrong then return ← misuseNamed c message
  let around (l long : Char) : Option Nat :=
    ((o.value? l).bind Shell.natural?) <|> ((o.value? long).bind Shell.natural?)
  match o.operands with
  | [] => misuseNamed c ("missing operand after " ++ quoted (c.words.getLastD (ByteString.ofText c.program)))
  | [one] => misuseNamed c ("missing operand after " ++ quoted one)
  | _ :: _ :: extra :: _ => misuseNamed c ("extra operand " ++ quoted extra)
  | [a, b] =>
    let form : DiffForm :=
      if o.has 'q' then .brief
      else match o.last? "ucUCeny" with
        | some 'u' | some 'U' => .unified ((around 'U' 'u').getD 3)
        | some 'c' | some 'C' => .context ((around 'C' 'c').getD 3)
        | some 'e' => .script
        | some 'n' => .numbered
        | some 'y' => .sideBySide
        | _ => if o.has 'p' then .context 3 else .normal
    let given := c.words.takeWhile (·.head? == some 45)
    let d : Differing := {
      look := { ignoreCase := o.has 'i', noBlanks := o.has 'w', oneBlank := o.has 'b', noTail := o.has 'Z'
                noReturn := o.has 'R' }
      form, labels := o.values 'L', textual := o.has 'a', tellsSame := o.has 's', ignoreEmpty := o.has 'B'
      ignored := (o.values 'I').filterMap fun w =>
        (Expression.read { extended := false } w).toOption.map (·.1)
      newFile := o.has 'N', recursive := o.has 'r', excluded := o.values 'x'
      width := ((o.value? 'W').bind Shell.natural?).getD 130, onlyDifferent := o.has 'Y'
      given := given.flatMap fun w => 32 :: w }
    let depth ← Task.look fun t _ => t.size + 2
    d.run c false depth a b

end ModuleForge.Host.Utility
