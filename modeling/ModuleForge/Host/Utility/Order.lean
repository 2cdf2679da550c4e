import ModuleForge.Host.Utility.Expression
import ModuleForge.Host.Utility.Listing

/-!
# Utilities for ordered lines

What sorts lines, leaves out repeated ones, and compares files whose lines are in order.
-/
namespace ModuleForge.Host.Utility

open Call

/-- Reads all of some inputs, or fails with the first that cannot be read. -/
def contentsOf : List ByteString → Task (Except (ByteString × Bool × Errno) (List (ByteString × List UInt8)))
  | [] => return .ok []
  | path :: rest => do
    let opened ← source path
    match opened with
    | .error e => return .error (path, false, e)
    | .ok fd => match ← Task.readAll fd with
      | .error e => return .error (path, true, e)
      | .ok data => match ← contentsOf rest with
        | .ok others => return .ok ((path, data.data.toList) :: others)
        | .error e => return .error e

def isBlank (b : UInt8) : Bool := b == 32 || b == 9

/-! ## Keys -/

/-- How texts are compared. -/
inductive Comparing where
  | bytes | numbers | fractions | sizes | months | versions
  deriving DecidableEq

/-- How a key compares what it selects. -/
structure KeyStyle where
  letters : List Char := []

namespace KeyStyle

def has (s : KeyStyle) (c : Char) : Bool := s.letters.contains c

def comparing (s : KeyStyle) : Comparing :=
  if s.has 'n' then .numbers else if s.has 'g' then .fractions else if s.has 'h' then .sizes
  else if s.has 'M' then .months else if s.has 'V' then .versions else .bytes

/-- The letters of ways to compare that cannot go together, in their order. -/
def conflict? (s : KeyStyle) : Option String :=
  let count := (["n", "g", "h", "M"].filter fun l => l.toList.any s.has).length
    + (if "VRdi".toList.any s.has then 1 else 0)
  if 1 < count then some (String.ofList ("dfghiMnRV".toList.filter s.has)) else none

end KeyStyle

/-- Where a part of a line begins or ends: a field and a character in it. -/
structure KeyPlace where
  field : Nat
  char : Nat
  skipsBlanks : Bool

/-- What lines are compared by: a part of them, and how. -/
structure SortKey where
  start : KeyPlace := ⟨0, 0, false⟩
  stop : Option KeyPlace := none
  style : KeyStyle := {}

namespace SortKey

def styleLetters : List Char := "bdfgiMhnRrV".toList

/-- A count in a field specification. -/
def count (what : String) (cs : List Char) : Except String (Nat × List Char) :=
  let digits := cs.takeWhile Char.isDigit
  if digits.isEmpty then
    .error (what ++ ": invalid count at start of " ++ quoted (Format.bytes cs))
  else .ok (Format.digitsValue 10 digits, cs.drop digits.length)

/-- Reads a field specification such as `2.3nr,4`. -/
def read (w : ByteString) : Except String SortKey := do
  let refuse {α : Type} (why : String) : Except String α :=
    .error (why ++ ": invalid field specification " ++ quoted w)
  let (field, rest) ← count "invalid number at field start" (Format.chars w)
  if field = 0 then refuse "field number is zero"
  let (char, rest) ← match rest with
    | '.' :: more => do
      let (n, rest) ← count "invalid number after '.'" more
      if n = 0 then refuse "character offset is zero"
      pure (n - 1, rest)
    | rest => pure (0, rest)
  let letters := rest.takeWhile styleLetters.contains
  let start : KeyPlace := ⟨field - 1, char, letters.contains 'b'⟩
  match rest.drop letters.length with
  | [] => return { start, style := ⟨letters⟩ }
  | ',' :: more => do
    let (field, rest) ← count "invalid number after ','" more
    if field = 0 then refuse "field number is zero"
    let (char, rest) ← match rest with
      | '.' :: more => count "invalid number after '.'" more
      | rest => pure (0, rest)
    let ends := rest.takeWhile styleLetters.contains
    if (rest.drop ends.length).isEmpty then
      return { start, stop := some ⟨field - 1, char, ends.contains 'b'⟩, style := ⟨letters ++ ends⟩ }
    else refuse "stray character in field spec"
  | _ => refuse "stray character in field spec"

/-- Takes over the style of the whole call if a key has none of its own. -/
def withUsual (usual : List Char) (k : SortKey) : SortKey :=
  if !k.style.letters.isEmpty then k
  else
    let skips := usual.contains 'b'
    { start := { k.start with skipsBlanks := skips }
      stop := k.stop.map fun p => { p with skipsBlanks := skips }
      style := ⟨usual⟩ }

/-- What is left of a line behind so many fields. -/
def behindFields (separator : Option UInt8) : Nat → List UInt8 → List UInt8
  | 0, l => l
  | n + 1, l => match separator with
    | some s => behindFields separator n ((l.dropWhile (· ≠ s)).drop 1)
    | none => behindFields separator n ((l.dropWhile isBlank).dropWhile (!isBlank ·))

/-- What is left of a line behind a field, whose separator stays. -/
def behindField (separator : Option UInt8) (field : Nat) (l : List UInt8) : List UInt8 :=
  match separator with
  | some s => (behindFields separator field l).dropWhile (· ≠ s)
  | none => behindFields separator (field + 1) l

/-- The part of a line that a key is about. -/
def text (k : SortKey) (separator : Option UInt8) (l : List UInt8) : List UInt8 :=
  let skip (on : Bool) (l : List UInt8) : List UInt8 := if on then l.dropWhile isBlank else l
  let start := (skip k.start.skipsBlanks (behindFields separator k.start.field l)).drop k.start.char
  let rest := match k.stop with
    | none => []
    | some p =>
      if p.char = 0 then behindField separator p.field l
      else (skip p.skipsBlanks (behindFields separator p.field l)).drop p.char
  start.take (start.length - rest.length)

/-- A number at the beginning of a text: its sign, the digits before the point and those behind
it. -/
def numberAt (l : List UInt8) : Bool × Nat × List Char × List Char :=
  let cs := (Format.chars l).dropWhile fun c => c == ' ' || c == '\t'
  let (negative, cs) := match cs with
    | '-' :: rest => (true, rest)
    | cs => (false, cs)
  let whole := cs.takeWhile Char.isDigit
  let rest := cs.drop whole.length
  let (places, rest) := match rest with
    | '.' :: more => (more.takeWhile Char.isDigit, more.dropWhile Char.isDigit)
    | rest => ([], rest)
  (negative, Format.digitsValue 10 whole, (places.reverse.dropWhile (· == '0')).reverse, rest)

/-- How two numbers compare. -/
def numberOrder (a b : List UInt8) : Ordering :=
  let (n, x, p, _) := numberAt a
  let (m, y, q, _) := numberAt b
  let zero (x : Nat) (p : List Char) : Bool := x = 0 && p.isEmpty
  let (n, m) := (n && !zero x p, m && !zero y q)
  let size := (compare x y).then (if p = q then .eq else if p < q then .lt else .gt)
  match n, m with
  | true, false => .lt
  | false, true => .gt
  | true, true => size.swap
  | false, false => size

/-- How two sizes with units compare: by their units first. -/
def sizeOrder (a b : List UInt8) : Ordering :=
  let rank (l : List UInt8) : Int :=
    let (n, x, p, rest) := numberAt l
    let unit : Int := match rest with
      | c :: _ => match "KMGTPEZYRQ".toList.idxOf? (if c == 'k' then 'K' else c) with
        | some i => i + 1
        | none => 0
      | [] => 0
    if x = 0 && p.isEmpty then 0 else if n then -unit - 1 else unit + 1
  (compare (rank a) (rank b)).then (numberOrder a b)

/-- The rank of a fraction: what is none comes first, then what is no number. -/
def fractionOrder (a b : List UInt8) : Ordering :=
  let rank (l : List UInt8) : Nat × Float := match Decimal.readFloat (Format.chars l) with
    | none => (0, 0)
    | some (x, _) => if x.isNaN then (1, 0) else (2, x)
  let ((i, x), (j, y)) := (rank a, rank b)
  (compare i j).then (if x < y then .lt else if y < x then .gt else .eq)

def monthOf (l : List UInt8) : Nat :=
  let name := ((Format.chars l).dropWhile Decimal.isBlank).take 3
  let name := String.ofList (name.map Char.toUpper)
  ((["JAN", "FEB", "MAR", "APR", "MAY", "JUN", "JUL", "AUG", "SEP", "OCT", "NOV", "DEC"].idxOf? name).map
    (· + 1)).getD 0

def byteOrder (a b : List UInt8) : Ordering := if a = b then .eq else if a < b then .lt else .gt

/-- How two lines compare by a key. -/
def order (k : SortKey) (separator : Option UInt8) (a b : List UInt8) : Ordering :=
  let (x, y) := (k.text separator a, k.text separator b)
  let folded (l : List UInt8) : List UInt8 :=
    let l := if k.style.has 'd' then l.filter fun b => isBlank b || (Char.ofNat b.toNat).isAlphanum
      else if k.style.has 'i' then l.filter isPrinting else l
    if k.style.has 'f' then l.map fun b => if 97 ≤ b && b ≤ 122 then b - 32 else b else l
  let o := match k.style.comparing with
    | .numbers => numberOrder x y
    | .fractions => fractionOrder x y
    | .sizes => sizeOrder x y
    | .months => compare (monthOf x) (monthOf y)
    | .versions => versionOrder (x.length + y.length + 1) (Format.chars x) (Format.chars y)
    | .bytes => byteOrder (folded x) (folded y)
  if k.style.has 'r' then o.swap else o

end SortKey

/-! ## Sorting -/

/-- How a call of `sort` orders lines. -/
structure Sorting where
  keys : List SortKey
  separator : Option UInt8
  unique : Bool
  stable : Bool
  backwards : Bool

namespace Sorting

def byKeys (s : Sorting) (a b : List UInt8) : Ordering :=
  s.keys.foldl (fun acc k => if acc == .eq then k.order s.separator a b else acc) .eq

def order (s : Sorting) (a b : List UInt8) : Ordering :=
  let o := s.byKeys a b
  if o != .eq || s.unique || s.stable then o
  else if s.backwards then (SortKey.byteOrder a b).swap else SortKey.byteOrder a b

/-- Takes the least of the first lines of several rows, over and over. -/
def merge (s : Sorting) : Nat → List (List (List UInt8)) → List (List UInt8)
  | 0, _ => []
  | fuel + 1, rows =>
    let rows := rows.filter (!·.isEmpty)
    let heads := rows.map (·.headD [])
    match heads with
    | [] => []
    | first :: others =>
      let (best, at_) := others.zipIdx.foldl (fun (best : List UInt8 × Nat) (l, i) =>
        if s.order l best.1 == .lt then (l, i + 1) else best) (first, 0)
      best :: merge s fuel (rows.zipIdx.map fun (row, i) => if i = at_ then row.drop 1 else row)

/-- The first line that is out of order, with its number. -/
def disorder? (s : Sorting) : Nat → List (List UInt8) → Option (Nat × List UInt8)
  | n, a :: b :: rest =>
    let o := s.order a b
    if o == .gt || s.unique && o == .eq then some (n + 1, b) else disorder? s (n + 1) (b :: rest)
  | _, _ => none

end Sorting

/-- The old spelling `+1` of a key. -/
def keyOfOld? (w : ByteString) : Option ByteString :=
  match w with
  | 43 :: rest =>
    let digits := rest.takeWhile fun b => 48 ≤ b && b ≤ 57
    match Shell.natural? digits with
    | some n => some (ByteString.ofText (toString (n + 1)) ++ rest.drop digits.length)
    | none => none
  | _ => none

def sortNames : List (String × Char) := [("ignore-leading-blanks", 'b'), ("dictionary-order", 'd'),
  ("ignore-case", 'f'), ("general-numeric-sort", 'g'), ("ignore-nonprinting", 'i'), ("month-sort", 'M'),
  ("human-numeric-sort", 'h'), ("numeric-sort", 'n'), ("random-sort", 'R'), ("reverse", 'r'),
  ("version-sort", 'V'), ("check", 'K'), ("key", 'k'), ("merge", 'm'), ("output", 'o'), ("stable", 's'),
  ("buffer-size", 'S'), ("field-separator", 't'), ("unique", 'u'), ("zero-terminated", 'z'), ("sort", 'W'),
  ("parallel", 'P'), ("temporary-directory", 'T')]

/-- The kinds of sorting that can be asked for by name. -/
def sortKinds : List (String × Char) := [("general-numeric", 'g'), ("human-numeric", 'h'), ("month", 'M'),
  ("numeric", 'n'), ("random", 'R'), ("version", 'V')]

/-- Complains about a word that is none of some choices. -/
def badChoice (c : Call) (value : ByteString) (option : String) (choices : List String) (code : Nat) :
    Task Nat := do
  c.complain ("invalid argument " ++ quoted value ++ " for '--" ++ option ++ "'")
  say "Valid arguments are:"
  for line in choices do say ("  - " ++ line)
  say ("Try '" ++ c.program ++ " --help' for more information.")
  return code

def sort : Utility := fun c => c.withGrammarOr 2 {
    flags := "bdfgiMhnRrVcCmsuz", valued := "koStT", longAttached := "K", longValued := "WP", long := sortNames }
    fun o => do
  let old := o.operands.filterMap keyOfOld?
  let paths := o.operands.filter fun w => (keyOfOld? w).isNone
  let kind? := (o.value? 'W').map fun v => (v, sortKinds.lookup (plain v))
  let check? := (o.value? 'K').map fun v => (v, ["", "quiet", "silent", "diagnose-first"].contains (plain v))
  let usual := (SortKey.styleLetters.filter o.has) ++ match kind? with
    | some (_, some l) => [l]
    | _ => []
  let keys? := (old ++ o.values 'k').mapM SortKey.read
  let refuse (message : String) : Task Nat := do
    c.complain message
    return 2
  let mark : UInt8 := if o.has 'z' then 0 else 10
  match kind?, check?, keys?, o.value? 't' with
  | some (v, none), _, _, _ => badChoice c v "sort" (sortKinds.map fun (n, _) => "'" ++ n ++ "'") 2
  | _, some (v, false), _, _ => badChoice c v "check" ["'quiet', 'silent'", "'diagnose-first'"] 2
  | _, _, .error message, _ => refuse message
  | _, _, _, some [] => refuse "empty tab"
  | _, _, .ok keys, tab =>
    let separator := tab.bind fun w => if w == [92, 48] then some 0 else w.head?
    if tab.any fun w => 1 < w.length && w ≠ [92, 48] then
      refuse ("multi-character tab " ++ quoted (tab.getD []))
    else
      let keys := if keys.isEmpty then [{ style := {} }] else keys
      let keys := keys.map (SortKey.withUsual usual)
      match keys.findSome? (·.style.conflict?) with
      | some letters => refuse ("options '-" ++ letters ++ "' are incompatible")
      | none =>
        let s : Sorting := {
          keys, separator, unique := o.has 'u', stable := o.has 's', backwards := o.has 'r' }
        let checks := o.has 'c' || o.has 'C' || o.has 'K'
        let quiet := o.has 'C' || check?.any fun (v, _) => ["quiet", "silent"].contains (plain v)
        match checks, paths with
        | true, _ :: extra :: _ => refuse ("extra operand " ++ quoted extra ++ " not allowed with -"
            ++ (if quiet then "C" else "c"))
        | _, _ =>
          match ← contentsOf (inputs paths) with
          | .error (path, reading, e) =>
            refuse ((if reading then "read failed: " else "cannot read: ") ++ named path ++ ": " ++ e.message)
          | .ok contents =>
            let rows := contents.map fun (_, data) => between mark data
            if checks then
              match s.disorder? 1 rows.flatten with
              | none => return 0
              | some (n, line) =>
                if !quiet then
                  let _ ← Task.writeAll 2 ⟨(ByteString.ofText (c.program ++ ": " ++ plain ((inputs paths).headD [])
                    ++ ":" ++ toString n ++ ": disorder: ") ++ line ++ [10]).toArray⟩
                return 1
            else
              let all := rows.flatten
              let sorted := if o.has 'm' then s.merge (all.length + 1) rows
                else all.mergeSort fun a b => s.order a b != .gt
              let kept := if s.unique then sorted.eraseRepsBy fun a b => s.byKeys a b == .eq else sorted
              let out := kept.flatMap (· ++ [mark])
              match o.value? 'o' with
              | none => c.putBytes out
              | some path => match ← Task.openFile path .write with
                | .error e => refuse ("open failed: " ++ named path ++ ": " ++ e.message)
                | .ok fd =>
                  let _ ← Task.writeAll fd ⟨out.toArray⟩
                  return 0

/-! ## Repeated lines -/

/-- Neighbouring equal lines together. -/
def groupsOf (same : List UInt8 → List UInt8 → Bool) (lines : List (List UInt8)) : List (List (List UInt8)) :=
  ((lines.foldl (fun (acc : List (List (List UInt8))) l => match acc with
    | (first :: more) :: groups =>
      if same ((first :: more).getLastD first) l then (l :: first :: more) :: groups else [l] :: acc
    | _ => [[l]]) []).map List.reverse).reverse

def uniq : Utility := fun c => c.withGrammar {
    flags := "cdDuiz", valued := "fsw", longAttached := "AG"
    long := [("count", 'c'), ("repeated", 'd'), ("all-repeated", 'A'), ("group", 'G'), ("unique", 'u'),
      ("ignore-case", 'i'), ("zero-terminated", 'z'), ("skip-fields", 'f'), ("skip-chars", 's'),
      ("check-chars", 'w')] } fun o => do
  let number (l : Char) (what : String) : Except String (Option Nat) := match o.value? l with
    | none => .ok none
    | some v => match Shell.natural? v with
      | some n => .ok (some n)
      | none => .error (plain v ++ ": invalid number of " ++ what)
  match number 'f' "fields to skip", number 's' "bytes to skip", number 'w' "bytes to compare" with
  | .error message, _, _ | _, .error message, _ | _, _, .error message =>
    c.complain message
    return 1
  | .ok fields, .ok chars, .ok width =>
    let group := o.has 'G'
    let choice (l : Char) : String := match (o.value? l).map plain with
      | none => ""
      | some v => v
    let allRepeated := o.has 'D' || o.has 'A'
    match o.operands with
    | _ :: _ :: extra :: _ => c.misuse ("extra operand " ++ quoted extra)
    | _ =>
      if group && !(["", "prepend", "append", "separate", "both"].contains (choice 'G')) then
        badChoice c (ByteString.ofText (choice 'G')) "group"
          ["'prepend'", "'append'", "'separate'", "'both'"] 1
      else if !(["", "none", "prepend", "separate"].contains (choice 'A')) then
        badChoice c (ByteString.ofText (choice 'A')) "all-repeated" ["'none'", "'prepend'", "'separate'"] 1
      else if group && (o.has 'c' || o.has 'd' || allRepeated || o.has 'u') then
        c.misuse "--group is mutually exclusive with -c/-d/-D/-u"
      else if o.has 'c' && allRepeated then
        c.misuse "printing all duplicated lines and repeat counts is meaningless"
      else
        let mark : UInt8 := if o.has 'z' then 0 else 10
        let (code, data) ← c.wholeInput (o.operands.take 1)
        if code ≠ 0 then return code
        let key (l : List UInt8) : List UInt8 :=
          let rest := SortKey.behindFields none (fields.getD 0) l
          let rest := rest.drop (chars.getD 0)
          let rest := (width.map rest.take).getD rest
          if o.has 'i' then rest.map (Expression.foldCase true) else rest
        let all := groupsOf (fun a b => key a == key b) (between mark data)
        let line (l : List UInt8) : List UInt8 := l ++ [mark]
        let out : List UInt8 :=
          if group then
            let way := if choice 'G' == "" then "separate" else choice 'G'
            let shown := all.zipIdx.map fun (g, i) =>
              (if way == "prepend" || way == "both" || way == "separate" && 0 < i then [mark] else [])
                ++ g.flatMap line
            let last := all.length
            match way with
            | "append" => all.flatMap fun g => g.flatMap line ++ [mark]
            | "both" => shown.flatten ++ (if last = 0 then [] else [mark])
            | _ => shown.flatten
          else if allRepeated then
            let kept := all.filter fun g => 1 < g.length
            (kept.zipIdx.map fun (g, i) =>
              (if choice 'A' == "prepend" || choice 'A' == "separate" && 0 < i then [mark] else [])
                ++ (if o.has 'u' then g.dropLast else g).flatMap line).flatten
          else
            let kept := all.filter fun g => (!o.has 'd' || 1 < g.length) && (!o.has 'u' || g.length = 1)
            kept.flatMap fun g =>
              (if o.has 'c' then ByteString.ofText (padLeft 7 (toString g.length) ++ " ") else [])
                ++ line (g.headD [])
        match o.operands[1]? with
        | none => c.putBytes out code
        | some path => match ← Task.openFile path .write with
          | .ok fd =>
            let _ ← Task.writeAll fd ⟨out.toArray⟩
            return code
          | .error e =>
            c.complain (named path ++ ": " ++ e.message)
            return 1

/-! ## Other orders -/

/-- Names with the names that are to come after them, the last one first, and how many are to come
before them. -/
structure Successions where
  items : List (ByteString × Nat × List ByteString) := []

namespace Successions

def add (s : Successions) (name : ByteString) : Successions :=
  if (s.items.lookup name).isSome then s
  else
    let (low, high) := s.items.partition fun (n, _) => n < name
    { items := low ++ (name, 0, []) :: high }

/-- Notes that one name comes before another. -/
def relate (s : Successions) (a b : ByteString) : Successions :=
  let s := (s.add a).add b
  if a = b then s
  else { items := s.items.map fun (n, before, after) =>
    (n, if n = b then before + 1 else before, if n = a then b :: after else after) }

/-- Takes the names out that nothing is left to come before. -/
def take : Nat → List ByteString → Successions → List ByteString × Successions
  | 0, _, s => ([], s)
  | _ + 1, [], s => ([], s)
  | fuel + 1, name :: queue, s =>
    let after := ((s.items.lookup name).map (·.2)).getD []
    let s : Successions := { items := s.items.filter (·.1 ≠ name) }
    let (s, ready) := after.foldl (fun (st : Successions × List ByteString) b =>
      let items := st.1.items.map fun (n, before, more) => (n, if n = b then before - 1 else before, more)
      let free := (items.lookup b).any (·.1 = 0)
      (({ items } : Successions), if free then st.2 ++ [b] else st.2)) (s, [])
    let (rest, s) := take fuel (queue ++ ready) s
    (name :: rest, s)

/-- Goes back from a name to what comes before it until a name comes up again: the names of that
circle. -/
def circle (s : Successions) : Nat → List ByteString → List ByteString
  | 0, chain => chain
  | fuel + 1, chain =>
    match chain with
    | [] => []
    | name :: _ =>
      match s.items.find? fun (_, _, after) => after.contains name with
      | none => chain
      | some (previous, _, _) =>
        if chain.contains previous then
          chain.take ((chain.idxOf previous) + 1)
        else circle s fuel (previous :: chain)

/-- Puts all names in order; each circle is told of and cut. -/
def sorted (tell : List ByteString → Task Unit) : Nat → Successions → Task (List ByteString × Bool)
  | 0, _ => return ([], true)
  | fuel + 1, s => do
    let free := (s.items.filter fun (_, before, _) => before = 0).map (·.1)
    let (out, s) := take (s.items.length + 1) free s
    match s.items with
    | [] => return (out, true)
    | (first, _, _) :: _ =>
      let chain := s.circle (s.items.length + 1) [first]
      let chain := (chain.dropWhile (· ≠ first)) ++ chain.takeWhile (· ≠ first)
      tell chain
      let last := chain.getLastD first
      let cut : Successions := { items := s.items.map fun (n, before, after) =>
        (n, if n = first then before - 1 else before, if n = last then after.erase first else after) }
      let (rest, _) ← sorted tell fuel cut
      return (out ++ rest, false)

end Successions

def tsort : Utility := fun c => c.withGrammar {} fun o => do
  match o.operands with
  | _ :: extra :: _ => c.misuse ("extra operand " ++ quoted extra)
  | _ =>
    match ← contentsOf (inputs o.operands) with
    | .error (path, reading, e) =>
      c.complain (named path ++ ": " ++ (if reading then "read error: " else "") ++ e.message)
      return 1
    | .ok contents =>
      let name := named ((inputs o.operands).headD [])
      let words := contents.flatMap fun (_, data) => blankWords data
      if words.length % 2 = 1 then
        c.complain (name ++ ": input contains an odd number of tokens")
        return 1
      let s := (parts 2 words).foldl (fun (s : Successions) pair =>
        s.relate (pair.headD []) (pair.getLastD [])) {}
      let tell (chain : List ByteString) : Task Unit := do
        c.complain (name ++ ": input contains a loop:")
        for n in chain do c.complain (plain n)
      let (out, complete) ← s.sorted tell (words.length + 1)
      c.putBytes (unlines out) (if complete then 0 else 1)

/-- Hands on lines in an order that nobody can foretell, which here is the order in which they
come. -/
def shuf : Utility := fun c => c.withGrammar {
    flags := "erz", valued := "ino", longValued := "R"
    long := [("echo", 'e'), ("input-range", 'i'), ("head-count", 'n'), ("output", 'o'), ("repeat", 'r'),
      ("zero-terminated", 'z'), ("random-source", 'R')] } fun o => do
  let mark : UInt8 := if o.has 'z' then 0 else 10
  let count? := (o.value? 'n').map fun v => (v, Shell.natural? v)
  let range? : Option (ByteString × Option (Nat × Nat)) := (o.value? 'i').map fun v =>
    let low := v.takeWhile (· ≠ 45)
    let high := v.drop (low.length + 1)
    (v, match Shell.natural? low, Shell.natural? high with
      | some a, some b => if a ≤ b + 1 then some (a, b) else none
      | _, _ => none)
  match count?, range? with
  | some (v, none), _ =>
    c.complain ("invalid line count: " ++ quoted v)
    return 1
  | _, some (v, none) =>
    c.complain ("invalid input range: " ++ quoted v)
    return 1
  | count, range =>
    let (code, lines) ← match range with
      | some (_, some (a, b)) =>
        pure (0, (List.range (b + 1 - a)).map fun i => ByteString.ofText (toString (a + i)))
      | _ =>
        if o.has 'e' then pure (0, o.operands)
        else do
          let (code, data) ← c.wholeInput (o.operands.take 1)
          pure (code, between mark data)
    if code ≠ 0 then return code
    let count : Option Nat := count.bind (·.2)
    let lines := if o.has 'r' then
        match count with
        | some n => (List.range n).map fun i => (lines[i % lines.length]?).getD []
        | none => lines
      else (count.map lines.take).getD lines
    let out := lines.flatMap (· ++ [mark])
    match o.value? 'o' with
    | none => c.putBytes out
    | some path => match ← Task.openFile path .write with
      | .error e =>
        c.complain (named path ++ ": " ++ e.message)
        return 1
      | .ok fd =>
        let _ ← Task.writeAll fd ⟨out.toArray⟩
        return 0

end ModuleForge.Host.Utility
