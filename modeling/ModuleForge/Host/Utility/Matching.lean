import ModuleForge.Host.Utility.Order

/-!
# Utilities that match ordered files

What tells the lines of two files apart or puts those together that agree in a field. Both files
must be in order.
-/
namespace ModuleForge.Host.Utility

open Call

/-- Two files whose lines are read side by side, or what is wrong with them. -/
def withTwoFiles (c : Call) (o : Options)
    (body : ByteString → ByteString → List UInt8 → List UInt8 → Task Nat) : Task Nat := do
  match o.operands with
  | [] => c.misuse "missing operand"
  | [a] => c.misuse ("missing operand after " ++ quoted a)
  | _ :: _ :: extra :: _ => c.misuse ("extra operand " ++ quoted extra)
  | [a, b] =>
    match ← contentsOf [a, b] with
    | .error (path, _, e) =>
      c.complain (named path ++ ": " ++ e.message)
      return 1
    | .ok contents => match contents with
      | [(_, x), (_, y)] => body a b x y
      | _ => return 1

/-- The first line of a row that comes before the one in front of it. -/
def firstDisorder? (order : List UInt8 → List UInt8 → Ordering) :
    Nat → List (List UInt8) → Option (Nat × List UInt8)
  | n, a :: b :: rest =>
    if order a b == .gt then some (n + 1, b) else firstDisorder? order (n + 1) (b :: rest)
  | _, _ => none

/-! ## Telling lines apart -/

/-- A line of one of two files or of both. -/
inductive Side where
  | first | second | both
  deriving DecidableEq

/-- The lines of two files in order. -/
def sides : Nat → List (List UInt8) → List (List UInt8) → List (Side × List UInt8)
  | 0, _, _ => []
  | _ + 1, [], ys => ys.map (.second, ·)
  | _ + 1, xs, [] => xs.map (.first, ·)
  | fuel + 1, x :: xs, y :: ys =>
    if x = y then (.both, x) :: sides fuel xs ys
    else if x < y then (.first, x) :: sides fuel xs (y :: ys)
    else (.second, y) :: sides fuel (x :: xs) ys

def comm : Utility := fun c => c.withGrammar {
    flags := "123z", longValued := "D", long := [("check-order", 'C'), ("nocheck-order", 'N'),
      ("output-delimiter", 'D'), ("total", 'T'), ("zero-terminated", 'z')] } fun o =>
  withTwoFiles c o fun _ _ x y => do
    let mark : UInt8 := if o.has 'z' then 0 else 10
    let delimiter : ByteString := match o.value? 'D' with
      | none => [9]
      | some [] => [0]
      | some d => d
    let (xs, ys) := (between mark x, between mark y)
    let all := sides (xs.length + ys.length + 1) xs ys
    let first := !o.has '1'
    let second := !o.has '2'
    let shown (side : Side) (l : List UInt8) : List UInt8 := match side with
      | .first => if first then l ++ [mark] else []
      | .second => if second then (if first then delimiter else []) ++ l ++ [mark] else []
      | .both =>
        if o.has '3' then []
        else (if first then delimiter else []) ++ (if second then delimiter else []) ++ l ++ [mark]
    let count (s : Side) : Nat := (all.filter (·.1 = s)).length
    let total := if !o.has 'T' then [] else
      let cells := [count .first, count .second, count .both].map fun n => ByteString.ofText (toString n)
      (List.intersperse delimiter (cells ++ [ByteString.ofText "total"])).flatten ++ [mark]
    -- lines out of order are told of where they are read, unless every line has its match
    let checks := o.has 'C' || !o.has 'N' && all.any (·.1 ≠ .both)
    let fault (n : Nat) (rows : List (List UInt8)) : Option (Nat × Nat × List UInt8) :=
      if checks then (firstDisorder? SortKey.byteOrder 1 rows).map fun (line, l) => (n, line, l) else none
    let told (n : Nat) : String := "file " ++ toString n ++ " is not in sorted order"
    let faults := (fault 1 xs).toList ++ (fault 2 ys).toList
    match faults with
    | [] => c.putBytes (all.flatMap (fun (s, l) => shown s l) ++ total)
    | (n, _, line) :: _ =>
      if o.has 'C' then
        let before := all.takeWhile fun (_, l) => l ≠ line
        let _ ← c.putBytes (before.flatMap fun (s, l) => shown s l)
        c.complain (told n)
        return 1
      else
        for (n, _, _) in faults do c.complain (told n)
        let _ ← c.putBytes (all.flatMap (fun (s, l) => shown s l) ++ total)
        c.complain "input is not in sorted order"
        return 1

/-! ## Putting lines together -/

/-- The fields of a line: between separators, or between blanks. -/
def joinFields (separator : Option UInt8) (l : List UInt8) : List (List UInt8) :=
  match separator with
  | some s => cells (· == s) l
  | none => (l.splitBy fun a b => isBlank a == isBlank b).filter fun w => !(w.head?.any isBlank)

/-- What a line of output is made of: a field of one of the files, or the field both agree in. -/
inductive JoinCell where
  | common
  | field (second : Bool) (index : Nat)

/-- The cells that a list such as `0,1.2,2.1` names. -/
def cellsOf (text : ByteString) : Except String (List JoinCell) :=
  let words := (text.splitBy fun a b => (isBlank a || a = 44) == (isBlank b || b = 44)).filter
    fun w => !(w.head?.any fun b => isBlank b || b = 44)
  words.mapM fun w => match w with
    | [48] => .ok .common
    | [49] | [50] => .error ("invalid field specifier: " ++ quoted w)
    | file :: 46 :: n =>
      if file = 49 || file = 50 then match Shell.natural? n with
        | some n => if n = 0 then .error ("invalid field number: " ++ quoted [48]) else .ok (.field (file = 50) (n - 1))
        | none => .error ("invalid field number: " ++ quoted n)
      else .error ("invalid file number in field spec: " ++ quoted w)
    | _ => .error ("invalid file number in field spec: " ++ quoted w)

/-- How a call of `join` puts lines together. -/
structure Joining where
  firstField : Nat
  secondField : Nat
  separator : Option UInt8
  cells : Option (List JoinCell)
  filler : ByteString
  ignoreCase : Bool
  /-- Whether lines without a match are shown, for each file, and those with one. -/
  loneFirst : Bool
  loneSecond : Bool
  pairs : Bool

namespace Joining

abbrev Row := List (List UInt8)

def key (j : Joining) (second : Bool) (row : Row) : List UInt8 :=
  ((row[if second then j.secondField else j.firstField]?).getD []).map (Expression.foldCase j.ignoreCase)

def others (field : Nat) (row : Row) : Row := row.eraseIdx field

/-- The line for a row of each file. -/
def line (j : Joining) (x? y? : Option Row) : List UInt8 :=
  let gap := [j.separator.getD 32]
  let common := match x?, y? with
    | some x, _ => (x[j.firstField]?).getD []
    | none, some y => (y[j.secondField]?).getD []
    | none, none => []
  let filled (f : List UInt8) : List UInt8 := if f.isEmpty then j.filler else f
  let cells := match j.cells with
    | some cells => cells.map fun
      | .common => filled common
      | .field second i => filled (((if second then y? else x?).bind (·[i]?)).getD [])
    | none => filled common :: ((x?.map (others j.firstField)).getD [] ++ (y?.map (others j.secondField)).getD []).map filled
  (List.intersperse gap cells).flatten

/-- All lines, for files whose rows are in order. -/
def lines (j : Joining) : Nat → List Row → List Row → List (List UInt8)
  | 0, _, _ => []
  | fuel + 1, xs, ys =>
    match xs, ys with
    | [], ys => if j.loneSecond then ys.map fun y => j.line none (some y) else []
    | xs, [] => if j.loneFirst then xs.map fun x => j.line (some x) none else []
    | x :: xs, y :: ys =>
      let (a, b) := (j.key false x, j.key true y)
      if a = b then
        let sameX := xs.takeWhile fun r => j.key false r == a
        let sameY := ys.takeWhile fun r => j.key true r == a
        let here := if !j.pairs then [] else
          (x :: sameX).flatMap fun r => (y :: sameY).map fun q => j.line (some r) (some q)
        here ++ lines j fuel (xs.drop sameX.length) (ys.drop sameY.length)
      else if a < b then
        (if j.loneFirst then [j.line (some x) none] else []) ++ lines j fuel xs (y :: ys)
      else (if j.loneSecond then [j.line none (some y)] else []) ++ lines j fuel (x :: xs) ys

/-- Whether some row has no match. -/
def hasLone (j : Joining) (xs ys : List Row) : Bool :=
  let (a, b) := (xs.map (j.key false), ys.map (j.key true))
  a.any (!b.contains ·) || b.any (!a.contains ·)

end Joining

def join : Utility := fun c =>
  let call := { c with words := c.words }
  call.withGrammar {
      flags := "iz", valued := "12aetvoj", long := [("ignore-case", 'i'), ("header", 'H'),
        ("check-order", 'C'), ("nocheck-order", 'N'), ("zero-terminated", 'z')] } fun o => do
    let refuse (message : String) : Task Nat := do
      c.complain message
      return 1
    let fieldOf (l : Char) : Except String (Option Nat) := match o.value? l with
      | none => .ok none
      | some v => match Shell.natural? v with
        | some n => if n = 0 then .error ("invalid field number: " ++ quoted v) else .ok (some (n - 1))
        | none => .error ("invalid field number: " ++ quoted v)
    let files := o.values 'a' ++ o.values 'v'
    let automatic := (o.values 'o').any fun v => plain v == "auto"
    let cells? : Except String (Option (List JoinCell)) :=
      if automatic || (o.value? 'o').isNone then .ok none
      else ((o.values 'o').mapM cellsOf).map fun cs => some cs.flatten
    match fieldOf '1', fieldOf '2', fieldOf 'j', cells? with
    | .error m, _, _, _ | _, .error m, _, _ | _, _, .error m, _ | _, _, _, .error m => refuse m
    | .ok one, .ok two, .ok both, .ok cells =>
      match files.find? fun v => plain v != "1" && plain v != "2" with
      | some v => refuse ("invalid field number: " ++ quoted v)
      | none =>
        if (o.value? 't').any fun w => 1 < w.length && w ≠ [92, 48] then
          refuse ("multi-character tab " ++ quoted ((o.value? 't').getD []))
        else withTwoFiles c o fun a b x y => do
          let mark : UInt8 := if o.has 'z' then 0 else 10
          let separator : Option UInt8 := (o.value? 't').map fun w => if w = [92, 48] then 0 else w.headD 10
          let rowsOf (data : List UInt8) : List Joining.Row := (between mark data).map (joinFields separator)
          let (xs, ys) := (rowsOf x, rowsOf y)
          let shows (n : UInt8) : Bool := files.contains [n]
          let own : Joining := {
            firstField := (one <|> both).getD 0, secondField := (two <|> both).getD 0, separator, cells
            filler := (o.value? 'e').getD [], ignoreCase := o.has 'i'
            loneFirst := shows 49, loneSecond := shows 50, pairs := (o.value? 'v').isNone }
          let j := if !automatic then own else
            let width (rows : List Joining.Row) : Nat := (rows.headD []).length
            let cellsFor (second : Bool) (field n : Nat) : List JoinCell :=
              ((List.range n).filter (· ≠ field)).map (.field second)
            { own with cells := some (.common :: cellsFor false own.firstField (width xs)
                ++ cellsFor true own.secondField (width ys)) }
          let (header, xs, ys) := if o.has 'H' then
              ([j.line xs.head? ys.head?], xs.drop 1, ys.drop 1) else ([], xs, ys)
          let out := header ++ j.lines (xs.length + ys.length + 1) xs ys
          let faultOf (path : ByteString) (second : Bool) (rows : List Joining.Row) (data : List UInt8) :
              Option String :=
            let keys := rows.map (j.key second)
            (firstDisorder? SortKey.byteOrder 1 keys).map fun (n, _) =>
              let n := n + if o.has 'H' then 1 else 0
              named path ++ ":" ++ toString n ++ ": is not sorted: "
                ++ plain (((between mark data)[n - 1]?).getD [])
          let checks := o.has 'C' || !o.has 'N' && j.hasLone xs ys
          let faults := if checks then (faultOf a false xs x).toList ++ (faultOf b true ys y).toList else []
          match faults with
          | [] => c.putBytes (out.flatMap (· ++ [mark]))
          | first :: _ =>
            if o.has 'C' then
              c.complain first
              return 1
            else
              for f in faults do c.complain f
              let _ ← c.putBytes (out.flatMap (· ++ [mark]))
              c.complain "input is not in sorted order"
              return 1

end ModuleForge.Host.Utility
