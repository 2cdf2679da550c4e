import ModuleForge.Host.Utility.Call

/-!
# Translating bytes

`tr` replaces, deletes and squeezes bytes. What it works on is given as rows of bytes, in which
ranges, classes and repetitions can stand for many.
-/
namespace ModuleForge.Host.Utility

open Call

/-- A part of a row of bytes. -/
inductive Element where
  | bytes (bs : List UInt8)
  /-- A class of bytes; those of one case can be translated into those of the other. -/
  | classOf (name : String)
  /-- A byte so often, or as often as it takes. -/
  | repeated (b : UInt8) (count : Option Nat)

namespace Element

def members : Element → List UInt8
  | bytes bs => bs
  | classOf name => match Shell.classOf? name with
    | some holds => ((List.range 256).map UInt8.ofNat).filter holds
    | none => []
  | repeated b count => List.replicate (count.getD 0) b

def isCase : Element → Bool
  | classOf name => name == "upper" || name == "lower"
  | _ => false

def isClass : Element → Bool
  | classOf _ => true
  | _ => false

end Element

/-- What reading a row of bytes has come to. -/
structure RowReading where
  elements : List Element := []
  warnings : List String := []

/-- The bytes of a row after its escapes, each with whether it was escaped. -/
def unescapedRow : Nat → List Char → List (Char × Bool) × List String
  | 0, _ => ([], [])
  | _ + 1, [] => ([], [])
  | fuel + 1, '\\' :: rest => match rest with
    | [] => ([('\\', true)], ["an unescaped backslash at end of string is not portable"])
    | c :: more =>
      let digits := (rest.take 3).takeWhile Format.isOctal
      if digits.isEmpty then
        let b := match c with
          | 'e' => c
          | c => ((Format.escape? c).map fun b => Char.ofNat b.toNat).getD c
        let (bs, ws) := unescapedRow fuel more
        ((b, true) :: bs, ws)
      else
        let n := Format.digitsValue 8 digits
        if n < 256 then
          let (bs, ws) := unescapedRow fuel (rest.drop digits.length)
          ((Char.ofNat n, true) :: bs, ws)
        else
          let short := digits.take 2
          let (bs, ws) := unescapedRow fuel (rest.drop 2)
          let text := String.ofList digits
          let warning := "the ambiguous octal escape \\" ++ text ++ " is being\n\tinterpreted as the 2-byte sequence \\0"
            ++ String.ofList short ++ ", " ++ String.ofList (digits.drop 2)
          ((Char.ofNat (Format.digitsValue 8 short), true) :: bs, warning :: ws)
  | fuel + 1, c :: rest =>
    let (bs, ws) := unescapedRow fuel rest
    ((c, false) :: bs, ws)

/-- A name between a mark and the same mark before a closing bracket, and what follows. -/
def markedName? (mark : Char) : List (Char × Bool) → Option (List Char × List (Char × Bool))
  | (a, false) :: (']', false) :: rest =>
    if a == mark then some ([], rest)
    else (markedName? mark ((']', false) :: rest)).map fun (name, left) => (a :: name, left)
  | (a, _) :: rest => (markedName? mark rest).map fun (name, left) => (a :: name, left)
  | [] => none

/-- The elements of a row of bytes. -/
def elements : Nat → List (Char × Bool) → Except String (List Element)
  | 0, _ => .ok []
  | _ + 1, [] => .ok []
  | fuel + 1, (c, escaped) :: rest => do
    let byte (c : Char) : UInt8 := UInt8.ofNat c.toNat
    let single : Except String (List Element) := do
      match rest with
      | ('-', false) :: (z, _) :: more =>
        if z.toNat < c.toNat then
          let shown (c : Char) : String := Call.plain (visibleEscape (byte c))
          throw ("range-endpoints of '" ++ shown c ++ "-" ++ shown z
            ++ "' are in reverse collating sequence order")
        else
          let range := (List.range (z.toNat + 1 - c.toNat)).map fun i => UInt8.ofNat (c.toNat + i)
          return .bytes range :: (← elements fuel more)
      | _ => return .bytes [byte c] :: (← elements fuel rest)
    if escaped || c != '[' then single
    else match rest with
      | (':', false) :: more => match markedName? ':' more with
        | some (name, left) =>
          let name := String.ofList name
          if (Shell.classOf? name).isSome then return .classOf name :: (← elements fuel left)
          else if name.isEmpty then throw "missing character class name '[::]'"
          else throw ("invalid character class '" ++ name ++ "'")
        | none => single
      | ('=', false) :: more => match markedName? '=' more with
        | some ([x], left) => return .bytes [byte x] :: (← elements fuel left)
        | some ([], _) => throw "missing equivalence class character '[==]'"
        | some (x, _) => throw (String.ofList x ++ ": equivalence class operand must be a single character")
        | none => single
      | (x, _) :: ('*', false) :: more =>
        let digits := (more.takeWhile fun (d, _) => d.isDigit).map (·.1)
        match more.drop digits.length with
        | (']', false) :: left =>
          let n := Format.digitsValue (if digits.head? == some '0' then 8 else 10) digits
          return .repeated (byte x) (if n = 0 then none else some n) :: (← elements fuel left)
        | _ => single
      | _ => single
where
  visibleEscape (b : UInt8) : ByteString := if isPrinting b then [b] else ByteString.ofText (escaped b)

def rowOf (w : ByteString) : Except String RowReading := do
  let (chars, warnings) := unescapedRow (w.length + 1) (Format.chars w)
  return { elements := ← elements (chars.length + 1) chars, warnings }

/-- The members of a row. -/
def membersOf (es : List Element) : List UInt8 := es.flatMap Element.members

/-- The same with what is repeated as often as it takes filling the row up to a length. -/
def filledTo (length : Nat) (es : List Element) : List UInt8 :=
  let missing := length - (membersOf es).length
  es.flatMap fun
    | .repeated b none => List.replicate missing b
    | e => e.members

/-- The places at which elements begin in a row, with the elements. -/
def placed (es : List Element) : List (Nat × Element) :=
  (es.foldl (fun (st : List (Nat × Element) × Nat) e =>
    ((st.2, e) :: st.1, st.2 + e.members.length)) ([], 0)).1.reverse

/-- What `tr` does: deletes, replaces and squeezes. -/
structure Translation where
  deletes : UInt8 → Bool
  replace : UInt8 → UInt8
  squeezes : UInt8 → Bool

/-- Some bytes translated; `last` is the byte that came out before them. -/
def Translation.apply (t : Translation) (last : Option UInt8) (data : List UInt8) :
    List UInt8 × Option UInt8 :=
  let kept := (data.filter fun b => !t.deletes b).map t.replace
  let (out, last) := kept.foldl (fun (st : List UInt8 × Option UInt8) b =>
    if st.2 == some b && t.squeezes b then st else (b :: st.1, some b)) ([], last)
  (out.reverse, last)

/-- How each byte of one row becomes the byte at its place in another, whose last byte is repeated;
the rest stays as it is. -/
def replacement (first second : List UInt8) : UInt8 → UInt8 :=
  let table := (List.zip first (second ++ List.replicate (first.length - second.length) (second.getLastD 0)))
  let table := table.reverse
  let all := ((List.range 256).map fun n => (table.lookup (UInt8.ofNat n)).getD (UInt8.ofNat n)).toArray
  fun b => (all[b.toNat]?).getD b

/-- A test for the members of a row. -/
def memberTest (bs : List UInt8) : UInt8 → Bool :=
  let all := ((List.range 256).map fun n => bs.contains (UInt8.ofNat n)).toArray
  fun b => (all[b.toNat]?).getD false

/-- What two rows say about replacing, or why they cannot. -/
def translating (complement shorten : Bool) (first second : List Element) :
    Except String (UInt8 → UInt8) := do
  let own := membersOf first
  let one := if complement then ((List.range 256).map UInt8.ofNat).filter (!own.contains ·) else own
  let two := filledTo one.length second
  if two.isEmpty && !one.isEmpty && !shorten then
    throw "when not truncating set1, string2 must be non-empty"
  if second.any fun e => e.isClass && !e.isCase then
    throw ("when translating, the only character classes that may appear in\n"
      ++ "string2 are 'upper' and 'lower'")
  let cases := (placed first).filter (·.2.isCase)
  for (place, e) in placed second do
    if e.isCase && (complement || !cases.any (·.1 == place)) then
      throw "misaligned [:upper:] and/or [:lower:] construct"
  if complement && first.any Element.isClass && 1 < two.eraseDups.length then
    throw ("when translating with complemented character classes,\n"
      ++ "string2 must map all characters in the domain to one")
  if two.length < one.length && !shorten && (second.getLast?.any Element.isClass) then
    throw ("when translating with string1 longer than string2,\nthe latter string must not end with"
      ++ " a character class")
  return replacement (if shorten then one.take two.length else one) two

def translateAll (c : Call) (t : Translation) : Nat → Option UInt8 → Task Nat
  | 0, _ => return 0
  | fuel + 1, last => do
    match ← Task.read 0 65536 with
    | .error e =>
      c.complain ("read error: " ++ e.message)
      return 1
    | .ok data =>
      if data.isEmpty then return 0
      let (out, last) := t.apply last data.data.toList
      let code ← c.putBytes out
      if code != 0 then return code
      translateAll c t fuel last

def tr : Utility := fun c => c.withGrammar {
    flags := "dscCt", inFront := true
    long := [("delete", 'd'), ("squeeze-repeats", 's'), ("complement", 'c'), ("truncate-set1", 't')] } fun o => do
  let help : Task Nat := do
    say ("Try '" ++ c.program ++ " --help' for more information.")
    return 1
  let deletes := o.has 'd'
  let squeezes := o.has 's'
  let complement := o.has 'c' || o.has 'C'
  match o.operands with
  | [] => c.misuse "missing operand"
  | [first] =>
    if deletes == squeezes then
      c.complain ("missing operand after " ++ quoted first)
      say (if deletes then "Two strings must be given when both deleting and squeezing repeats."
        else "Two strings must be given when translating.")
      help
    else match rowOf first with
      | .error message =>
        c.complain message
        return 1
      | .ok row =>
        for w in row.warnings do c.complain ("warning: " ++ w)
        if row.elements.any fun e => match e with
            | .repeated _ none => true
            | _ => false then
          c.complain "the [c*] repeat construct may not appear in string1"
          return 1
        let isIn := memberTest (membersOf row.elements)
        let chosen (b : UInt8) : Bool := isIn b != complement
        translateAll c ⟨fun b => deletes && chosen b, fun b => b, fun b => squeezes && chosen b⟩ Task.patience none
  | first :: second :: rest =>
    if deletes && !squeezes then
      c.complain ("extra operand " ++ quoted second)
      say "Only one string may be given when deleting without squeezing repeats."
      help
    else if let extra :: _ := rest then c.misuse ("extra operand " ++ quoted extra)
    else match rowOf first, rowOf second with
      | .error message, _ | _, .error message =>
        c.complain message
        return 1
      | .ok one, .ok two =>
        for w in one.warnings ++ two.warnings do c.complain ("warning: " ++ w)
        let isSecond := memberTest (membersOf two.elements)
        if deletes then
          let isIn := memberTest (membersOf one.elements)
          translateAll c ⟨fun b => isIn b != complement, fun b => b, isSecond⟩ Task.patience none
        else match translating complement (o.has 't') one.elements two.elements with
          | .error message =>
            c.complain message
            return 1
          | .ok replace =>
            let second := memberTest (filledTo 256 two.elements)
            translateAll c ⟨fun _ => false, replace, fun b => squeezes && second b⟩ Task.patience none

end ModuleForge.Host.Utility
