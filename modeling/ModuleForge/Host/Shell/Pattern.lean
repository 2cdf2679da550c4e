import ModuleForge.Host.FileTree

/-!
# Patterns and fields

A `Field` is a word after expansion: bytes, each marked whether it may act as part of a pattern. In
a pattern `*` stands for anything, `?` for one byte, and a bracket for one of several bytes. `split`
cuts expanded text into fields.
-/
namespace ModuleForge.Host.Shell

/-- Bytes, each with whether it was left unquoted. -/
abbrev Field := List (UInt8 × Bool)

def Field.bytes (f : Field) : ByteString := f.map (·.1)

/-- A bracket behind its opening: the test for one byte, and the rest of the pattern. -/
structure Bracket where
  holds : UInt8 → Bool
  rest : Field

/-- The bytes of a class by its name. -/
def classOf? (name : String) : Option (UInt8 → Bool) :=
  let isUpper (b : UInt8) : Bool := 65 ≤ b && b ≤ 90
  let isLower (b : UInt8) : Bool := 97 ≤ b && b ≤ 122
  let isDigit (b : UInt8) : Bool := 48 ≤ b && b ≤ 57
  let isGraph (b : UInt8) : Bool := 33 ≤ b && b ≤ 126
  let isAlnum (b : UInt8) : Bool := isUpper b || isLower b || isDigit b
  match name with
  | "upper" => some isUpper
  | "lower" => some isLower
  | "digit" => some isDigit
  | "alpha" => some fun b => isUpper b || isLower b
  | "alnum" => some isAlnum
  | "space" => some fun b => b == 32 || (9 ≤ b && b ≤ 13)
  | "blank" => some fun b => b == 32 || b == 9
  | "punct" => some fun b => isGraph b && !isAlnum b
  | "graph" => some isGraph
  | "print" => some fun b => isGraph b || b == 32
  | "cntrl" => some fun b => b < 32 || b == 127
  | "xdigit" => some fun b => isDigit b || (65 ≤ b && b ≤ 70) || (97 ≤ b && b ≤ 102)
  | _ => none

/-- A class between its colons, and what stands behind its bracket. -/
def class? (f : Field) : Option ((UInt8 → Bool) × Field) :=
  let name := f.takeWhile (·.1 ≠ 58)
  match f.drop name.length with
  | (58, _) :: (93, _) :: rest => (classOf? (Text.lossy (name.map (·.1)))).map fun holds => (holds, rest)
  | _ => none

/-- The members of a bracket up to its end. -/
def members (holds : UInt8 → Bool) : Nat → Field → Option Bracket
  | 0, _ => none
  | _ + 1, [] => none
  | _ + 1, (93, _) :: rest => some ⟨holds, rest⟩
  | fuel + 1, (a, _) :: rest =>
    match if a = 91 && rest.head? == some (58, true) then class? (rest.drop 1) else none with
    | some (inClass, rest) => members (fun c => holds c || inClass c) fuel rest
    | none => match rest with
      | (45, true) :: (b, q) :: rest =>
        if b = 93 then members (fun c => holds c || c == a || c == 45) fuel ((b, q) :: rest)
        else members (fun c => holds c || (a ≤ c && c ≤ b)) fuel rest
      | _ => members (fun c => holds c || c == a) fuel rest

/-- A bracket whose first member may be a closing bracket. -/
def positive? (f : Field) : Option Bracket :=
  match f with
  | (93, _) :: rest => members (· == 93) (rest.length + 1) rest
  | f => members (fun _ => false) (f.length + 1) f

/-- Reads a bracket; a leading `!` takes the bytes that are not in it. -/
def bracket? : Field → Option Bracket
  | (33, true) :: rest => (positive? rest).map fun b => { b with holds := fun c => !b.holds c }
  | f => positive? f

/-- Whether a pattern describes a text, deciding at most `fuel` bytes. -/
def matchesWithin : Nat → Field → ByteString → Bool
  | 0, _, _ => false
  | _ + 1, [], text => text.isEmpty
  | fuel + 1, (42, true) :: rest, text =>
    matchesWithin fuel rest text || match text with
      | [] => false
      | _ :: more => matchesWithin fuel ((42, true) :: rest) more
  | fuel + 1, (63, true) :: rest, text => match text with
    | [] => false
    | _ :: more => matchesWithin fuel rest more
  | fuel + 1, (b, special) :: rest, text => match text with
    | [] => false
    | c :: more =>
      match if b = 91 && special then bracket? rest else none with
      | some bracket => bracket.holds c && matchesWithin fuel bracket.rest more
      | none => b == c && matchesWithin fuel rest more

/-- Whether a pattern describes a text. -/
def Field.describes (pattern : Field) (text : ByteString) : Bool :=
  matchesWithin (pattern.length + text.length + 1) pattern text

def Field.isPattern (f : Field) : Bool :=
  f.any fun (b, special) => special && (b == 42 || b == 63 || b == 91)

/-! ## File names -/

/-- The parts of a pattern between separators. -/
def Field.parts (f : Field) : List Field :=
  f.foldr (fun x acc => if x.1 = Path.separator then [] :: acc else match acc with
    | [] => [[x]]
    | p :: ps => (x :: p) :: ps) [[]]

def byteOrder (a b : ByteString) : Bool := a ≤ b

/-- The names that a pattern stands for, below `above`. -/
def expandParts (t : FileTree) (here : Nat) (above : ByteString) : List Field → List ByteString
  | [] => []
  | p :: ps =>
    let deeper (name : ByteString) : List ByteString :=
      let path := above ++ name
      if ps.isEmpty then match t.find here path false with
        | .ok _ => [path]
        | .error _ => []
      else expandParts t here (path ++ [Path.separator]) ps
    if !p.isPattern then deeper p.bytes
    else
      let dir := if above.isEmpty then [Path.dot] else above
      match (t.find here dir).toOption.bind t.node? with
      | some (.directory _ entries) =>
        let hidden (name : ByteString) : Bool := name.head? == some Path.dot
        let fits := (entries.map (·.1)).filter fun name =>
          p.describes name && (!hidden name || p.bytes.head? == some Path.dot)
        (fits.mergeSort byteOrder).flatMap deeper
      | _ => []

/-- The words that a field gives: the files that it describes, or itself. -/
def Field.words (f : Field) (t : FileTree) (here : Nat) : List ByteString :=
  if !f.isPattern then [f.bytes]
  else match expandParts t here [] f.parts with
    | [] => [f.bytes]
    | names => names

/-! ## Splitting -/

/-- A part of an expanded word. -/
inductive Atom where
  /-- A byte; `special` if it was unquoted, `splits` if it comes from an unquoted expansion. -/
  | byte (b : UInt8) (special splits : Bool)
  /-- There is a word here, even if nothing is in it. -/
  | present
  /-- One word ends here and another begins. -/
  | cut

/-- The state of splitting: the fields so far and the one being filled, both backwards, and whether
the last field was closed by a blank. -/
structure Splitting where
  fields : List Field := []
  current : Option Field := none
  closed : Bool := false

def Splitting.close (s : Splitting) (blank : Bool) : Splitting :=
  match s.current with
  | none => s
  | some f => { fields := f.reverse :: s.fields, closed := blank }

/-- Takes up one atom; `separators` are the bytes that separate fields. -/
def Splitting.take (separators : ByteString) (s : Splitting) : Atom → Splitting
  | .present => { s with current := some (s.current.getD []), closed := false }
  | .cut => s.close false
  | .byte b special splits =>
    if splits && separators.contains b then
      if b = 32 || b = 9 || b = 10 then s.close true
      else match s.current with
        | some _ => s.close false
        | none =>
          if s.closed then { s with closed := false }
          else { s with fields := [] :: s.fields }
    else { s with current := some ((b, special) :: s.current.getD []), closed := false }

/-- Cuts an expanded word into fields. -/
def split (separators : ByteString) (atoms : List Atom) : List Field :=
  ((atoms.foldl (Splitting.take separators) {}).close false).fields.reverse

/-- An expanded word as one field. -/
def whole (atoms : List Atom) : Field :=
  atoms.filterMap fun
    | .byte b special _ => some (b, special)
    | .present => none
    | .cut => some (32, false)

end ModuleForge.Host.Shell
