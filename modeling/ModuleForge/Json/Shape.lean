import ModuleForge.Json.Reader
import ModuleForge.Path

/-!
# Shapes of JSON values

A `Shape α` reads values of type `α`, from a text and from a value already read. A record is read
from an object whose members come in any order, unknown ones skipped, or from a list that holds the
fields in order and may stop early; a field that is missing keeps the value of the record that the
reading starts from.
-/
namespace ModuleForge.Json

structure Shape (α : Type) where
  read : Reader α
  ofValue : Json → Except Error α

/-- What a value is called when it has the wrong type. -/
def found : Json → Found
  | null => .null
  | bool b => .bool b
  | number n => .number n
  | string s => .string s
  | array _ => .sequence
  | object _ => .map

def unexpected (expected : String) (j : Json) : Except Error α :=
  .error ⟨.invalidType (found j) expected, none⟩

namespace Shape

/-- A string, described as `expected` in refusals. -/
def string (expected : String) : Shape String where
  read c := do
    let c := skipSpaces c
    if c.atEnd then failAtNext .endInValue c
    else if c.peek == '"' then readString c.advance
    else failExpecting expected c
  ofValue
    | .string s => .ok s
    | j => unexpected expected j

def map (f : α → β) (s : Shape α) : Shape β where
  read c := do
    let (a, c) ← s.read c
    return (f a, c)
  ofValue j := f <$> s.ofValue j

def text : Shape String := string "a string"

def path : Shape Path := (string "path string").map Path.ofText

/-- What a natural number of 64 bits is called in refusals. -/
def naturalName : String := "u64"

/-- A natural number of 64 bits, or the refusal of another number. -/
def toNatural : Number → Except Refusal Nat
  | .whole n =>
    if 0 ≤ n then .ok n.toNat else .error (.invalidValue (.number (.whole n)) naturalName)
  | .float x => .error (.invalidType (.number (.float x)) naturalName)

def natural : Shape Nat where
  read c := do
    let c := skipSpaces c
    if c.atEnd then failAtNext .endInValue c
    else if c.peek == '-' || c.peek.isDigit then
      let negative := c.peek == '-'
      let (n, c) ← readNumber negative (if negative then c.advance else c)
      match toNatural n with
      | .ok n => return (n, c)
      | .error r => fail r c
    else failExpecting naturalName c
  ofValue
    | .number n => (toNatural n).mapError fun r => ⟨r, none⟩
    | j => unexpected naturalName j

/-- A value, or `null` for none. -/
def optional (s : Shape α) : Shape (Option α) where
  read c := do
    let c := skipSpaces c
    if c.peek == 'n' then
      let c ← readIdent "ull" c.advance
      return (none, c)
    else
      let (a, c) ← s.read c
      return (some a, c)
  ofValue
    | .null => .ok none
    | j => some <$> s.ofValue j

/-! ## Lists -/

/-- At the next item of a list, or `none` before its end. -/
def nextItem (first : Bool) (c : Cursor) : Except Error (Option Cursor) :=
  let c := skipSpaces c
  if c.atEnd then failAtNext .endInList c
  else if c.peek == ']' then .ok none
  else if first then .ok (some c)
  else if c.peek == ',' then
    let c := skipSpaces c.advance
    if c.atEnd then failAtNext .endInValue c
    else if c.peek == ']' then failAtNext .trailingComma c
    else .ok (some c)
  else failAtNext .expectedListCommaOrEnd c

/-- Past the end of a list. -/
def endList (c : Cursor) : Except Error Cursor :=
  let c := skipSpaces c
  if c.atEnd then failAtNext .endInList c
  else if c.peek == ']' then .ok c.advance
  else if c.peek == ',' then
    let c := skipSpaces c.advance
    failAtNext (if c.peek == ']' then .trailingComma else .trailingCharacters) c
  else failAtNext .trailingCharacters c

/-- Reads items up to the end of the list. -/
def readItems (s : Shape α) (first : Bool) (c : Cursor) : Nat → Except Error (List α × Cursor)
  | 0 => fail .endInList c
  | fuel + 1 => do
    match ← nextItem first c with
    | none => return ([], ← endList c)
    | some c =>
      let (a, c) ← s.read c
      let (more, c) ← readItems s false c fuel
      return (a :: more, c)

def list (s : Shape α) : Shape (List α) where
  read c := do
    let c := skipSpaces c
    if c.atEnd then failAtNext .endInValue c
    else if c.peek == '[' then readItems s true c.advance (c.rest.length + 1)
    else failExpecting "a sequence" c
  ofValue
    | .array items => items.mapM s.ofValue
    | j => unexpected "a sequence" j

end Shape

/-! ## Records -/

/-- A field of a record: its name, and readers of changes to the record. -/
structure Field (ρ : Type) where
  name : String
  shape : Shape (ρ → ρ)

/-- The field `name`, read as `s` and put into the record by `set`. -/
def Field.of (name : String) (s : Shape α) (set : α → ρ → ρ) : Field ρ := ⟨name, s.map set⟩

namespace Shape

/-- Reads the fields in order from a list that may stop early. -/
def readInOrder (first : Bool) (r : ρ) : List (Field ρ) → Cursor → Except Error (ρ × Cursor)
  | [], c => .ok (r, c)
  | f :: fs, c => do
    match ← nextItem first c with
    | none => return (r, c)
    | some c =>
      let (change, c) ← f.shape.read c
      readInOrder false (change r) fs c

/-- At the next key of an object, or `none` before its end. -/
def nextKey (first : Bool) (c : Cursor) : Except Error (Option Cursor) :=
  let c := skipSpaces c
  if c.atEnd then failAtNext .endInObject c
  else if c.peek == '}' then .ok none
  else if first then
    if c.peek == '"' then .ok (some c) else failAtNext .keyMustBeString c
  else if c.peek == ',' then
    let c := skipSpaces c.advance
    if c.atEnd then failAtNext .endInValue c
    else if c.peek == '"' then .ok (some c)
    else if c.peek == '}' then failAtNext .trailingComma c
    else failAtNext .keyMustBeString c
  else failAtNext .expectedObjectCommaOrEnd c

/-- Past the colon behind a key. -/
def readColon (c : Cursor) : Except Error Cursor :=
  let c := skipSpaces c
  if c.atEnd then failAtNext .endInObject c
  else if c.peek == ':' then .ok c.advance
  else failAtNext .expectedColon c

/-- Reads members up to the end of the object; `seen` holds the names of the fields read. -/
def readMembers (fields : List (Field ρ)) (first : Bool) (seen : List String) (r : ρ)
    (c : Cursor) : Nat → Except Error (ρ × Cursor)
  | 0 => fail .endInObject c
  | fuel + 1 => do
    match ← nextKey first c with
    | none => return (r, (skipSpaces c).advance)
    | some c =>
      let (key, c) ← readString c.advance
      match fields.find? (·.name == key) with
      | none =>
        let c ← skipValue (← readColon c)
        readMembers fields false seen r c fuel
      | some f =>
        if seen.contains key then
          -- the refusal is placed behind the blanks, and behind the object if it ends here
          let c := skipSpaces c
          fail (.duplicateField key) (if c.peek == '}' then c.advance else c)
        else
          let (change, c) ← f.shape.read (← readColon c)
          readMembers fields false (key :: seen) (change r) c fuel

/-- The fields in order, from as many items as there are. -/
def ofItems (r : ρ) : List (Field ρ) → List Json → Except Error ρ
  | f :: fs, j :: js => do ofItems ((← f.shape.ofValue j) r) fs js
  | _, _ => .ok r

/-- The fields named by the members. -/
def ofMembers (fields : List (Field ρ)) (r : ρ) : List (String × Json) → Except Error ρ
  | [] => .ok r
  | (key, j) :: ms => do
    match fields.find? (·.name == key) with
    | none => ofMembers fields r ms
    | some f => ofMembers fields ((← f.shape.ofValue j) r) ms

/-- A record that starts as `start`, described as `expected` in refusals. -/
def record (expected : String) (start : ρ) (fields : List (Field ρ)) : Shape ρ where
  read c := do
    let c := skipSpaces c
    if c.atEnd then failAtNext .endInValue c
    else if c.peek == '[' then
      let (r, c) ← readInOrder true start fields c.advance
      return (r, ← endList c)
    else if c.peek == '{' then
      readMembers fields true [] start c.advance (c.rest.length + 1)
    else failExpecting expected c
  ofValue
    | .array items => do
      let r ← ofItems start fields items
      if fields.length < items.length then
        .error ⟨.invalidLength items.length "fewer elements in array", none⟩
      else return r
    | .object members => ofMembers fields start members
    | j => unexpected expected j

/-- Reads a whole text: one value, and nothing but blanks behind it. -/
def parse (s : Shape α) (text : String) : Except Error α := do
  let (a, c) ← s.read (Cursor.ofText text)
  let c := skipSpaces c
  if c.atEnd then return a else failAtNext .trailingCharacters c

end Shape

/-- A path as a JSON string, if it is text. -/
def ofPath (p : Path) : Except Refusal Json :=
  match Text.text? p.bytes with
  | some s => .ok (.string s)
  | none => .error .pathNotText

end ModuleForge.Json
