import ModuleForge.Decimal
import ModuleForge.Text.Quoted

/-!
# JSON values

The value type, its compact and its indented text, and the reasons why a text or a value is refused.
Reading is in `ModuleForge.Json.Reader`, records in `ModuleForge.Json.Shape`.
-/
namespace ModuleForge

namespace Json

/-- A number: a whole number of 64 bits, or a double. -/
inductive Number where
  | whole (n : Int)
  | float (x : Float)

/-- Doubles in messages are positional from `0.0001` to below `10^16`, and have an exponent of two
digits or more otherwise. -/
def floatStyle : Decimal.Style := ⟨-4, 16, 1⟩

end Json

/-- A JSON value. The members of an object are in the order in which they are visited. -/
inductive Json where
  | null
  | bool (b : Bool)
  | number (n : Json.Number)
  | string (s : String)
  | array (items : List Json)
  | object (members : List (String × Json))

namespace Json

instance : Inhabited Json := ⟨null⟩

/-! ## Writing -/

private def fourHex (n : Nat) : List Char :=
  let ds := Text.hexDigits n
  List.replicate (4 - ds.length) '0' ++ ds

/-- One character inside a JSON string. -/
def escape (c : Char) : List Char :=
  match c with
  | '"' => ['\\', '"']
  | '\\' => ['\\', '\\']
  | '\x08' => ['\\', 'b']
  | '\x0c' => ['\\', 'f']
  | '\n' => ['\\', 'n']
  | '\r' => ['\\', 'r']
  | '\t' => ['\\', 't']
  | c => if c.toNat < 0x20 then '\\' :: 'u' :: fourHex c.toNat else [c]

/-- A JSON string. -/
def writeString (s : String) : String :=
  String.ofList ('"' :: s.toList.flatMap escape ++ ['"'])

def Number.write : Number → String
  | whole n => toString n
  | float x => floatStyle.writeFloat x

mutual

/-- The text of a value without blanks. -/
def write : Json → String
  | null => "null"
  | bool b => if b then "true" else "false"
  | number n => n.write
  | string s => writeString s
  | array items => "[" ++ ",".intercalate (writeItems items) ++ "]"
  | object members => "\x7b" ++ ",".intercalate (writeMembers members) ++ "\x7d"

def writeItems : List Json → List String
  | [] => []
  | j :: js => write j :: writeItems js

def writeMembers : List (String × Json) → List String
  | [] => []
  | (k, j) :: ms => (writeString k ++ ":" ++ write j) :: writeMembers ms

end

private def indented (depth : Nat) (line : String) : String :=
  String.ofList (List.replicate (2 * depth) ' ') ++ line

/-- Lines between an opening and a closing mark, one step further in. -/
private def block (opening closing : String) (depth : Nat) (lines : List String) : String :=
  match lines with
  | [] => opening ++ closing
  | _ =>
    opening ++ "\n" ++ ",\n".intercalate (lines.map (indented (depth + 1)))
      ++ "\n" ++ indented depth closing

mutual

/-- The text of a value with a line for each item and member, indented by two blanks a level. -/
def pretty (depth : Nat) : Json → String
  | array items => block "[" "]" depth (prettyItems (depth + 1) items)
  | object members => block "\x7b" "\x7d" depth (prettyMembers (depth + 1) members)
  | null => "null"
  | bool b => if b then "true" else "false"
  | number n => n.write
  | string s => writeString s

def prettyItems (depth : Nat) : List Json → List String
  | [] => []
  | j :: js => pretty depth j :: prettyItems depth js

def prettyMembers (depth : Nat) : List (String × Json) → List String
  | [] => []
  | (k, j) :: ms => (writeString k ++ ": " ++ pretty depth j) :: prettyMembers depth ms

end

/-! ## Refusals -/

/-- What was found where something else was expected. -/
inductive Found where
  | null
  | bool (b : Bool)
  | number (n : Number)
  | string (s : String)
  | sequence
  | map

def Found.message : Found → String
  | null => "null"
  | bool b => "boolean `" ++ (if b then "true" else "false") ++ "`"
  | number (.whole n) => "integer `" ++ toString n ++ "`"
  | number (.float x) => "floating point `" ++ floatStyle.writeFloat x ++ "`"
  | string s => "string " ++ Text.quote s
  | sequence => "sequence"
  | map => "map"

/-- Why a JSON text or value is refused. -/
inductive Refusal where
  | endInList
  | endInObject
  | endInString
  | endInValue
  | expectedColon
  | expectedListCommaOrEnd
  | expectedObjectCommaOrEnd
  | expectedIdent
  | expectedValue
  | invalidEscape
  | invalidNumber
  | numberOutOfRange
  | controlCharacter
  | keyMustBeString
  | loneSurrogate
  | trailingComma
  | trailingCharacters
  | endInHexEscape
  | invalidType (found : Found) (expected : String)
  | invalidValue (found : Found) (expected : String)
  | invalidLength (length : Nat) (expected : String)
  | duplicateField (name : String)
  | pathNotText

def Refusal.message : Refusal → String
  | endInList => "EOF while parsing a list"
  | endInObject => "EOF while parsing an object"
  | endInString => "EOF while parsing a string"
  | endInValue => "EOF while parsing a value"
  | expectedColon => "expected `:`"
  | expectedListCommaOrEnd => "expected `,` or `]`"
  | expectedObjectCommaOrEnd => "expected `,` or `\x7d`"
  | expectedIdent => "expected ident"
  | expectedValue => "expected value"
  | invalidEscape => "invalid escape"
  | invalidNumber => "invalid number"
  | numberOutOfRange => "number out of range"
  | controlCharacter => "control character (\\u0000-\\u001F) found while parsing a string"
  | keyMustBeString => "key must be a string"
  | loneSurrogate => "lone leading surrogate in hex escape"
  | trailingComma => "trailing comma"
  | trailingCharacters => "trailing characters"
  | endInHexEscape => "unexpected end of hex escape"
  | invalidType found expected => "invalid type: " ++ found.message ++ ", expected " ++ expected
  | invalidValue found expected => "invalid value: " ++ found.message ++ ", expected " ++ expected
  | invalidLength n expected => "invalid length " ++ toString n ++ ", expected " ++ expected
  | duplicateField name => "duplicate field `" ++ name ++ "`"
  | pathNotText => "path contains invalid UTF-8 characters"

/-- A refusal, and where in the text it arose, if there is a text. -/
structure Error where
  refusal : Refusal
  position : Option (Nat × Nat) := none

def Error.message (e : Error) : String :=
  match e.position with
  | none => e.refusal.message
  | some (line, column) =>
    e.refusal.message ++ " at line " ++ toString line ++ " column " ++ toString column

end Json
end ModuleForge
