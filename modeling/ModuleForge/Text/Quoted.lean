import ModuleForge.Text.Bytes
import ModuleForge.Text.Printable

/-!
# Quoted text

The form in which messages and log lines show a text that may hold anything: in double quotes, with
backslash escapes for quotes, backslashes and the usual control characters, and `\u{…}` for every
other character that does not show by itself. A byte that belongs to no character is `\xHH`.
-/
namespace ModuleForge.Text

/-- The digits of a number in base 16, lower case, without leading zeros. -/
def hexDigits (n : Nat) : List Char := Nat.toDigits 16 n

/-- One character inside quotes. -/
def quoteChar (c : Char) : List Char :=
  match c with
  | '\x00' => ['\\', '0']
  | '\t' => ['\\', 't']
  | '\r' => ['\\', 'r']
  | '\n' => ['\\', 'n']
  | '"' => ['\\', '"']
  | '\\' => ['\\', '\\']
  | c =>
    if !isExtending c && isPrintable c then [c]
    else ['\\', 'u', '\x7b'] ++ hexDigits c.toNat ++ ['\x7d']

/-- A text in quotes. -/
def quote (s : String) : String :=
  String.ofList ('"' :: s.toList.flatMap quoteChar ++ ['"'])

/-- A byte that belongs to no character, as `\xHH`. -/
def quoteByte (b : UInt8) : List Char :=
  let digit (n : Nat) : Char := (Nat.digitChar n).toUpper
  ['\\', 'x', digit (b.toNat / 16), digit (b.toNat % 16)]

/-- A byte string in quotes. -/
def quoteBytes (bs : ByteString) : String :=
  let inner := (pieces bs).flatMap fun
    | .char c => quoteChar c
    | .broken b => b.flatMap quoteByte
  String.ofList ('"' :: inner ++ ['"'])

/-- Values in brackets, a comma and a space between them. -/
def bracketed (items : List String) : String :=
  "[" ++ ", ".intercalate items ++ "]"

/-- A record: its name, then its fields in braces. -/
def record (name : String) (fields : List (String × String)) : String :=
  name ++ " \x7b " ++ ", ".intercalate (fields.map fun (k, v) => k ++ ": " ++ v) ++ " \x7d"

/-- A value that may be missing. -/
def optional (value : Option String) : String :=
  match value with
  | none => "None"
  | some v => "Some(" ++ v ++ ")"

end ModuleForge.Text
