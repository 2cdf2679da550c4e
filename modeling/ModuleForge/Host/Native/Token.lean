import ModuleForge.Power

/-!
# Tokens

The words, numbers, texts and signs of a program in C or C++. A token keeps what was written, so
that its text can be read again; what a number or a text stands for is worked out from that.
-/
namespace ModuleForge.Host.Native

inductive Token where
  /-- A name or a keyword. -/
  | word (name : String)
  /-- A number as it is written. -/
  | number (written : String)
  /-- What stands between single quotes, as it is written, with the letters before it. -/
  | character (mark content : String)
  /-- What stands between double quotes, as it is written, with the letters before it. -/
  | text (mark content : String)
  | sign (symbol : String)
  deriving DecidableEq, Inhabited

namespace Token

/-- How a token is written. -/
def write : Token → String
  | word name => name
  | number written => written
  | character mark content => mark ++ "'" ++ content ++ "'"
  | text mark content => mark ++ "\"" ++ content ++ "\""
  | sign symbol => symbol

/-- The signs of more than one character, longer ones first. -/
def longSigns : List (List Char) :=
  ["%:%:", "<<=", ">>=", "...", "->*", "->", "++", "--", "<<", ">>", "<=", ">=", "==", "!=", "&&", "||",
   "+=", "-=", "*=", "/=", "%=", "&=", "|=", "^=", "::", "##", ".*", "<:", ":>", "<%", "%>", "%:"].map
    String.toList

/-- Signs that are other spellings. -/
def respelled : List (String × String) :=
  [("<:", "["), (":>", "]"), ("<%", "\x7b"), ("%>", "\x7d"), ("%:", "#"), ("%:%:", "##")]

/-- Whether a character beyond the first 128 may be in a name: letters of any script may, and
neither punctuation nor pictures. -/
def isFarLetter (c : Char) : Bool :=
  let n := c.toNat
  if n < 0xC0 then n == 0xAA || n == 0xB5 || n == 0xBA
  else !(n == 0xD7 || n == 0xF7 || (0x2000 ≤ n && n < 0x2C00 && !(0x2070 ≤ n && n < 0x2190))
    || (0x3000 ≤ n && n < 0x3005) || (0xD800 ≤ n && n < 0xF900) || n == 0xFEFF || n == 0xFFFD
    || (0x1F000 ≤ n && n < 0x20000) || 0xE0000 ≤ n)

/-- Whether a name may start with a character. -/
def startsName (c : Char) : Bool :=
  c.isAlpha || c == '_' || c == '$' || (128 ≤ c.toNat && isFarLetter c)

def continuesName (c : Char) : Bool := startsName c || c.isDigit

/-- How many characters of a number there are, after its first one. -/
def numberLength : List Char → Nat
  | c :: s :: rest =>
    if (s == '+' || s == '-') && (c == 'e' || c == 'E' || c == 'p' || c == 'P') then
      numberLength rest + 2
    else if c == '\'' && (s.isAlphanum || s == '_') then numberLength rest + 2
    else if continuesName c || c == '.' then numberLength (s :: rest) + 1
    else 0
  | [c] => if continuesName c || c == '.' then 1 else 0
  | [] => 0

/-- What stands before a closing quote, and what comes behind it. -/
def upToQuote (quote : Char) : List Char → Option (List Char × List Char)
  | [] => none
  | '\\' :: c :: rest => (upToQuote quote rest).map fun (inner, rest) => ('\\' :: c :: inner, rest)
  | c :: rest =>
    if c == quote then some ([], rest)
    else (upToQuote quote rest).map fun (inner, rest) => (c :: inner, rest)

/-- The letters that may stand before a quote. -/
def marks : List String := ["", "L", "u8", "u", "U"]

/-- A text or a character behind a mark; a quote without a partner is a sign. -/
def quoted (mark : String) (quote : Char) (rest : List Char) : Token × List Char :=
  match upToQuote quote rest with
  | none => (sign quote.toString, rest)
  | some (inner, rest) =>
    let inner := String.ofList inner
    (if quote == '"' then text mark inner else character mark inner, rest)

/-- The token that starts with a character, and what comes behind it. -/
def next (c : Char) (rest : List Char) : Token × List Char :=
  let cs := c :: rest
  if c == '"' || c == '\'' then quoted "" c rest
  else if c.isDigit || (c == '.' && (rest.head?.any Char.isDigit)) then
    let n := numberLength rest
    (number (String.ofList (c :: rest.take n)), rest.drop n)
  else if startsName c then
    let name := String.ofList (cs.takeWhile continuesName)
    match cs.dropWhile continuesName with
    | q :: behind =>
      if (q == '"' || q == '\'') && marks.contains name then quoted name q behind
      else (word name, q :: behind)
    | [] => (word name, [])
  else match longSigns.find? (·.isPrefixOf cs) with
    | some s =>
      let s' := String.ofList s
      (sign ((respelled.lookup s').getD s'), cs.drop s.length)
    | none => (sign c.toString, rest)

/-- The letter behind a backslash as a code. -/
def simpleEscapes : List (Char × Nat) :=
  [('n', 10), ('t', 9), ('r', 13), ('a', 7), ('b', 8), ('f', 12), ('v', 11), ('e', 27), ('E', 27),
   ('\\', 92), ('\'', 39), ('"', 34), ('?', 63)]

def digitValue (c : Char) : Nat :=
  if c.isDigit then c.toNat - 48
  else if 'a' ≤ c && c ≤ 'z' then c.toNat - 87
  else if 'A' ≤ c && c ≤ 'Z' then c.toNat - 55
  else 99

/-- The number that digits stand for, if all are digits of its base. -/
def ofDigits? (base : Nat) (digits : List Char) : Option Nat :=
  if digits.isEmpty || digits.any (base ≤ digitValue ·) then none
  else some (digits.foldl (fun n c => n * base + digitValue c) 0)

/-- A piece of a text: a code that is put in as a unit, or a character. -/
inductive Element where
  | unit (n : Nat)
  | character (n : Nat)

/-- The elements that the written content of a text stands for; `none` if an escape is not
understood. -/
def elementsWithin : Nat → List Char → Option (List Element)
  | 0, _ | _, [] => some []
  | fuel + 1, '\\' :: 'x' :: rest => do
    let digits := rest.takeWhile fun c => digitValue c < 16
    let n ← ofDigits? 16 digits
    return .unit n :: (← elementsWithin fuel (rest.drop digits.length))
  | fuel + 1, '\\' :: c :: rest =>
    if c == 'u' || c == 'U' then do
      let count := if c == 'u' then 4 else 8
      let n ← ofDigits? 16 (rest.take count)
      if rest.length < count then none
      return .character n :: (← elementsWithin fuel (rest.drop count))
    else if digitValue c < 8 then do
      let digits := ((c :: rest).take 3).takeWhile fun c => digitValue c < 8
      let n ← ofDigits? 8 digits
      return .unit n :: (← elementsWithin fuel ((c :: rest).drop digits.length))
    else do
      -- an unknown letter stands for itself
      let n := (simpleEscapes.lookup c).getD c.toNat
      return .character n :: (← elementsWithin fuel rest)
  | fuel + 1, c :: rest => do return .character c.toNat :: (← elementsWithin fuel rest)

def elements? (content : String) : Option (List Element) :=
  let cs := content.toList
  elementsWithin cs.length cs

/-- How wide the characters of a marked text are, in bytes. -/
def unitSize (mark : String) : Nat :=
  if mark == "u" then 2 else if mark == "L" || mark == "U" then 4 else 1

/-- The units of a text whose characters have so many bytes. -/
def units (size : Nat) : List Element → List Nat
  | [] => []
  | .unit n :: rest => n % 256 ^ size :: units size rest
  | .character n :: rest =>
    let here : List Nat :=
      if size = 1 then (Char.ofNat n).toString.toUTF8.toList.map UInt8.toNat
      else if size = 2 && 0x10000 ≤ n then
        [0xD800 + (n - 0x10000) / 1024, 0xDC00 + (n - 0x10000) % 1024]
      else [n]
    here ++ units size rest

end Token

/-- A token where it stands. -/
structure Lexeme where
  token : Token
  /-- Whether there is a blank before it. -/
  blank : Bool := false
  line : Nat := 0
  /-- The names that must not be replaced in it. -/
  fixed : List String := []
  deriving Inhabited

namespace Lexeme

/-- The tokens of a line with at most so many characters. -/
def readWithin (line : Nat) : Nat → Bool → List Char → List Lexeme
  | 0, _, _ | _, _, [] => []
  | fuel + 1, blank, c :: rest =>
    if c.isWhitespace || c == '\x0b' || c == '\x0c' then readWithin line fuel true rest
    else
      let (token, rest) := Token.next c rest
      { token, blank, line } :: readWithin line fuel false rest

def readLine (line : Nat) (cs : List Char) : List Lexeme := readWithin line cs.length false cs

/-- Tokens as a text that can be read again. -/
def writeAll (ts : List Lexeme) : String := " ".intercalate (ts.map (·.token.write))

end Lexeme
end ModuleForge.Host.Native
