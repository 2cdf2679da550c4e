import ModuleForge.Decimal.Reader
import ModuleForge.Host.Utility.Awk.Program

/-!
# The tokens of programs over records

Whether a slash divides or opens an expression follows from what stands before it: only behind a
value it divides. A line goes on behind a backslash at its end.
-/
namespace ModuleForge.Host.Utility.Awk

inductive Token where
  | number (x : Float)
  | text (s : ByteString)
  | pattern (s : ByteString)
  | name (s : String)
  /-- A name with a parenthesis right behind it. -/
  | callee (s : String)
  | word (s : String)
  | builtin (s : String)
  | sign (s : String)
  | newline
  | finish
  deriving Inhabited

namespace Token

def isSign (t : Token) (s : String) : Bool := match t with
  | .sign x => x == s
  | _ => false

def isWord (t : Token) (s : String) : Bool := match t with
  | .word x => x == s
  | _ => false

/-- Whether a value ends here, so that a slash divides. -/
def endsValue : Token → Bool
  | .number _ | .text _ | .pattern _ | .name _ => true
  | .sign s => s == ")" || s == "]" || s == "++" || s == "--"
  | .word s => s == "getline"
  | _ => false

/-- How a token is named in complaints. -/
def shown : Token → String
  | .number x => String.ofList (({} : Decimal.Layout).float 'g' x)
  | .text s => Text.lossy s
  | .pattern s => "/" ++ Text.lossy s ++ "/"
  | .name s | .callee s | .word s | .builtin s | .sign s => s
  | .newline => "end of line"
  | .finish => "end of file"

end Token

/-- A token with its line. -/
structure Lexeme where
  token : Token
  line : Nat
  deriving Inhabited

/-- What is wrong with a program. -/
structure Fault where
  message : String

def words : List String := [
  "BEGIN", "END", "function", "getline", "print", "printf", "if", "else", "while", "do", "for", "in", "break",
  "continue", "next", "nextfile", "exit", "return", "delete"]

def signs : List String := [
  "&&", "||", "++", "--", "+=", "-=", "*=", "/=", "%=", "^=", "==", "<=", ">=", "!=", "!~", ">>",
  "\x7b", "\x7d", "(", ")", "[", "]", ";", ",", "+", "-", "*", "/", "%", "^", "!", ">", "<", "|", "?", ":", "~",
  "$", "="]

/-- The escapes in a text: those of letters and of octal digits; the backslash of any other one
stays. -/
def unescaped : Nat → List Char → List Char
  | 0, _ => []
  | _, [] => []
  | fuel + 1, '\\' :: rest => match rest with
    | '"' :: rest => '"' :: unescaped fuel rest
    | '\\' :: rest => '\\' :: unescaped fuel rest
    | '/' :: rest => '/' :: unescaped fuel rest
    | c :: rest =>
      let digits := (rest.take 2).takeWhile Format.isOctal
      if Format.isOctal c then
        Char.ofNat (Format.digitsValue 8 (c :: digits) % 256) :: unescaped fuel (rest.drop digits.length)
      else match Format.escape? c with
        | some b => Char.ofNat b.toNat :: unescaped fuel rest
        | none => '\\' :: c :: unescaped fuel rest
    | [] => ['\\']
  | fuel + 1, c :: rest => c :: unescaped fuel rest

def textOf (cs : List Char) : ByteString := Format.bytes (unescaped (cs.length + 1) cs)

/-- What stands before a closing quote. -/
def quotedWithin : Nat → List Char → List Char → Option (List Char × List Char)
  | 0, _, _ => none
  | _, _, [] => none
  | fuel + 1, done, c :: rest =>
    if c == '"' then some (done.reverse, rest)
    else if c == '\n' then none
    else if c == '\\' then match rest with
      | '\n' :: rest => quotedWithin fuel done rest
      | x :: rest => quotedWithin fuel (x :: c :: done) rest
      | [] => none
    else quotedWithin fuel (c :: done) rest

/-- What stands before a closing slash; within brackets a slash closes nothing. -/
def patternWithin (inBrackets : Bool) : Nat → List Char → List Char → Option (List Char × List Char)
  | 0, _, _ => none
  | _, _, [] => none
  | fuel + 1, done, c :: rest =>
    if c == '/' && !inBrackets then some (done.reverse, rest)
    else if c == '\n' then none
    else if c == '\\' then match rest with
      | '/' :: rest => patternWithin inBrackets fuel ('/' :: done) rest
      | x :: rest => patternWithin inBrackets fuel (x :: c :: done) rest
      | [] => none
    else if c == '[' && !inBrackets then
      -- a closing bracket right behind the opening one is a member
      match rest with
      | '^' :: ']' :: rest => patternWithin true fuel (']' :: '^' :: c :: done) rest
      | ']' :: rest => patternWithin true fuel (']' :: c :: done) rest
      | rest => patternWithin true fuel (c :: done) rest
    else if c == ']' then patternWithin false fuel (c :: done) rest
    else patternWithin inBrackets fuel (c :: done) rest

def isNameStart (c : Char) : Bool := c.isAlpha || c == '_'

def isNamePart (c : Char) : Bool := c.isAlphanum || c == '_'

/-- How many line feeds lie in some text. -/
def lineFeeds (cs : List Char) : Nat := cs.countP (· == '\n')

def tokensWithin : Nat → Nat → Token → List Char → List Lexeme → Except Fault (List Lexeme)
  | 0, _, _, _, done => return done.reverse
  | _, line, _, [], done => return (⟨.finish, line⟩ :: done).reverse
  | fuel + 1, line, before, c :: rest, done => do
    let put (t : Token) (rest : List Char) : Except Fault (List Lexeme) :=
      tokensWithin fuel line t rest (⟨t, line⟩ :: done)
    if c == '\n' then tokensWithin fuel (line + 1) .newline rest (⟨.newline, line⟩ :: done)
    else if c == ' ' || c == '\t' || c == '\r' || c == '\x0b' || c == '\x0c' then
      tokensWithin fuel line before rest done
    else if c == '#' then tokensWithin fuel line before (rest.dropWhile (· != '\n')) done
    else if c == '\\' then
      match rest with
      | '\n' :: rest => tokensWithin fuel (line + 1) before rest done
      | '\r' :: '\n' :: rest => tokensWithin fuel (line + 1) before rest done
      | _ => throw ⟨toString line ++ ": unexpected character '\\'"⟩
    else if c == '"' then
      match quotedWithin (rest.length + 1) [] rest with
      | some (inner, behind) =>
        let t := Token.text (textOf inner)
        tokensWithin fuel (line + lineFeeds (rest.take (rest.length - behind.length))) t behind (⟨t, line⟩ :: done)
      | none =>
        throw ⟨"line " ++ toString line ++ ": runaway string constant \"" ++ String.ofList ((rest.takeWhile (· != '\n')).take 10)
          ++ " ..."⟩
    else if c.isDigit || (c == '.' && rest.head?.any Char.isDigit) then
      match Decimal.readFloat (c :: rest) with
      | some (x, behind) => put (.number x) behind
      | none => put (.number 0) rest
    else if isNameStart c then
      let name := String.ofList (c :: rest.takeWhile isNamePart)
      let behind := rest.dropWhile isNamePart
      if words.contains name then put (.word name) behind
      else if (Builtin.table.lookup name).isSome then put (.builtin name) behind
      else if behind.head? == some '(' then put (.callee name) behind
      else put (.name name) behind
    else if c == '/' && !before.endsValue then
      match patternWithin false (rest.length + 1) [] rest with
      | some (inner, behind) => put (.pattern (Format.bytes inner)) behind
      | none =>
        throw ⟨"line " ++ toString line ++ ": runaway regular expression /" ++ String.ofList ((rest.takeWhile (· != '\n')).take 10)
          ++ " ..."⟩
    else
      match signs.find? fun s => s.toList.isPrefixOf (c :: rest) with
      | some s => put (.sign s) ((c :: rest).drop s.length)
      | none => throw ⟨toString line ++ ": unexpected character '" ++ String.singleton c ++ "'"⟩

/-- The tokens of a program. -/
def tokens (source : ByteString) : Except Fault (List Lexeme) :=
  let cs := Format.chars source
  tokensWithin (2 * cs.length + 2) 1 .newline (cs ++ ['\n']) []

end ModuleForge.Host.Utility.Awk
