import ModuleForge.Host.Native.Condition
import ModuleForge.Host.Native.Macro

/-!
# Directives

The lines of a program that start with `#`, and reading a program with all that they ask for.
-/
namespace ModuleForge.Host.Native

/-- A file that may be included: the name by which it was found, and its text. -/
structure Included where
  name : String
  text : String
  /-- Whether it is one that every program may include. -/
  isKnown : Bool := false

namespace Prepare

/-- How deep files may include each other. -/
def maxDepth : Nat := 200

/-- Finds files: by the including file, the name, and whether it is looked for beside that file. -/
abbrev Finder := String → String → Bool → Option Included

/-! ## Definitions -/

/-- The names of parameters up to the closing parenthesis, whether the last takes the rest, and what
comes behind. -/
def parameters? : List Lexeme → List String → Option (List String × Bool × List Lexeme)
  | [], _ => none
  | t :: rest, names => match t.token with
    | .sign ")" => if names.isEmpty then some ([], false, rest) else none
    | .sign "..." => match rest with
      | u :: rest => if u.token == .sign ")" then some (names ++ ["__VA_ARGS__"], true, rest) else none
      | [] => none
    | .word x => match rest with
      | u :: rest => match u.token with
        | .sign "," =>
          if names.contains x || rest.head?.any (·.token == .sign ")") then none
          else parameters? rest (names ++ [x])
        | .sign ")" => if names.contains x then none else some (names ++ [x], false, rest)
        | .sign "..." => match rest with
          | v :: rest => if v.token == .sign ")" then some (names ++ [x], true, rest) else none
          | [] => none
        | _ => none
      | [] => none
    | _ => none

/-- Whether two replacements are the same. -/
def sameMacro (a b : Macro) : Bool :=
  let tokens (m : Macro) : List (Token × Bool) := m.body.map fun t => (t.token, t.blank)
  a.parameters == b.parameters && a.takesRest == b.takesRest && (tokens a).tail == (tokens b).tail
    && (tokens a).head?.map (·.1) == (tokens b).head?.map (·.1)

def define (ts : List Lexeme) : Prepare Unit := do
  let t :: rest := ts | throw "no macro name given in #define directive"
  let .word name := t.token | throw "macro names must be identifiers"
  if name == "defined" || name == "__VA_ARGS__" then throw ("\"" ++ name ++ "\" cannot be used as a macro name")
  let m : Macro ← match rest with
    | o :: behind =>
      if o.token == .sign "(" && !o.blank then
        match parameters? behind [] with
        | none => throw "expected parameter name or ')'"
        | some (names, takesRest, body) =>
          pure { parameters := some names, takesRest, body }
      else pure { body := rest }
    | [] => pure { body := [] }
  if m.body.head?.any (·.token == .sign "##") || m.body.getLast?.any (·.token == .sign "##") then
    throw "'##' cannot appear at either end of a macro expansion"
  if let some names := m.parameters then
    let pairs := m.body.zip (m.body.drop 1)
    let isName (t : Lexeme) : Bool := match t.token with
      | .word x => names.contains x || x == "__VA_OPT__"
      | _ => false
    if pairs.any (fun (a, b) => a.token == .sign "#" && !isName b)
        || m.body.getLast?.any (·.token == .sign "#") then
      throw "'#' is not followed by a macro parameter"
  let s ← get
  let changes := match s.macros[name]? with
    | some old => !sameMacro old m
    | none => false
  set { s with
    macros := s.macros.insert name m
    warnings := if changes then "redefined" :: s.warnings else s.warnings }

/-! ## Conditions -/

def open_ (holds : Bool) : Prepare Unit := do
  let outer ← active
  modify fun s => { s with
    conditions := { holds := outer && holds, taken := !outer || holds } :: s.conditions }

def numberToken (t : Lexeme) (n : Nat) : Lexeme := { t with token := .number (toString n) }

/-- Attributes with the number that tells when they came up. -/
def attributes : List (String × Nat) :=
  [("nodiscard", 201907), ("fallthrough", 201603), ("maybe_unused", 201603), ("noreturn", 200809),
   ("deprecated", 201309), ("likely", 201803), ("unlikely", 201803), ("no_unique_address", 201803),
   ("carries_dependency", 200809)]

/-- Answers the questions in a condition, of which there are at most as many as tokens. -/
def answer (find : Finder) : Nat → List Lexeme → Prepare (List Lexeme)
  | 0, _ | _, [] => return []
  | fuel + 1, t :: rest => do
    let closed (rest : List Lexeme) : List Lexeme × List Lexeme :=
      (rest.takeWhile (·.token != .sign ")"), (rest.dropWhile (·.token != .sign ")")).drop 1)
    let bit (b : Bool) : Lexeme := numberToken t (if b then 1 else 0)
    match t.token, rest with
    | .word "defined", u :: behind => match u.token, behind with
      | .word x, _ => return bit (← isDefined x) :: (← answer find fuel behind)
      | .sign "(", x :: c :: behind => match x.token, c.token with
        | .word x, .sign ")" => return bit (← isDefined x) :: (← answer find fuel behind)
        | _, _ => throw "operator \"defined\" requires an identifier"
      | _, _ => throw "operator \"defined\" requires an identifier"
    | .word "__has_include", u :: behind =>
      if u.token != .sign "(" then throw "missing '(' before \"__has_include\" operand"
      let (inner, behind) := closed behind
      let file := (← get).file
      let found := match inner with
        | [x] => match x.token with
          | .text _ name => (find file name true).isSome
          | _ => false
        | _ => (find file (String.join (((inner.drop 1).dropLast).map (·.token.write))) false).isSome
      return bit found :: (← answer find fuel behind)
    | .word "__has_cpp_attribute", u :: behind | .word "__has_c_attribute", u :: behind =>
      if u.token != .sign "(" then throw "missing '('"
      let (inner, behind) := closed behind
      let number := match inner with
        | [x] => (attributes.lookup x.token.write).getD 0
        | _ => 1
      return numberToken t number :: (← answer find fuel behind)
    | .word "__has_attribute", u :: behind | .word "__has_builtin", u :: behind =>
      if u.token != .sign "(" then throw "missing '('"
      let (_, behind) := closed behind
      return bit true :: (← answer find fuel behind)
    | _, _ => return t :: (← answer find fuel rest)

def condition (find : Finder) (ts : List Lexeme) : Prepare Bool := do
  if ts.isEmpty then throw "#if with no expression"
  let ts ← expand (← answer find ts.length ts)
  match Condition.holds? (ts.map (·.token)) with
  | some b => return b
  | none => throw "condition is not valid"

/-- The branch behind a condition: `holds` is only asked if no branch was taken. -/
def branch (isElse : Bool) (holds : Prepare Bool) : Prepare Unit := do
  match (← get).conditions with
  | [] => throw "#else without #if"
  | c :: outer =>
    if c.atElse then throw "#else after #else"
    modify fun s => { s with conditions := outer }
    let now ← if c.taken then pure false else holds
    modify fun s => { s with
      conditions := { holds := now, taken := c.taken || now, atElse := isElse } :: outer }

/-! ## Lines -/

/-- The name of an included file, and whether it is looked for beside the including one. -/
def includedName? (line : List Char) : Option (String × Bool) :=
  match line.dropWhile Char.isWhitespace with
  | '"' :: rest =>
    let name := rest.takeWhile (· ≠ '"')
    if name.length < rest.length && !name.isEmpty then some (String.ofList name, true) else none
  | '<' :: rest =>
    let name := rest.takeWhile (· ≠ '>')
    if name.length < rest.length && !name.isEmpty then some (String.ofList name, false) else none
  | _ => none

/-- A directive that does not put in other files. -/
def directive (find : Finder) (name : String) (ts : List Lexeme) : Prepare Unit := do
  let isActive ← active
  let named (ts : List Lexeme) : Prepare String := match ts with
    | t :: _ => match t.token with
      | .word x => return x
      | _ => throw "macro names must be identifiers"
    | [] => throw "no macro name given"
  match name with
  | "ifdef" => open_ (← if isActive then do isDefined (← named ts) else pure false)
  | "ifndef" => open_ (← if isActive then (! ·) <$> (named ts >>= isDefined) else pure false)
  | "if" => open_ (← if isActive then condition find ts else pure false)
  | "elif" => branch false (condition find ts)
  | "elifdef" => branch false (do isDefined (← named ts))
  | "elifndef" => branch false ((! ·) <$> (named ts >>= isDefined))
  | "else" => branch true (return true)
  | "endif" => match (← get).conditions with
    | [] => throw "#endif without #if"
    | _ :: outer => modify fun s => { s with conditions := outer }
  | _ =>
    if !isActive then return
    match name with
    | "define" => define ts
    | "undef" =>
      let x ← named ts
      modify fun s => { s with macros := s.macros.erase x }
    | "error" => throw ("#error " ++ Lexeme.writeAll ts)
    | "warning" => modify fun s => { s with warnings := "cpp" :: s.warnings }
    | "pragma" => match ts.map (·.token.write) with
      | ["once"] => modify fun s => { s with once := s.file :: s.once }
      | "GCC" :: "error" :: _ => throw "#pragma GCC error"
      | "GCC" :: "poison" :: _ => return
      | _ => return
    | "line" => match ← expand ts with
      | t :: rest =>
        let some n := (Condition.Number.ofWritten? t.token.write) | throw "#line is not followed by a number"
        modify fun s => { s with shift := n.value - t.line - 1 }
        let behind : List Token := rest.map (·.token)
        match behind with
        | .text _ file :: _ => modify fun s => { s with file }
        | _ => return
      | [] => throw "unexpected end of file after #line"
    | "" | "ident" | "sccs" | "assert" | "unassert" => return
    | _ => match ts, name.toNat? with
      | _, some _ => return
      | _, none => throw ("invalid preprocessing directive #" ++ name)

/-- Reads lines; `depth` bounds how deep files may include each other. -/
def readText (find : Finder) : Nat → String → Prepare Unit
  | 0, _ => throw "#include nested too deeply"
  | depth + 1, text => do
    let lines ← (Lines.read text.toList : Except String _)
    let outside := (← get).conditions.length
    for (number, line) in lines do
      match line.dropWhile Char.isWhitespace with
      | '#' :: rest =>
        let rest := rest.dropWhile Char.isWhitespace
        let name := String.ofList (rest.takeWhile Token.continuesName)
        let behind := rest.dropWhile Token.continuesName
        flush
        if (name == "include" || name == "include_next" || name == "import") && (← active) then
          let asked ← match includedName? behind with
            | some asked => pure asked
            | none =>
              let ts ← expand (Lexeme.readLine number behind)
              match includedName? (String.join (ts.map (·.token.write))).toList with
              | some asked => pure asked
              | none => throw "#include expects \"FILENAME\" or <FILENAME>"
          let before := (← get).file
          match find before asked.1 asked.2 with
          | none => throw (asked.1 ++ ": No such file or directory")
          | some found =>
            if !(← get).once.contains found.name then
              let shift := (← get).shift
              let length := (← get).done.length
              modify fun s => { s with
                file := found.name, shift := 0
                once := if name == "import" then found.name :: s.once else s.once }
              readText find depth found.text
              modify fun s => { s with file := before, shift }
              if found.isKnown then
                -- its tokens stand in no line of the program
                modify fun s =>
                  let count := s.done.length - length
                  { s with done := (s.done.take count).map ({ · with line := 0 }) ++ s.done.drop count }
        else directive find name (Lexeme.readLine number behind)
      | rest =>
        if !rest.isEmpty && (← active) then
          let ts := Lexeme.readLine number line
          let ts := match ts with
            | t :: more => { t with blank := true } :: more
            | [] => []
          modify fun s => { s with waiting := ts.reverse ++ s.waiting }
    flush
    if outside < (← get).conditions.length then throw "unterminated conditional directive"

end Prepare

/-- A program whose directives have been followed. -/
structure Prepared where
  tokens : List Lexeme
  warnings : List String

/-- Reads a program, with definitions that are made beforehand: each is the line of a `#define`, or
takes a name back. -/
def Prepared.read (find : Prepare.Finder) (definitions : List (Bool × String)) (text : String) :
    Except String Prepared := do
  let prepare : Prepare Unit := do
    for (defines, line) in definitions do
      let ts := Lexeme.readLine 0 line.toList
      if defines then Prepare.define ts
      else match ts with
        | [t] => modify fun s => { s with macros := s.macros.erase t.token.write }
        | _ => throw "macro names must be identifiers"
    Prepare.readText find Prepare.maxDepth text
  let (_, s) ← prepare.run {}
  return { tokens := s.done.reverse, warnings := s.warnings }

end ModuleForge.Host.Native
