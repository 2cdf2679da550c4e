import ModuleForge.Host.Native.Token
import Std.Data.HashMap

/-!
# Lines and macros

## Lines of a program

A text without comments, in lines that are joined where a backslash ends them. Texts that are
written raw are spelled in the common way.
-/
namespace ModuleForge.Host.Native.Lines

/-- What surrounds the current character. -/
inductive Place where
  | code
  | lineComment
  /-- The star that opens a comment. -/
  | opening
  /-- `star` tells whether the last character was a star. -/
  | comment (star : Bool)
  /-- `escaped` tells whether the last character was a backslash that counts. -/
  | quoted (quote : Char) (escaped : Bool)
  /-- The beginning of a raw text, with what was read of its mark. -/
  | mark (read : List Char)
  /-- A raw text, with what will close it. -/
  | raw (closing : List Char)
  /-- So many characters that mean nothing. -/
  | skip (count : Nat)

/-- The line that is being read: its number, and what was read of it, from its end. -/
structure Reader where
  place : Place := .code
  /-- The number of the line of the text. -/
  line : Nat := 1
  /-- The number of the line in which the joined line starts. -/
  start : Nat := 1
  read : List Char := []
  done : List (Nat × List Char) := []

namespace Reader

def put (r : Reader) (c : Char) : Reader := { r with read := c :: r.read }

def finish (r : Reader) : Reader :=
  { r with place := .code, line := r.line + 1, start := r.line + 1, read := []
           done := (r.start, r.read.reverse) :: r.done }

/-- Whether the name that was read last, if any, may stand before a quote. -/
def marksText (read : List Char) : Bool :=
  Token.marks.contains (String.ofList (read.takeWhile Token.continuesName).reverse)

/-- Whether what was read last marks the next text as raw. -/
def marksRaw : List Char → Bool
  | 'R' :: rest => marksText rest
  | _ => false

/-- A character of a raw text in the common spelling. -/
def respell (c : Char) : List Char :=
  if c == '\n' then ['\\', 'n']
  else if c == '"' || c == '\\' then ['\\', c]
  else [c]

/-- Takes up a character; `rest` is what follows. -/
def step (r : Reader) (c : Char) (rest : List Char) : Reader :=
  match r.place with
  | .skip n => { r with place := if n ≤ 1 then .code else .skip (n - 1) }
  | .mark read =>
    if c == '(' then { r with place := .raw (')' :: (read.reverse ++ ['"'])) }
    else { r with place := .mark (c :: read) }
  | .raw closing =>
    if closing.isPrefixOf (c :: rest) then
      { r with place := if closing.length ≤ 1 then .code else .skip (closing.length - 1)
               read := '"' :: r.read }
    else
      { r with read := (respell c).reverse ++ r.read, line := if c == '\n' then r.line + 1 else r.line }
  | place =>
    if c == '\\' && rest.head? == some '\n' then
      -- the end of the line is dropped with the backslash
      { r with read := '\\' :: r.read }
    else if c == '\n' && r.read.head? == some '\\' then
      { r with read := r.read.tail, line := r.line + 1 }
    else match place with
      | .lineComment => if c == '\n' then r.finish else r
      | .comment star =>
        if c == '/' && star then { r with place := .code, read := ' ' :: r.read }
        else { r with place := .comment (c == '*'), line := if c == '\n' then r.line + 1 else r.line }
      | .opening => { r with place := .comment false }
      | .quoted quote escaped =>
        if c == '\n' then r.finish
        else if c == quote && !escaped then { r.put c with place := .code }
        else { r.put c with place := .quoted quote (c == '\\' && !escaped) }
      | _ =>
        if c == '\n' then r.finish
        else if c == '/' && rest.head? == some '/' then { r with place := .lineComment }
        else if c == '/' && rest.head? == some '*' then { r with place := .opening }
        else if c == '"' && marksRaw r.read then
          { r with place := .mark [], read := '"' :: r.read.tail }
        else if c == '"' then { r.put c with place := .quoted c false }
        else if c == '\'' && marksText r.read then { r.put c with place := .quoted c false }
        else r.put c

/-- Takes up all characters. -/
def readAll : Reader → List Char → Reader
  | r, [] => r
  | r, c :: rest => readAll (r.step c rest) rest

end Reader

/-- The lines of a text with their numbers. -/
def read (cs : List Char) : Except String (List (Nat × List Char)) :=
  let cs := if cs.head? == some '\uFEFF' then cs.tail else cs
  let r := Reader.readAll {} cs
  match r.place with
  | .opening | .comment _ => .error "unterminated comment"
  | .mark _ | .raw _ => .error "unterminated raw string"
  | _ => .ok r.finish.done.reverse

end ModuleForge.Host.Native.Lines

/-!
## Macros

What is done to the text of a program before it is read: other files are put in, lines are left out,
and names are replaced by what was defined for them. A name is never replaced within its own
replacement.
-/
namespace ModuleForge.Host.Native

/-- What a name is replaced by. -/
structure Macro where
  /-- The parameters, if the name is only replaced before arguments. -/
  parameters : Option (List String) := none
  /-- Whether the last parameter takes all arguments that are left. -/
  takesRest : Bool := false
  body : List Lexeme
  deriving Inhabited

/-- One of the conditions around a line. -/
structure Condition where
  holds : Bool
  /-- Whether one of its branches was taken, or none may be. -/
  taken : Bool
  atElse : Bool := false

/-- The state of reading a program. -/
structure Preparation where
  macros : Std.HashMap String Macro := {}
  conditions : List Condition := []
  /-- What is read of the current stretch of lines, from its end. -/
  waiting : List Lexeme := []
  /-- What is finished, from its end. -/
  done : List Lexeme := []
  counter : Nat := 0
  file : String := "<stdin>"
  /-- Files that are not included again. -/
  once : List String := []
  /-- What a warning was given for. -/
  warnings : List String := []
  /-- How far the numbers of lines were shifted. -/
  shift : Int := 0

abbrev Prepare := StateT Preparation (Except String)

namespace Prepare

def active : Prepare Bool := return (← get).conditions.all (·.holds)

/-- The names that are replaced by something that is worked out. -/
def computed : List String := ["__LINE__", "__FILE__", "__COUNTER__", "__BASE_FILE__", "__INCLUDE_LEVEL__"]

def isDefined (name : String) : Prepare Bool :=
  return (← get).macros.contains name || computed.contains name
    || ["__has_include", "__has_cpp_attribute", "__has_attribute", "__has_builtin", "_Pragma"].contains name

/-! ## Replacing -/

/-- The text of a token that says how tokens are written. -/
def spelled (ts : List Lexeme) : Token :=
  let escape (s : String) : String := s.foldl (fun acc c =>
    if c == '"' || c == '\\' then (acc.push '\\').push c else acc.push c) ""
  let one (t : Lexeme) : String := match t.token with
    | .text .. | .character .. => escape t.token.write
    | _ => t.token.write
  .text "" (match ts with
    | [] => ""
    | t :: rest => rest.foldl (fun acc t => acc ++ (if t.blank then " " else "") ++ one t) (one t))

/-- The token that two tokens make together. -/
def paste (a b : Lexeme) : Except String Lexeme :=
  match Lexeme.readLine a.line (a.token.write ++ b.token.write).toList with
  | [t] => .ok { t with blank := a.blank, fixed := a.fixed ++ b.fixed }
  | _ => .error "pasting does not give a valid preprocessing token"

/-- The arguments that stand behind an opening parenthesis, and what comes behind the closing one.
`depth` counts the parentheses within the argument, `commas` the arguments that may still follow. -/
def gather : List Lexeme → Nat → Option Nat → List Lexeme → List (List Lexeme) →
    Option (List (List Lexeme) × List Lexeme)
  | [], _, _, _, _ => none
  | t :: rest, depth, commas, now, done =>
    match t.token with
    | .sign "(" => gather rest (depth + 1) commas (t :: now) done
    | .sign ")" =>
      if depth = 0 then some ((now.reverse :: done).reverse, rest)
      else gather rest (depth - 1) commas (t :: now) done
    | .sign "," =>
      if depth = 0 && commas ≠ some 0 then
        gather rest 0 (commas.map (· - 1)) [] (now.reverse :: done)
      else gather rest depth commas (t :: now) done
    | _ => gather rest depth commas (t :: now) done

/-- Arguments by the names of their parameters: as they are written and replaced. -/
abbrev Arguments := List (String × List Lexeme × List Lexeme)

/-- Puts tokens behind others, of which the last is joined with the first. -/
def join (front back : List Lexeme) : Except String (List Lexeme) :=
  match front.reverse, back with
  | [], back => .ok back
  | _, [] => .ok front
  | a :: before, b :: rest => do return before.reverse ++ (← paste a b) :: rest

/-- Puts arguments into a body with at most so many tokens. -/
def substitute (arguments : Arguments) (isFunction : Bool) :
    Nat → List Lexeme → List Lexeme → Except String (List Lexeme)
  | 0, _, done | _, [], done => .ok done
  | fuel + 1, t :: rest, done => do
    let name? : Lexeme → Option String := fun t => match t.token with
      | .word x => some x
      | _ => none
    let argument (t : Lexeme) : Option (List Lexeme × List Lexeme) := (name? t).bind (arguments.lookup ·)
    let pastes : List Lexeme → Bool
      | t :: _ => t.token == .sign "##"
      | [] => false
    match t.token, rest with
    | .sign "#", p :: rest' =>
      if !isFunction then substitute arguments isFunction fuel rest (done ++ [t])
      else match argument p with
        | some (raw, _) =>
          substitute arguments isFunction fuel rest' (done ++ [{ t with token := spelled raw }])
        | none => throw "'#' is not followed by a macro parameter"
    | .sign "##", p :: rest' =>
      match argument p with
      | some (raw, _) =>
        -- a comma before arguments that are left out is dropped with them
        let isRest := name? p == some "__VA_ARGS__" || (name? p == (arguments.getLast?.map (·.1)))
        match done.getLast? with
        | some comma =>
          if comma.token == .sign "," && isRest then
            substitute arguments isFunction fuel rest'
              (if raw.isEmpty then done.dropLast else done ++ raw)
          else substitute arguments isFunction fuel rest' (← join done raw)
        | none => substitute arguments isFunction fuel rest' (← join done raw)
      | none => substitute arguments isFunction fuel rest' (← join done [p])
    | .word "__VA_OPT__", o :: rest' =>
      if isFunction && o.token == .sign "(" && (arguments.lookup "__VA_ARGS__").isSome then
        match gather rest' 0 (some 0) [] [] with
        | some ([inner], behind) =>
          let given := ((arguments.lookup "__VA_ARGS__").map (!·.2.isEmpty)).getD false
          let inner ← if given then substitute arguments isFunction fuel inner [] else pure []
          substitute arguments isFunction fuel behind (done ++ inner)
        | _ => throw "unterminated __VA_OPT__"
      else substitute arguments isFunction fuel rest (done ++ [t])
    | _, _ => match argument t with
      | some (raw, replaced) =>
        let put := (if pastes rest then raw else replaced)
        let put := match put with
          | a :: more => { a with blank := t.blank } :: more
          | [] => []
        substitute arguments isFunction fuel rest (done ++ put)
      | none => substitute arguments isFunction fuel rest (done ++ [t])

/-- How many steps replacing may take. -/
def maxSteps : Nat := 4000000

/-- Replaces the names in tokens; `done` holds what is finished, from its end. -/
def expandWithin : Nat → List Lexeme → List Lexeme → Prepare (List Lexeme)
  | 0, _, _ => throw "macros lead to too many others"
  | _, [], done => return done.reverse
  | fuel + 1, t :: rest, done => do
    let .word name := t.token | expandWithin fuel rest (t :: done)
    if t.fixed.contains name then return (← expandWithin fuel rest (t :: done))
    let s ← get
    match s.macros[name]? with
    | none =>
      match name with
      | "__LINE__" =>
        let here : Int := t.line + s.shift
        expandWithin fuel rest ({ t with token := .number (toString here) } :: done)
      | "__FILE__" | "__BASE_FILE__" =>
        expandWithin fuel rest ({ t with token := .text "" s.file } :: done)
      | "__INCLUDE_LEVEL__" => expandWithin fuel rest ({ t with token := .number "0" } :: done)
      | "__COUNTER__" =>
        set { s with counter := s.counter + 1 }
        expandWithin fuel rest ({ t with token := .number (toString s.counter) } :: done)
      | "_Pragma" => match rest with
        | o :: _ :: c :: rest' =>
          if o.token == .sign "(" && c.token == .sign ")" then expandWithin fuel rest' done
          else throw "_Pragma takes a parenthesized string literal"
        | _ => throw "_Pragma takes a parenthesized string literal"
      | _ => expandWithin fuel rest (t :: done)
    | some m =>
      let finish (body : List Lexeme) (fixed : List String) : List Lexeme :=
        let body := body.map fun u => { u with line := t.line, fixed := u.fixed ++ fixed }
        match body with
        | u :: more => { u with blank := t.blank } :: more
        | [] => []
      match m.parameters with
      | none =>
        let body ← substitute [] false m.body.length m.body []
        expandWithin fuel (finish body (name :: t.fixed) ++ rest) done
      | some parameters =>
        let o :: behind := rest | expandWithin fuel rest (t :: done)
        if o.token != .sign "(" then return (← expandWithin fuel rest (t :: done))
        let commas := if m.takesRest then some (parameters.length - 1) else none
        match gather behind 0 commas [] [] with
        | none => throw ("unterminated argument list invoking macro \"" ++ name ++ "\"")
        | some (given, behind) =>
          let isBare : Bool := match given with
            | [[]] => true
            | _ => false
          let given := if parameters.isEmpty && isBare then []
            else if m.takesRest && given.length + 1 = parameters.length then given ++ [[]]
            else given
          if given.length ≠ parameters.length then
            throw ("macro \"" ++ name ++ "\" passed a wrong number of arguments")
          let replaced ← given.mapM fun g => expandWithin fuel g []
          let arguments := parameters.zip (given.zip replaced)
          let body ← substitute arguments true m.body.length m.body []
          expandWithin fuel (finish body (name :: t.fixed) ++ behind) done

def expand (ts : List Lexeme) : Prepare (List Lexeme) := expandWithin maxSteps ts []

/-- Finishes the current stretch of lines. -/
def flush : Prepare Unit := do
  let s ← get
  if !s.waiting.isEmpty then
    set { s with waiting := [] }
    let ts ← expand s.waiting.reverse
    modify fun s => { s with done := ts.reverse ++ s.done }
end Prepare
end ModuleForge.Host.Native
