import Std.Data.HashMap
import ModuleForge.Host.Utility.Awk.Token

/-!
# The grammar of programs over records

From the loosest to the tightest, terms are: assignments and choices, `||`, `&&`, `in`, matching,
comparisons, texts written side by side, sums, products, signs, commands read from, powers, steps,
and fields. Between `print` and the end of its values a `>` says where the output goes, unless it
stands in parentheses.
-/
namespace ModuleForge.Host.Utility.Awk

/-- What reading a program has come to. -/
structure Reading where
  tokens : List Lexeme
  names : Std.HashMap String Nat
  program : Program
  functionNumbers : Std.HashMap String Nat := {}
  /-- The parameters of the function that is read. -/
  parameters : List String := []
  inFunction : Bool := false
  inLoop : Bool := false
  inRule : Bool := false
  /-- Whether a `>` says where output goes. -/
  redirects : Bool := false
  /-- Whether `in` belongs to a loop. -/
  inHeader : Bool := false
  /-- How many parentheses are open. -/
  depth : Nat := 0

abbrev Parse := StateT Reading (Except Fault)

namespace Parse

def peek : Parse Token := return ((← get).tokens.headD ⟨.finish, 1⟩).token

def ahead (n : Nat) : Parse Token := return (((← get).tokens.drop n).headD ⟨.finish, 1⟩).token

def line : Parse Nat := return ((← get).tokens.headD ⟨.finish, 1⟩).line

def advance : Parse Unit := modify fun s => { s with
  tokens := s.tokens.tail
  depth := match s.tokens.head? with
    | some ⟨.sign "(", _⟩ => s.depth + 1
    | some ⟨.sign ")", _⟩ => s.depth - 1
    | _ => s.depth }

def fail {α : Type} (message : String) : Parse α := do
  throw ⟨"line " ++ toString (← line) ++ ": " ++ message⟩

/-- Complains about the next token. -/
def unexpected {α : Type} : Parse α := do
  match ← peek with
  | .finish => fail "missing \x7d near end of file"
  | t =>
    let endsStatement : Bool := match t with
      | .newline => true
      | t => t.isSign ";" || t.isSign "\x7d"
    if endsStatement && (← get).depth ≠ 0 then fail ("missing ) near " ++ t.shown)
    else fail ("syntax error at or near " ++ t.shown)

def isSign (s : String) : Parse Bool := return (← peek).isSign s

def isWord (s : String) : Parse Bool := return (← peek).isWord s

def acceptSign (s : String) : Parse Bool := do
  if ← isSign s then advance; return true
  return false

def acceptWord (s : String) : Parse Bool := do
  if ← isWord s then advance; return true
  return false

def expectSign (s : String) : Parse Unit := do
  if ← isSign s then advance else unexpected

def skipNewlines : Parse Unit := modify fun s => { s with tokens := s.tokens.dropWhile fun t => match t.token with
  | .newline => true
  | _ => false }

/-- Reads with `>` and `in` as they are in parentheses. -/
def inParentheses (m : Parse α) : Parse α := do
  let before ← get
  set { before with redirects := false, inHeader := false }
  let a ← m
  modify fun s => { s with redirects := before.redirects, inHeader := before.inHeader }
  return a

/-! ## Names -/

/-- The place with a name. -/
def variable_ (name : String) : Parse Variable := do
  let s ← get
  match s.parameters.idxOf? name with
  | some i => return .own i
  | none =>
    match s.names[name]? with
    | some n => return .shared n
    | none =>
      let n := s.program.names.size
      set { s with
        names := s.names.insert name n
        program := { s.program with names := s.program.names.push name } }
      return .shared n

/-- The number of a function, which may be defined later. -/
def functionNumber (name : String) : Parse Nat := do
  let s ← get
  match s.functionNumbers[name]? with
  | some n => return n
  | none =>
    let n := s.program.functions.size
    set { s with
      functionNumbers := s.functionNumbers.insert name n
      program := { s.program with functions := s.program.functions.push { name, parameters := 0 } } }
    return n

def expectName : Parse String := do
  match ← peek with
  | .name s => advance; return s
  | _ => unexpected

/-! ## Expressions between slashes -/

def spelling : Expression.Spelling := {
  extended := true, braces := false, escapesInBrackets := true, moreKinds := false }

/-- Why an expression is none. -/
def faultOf (f : Expression.Fault) : String := match f with
  | .openGroup => "missing ')'"
  | .strayClosing => "missing '('"
  | .openBracket => "bad class -- [], [^] or ["
  | _ => "missing operand"

def expression (bs : ByteString) : Except String Expression :=
  match Expression.read spelling bs with
  | .ok (e, _) => .ok e
  | .error f => .error ("regular expression compile failed (" ++ faultOf f ++ ")\n" ++ Text.lossy bs)

/-! ## Terms -/

/-- A term that stands for an expression; a text is read as one at once. -/
def pattern (t : Term) : Parse Term := do
  match t with
  | .text s => match expression s with
    | .ok e => return .pattern e
    | .error message => fail message
  | t => return t

/-- The arguments of what is known without being defined, with those that stand for expressions
read. -/
def withPatterns (b : Builtin) (given : List Term) : Parse (List Term) := do
  match b, given with
  | .match_, [text, p] => return [text, ← pattern p]
  | .sub, p :: rest | .gsub, p :: rest => return (← pattern p) :: rest
  | _, given => return given

/-- The call of a function, which must have enough parameters if it is known by now. -/
def called (n : Nat) (arguments : List Term) : Parse Term := do
  match (← get).program.functions[n]? with
  | some f =>
    if f.isDefined && f.parameters < arguments.length then fail ("too many arguments in call to " ++ f.name)
    return .call n arguments
  | none => return .call n arguments

/-- Whether a term is a place. -/
def isPlace : Term → Bool
  | .variable_ _ | .field _ | .item .. => true
  | _ => false

def assignments : List (String × Option Arithmetic) := [
  ("=", none), ("+=", some .add), ("-=", some .subtract), ("*=", some .multiply), ("/=", some .divide),
  ("%=", some .remainder), ("^=", some .power)]

def comparisons : List (String × Comparison) := [
  ("<", .less), ("<=", .lessOrEqual), ("==", .equal), ("!=", .notEqual), (">", .greater), (">=", .greaterOrEqual)]

/-- Whether a term that is written beside another one starts here. -/
def startsOperand : Parse Bool := do
  match ← peek with
  | .number _ | .text _ | .pattern _ | .name _ | .callee _ | .builtin _ => return true
  | .sign s => return s == "$" || s == "(" || s == "++" || s == "--"
  | _ => return false

mutual

/-- A term with everything in it. -/
def term : Nat → Parse Term
  | 0 => fail "program is nested too deeply"
  | fuel + 1 => do
    let condition ← disjunction fuel
    if ← acceptSign "?" then
      let yes ← term fuel
      expectSign ":"
      return .choose condition yes (← term fuel)
    return condition

def disjunction : Nat → Parse Term
  | 0 => fail "program is nested too deeply"
  | fuel + 1 => do
    let first ← conjunction fuel
    disjunctionFrom fuel first

def disjunctionFrom : Nat → Term → Parse Term
  | 0, a => return a
  | fuel + 1, a => do
    if ← acceptSign "||" then
      skipNewlines
      disjunctionFrom fuel (.either a (← conjunction fuel))
    else return a

def conjunction : Nat → Parse Term
  | 0 => fail "program is nested too deeply"
  | fuel + 1 => do
    let first ← membership fuel
    conjunctionFrom fuel first

def conjunctionFrom : Nat → Term → Parse Term
  | 0, a => return a
  | fuel + 1, a => do
    if ← acceptSign "&&" then
      skipNewlines
      conjunctionFrom fuel (.both a (← membership fuel))
    else return a

def membership : Nat → Parse Term
  | 0 => fail "program is nested too deeply"
  | fuel + 1 => do
    let first ← matching fuel
    membershipFrom fuel first

def membershipFrom : Nat → Term → Parse Term
  | 0, a => return a
  | fuel + 1, a => do
    if !(← get).inHeader && (← acceptWord "in") then
      membershipFrom fuel (.has (← variable_ (← expectName)) [a])
    else return a

def matching : Nat → Parse Term
  | 0 => fail "program is nested too deeply"
  | fuel + 1 => do
    let first ← comparison fuel
    matchingFrom fuel first

def matchingFrom : Nat → Term → Parse Term
  | 0, a => return a
  | fuel + 1, a => do
    if ← acceptSign "~" then matchingFrom fuel (.fits a (← pattern (← comparison fuel)))
    else if ← acceptSign "!~" then matchingFrom fuel (.not (.fits a (← pattern (← comparison fuel))))
    else return a

def comparison : Nat → Parse Term
  | 0 => fail "program is nested too deeply"
  | fuel + 1 => do
    let first ← assigned fuel
    comparisonFrom fuel first

def comparisonFrom : Nat → Term → Parse Term
  | 0, a => return a
  | fuel + 1, a => do
    match ← peek with
    | .sign s =>
      match comparisons.lookup s with
      | some c =>
        if s == ">" && (← get).redirects then return a
        advance
        comparisonFrom fuel (.compare c a (← assigned fuel))
      | none => return a
    | _ => return a

/-- Terms side by side, or a place to which something is assigned. -/
def assigned : Nat → Parse Term
  | 0 => fail "program is nested too deeply"
  | fuel + 1 => do
    let first ← sum fuel
    let all ← joinedFrom fuel first
    match ← peek with
    | .sign s =>
      match assignments.lookup s with
      | some operation =>
        if !isPlace all then unexpected
        advance
        skipNewlines
        return .assign all operation (← term fuel)
      | none => return all
    | _ => return all

def joinedFrom : Nat → Term → Parse Term
  | 0, a => return a
  | fuel + 1, a => do
    if ← startsOperand then joinedFrom fuel (.join a (← sum fuel))
    else return a

def sum : Nat → Parse Term
  | 0 => fail "program is nested too deeply"
  | fuel + 1 => do
    let first ← product fuel
    sumFrom fuel first

def sumFrom : Nat → Term → Parse Term
  | 0, a => return a
  | fuel + 1, a => do
    if ← acceptSign "+" then sumFrom fuel (.compute .add a (← product fuel))
    else if ← acceptSign "-" then sumFrom fuel (.compute .subtract a (← product fuel))
    else return a

def product : Nat → Parse Term
  | 0 => fail "program is nested too deeply"
  | fuel + 1 => do
    let first ← signed fuel
    productFrom fuel first

def productFrom : Nat → Term → Parse Term
  | 0, a => return a
  | fuel + 1, a => do
    if ← acceptSign "*" then productFrom fuel (.compute .multiply a (← signed fuel))
    else if ← acceptSign "/" then productFrom fuel (.compute .divide a (← signed fuel))
    else if ← acceptSign "%" then productFrom fuel (.compute .remainder a (← signed fuel))
    else return a

def signed : Nat → Parse Term
  | 0 => fail "program is nested too deeply"
  | fuel + 1 => do
    if ← acceptSign "!" then return .not (← signed fuel)
    else if ← acceptSign "-" then return .negate (← signed fuel)
    else if ← acceptSign "+" then return .plus (← signed fuel)
    else
      let first ← power fuel
      commandsFrom fuel first

/-- Commands whose output is read. -/
def commandsFrom : Nat → Term → Parse Term
  | 0, a => return a
  | fuel + 1, a => do
    if (← isSign "|") && (← ahead 1).isWord "getline" then
      advance; advance
      let target ← place? fuel
      commandsFrom fuel (.nextRecord target none (some a))
    else return a

def power : Nat → Parse Term
  | 0 => fail "program is nested too deeply"
  | fuel + 1 => do
    let base ← stepped fuel
    if ← acceptSign "^" then
      let exponent ← if ← acceptSign "-" then do pure (Term.negate (← power fuel))
        else if ← acceptSign "+" then power fuel
        else if ← acceptSign "!" then do pure (Term.not (← power fuel))
        else power fuel
      return .compute .power base exponent
    return base

/-- A term with steps before or behind it. -/
def stepped : Nat → Parse Term
  | 0 => fail "program is nested too deeply"
  | fuel + 1 => do
    let front (amount : Float) : Parse Term := do
      advance
      let target ← primary fuel
      if !isPlace target then unexpected
      return .step target amount true
    if ← isSign "++" then front 1
    else if ← isSign "--" then front (-1)
    else
      let a ← primary fuel
      if isPlace a then
        if ← acceptSign "++" then return .step a 1 false
        else if ← acceptSign "--" then return .step a (-1) false
      return a

/-- A place into which a record is read. -/
def place? : Nat → Parse (Option Term)
  | 0 => fail "program is nested too deeply"
  | fuel + 1 => do
    match ← peek with
    | .name _ => return some (← primary fuel)
    | .sign "$" => return some (← primary fuel)
    | _ => return none

def keysFrom : Nat → List Term → Parse (List Term)
  | 0, done => return done.reverse
  | fuel + 1, done => do
    let a ← term fuel
    if ← acceptSign "," then
      skipNewlines
      keysFrom fuel (a :: done)
    else return (a :: done).reverse

/-- The arguments of a call, behind the opening parenthesis. -/
def arguments : Nat → Parse (List Term)
  | 0 => fail "program is nested too deeply"
  | fuel + 1 => inParentheses do
    if ← acceptSign ")" then return []
    let all ← keysFrom fuel []
    expectSign ")"
    return all

def primary : Nat → Parse Term
  | 0 => fail "program is nested too deeply"
  | fuel + 1 => do
    match ← peek with
    | .number x => advance; return .number x
    | .text s => advance; return .text s
    | .pattern s =>
      match expression s with
      | .ok e => advance; return .pattern e
      | .error message => fail message
    | .name s =>
      advance
      match (← get).functionNumbers[s]? with
      | some n =>
        if (← isSign "(") && !(← get).parameters.contains s then
          advance
          return (← called n (← arguments fuel))
      | none => pure ()
      let v ← variable_ s
      if ← acceptSign "[" then
        let keys ← inParentheses (keysFrom fuel [])
        expectSign "]"
        return .item v keys
      return .variable_ v
    | .callee s =>
      advance; advance
      let n ← functionNumber s
      called n (← arguments fuel)
    | .builtin s =>
      advance
      match Builtin.table.lookup s with
      | none => unexpected
      | some (b, least, most) =>
        if b = .length && !(← isSign "(") then return .apply b []
        expectSign "("
        let given ← arguments fuel
        if given.length < least || most < given.length then fail ("wrong number of arguments in call to " ++ s)
        return .apply b (← withPatterns b given)
    | .word "getline" =>
      advance
      let target ← place? fuel
      if ← acceptSign "<" then
        let file ← stepped fuel
        return .nextRecord target (some file) none
      return .nextRecord target none none
    | .sign "$" =>
      advance
      if ← isSign "++" then
        advance
        return .field (.step (← primary fuel) 1 true)
      else if ← isSign "--" then
        advance
        return .field (.step (← primary fuel) (-1) true)
      else if ← acceptSign "-" then return .field (.negate (← primary fuel))
      else return .field (← primary fuel)
    | .sign "(" =>
      advance
      let all ← inParentheses do
        let all ← keysFrom fuel []
        expectSign ")"
        return all
      match all with
      | [a] => return .group a
      | all =>
        if ← acceptWord "in" then return .has (← variable_ (← expectName)) all
        else unexpected
    | .sign "-" => advance; return .negate (← power fuel)
    | .sign "!" => advance; return .not (← power fuel)
    | _ => unexpected

end

/-! ## Statements -/

/-- Takes the end of a statement, which may stand before a closing brace. -/
def endStatement : Parse Unit := do
  match ← peek with
  | .sign ";" => advance; skipNewlines
  | .newline => skipNewlines
  | .sign "\x7d" => return
  | _ => unexpected

/-- Terms up to the end of a list, none if there are none. -/
def valuesOf (fuel : Nat) : Parse (List Term) := do
  match ← peek with
  | .sign s => if ["\x7d", ";", ">", ">>", "|"].contains s then return []
  | .newline => return []
  | _ => pure ()
  keysFrom fuel []

/-- Whether the parenthesis that opens here closes before the end of the values that are printed. -/
def enclosesAll : Parse Bool := do
  let rec go : Nat → List Lexeme → Bool
    | _, [] => false
    | depth, t :: rest =>
      if t.token.isSign "(" then go (depth + 1) rest
      else if t.token.isSign ")" then
        if depth ≤ 1 then match rest with
          | n :: _ => match n.token with
            | .newline => true
            | .sign s => ["\x7d", ";", ">", ">>", "|"].contains s
            | _ => false
          | [] => true
        else go (depth - 1) rest
      else match t.token with
        | .callee _ => go depth rest
        | _ => go depth rest
  return go 0 (← get).tokens

/-- What is printed, and where to. -/
def printed (fuel : Nat) : Parse (List Term × Option Target) := do
  let all ← if (← isSign "(") && (← enclosesAll) then do
      advance
      let all ← inParentheses do
        let all ← if ← isSign ")" then pure [] else keysFrom fuel []
        expectSign ")"
        return all
      pure all
    else do
      modify fun s => { s with redirects := true }
      let all ← valuesOf fuel
      modify fun s => { s with redirects := false }
      pure all
  let target ←
    if ← acceptSign ">" then do pure (some (Target.file (← outputName fuel) false))
    else if ← acceptSign ">>" then do pure (some (Target.file (← outputName fuel) true))
    else if ← acceptSign "|" then do pure (some (Target.command (← outputName fuel)))
    else pure none
  return (all, target)
where
  outputName (fuel : Nat) : Parse Term := do
    modify fun s => { s with redirects := true }
    let name ← term fuel
    modify fun s => { s with redirects := false }
    return name

mutual

/-- A statement that fits into the head of a loop. -/
def simple : Nat → Parse Statement
  | 0 => fail "program is nested too deeply"
  | fuel + 1 => do
    match ← peek with
    | .word "print" => advance; let (all, target) ← printed fuel; return .print all target
    | .word "printf" =>
      advance
      let (all, target) ← printed fuel
      if all.isEmpty then unexpected
      return .printf all target
    | .word "delete" =>
      advance
      let v ← variable_ (← expectName)
      if ← acceptSign "[" then
        let keys ← inParentheses (keysFrom fuel [])
        expectSign "]"
        return .delete v (some keys)
      return .delete v none
    | _ => return .evaluate (← term fuel)

def body : Nat → Parse (List Statement)
  | 0 => fail "program is nested too deeply"
  | fuel + 1 => do
    skipNewlines
    if ← acceptSign ";" then
      skipNewlines
      return []
    return [← statement fuel]

def loopBody : Nat → Parse (List Statement)
  | 0 => fail "program is nested too deeply"
  | fuel + 1 => do
    let before := (← get).inLoop
    modify fun s => { s with inLoop := true }
    let b ← body fuel
    modify fun s => { s with inLoop := before }
    return b

def statement : Nat → Parse Statement
  | 0 => fail "program is nested too deeply"
  | fuel + 1 => do
    match ← peek with
    | .sign "\x7b" =>
      let inner ← block fuel
      -- a semicolon behind a block is part of it
      return .block inner
    | .sign ";" => advance; skipNewlines; return .block []
    | .word "if" =>
      advance
      expectSign "("
      let condition ← inParentheses (term fuel)
      expectSign ")"
      let yes ← body fuel
      -- line feeds may stand before `else`
      let before ← get
      skipNewlines
      if ← acceptWord "else" then
        return .if_ condition yes (← body fuel)
      set before
      return .if_ condition yes []
    | .word "while" =>
      advance
      expectSign "("
      let condition ← inParentheses (term fuel)
      expectSign ")"
      return .while_ condition (← loopBody fuel)
    | .word "do" =>
      advance
      let inner ← loopBody fuel
      skipNewlines
      let _ ← acceptSign ";"
      skipNewlines
      if !(← acceptWord "while") then unexpected
      expectSign "("
      let condition ← inParentheses (term fuel)
      expectSign ")"
      endStatement
      return .doWhile inner condition
    | .word "for" =>
      advance
      expectSign "("
      match ← peek, ← ahead 1, ← ahead 2, ← ahead 3 with
      | .name key, .word "in", .name table, .sign ")" =>
        advance; advance; advance; advance
        let k ← variable_ key
        let t ← variable_ table
        return .forEach k t (← loopBody fuel)
      | _, _, _, _ =>
        let start ← if ← isSign ";" then pure none else do pure (some (← term fuel))
        expectSign ";"
        skipNewlines
        let condition ← if ← isSign ";" then pure none else do pure (some (← term fuel))
        expectSign ";"
        skipNewlines
        let step ← if ← isSign ")" then pure none else do pure (some (← term fuel))
        expectSign ")"
        return .for_ start condition step (← loopBody fuel)
    | .word w =>
      let s ← get
      match w with
      | "break" =>
        if !s.inLoop then fail "break statement outside of loop"
        advance; endStatement; return .break_
      | "continue" =>
        if !s.inLoop then fail "continue statement outside of loop"
        advance; endStatement; return .continue_
      | "next" =>
        if !s.inRule then fail "improper use of next"
        advance; endStatement; return .next
      | "nextfile" =>
        if !s.inRule then fail "improper use of nextfile"
        advance; endStatement; return .nextFile
      | "exit" =>
        advance
        let code ← if ← endsHere then pure none else do pure (some (← term fuel))
        endStatement
        return .exit code
      | "return" =>
        if !s.inFunction then fail "return outside function body"
        advance
        let value ← if ← endsHere then pure none else do pure (some (← term fuel))
        endStatement
        return .return_ value
      | _ =>
        let s ← simple fuel
        endStatement
        return s
    | _ =>
      let s ← simple fuel
      endStatement
      return s

/-- Whether a statement ends here. -/
def endsHere : Parse Bool := do
  match ← peek with
  | .sign s => return s == ";" || s == "\x7d"
  | .newline => return true
  | _ => return false

def statementsFrom : Nat → List Statement → Parse (List Statement)
  | 0, done => return done.reverse
  | fuel + 1, done => do
    skipNewlines
    if ← isSign "\x7d" then return done.reverse
    statementsFrom fuel ((← statement fuel) :: done)

/-- Statements in braces. -/
def block : Nat → Parse (List Statement)
  | 0 => fail "program is nested too deeply"
  | fuel + 1 => do
    expectSign "\x7b"
    let all ← statementsFrom fuel []
    expectSign "\x7d"
    return all

end

/-! ## Programs -/

/-- A function with its parameters. -/
def function (fuel : Nat) : Parse Unit := do
  let name ← match ← peek with
    | .name s | .callee s => do advance; pure s
    | _ => unexpected
  let n ← functionNumber name
  if ((← get).program.functions[n]?.getD default).isDefined then fail ("redefinition of " ++ name)
  expectSign "("
  let rec names : Nat → List String → Parse (List String)
    | 0, done => return done.reverse
    | k + 1, done => do
      skipNewlines
      if ← acceptSign ")" then return done.reverse
      let x ← expectName
      skipNewlines
      if ← acceptSign "," then names k (x :: done)
      else
        expectSign ")"
        return (x :: done).reverse
  let parameters ← names fuel []
  skipNewlines
  modify fun s => { s with
    parameters, inFunction := true
    program := { s.program with functions := s.program.functions.modify n fun f => {
      f with parameters := parameters.length, isDefined := true } } }
  let inner ← block fuel
  modify fun s => { s with
    parameters := [], inFunction := false
    program := { s.program with functions := s.program.functions.modify n fun f => { f with body := inner } } }

def ruleBody (fuel : Nat) : Parse (List Statement) := do
  modify fun s => { s with inRule := true }
  let inner ← block fuel
  modify fun s => { s with inRule := false }
  return inner

/-- A rule or a function. -/
def part (fuel : Nat) : Parse Unit := do
  match ← peek with
  | .word "function" => advance; function fuel
  | .word "BEGIN" =>
    advance
    let inner ← block fuel
    modify fun s => { s with program := { s.program with start := s.program.start ++ [inner] } }
  | .word "END" =>
    advance
    let inner ← block fuel
    modify fun s => { s with program := { s.program with finish := s.program.finish ++ [inner] } }
  | .sign "\x7b" =>
    let inner ← ruleBody fuel
    modify fun s => { s with program := { s.program with rules := s.program.rules ++ [⟨.always, some inner⟩] } }
  | .sign "\x7d" => fail "extra '\x7d'"
  | _ =>
    let first ← term fuel
    let condition ← if ← acceptSign "," then do
        skipNewlines
        pure (Condition.between first (← term fuel))
      else pure (Condition.holds first)
    let inner ← if ← isSign "\x7b" then do pure (some (← ruleBody fuel))
      else do
        match ← peek with
        | .newline => advance
        | _ => expectSign ";"
        pure none
    modify fun s => { s with program := { s.program with rules := s.program.rules ++ [⟨condition, inner⟩] } }

def partsFrom : Nat → Parse Unit
  | 0 => return
  | fuel + 1 => do
    match ← peek with
    | .finish => return
    | .newline => advance; partsFrom fuel
    | _ =>
      part (fuel + 1000)
      let _ ← acceptSign ";"
      partsFrom fuel

end Parse

/-! ## Places that hold tables -/

namespace Term

mutual

/-- The variables that a term uses as tables, by the kinds of the parameters of functions. -/
def tables (kinds : Array (List Bool)) : Term → List Variable
  | .item v keys | .has v keys => v :: tablesOfAll kinds keys
  | .field a | .not a | .negate a | .plus a | .step a _ _ | .group a => a.tables kinds
  | .assign a _ b | .both a b | .either a b | .compute _ a b | .compare _ a b | .join a b | .fits a b =>
    a.tables kinds ++ b.tables kinds
  | .choose a b c => a.tables kinds ++ b.tables kinds ++ c.tables kinds
  | .call n arguments => passed (kinds[n]?.getD []) arguments ++ tablesOfAll kinds arguments
  | .apply .split (a :: .variable_ v :: rest) => v :: a.tables kinds ++ tablesOfAll kinds rest
  | .apply _ arguments => tablesOfAll kinds arguments
  | .nextRecord a b c => tablesOfSome kinds a ++ tablesOfSome kinds b ++ tablesOfSome kinds c
  | _ => []

def tablesOfAll (kinds : Array (List Bool)) : List Term → List Variable
  | [] => []
  | a :: rest => a.tables kinds ++ tablesOfAll kinds rest

def tablesOfSome (kinds : Array (List Bool)) : Option Term → List Variable
  | none => []
  | some a => a.tables kinds

/-- The names that are handed over where a table is asked for. -/
def passed : List Bool → List Term → List Variable
  | true :: kinds, .variable_ v :: rest => v :: passed kinds rest
  | _ :: kinds, _ :: rest => passed kinds rest
  | _, _ => []

end
end Term

namespace Statement

mutual

/-- The variables that a statement uses as tables. -/
def tables (kinds : Array (List Bool)) : Statement → List Variable
  | .evaluate e => e.tables kinds
  | .print values target | .printf values target => Term.tablesOfAll kinds values ++ (match target with
    | some (.file e _) | some (.command e) => e.tables kinds
    | none => [])
  | .block inner => tablesOfAll kinds inner
  | .if_ c yes no => c.tables kinds ++ tablesOfAll kinds yes ++ tablesOfAll kinds no
  | .while_ c inner => c.tables kinds ++ tablesOfAll kinds inner
  | .doWhile inner c => tablesOfAll kinds inner ++ c.tables kinds
  | .for_ a b c inner =>
    Term.tablesOfSome kinds a ++ Term.tablesOfSome kinds b ++ Term.tablesOfSome kinds c ++ tablesOfAll kinds inner
  | .forEach _ v inner => v :: tablesOfAll kinds inner
  | .exit e | .return_ e => Term.tablesOfSome kinds e
  | .delete v keys => v :: Term.tablesOfAll kinds (keys.getD [])
  | _ => []

def tablesOfAll (kinds : Array (List Bool)) : List Statement → List Variable
  | [] => []
  | s :: rest => s.tables kinds ++ tablesOfAll kinds rest

end
end Statement

namespace Program

/-- Finds which parameters are tables: those that are used as such, also by functions to which they
are handed on, as often as that can add one. -/
def knowTables : Nat → Program → Program
  | 0, p => p
  | fuel + 1, p =>
    let kinds := p.functions.map (·.tables)
    let functions := p.functions.map fun f =>
      let used := Statement.tablesOfAll kinds f.body
      { f with tables := (List.range f.parameters).map fun i => used.contains (.own i) }
    if functions.map (·.tables) == kinds then { p with functions } else knowTables fuel { p with functions }

/-- Reads a program. -/
def read (source : ByteString) : Except Fault Program := do
  let tokens ← tokens source
  let names := (specialNames.zip (List.range specialNames.length)).foldl (fun m (x, i) => m.insert x i)
    (∅ : Std.HashMap String Nat)
  let start : Reading := { tokens, names, program := { names := specialNames.toArray } }
  let ((), s) ← (Parse.partsFrom (2 * tokens.length + 2)).run start
  match s.program.functions.find? (!·.isDefined) with
  | some f =>
    throw ⟨"line " ++ toString ((tokens.getLast?.map (·.line)).getD 1) ++ ": function " ++ f.name ++ " never defined"⟩
  | none => return knowTables (s.program.functions.size * 8 + 8) s.program

end Program
end ModuleForge.Host.Utility.Awk
