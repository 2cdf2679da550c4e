import ModuleForge.Power
import ModuleForge.Text.Bytes

/-!
# Arithmetic of the shell

Expressions over whole numbers of 64 bits and variables, with the usual operators and their ranks.
`Expression.ofText?` reads one and `Expression.value` works it out, which may give variables new
values.
-/
namespace ModuleForge.Host.Shell.Arithmetic

/-- What a binary operator makes of two numbers. -/
inductive Operator where
  | anyOf | allOf | bitOr | bitXor | bitAnd
  | equal | different | less | atMost | more | atLeast
  | shiftLeft | shiftRight | plus | minus | times | quotient | remainder
  deriving DecidableEq, Repr

inductive Sign where
  | minus | plus | not | complement
  deriving DecidableEq, Repr

inductive Expression where
  | number (n : Int)
  | named (name : List Char)
  | signed (sign : Sign) (e : Expression)
  | binary (o : Operator) (a b : Expression)
  | choice (condition yes no : Expression)
  /-- Gives a variable a value, made of its old one if there is an operator. -/
  | assign (name : List Char) (o : Option Operator) (e : Expression)
  deriving Repr

/-! ## Reading -/

/-- The operators, longer ones first, with their ranks; a higher rank binds tighter. -/
def operators : List (String × Nat × Operator) :=
  [("||", 1, .anyOf), ("&&", 2, .allOf), ("==", 6, .equal), ("!=", 6, .different),
   ("<<", 8, .shiftLeft), (">>", 8, .shiftRight), ("<=", 7, .atMost), (">=", 7, .atLeast),
   ("<", 7, .less), (">", 7, .more), ("|", 3, .bitOr), ("^", 4, .bitXor), ("&", 5, .bitAnd),
   ("+", 9, .plus), ("-", 9, .minus), ("*", 10, .times), ("/", 10, .quotient), ("%", 10, .remainder)]

/-- The operators that also stand in front of `=`. -/
def assignments : List (String × Option Operator) :=
  [("<<=", some .shiftLeft), (">>=", some .shiftRight), ("+=", some .plus), ("-=", some .minus),
   ("*=", some .times), ("/=", some .quotient), ("%=", some .remainder), ("&=", some .bitAnd),
   ("|=", some .bitOr), ("^=", some .bitXor), ("=", none)]

abbrev Reader (α : Type) := List Char → Except String (α × List Char)

def skip (cs : List Char) : List Char := cs.dropWhile fun c => c == ' ' || c == '\t' || c == '\n'

def digitValue (c : Char) : Nat :=
  if c.isDigit then c.toNat - 48 else c.toLower.toNat - 87

def ofDigits (base : Nat) (cs : List Char) : Int :=
  ((cs.foldl (fun n c => n * base + digitValue c) 0 : Nat) : Int)

/-- A number in base 8, 10 or 16 by its beginning. -/
def literal (cs : List Char) : Int × List Char :=
  let inBase (base : Nat) (cs : List Char) : Int × List Char :=
    let isDigit (c : Char) : Bool :=
      (c.isDigit || "abcdefABCDEF".toList.contains c) && digitValue c < base
    (ofDigits base (cs.takeWhile isDigit), cs.dropWhile isDigit)
  match cs with
  | '0' :: 'x' :: rest | '0' :: 'X' :: rest => inBase 16 rest
  | '0' :: rest => inBase 8 rest
  | cs => inBase 10 cs

def isNameStart (c : Char) : Bool := c.isAlpha || c == '_'

/-- The assignment to come: its operator, and what stands behind the sign. -/
def assignment? (cs : List Char) : Option (Option Operator × List Char) :=
  let cs := skip cs
  if "==".toList.isPrefixOf cs then none
  else (assignments.find? fun (text, _) => text.toList.isPrefixOf cs).map fun (text, o) =>
    (o, cs.drop text.length)

mutual

def operand : Nat → Reader Expression
  | 0 => fun _ => .error "expression too deep"
  | fuel + 1 => fun cs =>
    let sign (s : Sign) (rest : List Char) : Except String (Expression × List Char) :=
      (operand fuel rest).map fun (e, r) => (.signed s e, r)
    match skip cs with
    | '-' :: rest => sign .minus rest
    | '+' :: rest => sign .plus rest
    | '!' :: rest => sign .not rest
    | '~' :: rest => sign .complement rest
    | '(' :: rest => do
      let (e, rest) ← whole fuel rest
      match skip rest with
      | ')' :: rest => return (e, rest)
      | _ => throw "expecting ')'"
    | c :: rest =>
      if c.isDigit then
        let (n, rest) := literal (c :: rest)
        .ok (.number n, rest)
      else if isNameStart c then
        let isName (c : Char) : Bool := c.isAlphanum || c == '_'
        let name := (c :: rest).takeWhile isName
        let rest := (c :: rest).dropWhile isName
        match assignment? rest with
        | none => .ok (.named name, rest)
        | some (o, rest) => (whole fuel rest).map fun (e, r) => (.assign name o e, r)
      else .error "expecting primary"
    | [] => .error "expecting primary"

/-- Reads operands with operators of at least some rank between them. -/
def ranked (rank : Nat) : Nat → Reader Expression
  | 0 => fun _ => .error "expression too deep"
  | fuel + 1 => fun cs => do
    let (e, rest) ← operand fuel cs
    continued rank e fuel rest

def continued (rank : Nat) (left : Expression) : Nat → Reader Expression
  | 0 => fun _ => .error "expression too deep"
  | fuel + 1 => fun cs =>
    let cs := skip cs
    match operators.find? fun (text, _, _) => text.toList.isPrefixOf cs with
    | some (text, r, o) =>
      if r < rank then .ok (left, cs)
      else do
        let (right, rest) ← ranked (r + 1) fuel (cs.drop text.length)
        continued rank (.binary o left right) fuel rest
    | none => .ok (left, cs)

/-- Reads an expression, which may be a choice between two. -/
def whole : Nat → Reader Expression
  | 0 => fun _ => .error "expression too deep"
  | fuel + 1 => fun cs => do
    let (e, rest) ← ranked 0 fuel cs
    match skip rest with
    | '?' :: rest =>
      let (yes, rest) ← whole fuel rest
      match skip rest with
      | ':' :: rest =>
        let (no, rest) ← whole fuel rest
        return (.choice e yes no, rest)
      | _ => throw "expecting ':'"
    | rest => return (e, rest)

end

/-- Reads all of a text as an expression; nothing counts as 0. -/
def Expression.ofText? (cs : List Char) : Except String Expression := do
  if (skip cs).isEmpty then return .number 0
  let (e, rest) ← whole (4 * cs.length + 8) cs
  if (skip rest).isEmpty then return e else throw "expecting EOF"

/-! ## Working out -/

/-- A whole number in 64 bits. -/
def wrap (n : Int) : Int := (BitVec.ofInt 64 n).toInt

def ofTruth (b : Bool) : Int := if b then 1 else 0

/-- What an operator makes of two numbers; nothing can be divided by zero. -/
def Operator.apply (o : Operator) (a b : Int) : Except String Int :=
  let bits (f : BitVec 64 → BitVec 64 → BitVec 64) : Int :=
    (f (BitVec.ofInt 64 a) (BitVec.ofInt 64 b)).toInt
  let amount := (b % 64).toNat
  match o with
  | .anyOf => .ok (ofTruth (a != 0 || b != 0))
  | .allOf => .ok (ofTruth (a != 0 && b != 0))
  | .bitOr => .ok (bits (· ||| ·))
  | .bitXor => .ok (bits (· ^^^ ·))
  | .bitAnd => .ok (bits (· &&& ·))
  | .equal => .ok (ofTruth (a == b))
  | .different => .ok (ofTruth (a != b))
  | .less => .ok (ofTruth (a < b))
  | .atMost => .ok (ofTruth (a ≤ b))
  | .more => .ok (ofTruth (a > b))
  | .atLeast => .ok (ofTruth (a ≥ b))
  | .shiftLeft => .ok (wrap (a * 2 ^ amount))
  | .shiftRight => .ok (wrap (a / 2 ^ amount))
  | .plus => .ok (wrap (a + b))
  | .minus => .ok (wrap (a - b))
  | .times => .ok (wrap (a * b))
  | .quotient => if b = 0 then .error "division by zero" else .ok (wrap (Int.tdiv a b))
  | .remainder => if b = 0 then .error "division by zero" else .ok (wrap (Int.tmod a b))

def Sign.apply (s : Sign) (n : Int) : Int :=
  match s with
  | .minus => wrap (-n)
  | .plus => n
  | .not => ofTruth (n == 0)
  | .complement => -n - 1

/-- The new values of variables, the latest first, over the old ones. -/
structure Values where
  old : List Char → Int
  changed : List (List Char × Int) := []

def Values.get (v : Values) (name : List Char) : Int := (v.changed.lookup name).getD (v.old name)

/-- The value of an expression. What a truth value does not depend on is not worked out. -/
def Expression.value : Expression → StateT Values (Except String) Int
  | .number n => return wrap n
  | .named name => return (← get).get name
  | .signed s e => return s.apply (← e.value)
  | .binary .anyOf a b => do
    if (← a.value) ≠ 0 then return 1
    return ofTruth ((← b.value) != 0)
  | .binary .allOf a b => do
    if (← a.value) = 0 then return 0
    return ofTruth ((← b.value) != 0)
  | .binary o a b => do
    let x ← a.value
    let y ← b.value
    o.apply x y
  | .choice condition yes no => do
    if (← condition.value) ≠ 0 then yes.value else no.value
  | .assign name o e => do
    let x ← e.value
    let x ← match o with
      | none => pure x
      | some o => o.apply ((← get).get name) x
    modify fun v => { v with changed := (name, x) :: v.changed }
    return x

/-- The value of a text, and the variables that it has given new values. -/
def evaluate (old : List Char → Int) (cs : List Char) : Except String (Int × Values) := do
  let e ← Expression.ofText? cs
  e.value.run { old }

end ModuleForge.Host.Shell.Arithmetic
