import ModuleForge.Host.Native.Token

/-!
# Conditions

The conditions that decide which lines of a program count. They are worked out with whole numbers of
64 bits, where names that stand for nothing are 0.
-/
namespace ModuleForge.Host.Native.Condition

/-- A number with a sign or without one. -/
structure Number where
  value : Int
  unsigned : Bool := false

namespace Number

def wrap (value : Int) (unsigned : Bool) : Number :=
  { value := if unsigned then value % 2 ^ 64 else Int.bmod value (2 ^ 64), unsigned }

def ofBool (b : Bool) : Number := { value := if b then 1 else 0 }

def isTrue (n : Number) : Bool := n.value ≠ 0

/-- A number without the mark of its type. -/
def ofWritten? (written : String) : Option Number := do
  let cs := written.toList.filter (· ≠ '\'')
  let isSuffix (c : Char) : Bool := c == 'u' || c == 'U' || c == 'l' || c == 'L' || c == 'z' || c == 'Z'
  let suffix := cs.reverse.takeWhile isSuffix
  let digits := (cs.reverse.dropWhile isSuffix).reverse
  let n ← match digits with
    | '0' :: 'x' :: ds | '0' :: 'X' :: ds => Token.ofDigits? 16 ds
    | '0' :: 'b' :: ds | '0' :: 'B' :: ds => Token.ofDigits? 2 ds
    | '0' :: d :: ds => Token.ofDigits? 8 (d :: ds)
    | _ => Token.ofDigits? 10 digits
  return wrap n (suffix.any (fun c => c == 'u' || c == 'U') || 2 ^ 63 ≤ n)

/-- An operator on two numbers; there is none for a division by zero. -/
def combine (op : String) (a b : Number) : Option Number :=
  let unsigned := a.unsigned || b.unsigned
  let x := (wrap a.value unsigned).value
  let y := (wrap b.value unsigned).value
  let number (n : Int) : Option Number := some (wrap n unsigned)
  match op with
  | "*" => number (x * y)
  | "/" => if y = 0 then none else number (Int.tdiv x y)
  | "%" => if y = 0 then none else number (Int.tmod x y)
  | "+" => number (x + y)
  | "-" => number (x - y)
  | "<<" => some (wrap (a.value * 2 ^ (b.value.toNat % 64)) a.unsigned)
  | ">>" => some (wrap (Int.fdiv a.value (2 ^ (b.value.toNat % 64))) a.unsigned)
  | "<" => some (ofBool (x < y))
  | "<=" => some (ofBool (x ≤ y))
  | ">" => some (ofBool (x > y))
  | ">=" => some (ofBool (x ≥ y))
  | "==" => some (ofBool (x == y))
  | "!=" => some (ofBool (x != y))
  | "&" => number (Int.ofNat ((x % 2 ^ 64).toNat &&& (y % 2 ^ 64).toNat))
  | "^" => number (Int.ofNat ((x % 2 ^ 64).toNat ^^^ (y % 2 ^ 64).toNat))
  | "|" => number (Int.ofNat ((x % 2 ^ 64).toNat ||| (y % 2 ^ 64).toNat))
  | _ => none

end Number

/-- The operators between two operands, with their strength. -/
def strengths : List (String × Nat) :=
  [("*", 10), ("/", 10), ("%", 10), ("+", 9), ("-", 9), ("<<", 8), (">>", 8), ("<", 7), ("<=", 7),
   (">", 7), (">=", 7), ("==", 6), ("!=", 6), ("&", 5), ("^", 4), ("|", 3), ("&&", 2), ("||", 1)]

/-- Words that are other spellings of operators. -/
def operatorWords : List (String × String) :=
  [("and", "&&"), ("or", "||"), ("not", "!"), ("bitand", "&"), ("bitor", "|"), ("xor", "^"),
   ("compl", "~"), ("not_eq", "!="), ("and_eq", "&="), ("or_eq", "|="), ("xor_eq", "^=")]

/-- A value, if it does not divide by zero, and what stands behind it. -/
abbrev Read := Option (Option Number × List Token)

mutual

/-- A number, or what stands in parentheses, with the operators before it. -/
def operand : Nat → List Token → Read
  | 0, _ | _, [] => none
  | fuel + 1, t :: rest => match t with
    | .number written => do return (some (← Number.ofWritten? written), rest)
    | .character mark content => do
      let units := Token.units (Token.unitSize mark) (← Token.elements? content)
      let [n] := units | none
      return (some { value := if mark == "" && 128 ≤ n then (n : Int) - 256 else n }, rest)
    | .word "true" => some (some (Number.ofBool true), rest)
    | .word _ => some (some { value := 0 }, rest)
    | .sign "(" => do
      let (v, rest) ← ternary fuel rest
      let .sign ")" :: rest := rest | none
      return (v, rest)
    | .sign "!" => do
      let (v, rest) ← operand fuel rest
      return (v.map fun n => Number.ofBool !n.isTrue, rest)
    | .sign "-" => do
      let (v, rest) ← operand fuel rest
      return (v.map fun n => Number.wrap (-n.value) n.unsigned, rest)
    | .sign "+" => operand fuel rest
    | .sign "~" => do
      let (v, rest) ← operand fuel rest
      return (v.map fun n => Number.wrap (-n.value - 1) n.unsigned, rest)
    | _ => none

/-- Goes on behind a value with operators of at least some strength. -/
def operators : Nat → Nat → Option Number → List Token → Read
  | 0, _, _, _ => none
  | fuel + 1, least, a, rest => match rest with
    | .sign op :: rest' => match strengths.lookup op with
      | some strength =>
        if strength < least then some (a, rest)
        else do
          let (b, rest) ← operand fuel rest'
          let (b, rest) ← operators fuel (strength + 1) b rest
          let value : Option Number := match op, a with
            | "&&", some x => if x.isTrue then b.map fun y => Number.ofBool y.isTrue else some (Number.ofBool false)
            | "||", some x => if x.isTrue then some (Number.ofBool true) else b.map fun y => Number.ofBool y.isTrue
            | _, some x => b.bind fun y => Number.combine op x y
            | _, none => none
          operators fuel least value rest
      | none => some (a, rest)
    | _ => some (a, rest)

def ternary : Nat → List Token → Read
  | 0, _ => none
  | fuel + 1, ts => do
    let (a, rest) ← operand fuel ts
    let (c, rest) ← operators fuel 1 a rest
    let .sign "?" :: rest := rest | return (c, rest)
    let (yes, rest) ← ternary fuel rest
    let .sign ":" :: rest := rest | none
    let (no, rest) ← ternary fuel rest
    return (c.bind fun c => if c.isTrue then yes else no, rest)

end

/-- Whether a condition holds; there is no answer if it is not understood. -/
def holds? (ts : List Token) : Option Bool := do
  let ts := ts.map fun
    | .word w => match operatorWords.lookup w with
      | some op => .sign op
      | none => .word w
    | t => t
  let (value, []) ← ternary (4 * ts.length + 8) ts | none
  return (← value).isTrue

end ModuleForge.Host.Native.Condition
