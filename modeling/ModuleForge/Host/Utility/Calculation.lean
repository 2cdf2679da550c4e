import ModuleForge.Host.Utility.Expression
import ModuleForge.Host.Utility.Call

/-!
# Utilities that calculate

`expr` works out an expression whose parts are its words; `factor` takes numbers apart into primes.
-/
namespace ModuleForge.Host.Utility

open Call

/-! ## Expressions -/

/-- The number that a value of `expr` is, if it is one: every value is a text, and some are
numbers. -/
def wholeNumber? (w : ByteString) : Option Int :=
  if w.head? == some 43 then none else Shell.integer? w

/-- Whether a value stands for falsehood. -/
def isNull (v : ByteString) : Bool := v.isEmpty || wholeNumber? v == some 0

def ofInt (n : Int) : ByteString := ByteString.ofText (toString n)

def ofTruth (b : Bool) : ByteString := if b then [49] else [48]

/-- What a text gives that is matched with an expression: the text of its first group, or how much
of it fits. -/
def matched (text pattern : ByteString) : Except String ByteString :=
  match Expression.read { extended := false, lenient := false } pattern with
  | .error f => .error f.message
  | .ok (e, r) =>
    let line := text.toArray
    match e.fitAt? line (fun _ => true) 0 with
    | some f => .ok (if 0 < r.groups then f.group line 1 else ofInt f.stop)
    | none => .ok (if 0 < r.groups then [] else [48])

/-- What an operator makes of two values. -/
def combine (operator : String) (a b : ByteString) : Except String ByteString :=
  let numbers (f : Int → Int → Except String Int) : Except String ByteString :=
    match wholeNumber? a, wholeNumber? b with
    | some x, some y => (f x y).map ofInt
    | _, _ => .error "non-integer argument"
  let byOrder (test : Ordering → Bool) : Except String ByteString :=
    let o := match wholeNumber? a, wholeNumber? b with
      | some x, some y => compare x y
      | _, _ => if a = b then .eq else if a < b then .lt else .gt
    .ok (ofTruth (test o))
  match operator with
  | "+" => numbers fun x y => .ok (x + y)
  | "-" => numbers fun x y => .ok (x - y)
  | "*" => numbers fun x y => .ok (x * y)
  | "/" => numbers fun x y => if y = 0 then .error "division by zero" else .ok (Int.tdiv x y)
  | "%" => numbers fun x y => if y = 0 then .error "division by zero" else .ok (Int.tmod x y)
  | "=" | "==" => byOrder (· == .eq)
  | "!=" => byOrder (· != .eq)
  | "<" => byOrder (· == .lt)
  | "<=" => byOrder (· != .gt)
  | ">" => byOrder (· == .gt)
  | ">=" => byOrder (· != .lt)
  | "&" => .ok (if isNull a || isNull b then [48] else a)
  | "|" => .ok (if isNull a then (if isNull b then [48] else b) else a)
  | _ => matched a b

/-- The operators, from the loosest to the tightest. -/
def ranks : List (List String) :=
  [["|"], ["&"], ["<", "<=", "=", "==", "!=", ">=", ">"], ["+", "-"], ["*", "/", "%"], [":"]]

/-- The words that are left, and the one before them. -/
structure Remaining where
  words : List ByteString
  last : ByteString := []

abbrev Calculation := StateT Remaining (Except String)

def nextWord : Calculation ByteString := do
  match (← get).words with
  | w :: rest =>
    set (⟨rest, w⟩ : Remaining)
    return w
  | [] => throw ("syntax error: missing argument after " ++ quoted (← get).last)

/-- A result as a calculation. -/
def liftExcept (r : Except String ByteString) : Calculation ByteString := StateT.lift r

mutual

/-- Works out an expression whose operators have at least the rank of the first of some; what is not
`live` is read without being worked out. -/
def calculate (live : Bool) : Nat → List (List String) → Calculation ByteString
  | 0, _ => throw "syntax error"
  | fuel + 1, [] => do
    let w ← nextWord
    match plain w with
    | "+" => nextWord
    | "length" => return ofInt (← calculate live fuel []).length
    | "match" => do
      let text ← calculate live fuel []
      let pattern ← calculate live fuel []
      if live then liftExcept (matched text pattern) else return []
    | "index" => do
      let text ← calculate live fuel []
      let among ← calculate live fuel []
      return ofInt ((text.findIdx? among.contains).elim 0 (· + 1))
    | "substr" => do
      let text ← calculate live fuel []
      let start ← calculate live fuel []
      let count ← calculate live fuel []
      match wholeNumber? start, wholeNumber? count with
      | some s, some n =>
        return if s ≤ 0 || n ≤ 0 then [] else (text.drop (s.toNat - 1)).take n.toNat
      | _, _ => return []
    | "(" => do
      let v ← calculate live fuel ranks
      let r ← get
      match r.words with
      | [41] :: rest =>
        set (⟨rest, [41]⟩ : Remaining)
        return v
      | [] => throw ("syntax error: expecting ')' after " ++ quoted r.last)
      | w :: _ => throw ("syntax error: expecting ')' instead of " ++ quoted w)
    | ")" => throw "syntax error: unexpected ')'"
    | _ => return w
  | fuel + 1, operators :: tighter => do
    let v ← calculate live fuel tighter
    calculateMore live fuel operators tighter v

def calculateMore (live : Bool) : Nat → List String → List (List String) → ByteString →
    Calculation ByteString
  | 0, _, _, _ => throw "syntax error"
  | fuel + 1, operators, tighter, v => do
    match (← get).words with
    | [] => return v
    | w :: rest =>
      let operator := plain w
      if operators.contains operator then
        set (⟨rest, w⟩ : Remaining)
        let needed := live && !(operator == "|" && !isNull v) && !(operator == "&" && isNull v)
        let right ← calculate needed fuel tighter
        let v ← if live then liftExcept (combine operator v right) else pure []
        calculateMore live fuel operators tighter v
      else return v

end

def expr : Utility := fun c => do
  let words := if c.words.head? == some [45, 45] then c.words.drop 1 else c.words
  if words.isEmpty then c.misuse "missing operand" 2
  else match (calculate true (16 * words.length + 16) ranks).run ⟨words, []⟩ with
    | .error message =>
      c.complain message
      return 2
    | .ok (v, r) => match r.words with
      | w :: _ =>
        c.complain ("syntax error: unexpected argument " ++ quoted w)
        return 2
      | [] => c.putBytes (v ++ [10]) (if isNull v then 1 else 0)

/-! ## Primes -/

/-- The prime factors of a number from a divisor on, growing. -/
def factors : Nat → Nat → Nat → List Nat
  | 0, _, n => if 1 < n then [n] else []
  | fuel + 1, d, n =>
    if n < 2 then []
    else if n < d * d then [n]
    else if n % d = 0 then d :: factors fuel d (n / d)
    else factors fuel (if d = 2 then 3 else d + 2) n

def factor : Utility := fun c => c.withGrammar { flags := "h", long := [("exponents", 'h')] } fun o => do
  let piped ← if o.operands.isEmpty then pure (← c.wholeInput []).2 else pure []
  let words := if o.operands.isEmpty then blankWords piped else o.operands
  let mut code := 0
  for w in words do
    match Shell.natural? (if w.head? == some 43 then w.drop 1 else w) with
    | none =>
      c.complain (quoted w ++ " is not a valid positive integer")
      code := 1
    | some n =>
      let all := factors 20000000 2 n
      let shown := if o.has 'h' then
          all.eraseReps.map fun p =>
            let k := all.count p
            if k = 1 then toString p else toString p ++ "^" ++ toString k
        else all.map toString
      code := max code (← c.putText (toString n ++ ":" ++ String.join (shown.map (" " ++ ·)) ++ "\n"))
  return code

end ModuleForge.Host.Utility
