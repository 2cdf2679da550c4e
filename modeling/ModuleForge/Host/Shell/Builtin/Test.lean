import ModuleForge.Host.Shell.Builtin.Basic

/-!
# Tests

What can be asked of files, texts and numbers, and how such questions are joined.
-/
namespace ModuleForge.Host.Shell

open Step

inductive FileTest where
  | present
  | plain
  | directory
  | link
  | filled
  | executable
  | device
  deriving DecidableEq

def FileTest.ofFlag? : ByteString → Option FileTest
  | [45, 101] | [45, 114] | [45, 119] => some .present
  | [45, 102] => some .plain
  | [45, 100] => some .directory
  | [45, 104] | [45, 76] => some .link
  | [45, 115] => some .filled
  | [45, 120] => some .executable
  | [45, 99] => some .device
  | _ => none

def FileTest.holds (test : FileTest) (path : ByteString) (t : FileTree) (here : Nat) : Bool :=
  match (t.find here path (test != .link)).toOption.bind fun n => (t.node? n).map fun node => (n, node) with
  | none => false
  | some (n, node) => match test, node with
    | .present, _ => true
    | .plain, .file .. | .plain, .tool _ => true
    | .directory, .directory .. => true
    | .link, .link _ => true
    | .device, .device _ => true
    | .filled, .file data => !data.isEmpty
    | .filled, .directory .. => true
    | .executable, .file _ => t.isExecutable n
    | .executable, .directory .. | .executable, .tool _ => true
    | _, _ => false

/-- A test that compares two numbers, by its flag. -/
def numberTest? (flag : String) : Option (Int → Int → Bool) :=
  match flag with
  | "-eq" => some fun a b => a == b
  | "-ne" => some fun a b => a != b
  | "-lt" => some fun a b => a < b
  | "-le" => some fun a b => a ≤ b
  | "-gt" => some fun a b => a > b
  | "-ge" => some fun a b => a ≥ b
  | _ => none

/-- What a word of a test may be. -/
inductive TestWord where
  | unary | binary | both | either | not | opening | operand | missing
  deriving DecidableEq

/-- The operators of tests between two words. -/
def binaryFlags : List String :=
  ["=", "!=", "<", ">", "-eq", "-ne", "-lt", "-le", "-gt", "-ge", "-nt", "-ot", "-ef"]

/-- The operators of tests in front of a word. -/
def unaryFlags : List String :=
  ["-r", "-w", "-x", "-e", "-f", "-d", "-c", "-b", "-p", "-u", "-g", "-k", "-s", "-t", "-z", "-n", "-h",
   "-O", "-G", "-L", "-S"]

/-- What a word is taken for, with the two words behind it. -/
def classify : List ByteString → TestWord
  | [] => .missing
  | w :: rest =>
    let text := Text.lossy w
    let isOperand : Bool := match rest with
      | [] => true
      | [_] => false
      | operator :: right :: _ => binaryFlags.contains (Text.lossy operator) && right != [41]
    if unaryFlags.contains text then if isOperand then .operand else .unary
    else if binaryFlags.contains text then .binary
    else if text == "-a" then .both
    else if text == "-o" then .either
    else if text == "!" then if isOperand then .operand else .not
    else if text == "(" then if rest.isEmpty then .operand else .opening
    else .operand

/-- The outcome of a test of one word. -/
def unaryTest (flag word : ByteString) (t : FileTree) (here : Nat) : Except String Bool :=
  match Text.lossy flag with
  | "-n" => .ok !word.isEmpty
  | "-z" => .ok word.isEmpty
  | "-t" => match integer? word with
    | some _ => .ok false
    | none => .error ("Illegal number: " ++ Text.lossy word)
  | "-O" | "-G" => .ok (FileTest.present.holds word t here)
  | _ => .ok ((FileTest.ofFlag? flag).any fun test => test.holds word t here)

/-- A whole number of 64 bits, which may stand between blanks. -/
def number? (bs : ByteString) : Option Int :=
  let isSpace (b : UInt8) : Bool := b == 32 || (9 ≤ b && b ≤ 13)
  let inner := (bs.dropWhile isSpace).reverse.dropWhile isSpace |>.reverse
  (integer? inner).bind fun n => if -(2 ^ 63) ≤ n && n < 2 ^ 63 then some n else none

/-- The outcome of a test of two words. -/
def binaryTest (a operator b : ByteString) (t : FileTree) (here : Nat) : Except String Bool :=
  match Text.lossy operator with
  | "=" => .ok (a == b)
  | "!=" => .ok (a != b)
  | "<" => .ok (a < b)
  | ">" => .ok (b < a)
  | "-ef" => .ok (match t.find here a, t.find here b with
    | .ok x, .ok y => x == y
    | _, _ => false)
  | "-nt" => .ok (match t.find here a, t.find here b with
    | .ok x, .ok y => t.time x > t.time y
    | _, _ => false)
  | "-ot" => .ok (match t.find here a, t.find here b with
    | .ok x, .ok y => t.time x < t.time y
    | _, _ => false)
  | flag => match numberTest? flag with
    | none => .ok false
    | some compare => match number? a, number? b with
      | some x, some y => .ok (compare x y)
      | none, _ => .error ("Illegal number: " ++ Text.lossy a)
      | _, none => .error ("Illegal number: " ++ Text.lossy b)

/-- A test that is being read: the words from the last one that was looked at on. -/
abbrev Testing := StateT (List ByteString) (Except String)

mutual

/-- Reads operands of `-o` and leaves the last word that it took. -/
def anyOf (t : FileTree) (here : Nat) (kind : TestWord) : Nat → Testing Bool
  | 0 => throw "too deep"
  | fuel + 1 => do
    let a ← allOf t here kind fuel
    let words ← get
    if classify (words.drop 1) = .either then
      set (words.drop 2)
      let b ← anyOf t here (classify (words.drop 2)) fuel
      return a || b
    return a

def allOf (t : FileTree) (here : Nat) (kind : TestWord) : Nat → Testing Bool
  | 0 => throw "too deep"
  | fuel + 1 => do
    let a ← negation t here kind fuel
    let words ← get
    if classify (words.drop 1) = .both then
      set (words.drop 2)
      let b ← allOf t here (classify (words.drop 2)) fuel
      return a && b
    return a

def negation (t : FileTree) (here : Nat) (kind : TestWord) : Nat → Testing Bool
  | 0 => throw "too deep"
  | fuel + 1 => do
    if kind != .not then primary t here kind fuel
    else
      let words ← get
      let next := classify (words.drop 1)
      if next != .missing then set (words.drop 1)
      return !(← negation t here next fuel)

def primary (t : FileTree) (here : Nat) (kind : TestWord) : Nat → Testing Bool
  | 0 => throw "too deep"
  | fuel + 1 => do
    let words ← get
    match kind, words with
    | .missing, _ | _, [] => return false
    | .opening, _ :: rest =>
      set rest
      if rest.head? == some [41] then return false
      let v ← anyOf t here (classify rest) fuel
      let after := (← get).drop 1
      set after
      if after.head? == some [41] then return v else throw "closing paren expected"
    | .unary, [flag] => throw (Text.lossy flag ++ ": argument expected")
    | .unary, flag :: word :: rest =>
      set (word :: rest)
      unaryTest flag word t here
    | _, a :: rest =>
      if classify rest != .binary then return !a.isEmpty
      match rest with
      | operator :: b :: rest =>
        set (b :: rest)
        binaryTest a operator b t here
      | _ => throw (Text.lossy (rest.headD []) ++ ": argument expected")

end

/-- The verdict on the words of a test. -/
def verdict (t : FileTree) (here : Nat) : Nat → List ByteString → Except String Bool
  | 0, _ => .error "too deep"
  | _ + 1, [] => .ok false
  | fuel + 1, words =>
    let whole (kind : TestWord) : Except String Bool := do
      let (v, rest) ← (anyOf t here kind (8 * words.length + 8)).run words
      match rest with
      | w :: _ :: _ => throw (Text.lossy w ++ ": unexpected operator")
      | _ => return v
    let isBinary (w : ByteString) : Bool := binaryFlags.contains (Text.lossy w)
    match words with
    | [a, b, c] =>
      if isBinary b then whole .operand
      else if a = [40] && c = [41] then verdict t here fuel [b]
      else if a = [33] then (verdict t here fuel [b, c]).map not
      else whole (classify words)
    | [a, b, c, d] =>
      if a = [40] && d = [41] then verdict t here fuel [b, c]
      else if a = [33] then (verdict t here fuel [b, c, d]).map not
      else whole (classify words)
    | _ => whole (classify words)

/-- Runs a test: 0 if it holds, 1 if not, 2 if it cannot be told. -/
def runTest (command : String) (words : List ByteString) : Step Nat := do
  let words ←
    if command != "[" then pure words
    else if words.getLast? == some [93] then pure words.dropLast
    else do
      fail "missing ]"
  match ← task (Task.look fun t here => verdict t here 8 words) with
  | .ok true => return 0
  | .ok false => return 1
  | .error message =>
    fail message

end ModuleForge.Host.Shell
