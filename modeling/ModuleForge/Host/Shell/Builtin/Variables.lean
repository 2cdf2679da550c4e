import ModuleForge.Host.Shell.Builtin.Basic

/-!
# Variables, parameters and switches

The builtins that mark, remove and list variables, set the parameters and the switches of the shell,
and read the options among parameters.
-/
namespace ModuleForge.Host.Shell

open Step

/-! ## Variables -/

/-- Lists variables in the order of their names; each is shown as what would set it again. -/
def listVariables (start : String) (shown : Variable → Bool) : Step Nat := do
  let values := ((← get).values.filter fun (_, v) => shown v).mergeSort fun a b => a.1 ≤ b.1
  let start := ByteString.ofText (if start.isEmpty then "" else start ++ " ")
  put 0 (values.flatMap fun (name, v) =>
    start ++ name ++ (match v.value with
      | some value => 61 :: singleQuoted value
      | none => []) ++ [10])

/-- Marks variables, which may be given values, or lists those that are marked. -/
def runMark (command : String) (mark : Variable → Variable) (isMarked : Variable → Bool)
    (words : List ByteString) : Step Nat := do
  let o ← options "p" "" words
  if o.has 'p' || o.operands.isEmpty then listVariables command isMarked
  else
    for w in o.operands do
      match assignment? w with
      | some (name, value) => assignAs mark name value
      | none =>
        if ((← get).values.lookup w).isNone then checkVariable w
        modify (setVariable w mark)
    return 0

def runUnset (words : List ByteString) : Step Nat := do
  let o ← options "vf" "" words
  let kind := (o.letters.getLast?.map (·.1)).getD ' '
  for name in o.operands do
    if kind != 'f' then
      checkVariable name
      modify fun s => { s with values := s.values.filter (·.1 ≠ name) }
    if kind != 'v' then
      modify fun s => { s with functions := s.functions.filter (·.1 ≠ name) }
  return 0

/-- Makes variables local to the function that runs; a minus sign stands for the switches. -/
def runLocal (words : List ByteString) : Step Nat := do
  if (← get).sheltered.isNone then fail "not in a function"
  for w in words do
    if w = [45] then
      modify fun s => { s with shelteredSwitches := s.shelteredSwitches <|> some s.on }
    else
      let name := w.takeWhile (· ≠ 61)
      if !isName name then fail (Text.lossy name ++ ": bad variable name")
      modify fun s => { s with
        sheltered := s.sheltered.map fun kept =>
          if (kept.lookup name).isSome then kept else (name, s.values.lookup name) :: kept }
      if let some (_, v) := assignment? w then assign name v
  return 0

/-! ## Parameters and switches -/

/-- Sets the parameters; options are read from the first one on again. -/
def setParameters (ps : List ByteString) : Step Unit :=
  modify fun s => { s with parameters := ps, optionIndex := 1, optionOffset := none }

def runShift (words : List ByteString) : Step Nat := do
  let n ← match words with
    | w :: _ => numberOf w
    | [] => pure 1
  let ps := (← get).parameters
  if ps.length < n then fail "can't shift that many"
  setParameters (ps.drop n)
  return 0

/-- All switches, as a table or as commands that would set them again. -/
def listSwitches (asCommands : Bool) : Step Nat := do
  let s ← get
  let line (switch : Switch) (name : String) : String :=
    if asCommands then "set " ++ (if s.has switch then "-o " else "+o ") ++ name ++ "\n"
    else name ++ String.ofList (List.replicate (16 - name.length) ' ')
      ++ (if s.has switch then "on" else "off") ++ "\n"
  let lines := switches.map fun (switch, name, _) => line switch name
  putText 0 ((if asCommands then "" else "Current option settings\n") ++ String.join lines)

/-- Turns switches on or off by letters; `o` takes a name from the words that follow. -/
def turnLetters (on : Bool) : List UInt8 → List ByteString → Step (List ByteString)
  | [], words => return words
  | b :: rest, words => do
    let c := Char.ofNat b.toNat
    if c == 'o' then
      match words with
      | [] =>
        let _ ← listSwitches (!on)
        turnLetters on rest []
      | w :: words =>
        match Switch.ofName? (Text.lossy w) with
        | some switch => modify (·.turn switch on)
        | none => fail ("Illegal option -o " ++ Text.lossy w)
        turnLetters on rest words
    else
      match Switch.ofLetter? c with
      | some switch => modify (·.turn switch on)
      | none => fail ("Illegal option -" ++ Text.lossy [b])
      turnLetters on rest words

/-- Reads switches; what is left, if anything, are the new parameters. -/
def readSwitches : Nat → List ByteString → Step (Option (List ByteString))
  | 0, _ => return none
  | fuel + 1, words => do
    match words with
    | [] => return none
    | [45] :: rest =>
      modify fun s => (s.turn .xtrace false).turn .verbose false
      return if rest.isEmpty then none else some rest
    | [45, 45] :: rest => return some rest
    | (45 :: letters) :: rest => readSwitches fuel (← turnLetters true letters rest)
    | (43 :: letters) :: rest => readSwitches fuel (← turnLetters false letters rest)
    | words => return some words

def runSet (words : List ByteString) : Step Nat := do
  if words.isEmpty then listVariables "" fun v => v.value.isSome
  else
    if let some ps ← readSwitches (words.length + 1) words then setParameters ps
    return 0

/-- What the letters of the switches that are on look like, from the last to the first. -/
def shownSwitches (s : State) : ByteString :=
  ByteString.ofText (String.ofList (switches.reverse.filterMap fun (switch, _, letter) =>
    if s.has switch then letter else none))

/-! ## Options among parameters -/

/-- What one reading of options has come to. -/
structure OptionRead where
  /-- What the variable gets. -/
  letter : Char := '?'
  /-- What the argument of the option gets; `none` takes the variable away. -/
  argument : Option ByteString := none
  /-- Whether the variable for the argument is left alone. -/
  silent : Bool := false
  message : Option String := none
  /-- The next parameter to be looked at, and how far the one before it has been read. -/
  index : Nat
  offset : Option Nat := none
  ended : Bool := false

/-- What stands behind the first place of a letter among the letters of known options; every letter
may have a colon. -/
def afterLetter (c : UInt8) : List UInt8 → Option (List UInt8)
  | [] => none
  | b :: rest =>
    if b = c then some rest
    else match rest with
      | 58 :: rest => afterLetter c rest
      | rest => afterLetter c rest

/-- Reads the next option. A colon in front of the known letters makes the mistakes silent. -/
def readOption (known : ByteString) (words : List ByteString) (index : Nat) (offset : Option Nat) :
    OptionRead :=
  let word? (i : Nat) : Option ByteString := words[i - 1]?
  -- the rest of the word that is being read
  let current : ByteString := match offset with
    | some n => if index ≤ 1 then [] else ((word? (index - 1)).getD []).drop n
    | none => []
  let silently := known.head? == some 58
  let take (letters : ByteString) (length index : Nat) : OptionRead :=
    match letters with
    | [] => { index, ended := true, silent := true }
    | c :: rest =>
      let here : Option Nat := some (length - rest.length)
      let letter := Char.ofNat c.toNat
      match afterLetter c known with
      | none =>
        if silently then { index, offset := here, argument := some [c] }
        else { index, offset := here, message := some ("Illegal option -" ++ Text.lossy [c]) }
      | some (58 :: _) =>
        if !rest.isEmpty then { index, letter, argument := some rest }
        else match word? index with
          | some w => { index := index + 1, letter, argument := some w }
          | none =>
            if silently then { index, letter := ':', argument := some [c] }
            else { index, message := some ("No arg for -" ++ Text.lossy [c] ++ " option") }
      | some _ => { index, letter, argument := some [], offset := here }
  if !current.isEmpty then take current ((word? (index - 1)).getD []).length index
  else match word? index with
    | some [45, 45] => { index := index + 1, ended := true, silent := true }
    | some (45 :: c :: rest) => take (c :: rest) (rest.length + 2) (index + 1)
    | _ => { index, ended := true, silent := true }

def runGetopts (words : List ByteString) : Step Nat := do
  match words with
  | known :: target :: rest =>
    let s ← get
    let ps := if rest.isEmpty then s.parameters else rest
    let (index, offset) := if ps.length + 1 < s.optionIndex then (1, none)
      else (s.optionIndex, s.optionOffset)
    let r := readOption known ps index offset
    let name : ByteString := "OPTARG"
    if !r.silent then
      match r.argument with
      | some value => assign name value
      | none => modify fun s => { s with values := s.values.filter (·.1 ≠ name) }
    if let some message := r.message then say message
    modify (setVariable "OPTIND" fun v => { v with value := some (ByteString.ofText (toString r.index)) })
    assign target [UInt8.ofNat r.letter.toNat]
    modify fun s => { s with optionIndex := r.index, optionOffset := r.offset }
    return if r.ended then 1 else 0
  | _ => fail "Usage: getopts optstring var [arg...]"

end ModuleForge.Host.Shell
