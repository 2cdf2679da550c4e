import ModuleForge.Host.Shell.Builtin.Test

/-!
# Directories, rights, limits and aliases

The builtins for what a shell hands on to the programs that it starts, and for other texts for
commands.
-/
namespace ModuleForge.Host.Shell

open Step

/-! ## Directories -/

/-- An absolute path without dots and repeated separators. -/
def plainPath (path : ByteString) : ByteString :=
  let parts := (Path.pieces path).foldl (fun (acc : List ByteString) p =>
    if p = [] || p = [Path.dot] then acc
    else if p = [Path.dot, Path.dot] then acc.drop 1
    else p :: acc) []
  if parts.isEmpty then [Path.separator] else parts.reverse.flatMap fun p => Path.separator :: p

/-- The last of the letters that ask for the names of a path or for the directories behind them. -/
def asksPhysical (o : Options) : Bool := (o.letters.getLast?.map (·.1)) == some 'P'

/-- Goes to a directory, by its names unless `physical` holds: whether that worked. -/
def enter (dir : ByteString) (physical : Bool) : Step Bool := do
  let s ← get
  let now := plainPath (if dir.head? == some Path.separator then dir
    else s.here ++ Path.separator :: dir)
  match ← task (Task.changeDir (if physical then dir else now)) with
  | .error _ => return false
  | .ok () =>
    let now ← if physical then task (Task.look fun t here => t.pathOf here) else pure now
    assignAs (fun v => { v with exported := true }) "OLDPWD" s.here
    modify fun s => { s with here := now }
    assignAs (fun v => { v with exported := true }) "PWD" now
    return true

def runCd (words : List ByteString) : Step Nat := do
  let o ← options "LP" "" words
  let s ← get
  let back := o.operands.head? == some [45]
  let dir := (if back then valueOf? "OLDPWD" s else match o.operands with
    | w :: _ => some w
    | [] => valueOf? "HOME" s).getD []
  let isFixed := dir.head? == some Path.separator
    || [[Path.dot], [Path.dot, Path.dot]].contains (dir.takeWhile (· ≠ Path.separator))
  let dir := if dir.isEmpty then [Path.dot] else dir
  -- a relative path may be below any of the directories of a search path
  let places : List (ByteString × Bool) := if isFixed then [] else
    (FileTree.searchDirs ((valueOf? "CDPATH" s).getD [])).map fun above =>
      if above.isEmpty then (dir, false) else (above ++ Path.separator :: dir, true)
  let found ← task (Task.look fun t here => places.find? fun (path, _) =>
    FileTest.directory.holds path t here)
  let (path, elsewhere) := found.getD (dir, false)
  if !(← enter path (asksPhysical o)) then fail ("can't cd to " ++ Text.lossy dir)
  if back || elsewhere then put 0 ((← get).here ++ [10]) else return 0

def runPwd (words : List ByteString) : Step Nat := do
  let o ← options "LP" "" words
  if asksPhysical o then put 0 ((← task (Task.look fun t here => t.pathOf here)) ++ [10])
  else put 0 ((← get).here ++ [10])

/-! ## Rights of new files -/

/-- The rights that a mask leaves, in letters. -/
def rightsOf (mask : Nat) : String :=
  let letters (n : Nat) : String := String.join (["r", "w", "x"].zipIdx.map fun (l, i) =>
    if n / 2 ^ (2 - i) % 2 = 0 then l else "")
  "u=" ++ letters (mask / 64 % 8) ++ ",g=" ++ letters (mask / 8 % 8) ++ ",o=" ++ letters (mask % 8)

/-- Rights changed by clauses such as `u+rw,go=`; there is nothing for what is not a clause. -/
def changeRights (rights : Nat) : Nat → List Char → Option Nat
  | 0, _ => none
  | fuel + 1, cs =>
    let who := cs.takeWhile "ugoa".toList.contains
    let shifts := [('u', 6), ('g', 3), ('o', 0)].filterMap fun (c, n) =>
      if who.isEmpty || who.contains c || who.contains 'a' then some n else none
    match cs.drop who.length with
    | sign :: rest =>
      if !"+-=".toList.contains sign then none
      else
        let letters := rest.takeWhile "rwxXstugo".toList.contains
        let bit (c : Char) : Nat := match c with
          | 'r' => 4
          | 'w' => 2
          | 'x' => 1
          | 'X' => if rights &&& 0o111 = 0 then 0 else 1
          | 'u' => rights / 64 % 8
          | 'g' => rights / 8 % 8
          | 'o' => rights % 8
          | _ => 0
        let value := letters.foldl (fun n c => n ||| bit c) 0
        let next := shifts.foldl (fun (n : Nat) k =>
          let wanted := value <<< k
          let cleared := n - (n &&& (7 <<< k))
          match sign with
          | '+' => n ||| wanted
          | '-' => n - (n &&& wanted)
          | _ => cleared ||| wanted) rights
        match rest.drop letters.length with
        | [] => some next
        | ',' :: more => changeRights next fuel more
        | more => changeRights next fuel (who ++ more)
    | [] => none

/-- Tells which rights new files do not get, or sets them. -/
def runUmask (words : List ByteString) : Step Nat := do
  let o ← options "S" "" words
  let mask ← task Task.mask
  match o.operands with
  | [] =>
    if o.has 'S' then putText 0 (rightsOf mask ++ "\n")
    else
      let digits := Nat.toDigits 8 mask
      putText 0 (String.ofList (List.replicate (4 - digits.length) '0' ++ digits) ++ "\n")
  | w :: _ =>
    let cs := Format.chars w
    if cs.head?.any Char.isDigit then
      if !cs.all Format.isOctal then fail ("Illegal number: " ++ Text.lossy w)
      task (Task.setMask (Format.digitsValue 8 cs % 512))
    else
      match changeRights (511 - mask) (cs.length + 1) cs with
      | some rights => task (Task.setMask (511 - rights))
      | none => fail ("Illegal mode: " ++ Text.lossy w)
    return 0

/-! ## Limits -/

/-- A resource of which a program may use only so much. -/
structure Resource where
  letter : Char
  name : String
  /-- In how many units of the machine the limit is counted. -/
  unit : Nat
  soft : Limit := none
  hard : Limit := none

/-- The resources with the limits that a machine starts with. -/
def resources : List Resource := [
  ⟨'t', "time(seconds)", 1, none, none⟩, ⟨'f', "file(blocks)", 512, none, none⟩,
  ⟨'d', "data(kbytes)", 1024, none, none⟩, ⟨'s', "stack(kbytes)", 1024, some 8388608, none⟩,
  ⟨'c', "coredump(blocks)", 512, none, none⟩, ⟨'m', "memory(kbytes)", 1024, none, none⟩,
  ⟨'l', "locked memory(kbytes)", 1024, some 8388608, some 8388608⟩, ⟨'p', "process", 1, none, none⟩,
  ⟨'n', "nofiles", 1, some 1048576, some 1048576⟩, ⟨'v', "vmemory(kbytes)", 1024, none, none⟩,
  ⟨'w', "locks", 1, none, none⟩, ⟨'r', "rtprio", 1, some 0, some 0⟩]

/-- A limit as it is shown. -/
def limitText (unit : Nat) : Limit → String
  | none => "unlimited"
  | some n => toString (n / unit)

def runUlimit (words : List ByteString) : Step Nat := do
  let o ← options "HSatfdsmcnplvwr" "" words
  let s ← get
  let all := o.has 'a'
  let resource := (o.letters.reverse.findSome? fun (c, _) => resources.find? (·.letter == c)).getD
    ⟨'f', "file(blocks)", 512, none, none⟩
  let limitsOf (r : Resource) : Limit × Limit := (s.limits.lookup r.letter).getD (r.soft, r.hard)
  let (onlyHard, onlySoft) := (o.has 'H' && !o.has 'S', o.has 'S' && !o.has 'H')
  let shown (r : Resource) : String :=
    limitText r.unit (if onlyHard then (limitsOf r).2 else (limitsOf r).1) ++ "\n"
  match o.operands with
  | [] =>
    if all then putText 0 (String.join (resources.map fun r =>
      r.name ++ String.ofList (List.replicate (20 - r.name.length) ' ') ++ " " ++ shown r))
    else putText 0 (shown resource)
  | w :: rest =>
    if all || !rest.isEmpty then fail "too many arguments"
    let value : Limit ←
      if w = ByteString.ofText "unlimited" then pure none
      else if w.all fun b => 48 ≤ b && b ≤ 57 then
        pure (some (Format.digitsValue 10 (Format.chars w) * resource.unit))
      else fail "bad number"
    let (soft, hard) := limitsOf resource
    let new := (if onlyHard then soft else value, if onlySoft then hard else value)
    let isAbove : Bool := match new with
      | (none, some _) => true
      | (some a, some b) => a > b
      | _ => false
    if isAbove then fail "error setting limit: Invalid argument"
    modify fun s => { s with
      limits := (resource.letter, new) :: s.limits.filter (·.1 != resource.letter) }
    return 0

/-! ## Aliases -/

/-- An alias as what would set it again. -/
def aliasText (name value : ByteString) : ByteString := name ++ 61 :: singleQuoted value

/-- Sets aliases, or shows them. -/
def runAlias (words : List ByteString) : Step Nat := do
  if words.isEmpty then
    put 0 ((inRows 39 (← get).aliases).flatMap fun (name, value) => aliasText name value ++ [10])
  else
    let mut code := 0
    for w in words do
      let given : Option (ByteString × ByteString) := match w with
        | b :: rest => (assignment? rest).map fun (name, value) => (b :: name, value)
        | [] => none
      match given with
      | some (name, value) => modify fun s => { s with
          aliases := if (s.aliases.lookup name).isSome
            then s.aliases.map fun (n, v) => (n, if n = name then value else v)
            else s.aliases ++ [(name, value)] }
      | none =>
        match (← get).aliases.lookup w with
        | some value => code := max code (← put 0 (aliasText w value ++ [10]))
        | none =>
          say ("alias: " ++ Text.lossy w ++ " not found")
          code := 1
    return code

def runUnalias (words : List ByteString) : Step Nat := do
  let o ← options "a" "" words
  if o.has 'a' then
    modify fun s => { s with aliases := [] }
    return 0
  let mut code := 0
  for w in o.operands do
    if ((← get).aliases.lookup w).isNone then
      say ("unalias: " ++ Text.lossy w ++ " not found")
      code := 1
    modify fun s => { s with aliases := s.aliases.filter (·.1 ≠ w) }
  return code

end ModuleForge.Host.Shell
