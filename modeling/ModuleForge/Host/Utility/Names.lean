import ModuleForge.Host.Utility.Call

/-!
# Utilities for names of files

What takes paths apart, follows links, and makes names that are not taken.
-/
namespace ModuleForge.Host.Utility

open Call

def baseName (path : ByteString) : ByteString :=
  match (Path.pieces path).filter (· ≠ []) with
  | [] => if path.isEmpty then [] else [Path.separator]
  | ps => ps.getLastD []

/-- The end of a line of output, or of an item with `-z`. -/
def closing (o : Options) : ByteString := if o.has 'z' then [0] else [10]

def basename : Utility := fun c => c.withGrammar {
    flags := "az", valued := "s", long := [("multiple", 'a'), ("zero", 'z'), ("suffix", 's')]
    inFront := true } fun o => do
  let without (ending path : ByteString) : ByteString :=
    let base := baseName path
    if !ending.isEmpty && ending != base && ending.isSuffixOf base then
      base.take (base.length - ending.length)
    else base
  match o.operands with
  | [] => c.misuse "missing operand"
  | paths@(path :: rest) =>
    match o.value? 's' with
    | some ending => c.putBytes (paths.flatMap fun p => without ending p ++ closing o)
    | none =>
      if o.has 'a' then c.putBytes (paths.flatMap fun p => without [] p ++ closing o)
      else match rest with
        | _ :: extra :: _ => c.misuse ("extra operand " ++ quoted extra)
        | _ => c.putBytes (without (rest.headD []) path ++ closing o)

def dirName (path : ByteString) : ByteString :=
  match (Path.parent? ⟨path⟩).map (·.bytes) with
  | none => if path.isEmpty then [Path.dot] else [Path.separator]
  | some [] => [Path.dot]
  | some d => d

def dirname : Utility := fun c => c.withGrammar { flags := "z", long := [("zero", 'z')] } fun o => do
  if o.operands.isEmpty then c.misuse "missing operand"
  else c.putBytes (o.operands.flatMap fun p => dirName p ++ closing o)

def pwd : Utility := fun c => c.withGrammar { flags := "LP", long := [("logical", 'L'), ("physical", 'P')] }
    fun o => do
  let physical ← Task.look fun t here => t.pathOf here
  if o.last? "LP" == some 'L' then
    let claimed := (c.environment.lookup (ByteString.ofText "PWD")).getD []
    let isTrue ← Task.look fun t here =>
      claimed.head? == some Path.separator && (t.find here claimed).toOption == some here
    c.putBytes ((if isTrue then claimed else physical) ++ [10])
  else c.putBytes (physical ++ [10])

/-- The path of a file with every link followed; unless `strict`, the last name need not exist. -/
def realPathOf (strict : Bool) (path : ByteString) (t : FileTree) (here : Nat) :
    Except Errno ByteString :=
  match t.place here path true with
  | .error e => .error e
  | .ok p => match p.node? with
    | some _ => t.canonical here path
    | none =>
      if strict then .error .noEntry
      else .ok (Path.join ⟨t.pathOf p.dir⟩ ⟨p.name⟩).bytes

/-- The path of a file of which nothing need exist: what exists is followed, the rest is taken by
its names. -/
def loosePathOf (t : FileTree) (here : Nat) : Nat → ByteString → ByteString → ByteString
  | 0, sofar, _ => sofar
  | fuel + 1, sofar, rest =>
    match (Path.pieces rest).filter (· ≠ []) with
    | [] => if sofar.isEmpty then [Path.separator] else sofar
    | p :: ps =>
      let after := (List.intersperse [Path.separator] ps).flatten
      if p = [Path.dot] then loosePathOf t here fuel sofar after
      else if p = [Path.dot, Path.dot] then
        loosePathOf t here fuel (dirName (if sofar.isEmpty then [Path.separator] else sofar)) after
      else
        let base := if sofar = [Path.separator] then [] else sofar
        let path := base ++ Path.separator :: p
        loosePathOf t here fuel ((t.canonical here path).toOption.getD path) after

/-- How strictly the parts of a path must exist. -/
inductive Strictness where
  | all | allButLast | none

def pathAs (s : Strictness) (path : ByteString) (t : FileTree) (here : Nat) : Except Errno ByteString :=
  match s with
  | .all => realPathOf true path t here
  | .allButLast => realPathOf false path t here
  | .none =>
    if path.isEmpty then .error .noEntry
    else
      let start := if path.head? = some Path.separator then [] else t.pathOf here
      .ok (loosePathOf t here (path.length + 2) start path)

/-- A path seen from a directory, both absolute. -/
def relativeTo (dir path : ByteString) : ByteString :=
  let parts (p : ByteString) : List ByteString := (Path.pieces p).filter (· ≠ [])
  let (ds, ps) := (parts dir, parts path)
  let same := ((List.zip ds ps).takeWhile fun (a, b) => a = b).length
  let up := List.replicate (ds.length - same) [Path.dot, Path.dot]
  match up ++ ps.drop same with
  | [] => [Path.dot]
  | all => (List.intersperse [Path.separator] all).flatten

def readlink : Utility := fun c => c.withGrammar {
    flags := "femnqsvz"
    long := [("canonicalize", 'f'), ("canonicalize-existing", 'e'), ("canonicalize-missing", 'm'),
      ("no-newline", 'n'), ("quiet", 'q'), ("silent", 's'), ("verbose", 'v'), ("zero", 'z')] } fun o => do
  if o.operands.isEmpty then c.misuse "missing operand"
  else
    let mut code := 0
    for path in o.operands do
      let target : Except Errno ByteString ← Task.look fun t here => match o.last? "fem" with
        | some 'f' => pathAs .allButLast path t here
        | some 'e' => pathAs .all path t here
        | some _ => pathAs .none path t here
        | none => do
          match t.node? (← t.find here path false) with
          | some (.link target) => return target
          | _ => throw .invalid
      match target with
      | .error e =>
        if o.has 'v' then c.complain (named path ++ ": " ++ e.message)
        code := 1
      | .ok bs =>
        let last : ByteString := if o.has 'n' && o.operands.length = 1 then [] else closing o
        code := max code (← c.putBytes (bs ++ last))
    return code

def realpath : Utility := fun c => c.withGrammar {
    flags := "emqszLP", longValued := "RB"
    long := [("canonicalize-existing", 'e'), ("canonicalize-missing", 'm'), ("quiet", 'q'),
      ("strip", 's'), ("no-symlinks", 's'), ("zero", 'z'), ("logical", 'L'), ("physical", 'P'),
      ("relative-to", 'R'), ("relative-base", 'B')] } fun o => do
  if o.operands.isEmpty then c.misuse "missing operand"
  else
    let strictness : Strictness := match o.last? "em" with
      | some 'e' => .all
      | some _ => .none
      | none => .allButLast
    let mut code := 0
    for path in o.operands do
      let found ← Task.look fun t here => do
        let full ← if o.has 's' then do
            if path.isEmpty then throw .noEntry
            pure (Shell.plainPath (if path.head? = some Path.separator then path
              else t.pathOf here ++ Path.separator :: path))
          else pathAs strictness path t here
        match o.value? 'R' with
        | some dir => return relativeTo (← pathAs strictness dir t here) full
        | none => return full
      match (found : Except Errno ByteString) with
      | .ok bs => code := max code (← c.putBytes (bs ++ closing o))
      | .error e =>
        if !o.has 'q' then c.complain (named path ++ ": " ++ e.message)
        code := 1
    return code

/-! ## New names -/

/-- A text of letters and digits that depends on a number. -/
def nameFor (length : Nat) (n : Nat) : ByteString :=
  let letters := "abcdefghijklmnopqrstuvwxyzABCDEFGHIJKLMNOPQRSTUVWXYZ0123456789".toList
  (List.range length).map fun i =>
    UInt8.ofNat ((letters[(n * 7919 + (i + 1) * (n + 104729) * 31) / (i + 1) % 62]?).getD 'x').toNat

/-- Makes a file or a directory with a name that is not taken, and prints it. -/
def mktemp : Utility := fun c => c.withGrammar {
    flags := "duqt", valued := "p", attached := "", longValued := "S"
    long := [("directory", 'd'), ("dry-run", 'u'), ("quiet", 'q'), ("tmpdir", 'p'), ("suffix", 'S')] } fun o => do
  match o.operands with
  | _ :: _ :: _ => c.misuse "too many templates"
  | _ =>
    let template := o.operands.headD (ByteString.ofText "tmp.XXXXXXXXXX")
    let shown := template
    let tail := ((template.reverse.dropWhile (· ≠ 88)).takeWhile (· = 88)).length
    let ending := (template.reverse.takeWhile (· ≠ 88)).reverse
    if tail < 3 then
      c.complain ("too few X's in template " ++ quoted shown)
      return 1
    let start := template.take (template.length - ending.length - tail)
    let usual := (c.environment.lookup (ByteString.ofText "TMPDIR")).getD (ByteString.ofText "/tmp")
    let dir : ByteString := match o.value? 'p' with
      | some [] => usual
      | some d => d
      | none => if o.operands.isEmpty || o.has 't' then usual else []
    let pid ← Task.processId
    let time ← Task.look fun t _ => t.now.toNat
    let stem := start ++ nameFor tail (pid * 1000003 + time / 1000) ++ ending ++ (o.value? 'S').getD []
    let path := if dir.isEmpty then stem else (Path.join ⟨dir⟩ ⟨stem⟩).bytes
    let make (t : FileTree) (here : Nat) : Except Errno FileTree := do
      if o.has 'u' then return t
      else if o.has 'd' then
        let t ← t.makeDir here path
        return t.setRights (← t.find here path) 0o700
      else
        let (n, t) ← t.openOrMake here path
        return t.setRights n 0o600
    let made ← Task.change make
    match made with
    | .ok () => c.putBytes (path ++ [10])
    | .error e =>
      let kind := if o.has 'd' then "directory" else "file"
      let shown := if dir.isEmpty then shown else (Path.join ⟨dir⟩ ⟨shown⟩).bytes
      c.complain ("failed to create " ++ kind ++ " via template " ++ quoted shown ++ ": " ++ e.message)
      return 1

end ModuleForge.Host.Utility
