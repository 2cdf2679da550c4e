import ModuleForge.Host.Calendar
import ModuleForge.Host.Utility.Names
import ModuleForge.Power
import ModuleForge.Text.Bytes

/-!
# Utilities that change files

What makes, moves, copies, links and removes files, and sets their rights, times and sizes.
-/

/-!
## Rights to files

The twelve bits that say who may do what with a file: their texts, and changes to them as people
write them.
-/

namespace ModuleForge.Host.Rights

/-- The letters for reading, writing and running, for the owner, the group and the others. -/
def letters (rights : Nat) : String :=
  let classOf (shift special : Nat) (mark : Char) : List Char :=
    let bits := rights / 2 ^ shift % 8
    let runs := bits % 2 = 1
    let last := if rights / special % 2 = 1 then if runs then mark else mark.toUpper
      else if runs then 'x' else '-'
    [if bits / 4 = 1 then 'r' else '-', if bits / 2 % 2 = 1 then 'w' else '-', last]
  String.ofList (classOf 6 0o4000 's' ++ classOf 3 0o2000 's' ++ classOf 0 0o1000 't')

def octal (rights : Nat) : String := String.ofList (Nat.toDigits 8 rights)

/-- Four digits at least. -/
def octal4 (rights : Nat) : String :=
  let s := octal rights
  String.ofList (List.replicate (4 - s.length) '0') ++ s

/-- The bits without some others. -/
def without (bits others : Nat) : Nat := bits - (bits &&& others)

/-- What is known when rights are changed: the mask, which holds back what is given to nobody in
particular, and whether the rights are to a directory. -/
structure Setting where
  mask : Nat
  isDirectory : Bool

/-- Applies signs with letters to rights, for the classes in `who`; `affected` are all bits of these
classes. -/
def applySigns (s : Setting) (affected : Nat) (rights : Nat) : Nat → List Char → Option Nat
  | 0, _ => none
  | _ + 1, [] => some rights
  | fuel + 1, sign :: rest =>
    if !"+-=".toList.contains sign then none
    else
      let chosen := rest.takeWhile "rwxXstugo".toList.contains
      let bit (c : Char) : Nat := match c with
        | 'r' => 0o444
        | 'w' => 0o222
        | 'x' => 0o111
        | 'X' => if s.isDirectory || rights &&& 0o111 != 0 then 0o111 else 0
        | 's' => 0o6000
        | 't' => 0o1000
        | 'u' => rights / 64 % 8 * 0o111
        | 'g' => rights / 8 % 8 * 0o111
        | 'o' => rights % 8 * 0o111
        | _ => 0
      let value := (chosen.foldl (fun n c => n ||| bit c) 0) &&& affected
      let next := match sign with
        | '+' => rights ||| value
        | '-' => without rights value
        | _ =>
          let kept := if s.isDirectory then rights &&& 0o6000 else 0
          without rights affected ||| value ||| kept
      applySigns s affected next fuel (rest.drop chosen.length)

/-- Applies one clause such as `u+rw` or `go=`. -/
def applyClause (s : Setting) (rights : Nat) (clause : List Char) : Option Nat :=
  let who := clause.takeWhile "ugoa".toList.contains
  let signs := clause.drop who.length
  let bits (c : Char) : Nat := match c with
    | 'u' => 0o4700
    | 'g' => 0o2070
    | 'o' => 0o1007
    | _ => 0o7777
  let affected := if who.isEmpty then without 0o7777 s.mask
    else who.foldl (fun n c => n ||| bits c) 0
  if signs.isEmpty then none else applySigns s affected rights (signs.length + 1) signs

/-- Rights changed as a text says: digits, or clauses between commas. -/
def change? (s : Setting) (rights : Nat) (text : String) : Option Nat :=
  let cs := text.toList
  if !cs.isEmpty && cs.all fun c => '0' ≤ c && c ≤ '7' then
    let n := cs.foldl (fun n c => n * 8 + (c.toNat - 48)) 0
    if n ≤ 0o7777 then some n else none
  else (text.splitOn ",").foldl (fun rights? clause =>
    rights?.bind fun rights => applyClause s rights clause.toList) (some rights)

end ModuleForge.Host.Rights

namespace ModuleForge.Host.Utility

open Call

/-! ## Directories and links -/

/-- Does something to each path, complaining where it fails, and telling what was done. -/
def eachPath (c : Call) (verb : String) (paths : List ByteString)
    (act : ByteString → FileTree → Nat → Except Errno FileTree)
    (done : ByteString → Option String := fun _ => none) : Task Nat := do
  let mut code := 0
  for path in paths do
    match ← Task.change (act path) with
    | .ok () =>
      if let some text := done path then
        let _ ← c.putText (text ++ "\n")
    | .error e =>
      c.complain (verb ++ " " ++ quoted path ++ ": " ++ e.message)
      code := 1
  return code

/-- A path and those above it, the highest first. -/
def withParents (path : ByteString) : List ByteString :=
  let parts := Path.pieces path
  let paths := (List.range parts.length).map fun i =>
    (List.intersperse [Path.separator] (parts.take (i + 1))).flatten
  (paths.filter fun p => !p.isEmpty && p.getLast? != some Path.separator).eraseDups

def mkdir : Utility := fun c => c.withGrammar {
    flags := "pv", valued := "m", long := [("parents", 'p'), ("verbose", 'v'), ("mode", 'm')] } fun o => do
  let told (path : ByteString) : Option String :=
    if o.has 'v' then some (c.program ++ ": created directory " ++ quoted path) else none
  let rights? : Option (Option Nat) := match o.value? 'm' with
    | none => some none
    | some m => (Rights.change? ⟨0o022, true⟩ 0o777 (plain m)).map some
  match rights? with
  | none =>
    c.complain ("invalid mode " ++ quoted ((o.value? 'm').getD []))
    return 1
  | some rights =>
    let make (path : ByteString) (t : FileTree) (here : Nat) : Except Errno FileTree := do
      let t ← t.makeDir here path
      match rights with
      | some r => return t.setRights (← t.find here path) r
      | none => return t
    if o.operands.isEmpty then c.misuse "missing operand"
    else if !o.has 'p' then eachPath c "cannot create directory" o.operands make told
    else
      let mut code := 0
      for path in o.operands do
        let steps := withParents path
        let mut going := true
        for step in steps do
          if going then
            let isThere ← Task.look fun t here => ((t.find here step).toOption).any t.isDirectory
            if !isThere then
              let last := step == steps.getLastD []
              match ← Task.change (if last then make step else fun t here => t.makeDir here step) with
              | .ok () =>
                if let some text := told step then
                  let _ ← c.putText (text ++ "\n")
              | .error e =>
                let e := if last then e else if e = .alreadyExists then .notDirectory else e
                c.complain ("cannot create directory " ++ quoted step ++ ": " ++ e.message)
                going := false
                code := 1
      return code

def rmdir : Utility := fun c => c.withGrammar {
    flags := "pv"
    long := [("parents", 'p'), ("verbose", 'v'), ("ignore-fail-on-non-empty", 'I')] } fun o => do
  if o.operands.isEmpty then c.misuse "missing operand"
  else
    let mut code := 0
    for path in o.operands do
      let mut going := true
      for step in if o.has 'p' then (withParents path).reverse else [path] do
        if going then
          if o.has 'v' then
            let _ ← c.putText (c.program ++ ": removing directory, " ++ quoted step ++ "\n")
          match ← Task.change fun t here => t.removeDir here step with
          | .ok () => pure ()
          | .error e =>
            going := false
            if !(o.has 'I' && e = .notEmpty) then
              let what := if step = path then "" else "directory "
              c.complain ("failed to remove " ++ what ++ quoted step ++ ": " ++ e.message)
              code := 1
    return code

def unlink : Utility := fun c => c.withGrammar {} fun o => do
  match o.operands with
  | [] => c.misuse "missing operand"
  | _ :: extra :: _ => c.misuse ("extra operand " ++ quoted extra)
  | [path] => eachPath c "cannot unlink" [path] fun path t here => t.unlink here path

/-- Gives a file another name. -/
def hardLink (target path : ByteString) (t : FileTree) (here : Nat) : Except Errno FileTree := do
  let n ← t.find here target false
  if t.isDirectory n then throw .notPermitted
  let p ← t.place here path false
  if p.node?.isSome then throw .alreadyExists
  return t.modifyEntries p.dir (· ++ [(p.name, n)])

def link : Utility := fun c => c.withGrammar {} fun o => do
  match o.operands with
  | [] => c.misuse "missing operand"
  | [only] => c.misuse ("missing operand after " ++ quoted only)
  | _ :: _ :: extra :: _ => c.misuse ("extra operand " ++ quoted extra)
  | [target, path] =>
    match ← Task.change (hardLink target path) with
    | .ok () => return 0
    | .error e =>
      c.complain ("cannot create link " ++ quoted path ++ " to " ++ quoted target ++ ": " ++ e.message)
      return 1

/-! ## Removing -/

/-- What a node is called in questions. -/
def kindText (t : FileTree) (n : Nat) : String :=
  match t.node? n with
  | some (.file data) => if data.isEmpty then "regular empty file" else "regular file"
  | some (.directory ..) => "directory"
  | some (.link _) => "symbolic link"
  | some (.device _) => "character special file"
  | _ => "regular file"

/-- Asks a question on standard error: whether the answer is yes. -/
def agrees (c : Call) (question : String) : Task Bool := do
  let _ ← Task.writeAll 2 (c.program ++ ": " ++ question ++ "? ").toUTF8
  answer 4096 none
where
  answer : Nat → Option Bool → Task Bool
    | 0, sofar => return sofar.getD false
    | fuel + 1, sofar => do
      match ← Task.read 0 1 with
      | .ok data => match data.data.toList with
        | [] | [10] => return sofar.getD false
        | b :: _ => answer fuel (some (sofar.getD (b == 121 || b == 89)))
      | .error _ => return sofar.getD false

/-- Removes a path and everything below it: whether all of it could be removed. -/
def removeAll (c : Call) (o : Options) : Nat → ByteString → Task Bool
  | 0, _ => return false
  | fuel + 1, path => do
    let tell (what : String) : Task Unit := do
      if o.has 'v' then
        let _ ← c.putText (what ++ quoted path ++ "\n")
    let failed (e : Errno) : Task Bool := do
      c.complain ("cannot remove " ++ quoted path ++ ": " ++ e.message)
      return false
    let force := o.last? "fi" == some 'f'
    let asks := o.last? "fi" == some 'i'
    let found : Except Errno (Bool × String × List ByteString) ← Task.look fun t here => do
      let n ← t.find here path false
      let entries := match t.node? n with
        | some (.directory _ entries) => entries.map (·.1)
        | _ => []
      return (t.isDirectory n, kindText t n, entries)
    match found with
    | .error e =>
      if force && (e = .noEntry || e = .notDirectory) then return true else failed e
    | .ok (false, kind, _) =>
      if asks then
        if !(← agrees c ("remove " ++ kind ++ " " ++ quoted path)) then return true
      match ← Task.change fun t here => t.unlink here path with
      | .ok () =>
        tell "removed "
        return true
      | .error e => failed e
    | .ok (true, _, entries) =>
      let deep := o.has 'r' || o.has 'R'
      if !deep && !o.has 'd' then failed .isDirectory
      else
        let mut all := true
        if deep then
          if asks && !entries.isEmpty then
            if !(← agrees c ("descend into directory " ++ quoted path)) then return true
          for name in entries do
            let done ← removeAll c o fuel (Path.join ⟨path⟩ ⟨name⟩).bytes
            all := all && done
        if !all then return false
        if asks then
          if !(← agrees c ("remove directory " ++ quoted path)) then return true
        match ← Task.change fun t here => t.removeDir here path with
        | .ok () =>
          tell "removed directory "
          return true
        | .error e => failed e

def rm : Utility := fun c => c.withGrammar {
    flags := "frRivdI"
    long := [("force", 'f'), ("recursive", 'r'), ("verbose", 'v'), ("dir", 'd'), ("interactive", 'i'),
      ("one-file-system", 'x'), ("preserve-root", 'p'), ("no-preserve-root", 'n')] } fun o => do
  if o.operands.isEmpty then if o.has 'f' then return 0 else c.misuse "missing operand"
  else
    let mut code := 0
    for path in o.operands do
      let isDeep := o.has 'r' || o.has 'R'
      let last := baseName path
      if isDeep && (last = [Path.dot] || last = [Path.dot, Path.dot]) then
        c.complain ("refusing to remove '.' or '..' directory: skipping " ++ quoted path)
        code := 1
      else if isDeep && last = [Path.separator] then
        c.complain "it is dangerous to operate recursively on '/'"
        c.complain "use --no-preserve-root to override this failsafe"
        code := 1
      else if !(← removeAll c o 4096 path) then code := 1
    return code

/-! ## Moving and copying -/

/-- The path at which something comes to lie that is put at `target`: inside, if that is a
directory. -/
def inside (t : FileTree) (here : Nat) (source target : ByteString) : ByteString :=
  match t.find here target with
  | .ok n => if t.isDirectory n then (Path.join ⟨target⟩ ⟨baseName source⟩).bytes else target
  | .error _ => target

/-- Brings each source to the last operand, which must be a directory if there are several. -/
def eachMove (c : Call) (o : Options) (move : ByteString → ByteString → Task Nat) : Task Nat := do
  let (sources, target?) := match o.value? 't' with
    | some dir => (o.operands, some dir)
    | none => (o.operands.dropLast, if o.operands.length < 2 then none else o.operands.getLast?)
  match target? with
  | none => match o.operands with
    | [] => c.misuse "missing file operand"
    | only :: _ => c.misuse ("missing destination file operand after " ++ quoted only)
  | some target =>
    if sources.isEmpty then c.misuse "missing file operand"
    else
      let state ← Task.look fun t here => (t.find here target).map t.isDirectory
      let mustBe := 1 < sources.length || (o.value? 't').isSome
      match mustBe, state with
      | true, .error e =>
        let what := if (o.value? 't').isSome then "target directory " else "target "
        c.complain (what ++ quoted target ++ ": " ++ e.message)
        return 1
      | true, .ok false =>
        let what := if (o.value? 't').isSome then "target directory " else "target "
        c.complain (what ++ quoted target ++ ": " ++ Errno.notDirectory.message)
        return 1
      | _, _ =>
        let mut code := 0
        for source in sources do
          let place ← Task.look fun t here => if o.has 'T' then target else inside t here source target
          code := max code (← move source place)
        return code

/-- Whether a directory lies at or below another one. -/
def liesIn (t : FileTree) (outer : Nat) : Nat → Nat → Bool
  | 0, _ => false
  | fuel + 1, n =>
    n = outer || n ≠ FileTree.root && match t.node? n with
      | some (.directory parent _) => liesIn t outer fuel parent
      | _ => false

/-- Whether an existing file may be replaced: not with `-n`, only by a newer one with `-u`, and with
`-i` only if that is agreed to. -/
def mayReplace (c : Call) (o : Options) (source place : ByteString) : Task Bool := do
  let both ← Task.look fun t here =>
    (t.find here source, t.find here place) |> fun
      | (.ok a, .ok b) => some (t.time a, t.time b)
      | _ => none
  match both with
  | none => return true
  | some (old, new) =>
    if o.last? "nif" == some 'n' then return false
    if o.has 'u' && old ≤ new then return false
    if o.last? "nif" == some 'i' then agrees c ("overwrite " ++ quoted place) else return true

/-- Keeps a file that is about to be replaced under a name with a tilde. -/
def keepOld (o : Options) (place : ByteString) : Task Unit := do
  if o.has 'b' then
    let _ ← Task.change fun t here => t.rename here place (place ++ ((o.value? 'S').getD [126]))

def mv : Utility := fun c => c.withGrammar {
    flags := "finvuTb", valued := "tS"
    long := [("force", 'f'), ("interactive", 'i'), ("no-clobber", 'n'), ("verbose", 'v'), ("update", 'u'),
      ("no-target-directory", 'T'), ("target-directory", 't'), ("backup", 'b'), ("suffix", 'S'),
      ("strip-trailing-slashes", 'X')] } fun o =>
  eachMove c o fun source place => do
    let found ← Task.look fun t here => do
      let p ← t.place here source false
      let n ← t.find here source false
      let q ← t.place here place false
      return (p, n, q, t.isDirectory n, q.node?.any t.isDirectory, liesIn t n t.size q.dir)
    match (found : Except Errno (Place × Nat × Place × Bool × Bool × Bool)) with
    | .error e =>
      match ← Task.look fun t here => t.find here source false with
      | .error e => c.complain ("cannot stat " ++ quoted source ++ ": " ++ e.message)
      | .ok _ => c.complain ("cannot move " ++ quoted source ++ " to " ++ quoted place ++ ": " ++ e.message)
      return 1
    | .ok (p, n, q, isDirectory, ontoDirectory, intoItself) =>
      if p.dir = q.dir && p.name = q.name then
        c.complain (quoted source ++ " and " ++ quoted place ++ " are the same file")
        return 1
      if isDirectory && intoItself then
        c.complain ("cannot move " ++ quoted source ++ " to a subdirectory of itself, " ++ quoted place)
        return 1
      if !(← mayReplace c o source place) then return 0
      if q.node?.isSome && q.node? ≠ some n then
        if !isDirectory && ontoDirectory then
          c.complain ("cannot overwrite directory " ++ quoted place ++ " with non-directory")
          return 1
        if isDirectory && !ontoDirectory then
          c.complain ("cannot overwrite non-directory " ++ quoted place ++ " with directory " ++ quoted source)
          return 1
        keepOld o place
      match ← Task.change fun t here =>
          if q.node? = some n then .ok (t.forget p) else t.rename here source place with
      | .ok () =>
        if o.has 'v' then c.putText ("renamed " ++ quoted source ++ " -> " ++ quoted place ++ "\n")
        else return 0
      | .error e =>
        let e := if !isDirectory && place.getLast? = some Path.separator then .notDirectory else e
        c.complain ("cannot move " ++ quoted source ++ " to " ++ quoted place ++ ": " ++ e.message)
        return 1

/-- What is kept when something is copied: rights and times, and links as links. -/
structure Copying where
  keeps : Bool
  links : Bool

/-- Copies what a path names to another path, with everything below it. -/
def copyTree (c : Call) (o : Options) (how : Copying) : Nat → ByteString → ByteString → Task Nat
  | 0, _, _ => return 1
  | fuel + 1, source, place => do
    let tell : Task Unit := do
      if o.has 'v' then
        let _ ← c.putText (quoted source ++ " -> " ++ quoted place ++ "\n")
    let found ← Task.look fun t here => do
      let n ← t.find here source (!how.links)
      return (n, t.node? n, t.rights n, t.time n)
    let refuse (text : String) : Task Nat := do
      c.complain text
      return 1
    match (found : Except Errno (Nat × Option Node × Nat × Int)) with
    | .error e => refuse ("cannot stat " ++ quoted source ++ ": " ++ e.message)
    | .ok (n, node?, rights, time) =>
      let settle (isNew : Bool) : Task Unit := do
        let _ ← Task.change fun t here => do
          let m ← t.find here place false
          let t := if how.keeps then (t.setRights m rights).setTime m time
            else if isNew then t.setRights m (Rights.without rights t.mask) else t
          return t
      let there ← Task.look fun t here => (t.find here place).map fun m => (m, t.isDirectory m)
      match node? with
      | some (.directory _ entries) =>
        if let .ok (_, false) := there then
          return ← refuse ("cannot overwrite non-directory " ++ quoted place ++ " with directory "
            ++ quoted source)
        let isNew := there.toOption.isNone
        if isNew then
          match ← Task.change fun t here => t.makeDir here place with
          | .error e => return ← refuse ("cannot create directory " ++ quoted place ++ ": " ++ e.message)
          | .ok () => tell
        let mut code := 0
        for (name, child) in entries do
          let isNewDir ← Task.look fun t here => (t.find here place).toOption == some child
          if !isNewDir then
            code := max code (← copyTree c o how fuel (Path.join ⟨source⟩ ⟨name⟩).bytes
              (Path.join ⟨place⟩ ⟨name⟩).bytes)
        settle isNew
        return code
      | node? =>
        if let .ok (m, isDirectory) := there then
          if m = n then
            return ← refuse (quoted source ++ " and " ++ quoted place ++ " are the same file")
          if isDirectory then
            return ← refuse ("cannot overwrite directory " ++ quoted place ++ " with non-directory")
        if !(← mayReplace c o source place) then return 0
        if there.toOption.isSome then keepOld o place
        let isNew := there.toOption.isNone || o.has 'b'
        let replaced (t : FileTree) (here : Nat) : FileTree :=
          ((t.unlink here place).toOption).getD t
        let outcome ← match node?, o.has 's', o.has 'l' with
          | _, true, _ => Task.change fun t here => t.makeLink here place source
          | _, _, true => Task.change fun t here => hardLink source place (replaced t here) here
          | some (.link target), _, _ => Task.change fun t here => (replaced t here).makeLink here place target
          | some (.device _), _, _ => do
            match ← Task.openFile source .read with
            | .error e => pure (.error e)
            | .ok fd => match ← Task.openFile place .write with
              | .error e => pure (.error e)
              | .ok out =>
                let done ← copy fd [out]
                let _ ← Task.close fd
                let _ ← Task.close out
                pure done
          | some node, _, _ => Task.change fun t here => do
            let (m, t) ← t.openOrMake here place
            return t.setNode m node
          | none, _, _ => pure (.error .noEntry)
        match outcome with
        | .error e =>
          let e := if place.getLast? = some Path.separator then .notDirectory else e
          refuse ("cannot create regular file " ++ quoted place ++ ": " ++ e.message)
        | .ok () =>
          tell
          if !o.has 's' && !o.has 'l' then settle isNew
          return 0

def cp : Utility := fun c => c.withGrammar {
    flags := "rRapfinuvPdLTbslxH", valued := "tS", longValued := "NW"
    long := [("recursive", 'r'), ("archive", 'a'), ("force", 'f'), ("interactive", 'i'), ("no-clobber", 'n'),
      ("update", 'u'), ("verbose", 'v'), ("no-dereference", 'P'), ("dereference", 'L'),
      ("no-target-directory", 'T'), ("target-directory", 't'), ("backup", 'b'), ("suffix", 'S'),
      ("symbolic-link", 's'), ("link", 'l'), ("preserve", 'p'), ("one-file-system", 'x'),
      ("no-preserve", 'N'), ("sparse", 'W')] } fun o =>
  let deep := o.has 'r' || o.has 'R' || o.has 'a'
  let how : Copying := {
    keeps := o.has 'p' || o.has 'a'
    links := match o.last? "PLda" with
      | some 'L' => false
      | some _ => true
      | none => deep }
  eachMove c o fun source place => do
    let found ← Task.look fun t here => do
      let n ← t.find here source (!how.links)
      let within := match t.place here place false with
        | .ok q => liesIn t n t.size q.dir
        | .error _ => false
      return (t.isDirectory n, within)
    match (found : Except Errno (Bool × Bool)) with
    | .error e =>
      c.complain ("cannot stat " ++ quoted source ++ ": " ++ e.message)
      return 1
    | .ok (isDirectory, within) =>
      if isDirectory && !deep then
        c.complain ("-r not specified; omitting directory " ++ quoted source)
        return 1
      if isDirectory && within then
        c.complain ("cannot copy a directory, " ++ quoted source ++ ", into itself, " ++ quoted place)
        return 1
      copyTree c o how 4096 source place

def ln : Utility := fun c => c.withGrammar {
    flags := "sfnTvrbiLP", valued := "tS"
    long := [("symbolic", 's'), ("force", 'f'), ("no-dereference", 'n'), ("no-target-directory", 'T'),
      ("verbose", 'v'), ("relative", 'r'), ("backup", 'b'), ("interactive", 'i'), ("target-directory", 't'),
      ("suffix", 'S'), ("logical", 'L'), ("physical", 'P')] } fun o => do
  let soft := o.has 's'
  let kind := if soft then "symbolic link " else "hard link "
  let make (target path : ByteString) : Task Nat := do
    let found ← Task.look fun t here => (t.find here target false).map t.isDirectory
    match soft, found with
    | false, .error e =>
      c.complain ("failed to access " ++ quoted target ++ ": " ++ e.message)
      return 1
    | false, .ok true =>
      c.complain (plain target ++ ": hard link not allowed for directory")
      return 1
    | _, _ =>
      if o.has 'b' then keepOld o path
      let text ← Task.look fun t here =>
        if o.has 'r' then
          let dir := (pathAs .none (dirName path) t here).toOption.getD []
          relativeTo dir ((pathAs .none target t here).toOption.getD target)
        else target
      let outcome ← Task.change fun t here =>
        let t := if o.has 'f' then ((t.unlink here path).toOption).getD t else t
        if soft then t.makeLink here path text else hardLink target path t here
      match outcome with
      | .ok () =>
        if o.has 'v' then c.putText (quoted path ++ (if soft then " -> " else " => ") ++ quoted text ++ "\n")
        else return 0
      | .error e =>
        let tail := if soft || e ≠ .noEntry then "" else " => " ++ quoted target
        c.complain ("failed to create " ++ kind ++ quoted path ++ tail ++ ": " ++ e.message)
        return 1
  let placed (target path : ByteString) : Task ByteString := Task.look fun t here =>
    let isLink := match ((t.find here path false).toOption).bind t.node? with
      | some (.link _) => true
      | _ => false
    if o.has 'T' || o.has 'n' && isLink then path else inside t here target path
  match o.value? 't', o.operands with
  | none, [] => c.misuse "missing file operand"
  | none, [target] => make target (Path.join ⟨[Path.dot]⟩ ⟨baseName target⟩).bytes
  | none, [target, path] => make target (← placed target path)
  | dir?, operands =>
    let (targets, dir) := match dir? with
      | some dir => (operands, dir)
      | none => (operands.dropLast, operands.getLastD [])
    match ← Task.look fun t here => (t.find here dir).map t.isDirectory with
    | .ok true =>
      let mut code := 0
      for target in targets do
        code := max code (← make target (Path.join ⟨dir⟩ ⟨baseName target⟩).bytes)
      return code
    | outcome =>
      let e := match outcome with
        | .error e => e
        | .ok _ => .notDirectory
      c.complain ("target " ++ quoted dir ++ ": " ++ e.message)
      return 1

/-! ## Rights, times and sizes -/

/-- The point in time that `[[CC]YY]MMDDhhmm[.ss]` stands for. -/
def stampOf? (now : Int) (w : ByteString) : Option Int := do
  let cs := Format.chars w
  let (main, seconds) := (cs.takeWhile (· != '.'), (cs.dropWhile (· != '.')).drop 1)
  if !(main ++ seconds).all Char.isDigit || main.length % 2 = 1 then none
  let pairs := (parts 2 main).map fun p => Moment.value p
  let (year, rest) ← match pairs with
    | [a, b, c, d] => some ((Moment.ofNanos now).year, [a, b, c, d])
    | [y, a, b, c, d] => some ((if y < 69 then 2000 + (y : Int) else 1900 + y), [a, b, c, d])
    | [x, y, a, b, c, d] => some ((x * 100 + y : Int), [a, b, c, d])
    | _ => none
  match rest with
  | [month, day, hour, minute] =>
    if month < 1 || 12 < month || day < 1 || Moment.daysInMonth year month < day || 23 < hour || 59 < minute
    then none
    else
      let days := Moment.dayNumber year month day
      return (days * 86400 + hour * 3600 + minute * 60 + Moment.value seconds) * 1000000000
  | _ => none

def touch : Utility := fun c => c.withGrammar {
    flags := "acmhf", valued := "dtr"
    long := [("no-create", 'c'), ("date", 'd'), ("no-dereference", 'h'), ("reference", 'r')] } fun o => do
  let now ← Task.look fun t _ => t.now
  let read (kind : String) (w : ByteString) (time? : Option Int) : Task (Option Int) := do
    if time?.isNone then
      c.complain ("invalid date " ++ kind ++ quoted w)
    return time?
  let time? : Option Int ← match o.value? 'd', o.value? 't', o.value? 'r' with
    | some w, _, _ => read "format " w (Moment.read? now (Format.chars w))
    | _, some w, _ => read "format " w (stampOf? now w)
    | _, _, some path => do
      match ← Task.look fun t here => (t.find here path).map t.time with
      | .ok time => pure (some time)
      | .error e =>
        c.complain ("failed to get attributes of " ++ quoted path ++ ": " ++ e.message)
        pure none
    | none, none, none => pure (some now)
  match time? with
  | none => return 1
  | some time =>
    if o.operands.isEmpty then c.misuse "missing file operand"
    else eachPath c "cannot touch" o.operands fun path t here =>
      match t.find here path (!o.has 'h') with
      | .ok n => .ok (if o.has 'a' && !o.has 'm' then t else t.setTime n time)
      | .error e =>
        if o.has 'c' then .ok t
        else if e ≠ .noEntry then .error e
        else do
          let (n, t) ← t.openOrMake here path
          return t.setTime n time

/-- The paths of a directory and everything below it. -/
def pathsBelow (t : FileTree) : Nat → ByteString → Nat → List (ByteString × Nat)
  | 0, _, _ => []
  | fuel + 1, path, n => (path, n) :: match t.node? n with
    | some (.directory _ entries) => entries.flatMap fun (name, m) =>
      pathsBelow t fuel (Path.join ⟨path⟩ ⟨name⟩).bytes m
    | _ => []

/-- Sorts the words of a call of `chmod`: a word that begins with a sign and has letters of rights
is a mode. -/
def modeWords : List ByteString → List ByteString × List ByteString
  | [] => ([], [])
  | [45, 45] :: rest => ([], rest)
  | w :: rest =>
    let (os, ws) := modeWords rest
    let isMode : Bool := match w with
      | 45 :: c :: _ => c ≠ 45 && "rwxXst=,ugoa".toList.contains (Char.ofNat c.toNat)
      | _ => true
    if w.head? == some 45 && !isMode then (w :: os, ws) else (os, w :: ws)

/-- Sets the rights to each path to what `rightsOf` makes of it, and tells of it if that is asked
for. -/
def setRights (c : Call) (o : Options) (rightsOf : FileTree → Nat → Nat) (paths : List ByteString) :
    Task Nat := do
  let mut code := 0
  for path in paths do
    let found ← Task.look fun t here => (t.find here path).map fun n =>
      if o.has 'R' then pathsBelow t t.size path n else [(path, n)]
    match found with
    | .error e =>
      if !o.has 'f' then c.complain ("cannot access " ++ quoted path ++ ": " ++ e.message)
      code := 1
    | .ok found =>
      for (path, n) in found do
        let (old, new, isLink) ← Task.look fun t _ => (t.rights n, rightsOf t n, kindText t n == "symbolic link")
        if !isLink then
          let _ ← Task.change fun t _ => .ok (t.setRights n new)
          let shown (r : Nat) : String := Rights.octal4 r ++ " (" ++ Rights.letters r ++ ")"
          if old = new then
            if o.has 'v' then
              let _ ← c.putText ("mode of " ++ quoted path ++ " retained as " ++ shown old ++ "\n")
          else if o.has 'v' || o.has 'c' then
            let _ ← c.putText ("mode of " ++ quoted path ++ " changed from " ++ shown old ++ " to "
              ++ shown new ++ "\n")
  return code

def chmod : Utility := fun c =>
  let (options, words) := modeWords c.words
  let known : Grammar := {
    flags := "Rvcf", longValued := "F"
    long := [("recursive", 'R'), ("verbose", 'v'), ("changes", 'c'), ("silent", 'f'), ("quiet", 'f'),
      ("reference", 'F')] }
  { c with words := options }.withGrammar known fun o => do
    match o.value? 'F', words with
    | some path, [] => c.misuse ("missing operand after " ++ quoted path)
    | some path, paths => do
      match ← Task.look fun t here => (t.find here path).map t.rights with
      | .ok rights => setRights c o (fun _ _ => rights) paths
      | .error e =>
        c.complain ("failed to get attributes of " ++ quoted path ++ ": " ++ e.message)
        return 1
    | none, [] => c.misuse "missing operand"
    | none, [mode] => c.misuse ("missing operand after " ++ quoted mode)
    | none, mode :: paths =>
      let change (t : FileTree) (n : Nat) : Option Nat :=
        Rights.change? ⟨t.mask, t.isDirectory n⟩ (t.rights n) (plain mode)
      if (change {} 0).isNone then c.misuse ("invalid mode: " ++ quoted mode)
      else setRights c o (fun t n => (change t n).getD 0) paths

/-- A size with a unit, where units of the form `kB` are decimal. -/
def sizeOf? (w : ByteString) : Option Nat :=
  let digits := w.takeWhile fun b => 48 ≤ b && b ≤ 57
  let power (base : Nat) (c : Char) : Option Nat :=
    ("KMGTPEZY".toList.idxOf? c).map fun i => base ^ (i + 1)
  let unit : Option Nat := match (Format.chars (w.drop digits.length)) with
    | [] => some 1
    | ['b'] => some 512
    | ['k'] => some 1024
    | ['k', 'B'] => some 1000
    | [c] => power 1024 c
    | [c, 'i', 'B'] => power 1024 c
    | [c, 'B'] => power 1000 c
    | _ => none
  match unit with
  | some u => if digits.isEmpty then if w.isEmpty then none else some u else (Shell.natural? digits).map (· * u)
  | none => none

/-- The size that a file is to have, given its old one. -/
def newSize? (text : ByteString) (old : Nat) : Option Nat :=
  let text := text.dropWhile (· = 32)
  let given (rest : ByteString) : Option Nat := sizeOf? rest
  match text with
  | 43 :: rest => (given rest).map (old + ·)
  | 45 :: rest => (given rest).map (old - ·)
  | 60 :: rest => (given rest).map (min old)
  | 62 :: rest => (given rest).map (max old)
  | 47 :: rest => (given rest).map fun n => if n = 0 then old else old / n * n
  | 37 :: rest => (given rest).map fun n => if n = 0 then old else (old + n - 1) / n * n
  | rest => given rest

def truncate : Utility := fun c => c.withGrammar {
    flags := "co", valued := "sr"
    long := [("no-create", 'c'), ("io-blocks", 'o'), ("size", 's'), ("reference", 'r')] } fun o => do
  let sizeOf (t : FileTree) (n : Nat) : Nat := match t.node? n with
    | some (.file data) => data.size
    | _ => 0
  let reference ← match o.value? 'r' with
    | none => pure (.ok none)
    | some path => Task.look fun t here => (t.find here path).map fun n => some (sizeOf t n)
  match reference, o.value? 's' with
  | .error e, _ =>
    c.complain ("cannot stat " ++ quoted ((o.value? 'r').getD []) ++ ": " ++ e.message)
    return 1
  | .ok none, none => c.misuse "you must specify either '--size' or '--reference'"
  | .ok reference, size? =>
    if let some size := size? then
      if (newSize? size 0).isNone then
        c.complain ("Invalid number: " ++ quoted size)
        return 1
    if o.operands.isEmpty then c.misuse "missing file operand"
    else
      let mut code := 0
      for path in o.operands do
        let missing ← Task.look fun t here => (t.find here path).toOption.isNone
        if !(missing && o.has 'c') then
          match ← Task.change fun t here => do
              let (n, t) ← t.openOrMake here path
              let old := reference.getD (sizeOf t n)
              t.resize n ((size?.bind (newSize? · old)).getD old) with
          | .ok () => pure ()
          | .error e =>
            c.complain ("cannot open " ++ quoted path ++ " for writing: " ++ e.message)
            code := 1
      return code

/-- Copies files with given rights, or makes directories. -/
def install : Utility := fun c => c.withGrammar {
    flags := "dDvcpsCT", valued := "mogtS"
    long := [("directory", 'd'), ("verbose", 'v'), ("mode", 'm'), ("owner", 'o'), ("group", 'g'),
      ("target-directory", 't'), ("no-target-directory", 'T')] } fun o => do
  let rights := ((o.value? 'm').bind fun m => Rights.change? ⟨0, o.has 'd'⟩ 0 (plain m)).getD 0o755
  let own := o.letters.filter fun (l, _) => l == 'v' || l == 'T' || l == 't'
  let quiet : Options := { letters := own, operands := o.operands }
  if o.has 'd' then
    eachPath c "cannot create directory" o.operands fun path t here => do
      let t ← t.makeDirs here ⟨path⟩ (path.length + 1)
      return t.setRights (← t.find here path) rights
  else
    if o.has 'D' then
      if let some last := o.operands.getLast? then
        let _ ← Task.change fun t here => t.makeDirs here ⟨dirName last⟩ (last.length + 1)
    eachMove c quiet fun source place => do
      let _ ← Task.change fun t here => t.unlink here place
      let code ← copyTree c quiet ⟨false, false⟩ 2 source place
      if code = 0 then
        let _ ← Task.change fun t here => return t.setRights (← t.find here place) rights
      return code

/-- Gives files to somebody else; only the one who has everything is known here. -/
def chown : Utility := fun c => c.withGrammar {
    flags := "Rvcfh", long := [("recursive", 'R'), ("verbose", 'v'), ("no-dereference", 'h')] } fun o => do
  match o.operands with
  | [] => c.misuse "missing operand"
  | [only] => c.misuse ("missing operand after " ++ quoted only)
  | who :: paths =>
    let known (name : ByteString) : Bool :=
      name.isEmpty || plain name == "root" || (Shell.natural? name).isSome
    let user := who.takeWhile fun b => b ≠ 58 && b ≠ 46
    let group := who.drop (user.length + 1)
    let isGroup := c.program.endsWith "chgrp"
    if isGroup && !known who then
      c.complain ("invalid group: " ++ quoted who)
      return 1
    if !isGroup && !known user then
      c.complain ("invalid user: " ++ quoted who)
      return 1
    if !isGroup && !known group then
      c.complain ("invalid group: " ++ quoted who)
      return 1
    eachPath c "cannot access" paths fun path t here => (t.find here path).map fun _ => t

end ModuleForge.Host.Utility
