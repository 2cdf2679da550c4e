import ModuleForge.Host.Calendar
import ModuleForge.Host.Utility.Call

/-!
# Utilities that tell about the machine

What the machine is called and who works on it, and what time it is.
-/
namespace ModuleForge.Host.Utility

open Call

/-- Complains about the first operand of a call that takes none. -/
def withoutOperands (c : Call) (o : Options) (body : Task Nat) : Task Nat :=
  match o.operands with
  | [] => body
  | w :: _ => c.misuse ("extra operand " ++ quoted w)

/-- What the machine tells of itself, by the letters that ask for it, in the order in which it is
told. -/
def machineFacts : List (Char × String) := [
  ('s', "Linux"), ('n', "localhost"), ('r', "6.1.0"), ('v', "#1 SMP PREEMPT_DYNAMIC"),
  ('m', "x86_64"), ('p', "unknown"), ('i', "unknown"), ('o', "GNU/Linux")]

def uname : Utility := fun c => c.withGrammar {
    flags := "snrvmpioa"
    long := [("all", 'a'), ("kernel-name", 's'), ("nodename", 'n'), ("kernel-release", 'r'),
      ("kernel-version", 'v'), ("machine", 'm'), ("processor", 'p'), ("hardware-platform", 'i'),
      ("operating-system", 'o')] } fun o => withoutOperands c o do
  let isTold (l : Char) (text : String) : Bool :=
    if o.has 'a' then text != "unknown" else o.has l || (o.letters.isEmpty && l == 's')
  let told := machineFacts.filterMap fun (l, text) => if isTold l text then some text else none
  c.putText (" ".intercalate told ++ "\n")

def arch : Utility := fun c => c.withGrammar {} fun o => withoutOperands c o (c.putText "x86_64\n")

def hostname : Utility := fun c => c.withGrammar { flags := "sfid" } fun _ => c.putText "localhost\n"

def whoami : Utility := fun c => c.withGrammar {} fun o => withoutOperands c o (c.putText "root\n")

def logname : Utility := fun c => c.withGrammar {} fun o => withoutOperands c o do
  c.complain "no login name"
  return 1

def groups : Utility := fun c => c.withGrammar {} fun _ => c.putText "root\n"

def nproc : Utility := fun c => c.withGrammar {
    flags := "a", longValued := "i", long := [("all", 'a'), ("ignore", 'i')] } fun o =>
  withoutOperands c o (c.putText "1\n")

def tty : Utility := fun c => c.withGrammarOr 2 {
    flags := "s", long := [("silent", 's'), ("quiet", 's')] } fun o => do
  if o.has 's' then return 1 else c.putText "not a tty\n" 1

def sync : Utility := fun c => c.withGrammar {
    flags := "df", long := [("data", 'd'), ("file-system", 'f')] } fun o => do
  let mut code := 0
  for path in o.operands do
    match ← Task.look fun t here => (t.find here path).map fun _ => () with
    | .ok () => pure ()
    | .error e =>
      c.complain ("error opening " ++ quoted path ++ ": " ++ e.message)
      code := 1
  return code

def id : Utility := fun c => c.withGrammar {
    flags := "agGnruzZ"
    long := [("group", 'g'), ("groups", 'G'), ("name", 'n'), ("real", 'r'), ("user", 'u'), ("zero", 'z')] }
    fun o => do
  match o.operands.find? fun w => !(["root", "0"].contains (plain w)) with
  | some w =>
    c.complain (quoted w ++ ": no such user")
    return 1
  | none =>
    let one := o.has 'u' || o.has 'g' || o.has 'G'
    if !one && (o.has 'n' || o.has 'r') then
      c.complain "cannot print only names or real IDs in default format"
      return 1
    else
      let closing := if o.has 'z' then "\x00" else "\n"
      c.putText ((if !one then "uid=0(root) gid=0(root) groups=0(root)"
        else if o.has 'n' then "root" else "0") ++ closing)

/-! ## Time -/

/-- The text of a time as one of the usual formats asks for it. -/
def usualFormat? (kind : String) (word : Option ByteString) : Option String :=
  let precision := (word.map plain).getD "date"
  match kind with
  | "I" => match if precision.isEmpty then "date" else precision with
    | "date" => some "%Y-%m-%d"
    | "hours" => some "%Y-%m-%dT%H%:z"
    | "minutes" => some "%Y-%m-%dT%H:%M%:z"
    | "seconds" => some "%Y-%m-%dT%H:%M:%S%:z"
    | "ns" => some "%Y-%m-%dT%H:%M:%S,%N%:z"
    | _ => none
  | _ => match precision with
    | "date" => some "%Y-%m-%d"
    | "seconds" => some "%Y-%m-%d %H:%M:%S%:z"
    | "ns" => some "%Y-%m-%d %H:%M:%S.%N%:z"
    | _ => none

/-- Tells the time, or some other time, in a format. -/
def date : Utility := fun c => c.withGrammar {
    flags := "uR", valued := "drsf", attached := "I", longValued := "T"
    long := [("utc", 'u'), ("universal", 'u'), ("date", 'd'), ("reference", 'r'), ("set", 's'), ("file", 'f'),
      ("rfc-email", 'R'), ("iso-8601", 'I'), ("rfc-3339", 'T')] } fun o => do
  let now ← Task.look fun t _ => t.now
  let formats := o.operands.filter fun w => w.head? == some 43
  let others := o.operands.filter fun w => w.head? != some 43
  let format? : Except String String := match formats, o.has 'R', o.value? 'I', o.value? 'T' with
    | f :: _, _, _, _ => .ok (String.ofList (Format.chars (f.drop 1)))
    | [], true, _, _ => .ok "%a, %d %b %Y %H:%M:%S %z"
    | [], false, some w, _ => match usualFormat? "I" (some w) with
      | some f => .ok f
      | none => .error ("invalid argument " ++ quoted w ++ " for '--iso-8601'")
    | [], false, none, some w => match usualFormat? "T" (some w) with
      | some f => .ok f
      | none => .error ("invalid argument " ++ quoted w ++ " for '--rfc-3339'")
    | [], false, none, none => .ok "%a %b %e %H:%M:%S %Z %Y"
  match others, formats with
  | w :: _, _ =>
    if formats.isEmpty && (o.value? 'd').isNone && w.all fun b => 48 ≤ b && b ≤ 57 || b == 46 then
      c.complain "cannot set date: Operation not permitted"
      return 1
    else if formats.isEmpty && (o.value? 'd').isNone then
      c.complain ("invalid date " ++ quoted w)
      return 1
    else if formats.isEmpty then
      c.complain ("the argument " ++ plain w ++ " lacks a leading '+';")
      say "when using an option to specify date(s), any non-option"
      say "argument must be a format string beginning with '+'"
      say ("Try '" ++ c.program ++ " --help' for more information.")
      return 1
    else c.misuse ("extra operand " ++ quoted w)
  | [], _ :: extra :: _ => c.misuse ("extra operand " ++ quoted extra)
  | [], _ => match format? with
    | .error message => c.misuse message
    | .ok format =>
      let show_ (t : Int) : Task Nat := do
        let text := (Moment.ofNanos t).write format
        c.putBytes (Format.bytes text.toList ++ [10])
      match o.value? 'd' <|> o.value? 's', o.value? 'r' with
      | some w, _ => match Moment.read? now (Format.chars w) with
        | some t => show_ t
        | none =>
          c.complain ("invalid date " ++ quoted w)
          return 1
      | none, some path =>
        match ← Task.look fun t here => (t.find here path).map t.time with
        | .ok t => show_ t
        | .error e =>
          c.complain (plain path ++ ": " ++ e.message)
          return 1
      | none, none => match o.value? 'f' with
        | none => show_ now
        | some path => c.eachContent [path] fun _ data => do
          let mut code := 0
          for line in linesOf data.data.toList do
            match Moment.read? now (Format.chars line) with
            | some t => code := max code (← show_ t)
            | none =>
              c.complain ("invalid date " ++ quoted line)
              code := 1
          return code

end ModuleForge.Host.Utility
