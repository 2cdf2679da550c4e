import ModuleForge.Host.Native.Headers.Algorithms
import ModuleForge.Host.Native.Headers.Containers
import ModuleForge.Host.Native.Headers.Foundation
import ModuleForge.Host.Native.Headers.Plain
import ModuleForge.Host.Native.Headers.Texts
import ModuleForge.Host.Native.Headers.Values
import ModuleForge.Host.Native.Image
import ModuleForge.Host.Native.Predefined
import ModuleForge.Host.Native.Unit
import ModuleForge.Host.Thread

/-!
# The compiler

The program that compiles a source to an object and links objects into a module, under its usual
names. An object holds the tokens of a program that has been checked; code is made of them when the
module is linked. Every program may include the headers; those with plain functions are there for
both languages.
-/
namespace ModuleForge.Host.Native

/-! ## Headers -/

namespace Headers

/-- The headers of the language with classes. -/
def ofClasses : List (String × String) :=
  foundation ++ containers ++ texts ++ algorithms ++ values

/-- The text of a header. -/
def find? (language : Language) (name : String) : Option String :=
  match language with
  | .c => plain.lookup name
  | .cpp => plain.lookup name <|> ofClasses.lookup name

end Headers

/-! ## Objects -/

namespace Object

/-- What every object starts with. -/
def mark : String := "checked unit"

/-- The sign between tokens of the program itself and those of headers. -/
def change : Char := Char.ofNat 30

/-- Tokens as a text that can be read again. Each change between the program and a header is marked;
only a text and the name behind it stand next to each other. -/
def write (ts : List Lexeme) : String :=
  (ts.foldl (fun (out, isOwn, (last : Option Token)) t =>
    let own : Bool := t.line != 0
    let isQuoted := match last with
      | some (.text ..) | some (.character ..) => true
      | _ => false
    let isWord := match t.token with
      | .word _ => true
      | _ => false
    let gap := if own != isOwn then " ".push change ++ " "
      else if isQuoted && isWord && !t.blank then "" else " "
    (out ++ gap ++ t.token.write, own, some t.token)) ("", true, none)).1

/-- The tokens of a text. -/
def read (text : String) : List Lexeme :=
  let parts := text.splitOn (String.singleton change)
  ((List.range parts.length).zip parts).flatMap fun (k, part) =>
    Lexeme.readLine (if k % 2 = 0 then 1 else 0) part.toList

/-- The object of a program. -/
def ofProgram (r : Reading) (ts : List Lexeme) : String :=
  String.intercalate "\n" [mark, r.language.name, toString r.standard, if r.hides then "hidden" else "shown", write ts]

/-- The code in an object. -/
def unit? (data : ByteArray) : Option CodeUnit := do
  let text ← String.fromUTF8? data
  match text.splitOn "\n" with
  | first :: language :: standard :: hides :: rest =>
    if first != mark then none
    let reading : Reading := {
      language := ← Language.ofName? language
      standard := ← standard.toNat?
      hides := hides == "hidden" }
    let unit ← (CoreUnit.compile reading (read ("\n".intercalate rest))).toOption
    return .ofCore unit
  | _ => none

end Object

/-! ## Compiling -/

/-- The name of a file that a name in a program means, as it is seen from a directory. -/
def pathIn (dir : ByteString) (name : String) : ByteString :=
  let bytes := ByteString.ofText name
  if dir.isEmpty || bytes.head? = some Path.separator then bytes else dir ++ Path.separator :: bytes

/-- Finds the files that a program includes: beside the including file, in directories, and among
the headers that every program may include. -/
def finder (l : Language) (dirs : List ByteString) (t : FileTree) (here : Nat) : Prepare.Finder :=
  fun before name near =>
    let beside := ((Path.parent? ⟨ByteString.ofText before⟩).map (·.bytes)).getD []
    let paths := (if near then [pathIn beside name] else []) ++ dirs.map (pathIn · name)
    let file := paths.findSome? fun p => match t.node? =<< (t.find here p).toOption with
      | some (.file data) => some { name := Text.lossy p, text := Text.lossyData data : Included }
      | _ => none
    file <|> (Headers.find? l name).map fun text => { name := "/usr/include/" ++ name, text, isKnown := true }

/-- Says what is wrong, and gives the exit code for it. -/
def complain (program message : String) : Task Nat := do
  let _ ← Task.writeAll 2 (program ++ ": error: " ++ message ++ "\n").toUTF8
  return 1

/-- How long compiling a source takes. -/
def workTime : Nat := 30000000

/-- A file's contents, or what is wrong with it. -/
def readInput (path : ByteString) : Task (Except Errno ByteArray) := do
  if path = ByteString.ofText "-" then Task.readAll 0
  else match ← Task.openFile path .read with
    | .error e => return .error e
    | .ok fd =>
      let data ← Task.readAll fd
      let _ ← Task.close fd
      return data

/-- Writes a file anew. -/
def writeOutput (program : String) (path : ByteString) (data : ByteArray) : Task Nat := do
  let _ ← Task.change fun t here => t.unlink here path
  match ← Task.openFile path .write with
  | .error e => complain program ("cannot create " ++ Text.lossy path ++ ": " ++ e.message)
  | .ok fd => match ← Task.writeAll fd data with
    | .error e => complain program (Text.lossy path ++ ": " ++ e.message)
    | .ok () => return 0

/-- The language of a file by the end of its name. -/
def languageOfName? (path : ByteString) : Option String :=
  let ending := ((Text.lossy path).splitOn ".").getLastD ""
  if ending == "c" then some "c"
  else if ["cpp", "cc", "cxx", "C", "c++", "cp", "CPP"].contains ending then some "c++"
  else none

/-- The object of a program's text. -/
def objectOf (o : Order) (l : Language) (find : Prepare.Finder) (text : String) : Except String String := do
  let r := o.reading l
  let definitions := (Predefined.all o r).map (true, ·) ++ o.definitions
  let before := String.join (o.before.map fun f => "#include \"" ++ f ++ "\"\n#line 1\n")
  let p ← Prepared.read find definitions (before ++ text)
  if r.fatal.any p.warnings.contains then throw "a warning is treated as an error"
  let _ ← CoreUnit.compile r p.tokens
  return Object.ofProgram r p.tokens

/-- Compiles one source. -/
def compileOne (program : String) (o : Order) (path : ByteString) (language : Option String) :
    Task Nat := do
  let some name := language <|> languageOfName? path
    | complain program "-E or -x required when input is from standard input"
  let some language := Language.ofName? name
    | complain program ("language " ++ name ++ " not recognized")
  match ← readInput path with
  | .error e => complain program (Text.lossy path ++ ": " ++ e.message)
  | .ok data =>
    Task.spend workTime
    let find ← Task.look (finder language o.includeDirs)
    match objectOf o language find (Text.lossyData data) with
    | .error message => complain "<stdin>:1:1" message
    | .ok text =>
      if o.checkOnly then return 0
      else writeOutput program (o.output.getD (ByteString.ofText "a.o")) text.toUTF8

/-! ## Linking -/

/-- The libraries that can be named in linking. -/
def knownLibraries : List String := ["c", "m", "stdc++", "pthread", "dl", "rt", "gcc", "gcc_s", "util", "resolv"]

/-- Reads the objects in order, up to the first that is none. -/
def readObjects : List ByteString → Task (Except String (List CodeUnit))
  | [] => return .ok []
  | path :: paths => do
    match ← readInput path with
    | .error e => return .error ("cannot find " ++ Text.lossy path ++ ": " ++ e.message)
    | .ok data => match Object.unit? data with
      | none => return .error (Text.lossy path ++ ": file format not recognized")
      | some unit => return (← readObjects paths).map (unit :: ·)

def link (program : String) (o : Order) : Task Nat := do
  Task.spend workTime
  match o.libraries.find? fun l => !knownLibraries.contains l with
  | some l => complain program ("cannot find -l" ++ l)
  | none =>
    if !o.shared then complain program "undefined reference to 'main'"
    else match ← readObjects (o.inputs.map (·.1)) with
      | .error message => complain program message
      | .ok units =>
        let needed := if program.endsWith "++" then ["libstdc++.so.6", "libm.so.6", "libc.so.6"]
          else ["libc.so.6"]
        match moduleFile units needed with
        | .error names =>
          complain program ("multiple definition of '" ++ ", ".intercalate names ++ "'")
        | .ok data => writeOutput program (o.output.getD (ByteString.ofText "a.out")) data

/-! ## The program -/

/-- The names of the program. -/
def programNames : List String := ["c++", "g++", "cc", "gcc"]

/-- Runs the program, which is called by one of its names. -/
def run (program : String) (arguments : List ByteString) : Task Nat := do
  match Order.read (arguments.drop 1) with
  | .error message => complain program message
  | .ok o =>
    if o.compileOnly then match o.inputs with
      | [] => complain program "no input files"
      | [(path, language)] => compileOne program o path language
      | _ => complain program "cannot specify -o with -c with multiple files"
    else if o.inputs.isEmpty && o.libraries.isEmpty then complain program "no input files"
    else link program o

end ModuleForge.Host.Native
