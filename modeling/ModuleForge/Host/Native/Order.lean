import ModuleForge.Host.Native.Compiling
import ModuleForge.Host.Native.Options
import ModuleForge.Text.Bytes

/-!
# Orders

What the arguments of the compiler ask for: what to read and to write, how programs are to be read,
and what is an error.
-/
namespace ModuleForge.Host.Native

/-- What the arguments ask for. -/
structure Order where
  output : Option ByteString := none
  language : Option String := none
  /-- Whether to stop before linking. -/
  compileOnly : Bool := false
  /-- Whether to check the program and write nothing. -/
  checkOnly : Bool := false
  shared : Bool := false
  /-- Names to define, each as the line of a definition, and names to take back. -/
  definitions : List (Bool × String) := []
  includeDirs : List ByteString := []
  /-- Files that are read before the program. -/
  before : List String := []
  libraryDirs : List ByteString := []
  /-- Files with the languages that were in force for them, and libraries. -/
  inputs : List (ByteString × Option String) := []
  libraries : List String := []
  /-- The name of a standard. -/
  standard : Option String := none
  /-- What is asked for about warnings, without the first letters. -/
  warnings : List String := []
  isQuiet : Bool := false
  isPedantic : Bool := false
  hides : Bool := false
  /-- Whether the code is to be made better. -/
  optimizes : Bool := false

namespace Order

/-- The line of a definition: what stands behind `=` is put in, and 1 if there is nothing. -/
def definition (s : String) : String :=
  let name := s.toList.takeWhile (· ≠ '=')
  match s.toList.drop name.length with
  | [] => s ++ " 1"
  | _ :: body => String.ofList name ++ " " ++ String.ofList body

/-- An option with its value in the same argument or in the next one. -/
def valued? (letters : String) (a : String) (rest : List ByteString) : Option (String × List ByteString) :=
  if a == letters then match rest with
    | v :: rest => some (Text.lossy v, rest)
    | [] => none
  else if letters.toList.isPrefixOf a.toList then some (String.ofList (a.toList.drop letters.length), rest)
  else none

/-- Standards of a language, by their names, with their years. -/
def standards : Language → List (String × Nat)
  | .cpp => [("c++98", 1998), ("c++03", 1998), ("c++0x", 2011), ("c++11", 2011), ("c++1y", 2014), ("c++14", 2014),
      ("c++1z", 2017), ("c++17", 2017), ("c++2a", 2020), ("c++20", 2020), ("c++2b", 2023), ("c++23", 2023)]
  | .c => [("c89", 1990), ("c90", 1990), ("iso9899:1990", 1990), ("iso9899:199409", 1990), ("c99", 1999),
      ("c9x", 1999), ("iso9899:1999", 1999), ("c11", 2011), ("c1x", 2011), ("iso9899:2011", 2011), ("c17", 2017),
      ("c18", 2017), ("iso9899:2017", 2017), ("iso9899:2018", 2017), ("c2x", 2023)]

/-- The year of a standard under its name, which may be that of its wider form. -/
def year? (l : Language) (name : String) : Option Nat :=
  let plain := if "gnu".toList.isPrefixOf name.toList then "c" ++ String.ofList (name.toList.drop 3) else name
  (standards l).lookup plain

/-- Options with values that are put aside. -/
def aside? (a : String) (rest : List ByteString) : Option (List ByteString) :=
  if Options.valued.contains a then some (rest.drop 1) else none

/-- Takes up an option with a value. -/
def withValue (o : Order) (a : String) (rest : List ByteString) : Option (Order × List ByteString) :=
  let dir (letters : String) : Option (Order × List ByteString) :=
    (valued? letters a rest).map fun (v, rest) =>
      ({ o with includeDirs := o.includeDirs ++ [ByteString.ofText v] }, rest)
  let choices : List (Option (Order × List ByteString)) := [
    (valued? "-o" a rest).map fun (v, rest) => ({ o with output := some (ByteString.ofText v) }, rest),
    (valued? "-x" a rest).map fun (v, rest) => ({ o with language := if v == "none" then none else some v }, rest),
    (valued? "-D" a rest).map fun (v, rest) =>
      ({ o with definitions := o.definitions ++ [(true, definition v)] }, rest),
    (valued? "-U" a rest).map fun (v, rest) => ({ o with definitions := o.definitions ++ [(false, v)] }, rest),
    dir "-isystem", dir "-iquote", dir "-idirafter",
    (valued? "-include" a rest).map fun (v, rest) => ({ o with before := o.before ++ [v] }, rest),
    dir "-I",
    (valued? "-L" a rest).map fun (v, rest) =>
      ({ o with libraryDirs := o.libraryDirs ++ [ByteString.ofText v] }, rest),
    (valued? "-l" a rest).map fun (v, rest) => ({ o with libraries := o.libraries ++ [v] }, rest)]
  choices.findSome? id

def readWithin (o : Order) : Nat → List ByteString → Except String Order
  | 0, _ | _, [] => .ok o
  | fuel + 1, argument :: rest =>
    let a := Text.lossy argument
    let isAfter (start : String) : Option String :=
      if start.toList.isPrefixOf a.toList then some (String.ofList (a.toList.drop start.length)) else none
    match o.withValue a rest with
    | some (o, rest) => o.readWithin fuel rest
    | none => match a with
      | "-c" => { o with compileOnly := true }.readWithin fuel rest
      | "-shared" => { o with shared := true }.readWithin fuel rest
      | "-fsyntax-only" => { o with checkOnly := true, compileOnly := true }.readWithin fuel rest
      | "-w" => { o with isQuiet := true }.readWithin fuel rest
      | "-pedantic" => { o with warnings := o.warnings ++ ["pedantic"] }.readWithin fuel rest
      | "-pedantic-errors" => { o with isPedantic := true }.readWithin fuel rest
      | "-ansi" => { o with standard := some "ansi" }.readWithin fuel rest
      | "-fvisibility=hidden" | "-fvisibility=internal" => { o with hides := true }.readWithin fuel rest
      | "-fvisibility=default" | "-fvisibility=protected" => { o with hides := false }.readWithin fuel rest
      | _ => match aside? a rest, isAfter "-std=", isAfter "-fvisibility=" with
        | some rest, _, _ => o.readWithin fuel rest
        | _, some name, _ =>
          if [Language.c, .cpp].any fun l => (year? l name).isSome then
            { o with standard := some name }.readWithin fuel rest
          else .error ("unrecognized command-line option '" ++ a ++ "'")
        | _, _, some name => .error ("unrecognized visibility value '" ++ name ++ "'")
        | _, _, _ =>
          if a == "-" || !"-".toList.isPrefixOf a.toList then
            { o with inputs := o.inputs ++ [(argument, o.language)] }.readWithin fuel rest
          else if Options.isKnown a then
            let o := match isAfter "-Wl,", isAfter "-W", isAfter "-O" with
              | some _, _, _ => o
              | _, some name, _ => { o with warnings := o.warnings ++ [name] }
              | _, _, some level => { o with optimizes := level != "0" }
              | _, _, _ => o
            o.readWithin fuel rest
          else .error ("unrecognized command-line option '" ++ a ++ "'")

def read (arguments : List ByteString) : Except String Order :=
  Order.readWithin {} arguments.length arguments

/-! ## Warnings -/

/-- What is warned about if nothing is said. -/
def usual : Language → List String
  | .cpp => ["return-type", "delete-incomplete", "c++11-extensions", "cpp", "redefined", "div-by-zero"]
  | .c => ["implicit-function-declaration", "int-conversion", "incompatible-pointer-types", "return-mismatch",
      "excess-initializers", "compare-distinct-pointer-types", "cpp", "redefined", "div-by-zero"]

/-- Names that stand for several warnings. -/
def groups (l : Language) : List (String × List String) :=
  [("all", ["unused-variable", "return-type", "implicit-function-declaration", "unused-function"]
      ++ (if l = .cpp then ["sign-compare"] else [])),
   ("extra", ["unused-parameter", "sign-compare"]),
   ("", ["unused-parameter", "sign-compare"]),
   ("unused", ["unused-variable", "unused-function"]),
   ("implicit", ["implicit-function-declaration"])]

/-- Warnings that break a rule of the language. -/
def breaches : List String :=
  ["implicit-function-declaration", "int-conversion", "incompatible-pointer-types", "return-mismatch",
   "excess-initializers", "compare-distinct-pointer-types", "c++11-extensions", "redefined"]

/-- The warnings that are given, and those that are errors. -/
def warned (o : Order) (l : Language) : List String × List String :=
  let members (name : String) : List String := ((groups l).lookup name).getD [name]
  let step (acc : List String × List String × List String × Bool) (w : String) :
      List String × List String × List String × Bool :=
    let (given, fatal, mild, all) := acc
    let after (start : String) : Option String :=
      if start.toList.isPrefixOf w.toList then some (String.ofList (w.toList.drop start.length)) else none
    match after "no-error=", after "error=", after "no-" with
    | some x, _, _ => (given, fatal.filter (!(members x).contains ·), members x ++ mild, all)
    | _, some x, _ => (members x ++ given, members x ++ fatal, mild.filter (!(members x).contains ·), all)
    | _, _, some x =>
      if x == "error" then (given, fatal, mild, false)
      else (given.filter (!(members x).contains ·), fatal, mild, all)
    | _, _, _ => if w == "error" then (given, fatal, mild, true) else (members w ++ given, fatal, mild, all)
  let (given, fatal, mild, all) := o.warnings.foldl step (usual l, [], [], false)
  if o.isQuiet then ([], if o.isPedantic then breaches else [])
  else (given, given.filter (fun w => fatal.contains w || (all && !mild.contains w))
    ++ (if o.isPedantic then breaches else []))

/-- How a program in a language is to be read. -/
def reading (o : Order) (l : Language) : Reading :=
  let usualYear := 2017
  let standard := match o.standard with
    | some "ansi" => if l = .cpp then 1998 else 1990
    | some name => (year? l name).getD usualYear
    | none => usualYear
  let (warnings, fatal) := o.warned l
  { language := l, standard, hides := o.hides, warnings, fatal }

end Order
end ModuleForge.Host.Native
