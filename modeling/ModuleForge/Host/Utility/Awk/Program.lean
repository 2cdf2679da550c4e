import ModuleForge.Host.Utility.Expression

/-!
# Programs over records

The programs of `awk`: rules, each with a condition and what is done with the records for which it
holds, and functions. Names are resolved: a `Variable` is a place among those of the program or
among those of a call.
-/
namespace ModuleForge.Host.Utility.Awk

/-- A place for a value or a table. -/
inductive Variable where
  /-- One of the program. -/
  | shared (n : Nat)
  /-- One of a call. -/
  | own (n : Nat)
  deriving DecidableEq, Inhabited

inductive Arithmetic where
  | add | subtract | multiply | divide | remainder | power
  deriving DecidableEq

inductive Comparison where
  | less | lessOrEqual | equal | notEqual | greater | greaterOrEqual
  deriving DecidableEq

/-- What is known without being defined in a program. -/
inductive Builtin where
  | length | index | substr | split | match_ | sub | gsub | sprintf | sin | cos | atan2 | exp | log | sqrt
  | int | rand | srand | tolower | toupper | close | system | fflush | systime
  deriving DecidableEq

/-- Names of what is known, with the least and the largest number of arguments. -/
def Builtin.table : List (String × Builtin × Nat × Nat) := [
  ("length", .length, 0, 1), ("index", .index, 2, 2), ("substr", .substr, 2, 3), ("split", .split, 2, 3),
  ("match", .match_, 2, 2), ("sub", .sub, 2, 3), ("gsub", .gsub, 2, 3), ("sprintf", .sprintf, 1, 255),
  ("sin", .sin, 1, 1), ("cos", .cos, 1, 1), ("atan2", .atan2, 2, 2), ("exp", .exp, 1, 1), ("log", .log, 1, 1),
  ("sqrt", .sqrt, 1, 1), ("int", .int, 1, 1), ("rand", .rand, 0, 0), ("srand", .srand, 0, 1),
  ("tolower", .tolower, 1, 1), ("toupper", .toupper, 1, 1), ("close", .close, 1, 1), ("system", .system, 1, 1),
  ("fflush", .fflush, 0, 1), ("systime", .systime, 0, 0)]

inductive Term where
  | number (x : Float)
  | text (s : ByteString)
  /-- An expression between slashes. -/
  | pattern (e : Expression)
  | variable_ (v : Variable)
  | field (number : Term)
  | item (table : Variable) (keys : List Term)
  | assign (target : Term) (operation : Option Arithmetic) (value : Term)
  | choose (condition yes no : Term)
  | both (a b : Term)
  | either (a b : Term)
  | not (a : Term)
  | negate (a : Term)
  | plus (a : Term)
  | compute (operation : Arithmetic) (a b : Term)
  | compare (by_ : Comparison) (a b : Term)
  | join (a b : Term)
  | fits (a pattern : Term)
  | has (table : Variable) (keys : List Term)
  /-- Adds to a place; the value is that from before or from after it. -/
  | step (target : Term) (amount : Float) (after : Bool)
  /-- A term in parentheses. -/
  | group (a : Term)
  | call (function : Nat) (arguments : List Term)
  | apply (builtin : Builtin) (arguments : List Term)
  /-- The next record, from the main input, a file or the output of a command, into a place. -/
  | nextRecord (target : Option Term) (fromFile : Option Term) (fromCommand : Option Term)
  deriving Inhabited

/-- Where output goes. -/
inductive Target where
  | file (name : Term) (appends : Bool)
  | command (text : Term)

inductive Statement where
  | evaluate (e : Term)
  | print (values : List Term) (target : Option Target)
  | printf (values : List Term) (target : Option Target)
  | block (body : List Statement)
  | if_ (condition : Term) (yes no : List Statement)
  | while_ (condition : Term) (body : List Statement)
  | doWhile (body : List Statement) (condition : Term)
  | for_ (start : Option Term) (condition : Option Term) (step : Option Term) (body : List Statement)
  /-- For each key of a table. -/
  | forEach (key : Variable) (table : Variable) (body : List Statement)
  | break_ | continue_ | next | nextFile
  | exit (code : Option Term)
  | return_ (value : Option Term)
  | delete (table : Variable) (keys : Option (List Term))
  deriving Inhabited

/-- For which records a rule is. -/
inductive Condition where
  | always
  | holds (e : Term)
  /-- From a record for which the first holds to one for which the second does. -/
  | between (start stop : Term)

structure Rule where
  condition : Condition
  /-- Without a body, the record is printed. -/
  body : Option (List Statement)

structure Function where
  name : String
  parameters : Nat
  /-- Which of its places hold tables. -/
  tables : List Bool := []
  body : List Statement := []
  isDefined : Bool := false
  deriving Inhabited

structure Program where
  start : List (List Statement) := []
  rules : List Rule := []
  finish : List (List Statement) := []
  functions : Array Function := #[]
  /-- The names of the variables, by their numbers. -/
  names : Array String := #[]

/-- Variables with a meaning of their own come first. -/
def specialNames : List String := [
  "NF", "NR", "FNR", "FS", "OFS", "ORS", "RS", "SUBSEP", "FILENAME", "RSTART", "RLENGTH", "CONVFMT", "OFMT",
  "ENVIRON", "ARGC", "ARGV"]

namespace Special

def fieldCount : Nat := 0
def recordNumber : Nat := 1
def fileRecordNumber : Nat := 2
def fieldSeparator : Nat := 3
def outputFieldSeparator : Nat := 4
def outputRecordSeparator : Nat := 5
def recordSeparator : Nat := 6
def keySeparator : Nat := 7
def fileName : Nat := 8
def matchStart : Nat := 9
def matchLength : Nat := 10
def numberFormat : Nat := 11
def outputFormat : Nat := 12
def environment : Nat := 13
def argumentCount : Nat := 14
def arguments : Nat := 15

end Special
end ModuleForge.Host.Utility.Awk
