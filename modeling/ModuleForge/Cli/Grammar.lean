import ModuleForge.Text.Bytes
import ModuleForge.Text.Printable

/-!
# Reading command lines

A `Grammar` lists the options of a command and what becomes of the words that are none. Its
arguments are read one after the other (`Reading.step`). An option has its value behind `=`,
directly behind its letter, or in the next argument; that next argument must not look like an
option, unless the option takes such values. A value in an argument of its own is looked at when the
next option comes or when the arguments end.
-/
namespace ModuleForge.Cli

/-!
## Misuse of the command line

Why the arguments of a program are refused, and the texts that say so. A refused text is shown
without its control sequences.
-/

inductive UsageError where
  | unexpected (argument : String)
  | unexpectedValue (value option : String)
  | unknownCommand (name : String)
  | missingCommand (program : String) (commands : List String)
  /-- An option without its value; `choices` are the values that it may have, if they are few. -/
  | missingValue (option : String) (choices : List String)
  | invalidChoice (value option : String) (choices : List String)
  | invalidValue (value option reason : String)
  | repeated (option : String)
  | missingRequired (options : List String)
  | notText
  /-- A duration whose seconds do not fit into 64 bits once its parts are added up. -/
  | outOfRange
  /-- Nothing at all was asked for. -/
  | nothingAsked (about : String)
  /-- No mistake: the text that an option asks for. -/
  | announcement (text : String)
  deriving DecidableEq, Repr

/-- The line that lists the values an option may have. -/
def choiceLine (kind : String) (choices : List String) : String :=
  if choices.isEmpty then "" else "\n  [" ++ kind ++ ": " ++ ", ".intercalate choices ++ "]"

def UsageError.message : UsageError → String
  | unexpected argument => "error: unexpected argument '" ++ Text.plain argument ++ "' found"
  | unexpectedValue value option =>
    "error: unexpected value '" ++ Text.plain value ++ "' for '" ++ option
      ++ "' found; no more were expected"
  | unknownCommand name => "error: unrecognized subcommand '" ++ Text.plain name ++ "'"
  | missingCommand program commands =>
    "error: '" ++ program ++ "' requires a subcommand but one was not provided"
      ++ choiceLine "subcommands" commands
  | missingValue option choices =>
    "error: a value is required for '" ++ option ++ "' but none was supplied"
      ++ choiceLine "possible values" choices
  | invalidChoice value option choices =>
    "error: invalid value '" ++ Text.plain value ++ "' for '" ++ option ++ "'"
      ++ choiceLine "possible values" choices
  | invalidValue value option reason =>
    "error: invalid value '" ++ Text.plain value ++ "' for '" ++ option ++ "': " ++ reason
  | repeated option => "error: the argument '" ++ option ++ "' cannot be used multiple times"
  | missingRequired options =>
    "error: the following required arguments were not provided:"
      ++ String.join (options.map ("\n  " ++ ·))
  | notText => "error: invalid UTF-8 was detected in one or more arguments"
  -- an overflow is none of the caller's mistakes
  | outOfRange => ""
  | nothingAsked about => about
  | announcement text => text

/-! ## Options and their values -/

/-- Why a value does not suit an option. -/
inductive ValueFault where
  | missing
  | notText
  | notAmong (choices : List String)
  | unsuitable (reason : String)
  | outOfRange
  /-- Nothing is wrong: the option asks for a text, and for nothing else. -/
  | announcement (text : String)
  deriving DecidableEq, Repr

/-- An option of a command; `store` puts a value into what the arguments say. -/
structure Spec (ρ : Type) where
  /-- The name behind `--`; a positional argument has none. -/
  long : String
  short : Option Char := none
  /-- What the value is called; a switch has none. -/
  value : Option String
  /-- The values, if there are few. -/
  choices : List String := []
  repeats : Bool := false
  /-- Whether the next argument is the value whatever it looks like. -/
  takesHyphens : Bool := false
  /-- Whether the next argument may be a negative number. -/
  takesNegatives : Bool := false
  store : ByteString → ρ → Except ValueFault ρ

structure Grammar (ρ : Type) where
  options : List (Spec ρ)
  positional : Option (Spec ρ) := none
  /-- Names of commands, one of which ends the reading. -/
  commands : List String := []

/-- How messages show an option. -/
def Spec.shown (o : Spec ρ) : String :=
  match o.value with
  | none => "--" ++ o.long
  | some name =>
    if o.long.isEmpty then "<" ++ name ++ ">..." else "--" ++ o.long ++ " <" ++ name ++ ">"

/-- A value that is read first and then put into the record. -/
def stored (read : ByteString → Except ValueFault α) (set : α → ρ → ρ) :
    ByteString → ρ → Except ValueFault ρ :=
  fun v r => return set (← read v) r

/-- An option that asks for a text and for nothing else. -/
def Spec.announcing (long : String) (short : Char) (text : String) : Spec ρ where
  long := long
  short := some short
  value := none
  store := fun _ _ => .error (.announcement text)

/-- What a refused value comes to. -/
def Spec.refusal (o : Spec ρ) (value : ByteString) : ValueFault → UsageError
  | .missing => .missingValue o.shown o.choices
  | .notText => .notText
  | .notAmong choices =>
    if value.isEmpty then .missingValue o.shown choices
    else .invalidChoice (Text.lossy value) o.shown choices
  | .unsuitable reason => .invalidValue (Text.lossy value) o.shown reason
  | .outOfRange => .outOfRange
  | .announcement text => .announcement text

/-! ## Kinds of arguments -/

/-- What an argument looks like by itself. -/
inductive Shape where
  /-- `--`: everything behind it is positional. -/
  | terminator
  | long (name : ByteString) (value : Option ByteString)
  /-- One or more letters, and perhaps a value behind them. -/
  | short (letters : ByteString)
  | word
  deriving DecidableEq, Repr

/-- The text before the first `=` and the text behind it. -/
def splitAtEquals (bs : ByteString) : ByteString × Option ByteString :=
  let name := bs.takeWhile (· ≠ 61)
  match bs.drop name.length with
  | [] => (name, none)
  | _ :: value => (name, some value)

def Shape.of : ByteString → Shape
  | [45] => .word
  | [45, 45] => .terminator
  | 45 :: 45 :: rest =>
    let (name, value) := splitAtEquals rest
    .long name value
  | 45 :: rest => .short rest
  | _ => .word

/-- Whether what follows a hyphen is a number: digits, with one point and one exponent. -/
def isNumber (bs : ByteString) : Bool :=
  let rec go (first seenPoint seenE : Bool) : ByteString → Bool
    | [] => true
    | b :: rest =>
      if 48 ≤ b && b ≤ 57 then go false seenPoint seenE rest
      else if b = 46 && !seenPoint && !seenE && !first then go false true seenE rest
      else if b = 101 && !seenE && !first then !rest.isEmpty && go false seenPoint true rest
      else false
  go true false false bs

/-! ## Reading -/

/-- What the arguments so far have come to. -/
structure Reading (ρ : Type) where
  record : ρ
  /-- The options that may be given once, and were. -/
  given : List String := []
  /-- An option or the positional argument, with values that are still to be looked at. -/
  pending : Option (Spec ρ × List ByteString) := none
  /-- Whether the pending option still has no value. -/
  waiting : Bool := false
  trailing : Bool := false

namespace Reading

/-- Puts values into the record. -/
def storeAll (o : Spec ρ) : List ByteString → ρ → Except UsageError ρ
  | [], r => .ok r
  | v :: vs, r => do
    let r ← (o.store v r).mapError (o.refusal v)
    storeAll o vs r

/-- Takes up an option with its values. -/
def accept (st : Reading ρ) (o : Spec ρ) (values : List ByteString) :
    Except UsageError (Reading ρ) := do
  if o.value.isSome && values.isEmpty then throw (.missingValue o.shown o.choices)
  if !o.repeats && st.given.contains o.long then throw (.repeated o.shown)
  let values := if o.value.isNone then [[]] else values
  return { st with
    record := ← storeAll o values st.record
    given := if o.repeats then st.given else o.long :: st.given }

/-- Takes up what is pending. -/
def settle (st : Reading ρ) : Except UsageError (Reading ρ) :=
  match st.pending with
  | none => .ok st
  | some (o, values) => { st with pending := none, waiting := false }.accept o values

/-- Takes up an option with a value or without one. A value behind a switch is a mistake that counts
before one in what is pending. -/
def option (st : Reading ρ) (o : Spec ρ) (value : Option ByteString) :
    Except UsageError (Reading ρ) := do
  match o.value, value with
  | none, none => (← st.settle).accept o []
  | none, some v => throw (.unexpectedValue (Text.lossy v) o.shown)
  | some _, some v => (← st.settle).accept o [v]
  | some _, none => return { ← st.settle with pending := some (o, []), waiting := true }

/-- Takes up letters: switches, and at most one option with a value, which is the rest. -/
def letters (g : Grammar ρ) (st : Reading ρ) : List Text.Piece → Except UsageError (Reading ρ)
  | [] => .ok st
  | .broken bytes :: rest =>
    .error (.unexpected ("-" ++ Text.lossy (bytes ++ rest.flatMap Text.Piece.bytes)))
  | .char c :: rest =>
    match g.options.find? (·.short == some c) with
    | none => .error (.unexpected ("-" ++ c.toString))
    | some o =>
      if o.value.isNone then do
        letters g (← st.option o none) rest
      else
        match rest.flatMap Text.Piece.bytes with
        | [] => st.option o none
        | 61 :: value => st.option o (some value)
        | value => st.option o (some value)

/-- Takes up a word that belongs to no option. -/
def word (g : Grammar ρ) (st : Reading ρ) (a : ByteString) : Except UsageError (Reading ρ) :=
  match g.positional with
  | none =>
    let known := st.trailing && g.commands.any fun c => c.toUTF8.data.toList == a
    if known || g.commands.isEmpty then .error (.unexpected (Text.lossy a))
    else .error (.unknownCommand (Text.lossy a))
  | some p =>
    let add (st : Reading ρ) (values : List ByteString) : Reading ρ :=
      { st with pending := some (p, values ++ [a]), waiting := false }
    match st.pending with
    | some (o, values) =>
      if o.long = p.long then .ok (add st values) else return add (← st.settle) []
    | none => .ok (add st [])

/-- Takes up one argument. -/
def step (g : Grammar ρ) (st : Reading ρ) (a : ByteString) : Except UsageError (Reading ρ) := do
  if st.trailing then st.word g a
  else
    let awaited := if st.waiting then st.pending.map (·.1) else none
    let value : Except UsageError (Reading ρ) := match st.pending with
      | some (o, values) => .ok { st with pending := some (o, values ++ [a]), waiting := false }
      | none => st.word g a
    if awaited.any (·.takesHyphens) then value
    else match Shape.of a with
      | .terminator => return { st with trailing := true, waiting := false }
      | .long name attached =>
        match g.options.find? fun o => o.long.toUTF8.data.toList == name with
        | some o => st.option o attached
        | none => throw (.unexpected ("--" ++ Text.lossy name))
      | .short rest =>
        if awaited.any (·.takesNegatives) && isNumber rest then value
        else st.letters g (Text.pieces rest)
      | .word => if st.waiting then value else st.word g a

/-- Reads arguments up to their end or up to a command: its name, and the arguments behind it. -/
def readAll (g : Grammar ρ) (st : Reading ρ) :
    List ByteString → Except UsageError (Reading ρ × Option (String × List ByteString))
  | [] => .ok (st, none)
  | a :: rest =>
    let command := if st.waiting || st.trailing then none
      else g.commands.find? fun c => c.toUTF8.data.toList == a
    match command with
    | some name => .ok (st, some (name, rest))
    | none => do readAll g (← st.step g a) rest

end Reading

/-- What arguments without commands say. -/
def Grammar.parse (g : Grammar ρ) (start : ρ) (arguments : List ByteString) :
    Except UsageError ρ := do
  let (st, _) ← Reading.readAll g { record := start } arguments
  return (← st.settle).record

end ModuleForge.Cli
