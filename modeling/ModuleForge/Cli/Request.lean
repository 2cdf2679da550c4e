import ModuleForge.Cli.Toolchain

/-!
# Requests

What a command line asks for: one of three jobs, the sources, and how to go about it. Two options
may stand before the name of the job or behind it; behind it they count more.
-/
namespace ModuleForge.Cli

inductive Format where
  | text
  | json
  deriving DecidableEq, Repr

/-- What a program can be asked to do with the module that it builds. -/
inductive Job where
  | build
  | call
  | probe
  deriving DecidableEq, Repr

namespace Job

def name : Job → String
  | build => "build"
  | call => "call"
  | probe => "probe"

def all : List Job := [build, call, probe]

end Job

/-- The options that do not depend on the job. -/
structure General where
  verbose : Bool := false
  format : Option Format := none
  deriving DecidableEq, Repr

/-- What stands behind the name of a job. -/
structure Details where
  general : General := {}
  files : List Path := []
  symbols : List String := []
  arguments : List Int := []
  toolchain : Toolchain := {}
  deriving DecidableEq, Repr

structure Request where
  job : Job
  verbose : Bool
  format : Format
  files : List Path
  /-- The names to look up; a call has one. -/
  symbols : List String
  arguments : List Int
  toolchain : Toolchain
  deriving DecidableEq, Repr

/-! ## Values -/

def program : String := "dynbuild"

def version : String := "0.1.0"

def about : String := "dynbuild - compile, link, load and call native code"

def asFormat (v : ByteString) : Except ValueFault Format :=
  match Text.text? v with
  | some "text" => .ok .text
  | some "json" => .ok .json
  | _ => .error (.notAmong ["text", "json"])

/-- Reads digits on behind the number `n` of 64 bits; the first fault counts. -/
def readDigits (negative : Bool) (n : Int) : List Char → Except String Int
  | [] => .ok n
  | c :: rest =>
    if !c.isDigit then .error "invalid digit found in string"
    else
      let digit : Int := c.toNat - '0'.toNat
      let n := if negative then n * 10 - digit else n * 10 + digit
      if n < -(2 ^ 63) then .error "number too small to fit in target type"
      else if 2 ^ 63 ≤ n then .error "number too large to fit in target type"
      else readDigits negative n rest

/-- Reads a whole number of 64 bits: digits behind an optional sign. -/
def readInteger (cs : List Char) : Except String Int :=
  match cs with
  | [] => .error "cannot parse integer from empty string"
  | ['-'] | ['+'] => .error "invalid digit found in string"
  | '-' :: rest => readDigits true 0 rest
  | '+' :: rest => readDigits false 0 rest
  | cs => readDigits false 0 cs

/-- A whole number of 32 bits. -/
def asInteger (v : ByteString) : Except ValueFault Int := do
  let n ← (readInteger (← Toolchain.asText v).toList).mapError .unsuitable
  if n < -(2 ^ 31) || 2 ^ 31 ≤ n then
    throw (.unsuitable (toString n ++ " is not in -2147483648..=2147483647"))
  return n

/-! ## Grammars -/

def generalOptions (on : (General → General) → ρ → ρ) : List (Spec ρ) :=
  [ { long := "verbose", short := some 'v', value := none
      store := fun _ r => .ok (on (fun g => { g with verbose := true }) r) },
    { long := "output", short := some 'o', value := some "OUTPUT", choices := ["text", "json"]
      store := stored asFormat fun f => on fun g => { g with format := some f } } ]

/-- The command that asks how the others are used. -/
def helpCommand : String := "help"

/-- How the program, or one of its jobs, is used. -/
def usage : Option Job → String
  | none => about ++ "\n\nUsage: " ++ program ++ " [OPTIONS] <COMMAND>"
  | some job => "Usage: " ++ program ++ " " ++ job.name ++ " [OPTIONS] <FILES>..."

/-- What may stand before the name of a job. -/
def generalGrammar : Grammar General where
  options := generalOptions id ++
    [Toolchain.helpOption (usage none), .announcing "version" 'V' (program ++ " " ++ version)]
  commands := Job.all.map Job.name ++ [helpCommand]

def filesSpec : Spec Details where
  long := ""
  value := some "FILES"
  repeats := true
  store := stored Toolchain.asPath fun p d => { d with files := d.files ++ [p] }

/-- The option that names symbols: one for a call, any number for a probe. -/
def symbolSpec? : Job → Option (Spec Details)
  | .build => none
  | job => some {
      long := "symbol", short := some 's', repeats := job = .probe
      value := some (if job = .probe then "SYMBOLS" else "SYMBOL")
      store := stored Toolchain.asText fun s d => { d with symbols := d.symbols ++ [s] } }

def argumentSpec? : Job → Option (Spec Details)
  | .call => some {
      long := "arg", value := some "ARGS", repeats := true, takesNegatives := true
      store := stored asInteger fun n d => { d with arguments := d.arguments ++ [n] } }
  | _ => none

def jobGrammar (job : Job) : Grammar Details where
  options := (symbolSpec? job).toList ++ (argumentSpec? job).toList
    ++ Toolchain.options (fun f d => { d with toolchain := f d.toolchain })
    ++ generalOptions (fun f d => { d with general := f d.general })
    ++ [Toolchain.helpOption (usage job)]
  positional := some filesSpec

/-! ## Reading -/

/-- The options without which a job cannot be done, as far as they are missing. -/
def missing (job : Job) (d : Details) : List String :=
  (if d.symbols.isEmpty then ((symbolSpec? job).map Spec.shown).toList else [])
    ++ if d.files.isEmpty then [filesSpec.shown] else []

/-- The answer to a question how commands are used: the words name at most one of them. -/
def helpOn : List ByteString → UsageError
  | [] => .announcement (usage none)
  | word :: more =>
    let known := generalGrammar.commands.find? fun c => c.toUTF8.data.toList == word
    match known, more with
    | none, _ => .unknownCommand (Text.lossy word)
    | some _, next :: _ => .unknownCommand (Text.lossy next)
    | some name, [] => .announcement (usage (Job.all.find? (·.name == name)))

/-- What the arguments of the program ask for. -/
def Request.parse (arguments : List ByteString) : Except UsageError Request := do
  let (st, command) ← Reading.readAll generalGrammar { record := {} } arguments
  match command with
  | none =>
    let st ← st.settle
    if st.given.isEmpty then throw (.nothingAsked about)
    else throw (.missingCommand program generalGrammar.commands)
  | some (name, rest) =>
    match Job.all.find? (·.name == name) with
    | none => throw (helpOn rest)
    | some job =>
      let d ← (jobGrammar job).parse {} rest
      match missing job d with
      | [] =>
        let general := (← st.settle).record
        return {
          job, verbose := general.verbose || d.general.verbose
          format := (d.general.format <|> general.format).getD .text
          files := d.files, symbols := d.symbols, arguments := d.arguments
          toolchain := d.toolchain }
      | options => throw (.missingRequired options)

end ModuleForge.Cli
