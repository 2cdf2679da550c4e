import ModuleForge.Text.Printable
import ModuleForge.Text.Letter
import ModuleForge.Text.Quoted

/-!
# The log

Events have a level, the part of the program that they come from, a message and fields. A `Filter`
is a list of directives, each a bound on the level for the parts whose name starts with its prefix,
perhaps only for events with a certain field; the directive that says most of those that concern an
event decides. `Logging σ` is a state that takes events.
-/
namespace ModuleForge

/-- How grave an event is, and how much of that a directive lets pass. -/
inductive Level where
  | off
  | error
  | warn
  | info
  | debug
  | trace
  deriving DecidableEq, Repr

namespace Level

def rank : Level → Nat
  | off => 0
  | error => 1
  | warn => 2
  | info => 3
  | debug => 4
  | trace => 5

def label : Level → String
  | off => "OFF"
  | error => "ERROR"
  | warn => "WARN"
  | info => "INFO"
  | debug => "DEBUG"
  | trace => "TRACE"

def all : List Level := [off, error, warn, info, debug, trace]

/-- The rank that digits say; a plus may stand before them. -/
def rank? (s : String) : Option Nat :=
  let digits := match s.toList with
    | '+' :: rest => rest
    | cs => cs
  if digits.isEmpty || !digits.all Char.isDigit then none
  else some (digits.foldl (fun n c => n * 10 + (c.toNat - '0'.toNat)) 0)

/-- A level by its name, in any case, or by its rank. -/
def ofName? (s : String) : Option Level :=
  all.find? fun l => l.label.toLower == s.toLower || rank? s == some l.rank

end Level

structure Event where
  level : Level
  part : String
  message : String
  fields : List (String × String) := []
  deriving DecidableEq, Repr

/-- The line that shows an event: the level set right in five places, the part, the message and the
fields. -/
def Event.line (e : Event) : String :=
  let label := e.level.label
  String.ofList (List.replicate (5 - label.length) ' ') ++ label ++ " " ++ e.part ++ ": "
    ++ e.message
    ++ String.join (e.fields.map fun (k, v) => " " ++ k ++ "=" ++ v)

/-- The names of an event's fields, of which its message is one. -/
def Event.fieldNames (e : Event) : List String := "message" :: e.fields.map (·.1)

/-- A state that takes events. -/
class Logging (σ : Type) where
  log : Event → σ → σ

/-- Logs an event in the state. -/
def log [MonadState σ m] [Logging σ] (e : Event) : m PUnit := modify (Logging.log e)

namespace Log

/-- A bound on the level of events from the parts that start with `part`, and only of those that
have the field, if one is named. -/
structure Directive where
  part : String
  field : Option String := none
  level : Level
  deriving DecidableEq, Repr

/-- Directives, those that say more first. -/
structure Filter where
  directives : List Directive
  deriving Repr

/-! ## Reading -/

/-- What the reader of a directive is in, and where that began; offsets count bytes. -/
inductive Stage where
  | start
  /-- In a level or the name of a part. -/
  | word
  /-- In brackets, in the name of a span. -/
  | span (start : Nat)
  /-- In braces, in the name of a field or the value behind it. -/
  | field (start : Nat)
  | behindFields
  | behindSpan
  | level (start : Nat)
  deriving DecidableEq, Repr

/-- What a directive has said so far. -/
structure Draft where
  part : String := ""
  inSpan : Bool := false
  field : Option String := none
  level : Level := .trace

/-- Whether what was said can hold of an event outside every span: it names no span, and no value of
a field. -/
def Draft.directive? (d : Draft) : Option Directive :=
  if d.inSpan then none
  else if d.field.any (·.contains '=') then none
  else some { part := d.part, field := d.field, level := d.level }

/-- A text from one offset up to another, which must not be inside a character. -/
def cut? (text : ByteArray) (start stop : Nat) : Option String :=
  String.fromUTF8? (text.extract start stop)

/-- A level by its name, or every level if there is no name. -/
def levelOrAll? (name : String) : Option Level :=
  if name.isEmpty then some .trace else Level.ofName? name

/-- Reads a directive on. Offsets count from the first character that is no white space, while the
pieces are cut from the whole `text`. -/
def Draft.read? (text : ByteArray) (d : Draft) (stage : Stage) (offset : Nat) :
    List Char → Option Draft
  | [] =>
    match stage with
    | .word => do
      let word ← cut? text 0 text.size
      match Level.ofName? word with
      | some level => some { d with level := level }
      | none => some { d with part := word }
    | .level start => do
      let level ← levelOrAll? (← cut? text start text.size)
      some { d with level := level }
    | .behindSpan => some d
    | _ => none
  | c :: rest => do
    let next := offset + c.utf8Size
    match stage with
    | .start =>
      if c = '[' then read? text d (.span next) next rest
      else if c = '-' || c = ':' || c = '_' || Text.isAlphanumeric c then
        read? text d .word next rest
      else none
    | .word =>
      if c = '=' then read? text { d with part := ← cut? text 0 offset } (.level next) next rest
      else if c = '[' then
        read? text { d with part := ← cut? text 0 offset } (.span next) next rest
      else read? text d .word next rest
    | .span start =>
      if c = ']' then read? text { d with inSpan := true } .behindSpan next rest
      else if c = '{' then
        read? text { d with inSpan := start ≠ offset } (.field next) next rest
      else read? text d (.span start) next rest
    | .field start =>
      if c = '}' then
        if start = offset then none
        else read? text { d with field := some (← cut? text start offset) } .behindFields next rest
      else read? text d (.field start) next rest
    | .behindFields => if c = ']' then read? text d .behindSpan next rest else none
    | .behindSpan => if c = '=' then read? text d (.level next) next rest else none
    | .level start => read? text d (.level start) next rest

/-- Reads one directive: a level; or a part, a span or a field in brackets, and behind `=` a level,
without which every event passes. -/
def Draft.parse? (s : String) : Option Draft :=
  Draft.read? s.toUTF8 {} .start 0 (Text.trim s).toList

/-- The parts between commas that are not empty. -/
def items (s : String) : List String := (s.splitOn ",").filter (· ≠ "")

/-! ## Filters -/

/-- How much a directive says. -/
def Directive.weight (d : Directive) : Nat × Nat :=
  (d.part.utf8ByteSize, if d.field.isSome then 1 else 0)

/-- Whether a directive stands before another: it says more, or the same of what comes later in the
order of names. -/
def Directive.before (d e : Directive) : Bool :=
  let (a, b) := d.weight
  let (a', b') := e.weight
  if a ≠ a' then a' < a
  else if b ≠ b' then b' < b
  else if d.part ≠ e.part then e.part < d.part
  else e.field.getD "" < d.field.getD ""

/-- Puts a directive in its place; one for the same events is replaced. -/
def insert (d : Directive) : List Directive → List Directive
  | [] => [d]
  | e :: es =>
    if d.part == e.part && d.field == e.field then d :: es
    else if d.before e then d :: e :: es
    else e :: insert d es

/-- A filter from its directives. -/
def Filter.ofDirectives (ds : List Directive) : Filter :=
  ⟨ds.foldl (fun acc d => insert d acc) []⟩

/-- The filter that lets pass what is at least as grave. -/
def Filter.upTo (level : Level) : Filter := ofDirectives [{ part := "", level := level }]

/-- A filter from what its directives say; if they say nothing at all, errors pass. -/
def Filter.ofDrafts (ds : List Draft) : Filter :=
  if ds.isEmpty then upTo .error else ofDirectives (ds.filterMap Draft.directive?)

/-- Reads a filter, every directive of which must be readable. -/
def Filter.parse? (s : String) : Option Filter :=
  ((items s).mapM Draft.parse?).map Filter.ofDrafts

/-- Reads a filter, leaving out what is not readable. -/
def Filter.parseLenient (s : String) : Filter :=
  Filter.ofDrafts ((items s).filterMap Draft.parse?)

/-- Whether a directive is about an event. -/
def Directive.concerns (d : Directive) (e : Event) : Bool :=
  d.part.isPrefixOf e.part && d.field.all e.fieldNames.contains

/-- Whether an event passes. -/
def Filter.passes (f : Filter) (e : Event) : Bool :=
  match f.directives.find? (·.concerns e) with
  | none => false
  | some d => e.level.rank ≤ d.level.rank

end Log

/-! ## Parts, as log lines name them -/
namespace Part

def builder : String := "dynbuild_lib::builder"
def compiler : String := "dynbuild_lib::compiler"
def linker : String := "dynbuild_lib::linker"
def library : String := "dynbuild_lib::library"
def process : String := "dynbuild_lib::process"
def config : String := "dynbuild_lib::config"
def command : String := "dynbuild::cmd"

end Part
end ModuleForge
