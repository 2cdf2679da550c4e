import ModuleForge.Host.Native.Reader

/-!
# Symbols

The names by which functions and variables are found in a module. They tell the scopes and the types
of parameters; what was spelled before within a symbol is only referred to.
-/
namespace ModuleForge.Host.Native

/-- A scope as a symbol tells it. -/
inductive Component where
  | space (name : String)
  | record (id : Nat)
  | enum (id : Nat)
  /-- Within a function. -/
  | inner (n : Nat)
  deriving DecidableEq

/-- Spelling symbols: the state holds what can be referred to, if that is wanted. -/
abbrev Spell := StateT (Option (Array String)) Compile

namespace Spell

def source (name : String) : String := toString name.utf8ByteSize ++ name

def digit (n : Nat) : Char := if n < 10 then Char.ofNat (48 + n) else Char.ofNat (55 + n)

/-- A number in the digits and capital letters. -/
def base36 : Nat → Nat → List Char
  | 0, _ => []
  | fuel + 1, n => (if n < 36 then [] else base36 fuel (n / 36)) ++ [digit (n % 36)]

/-- The mark of the nth of some things. -/
def sequel (n : Nat) : String := if n = 0 then "_" else String.ofList (base36 12 (n - 1)) ++ "_"

/-- Refers to what was spelled before, or spells it and remembers it by its full spelling. -/
def shared (spell : Spell String) : Spell String := do
  match ← get with
  | none => spell
  | some table =>
    let key ← (spell.run' none : Compile String)
    match table.findIdx? (· == key) with
    | some i => return "S" ++ sequel i
    | none =>
      let s ← spell
      modify fun t => t.map (·.push key)
      return s

def operators : List (String × String) :=
  [(" new", "nw"), (" new[]", "na"), (" delete", "dl"), (" delete[]", "da"), ("~", "co"), ("+", "pl"),
   ("-", "mi"), ("*", "ml"), ("/", "dv"), ("%", "rm"), ("&", "an"), ("|", "or"), ("^", "eo"), ("=", "aS"),
   ("+=", "pL"), ("-=", "mI"), ("*=", "mL"), ("/=", "dV"), ("%=", "rM"), ("&=", "aN"), ("|=", "oR"),
   ("^=", "eO"), ("<<", "ls"), (">>", "rs"), ("<<=", "lS"), (">>=", "rS"), ("==", "eq"), ("!=", "ne"),
   ("<", "lt"), (">", "gt"), ("<=", "le"), (">=", "ge"), ("<=>", "ss"), ("!", "nt"), ("&&", "aa"),
   ("||", "oo"), ("++", "pp"), ("--", "mm"), (",", "cm"), ("->*", "pm"), ("->", "pt"), ("()", "cl"),
   ("[]", "ix")]

def unaryOperators : List (String × String) := [("+", "ps"), ("-", "ng"), ("*", "de"), ("&", "ad")]

/-- The name of an operator or a function; `unary` tells whether it has one operand. -/
def unqualified (name : String) (unary : Bool) : String :=
  let operator := String.ofList (name.toList.drop 8)
  if name.startsWith "operator\"\" " then "li" ++ source (String.ofList (name.toList.drop 11))
  else if name.startsWith "operator" && !(operator.toList.head?.any Token.continuesName) then
    let found := (if unary then unaryOperators.lookup operator else none) <|> operators.lookup operator
    found.getD (source name)
  else source name

/-- The scopes around something, outermost first. -/
def components : Nat → Nat → Compile (List Component)
  | 0, _ => return []
  | fuel + 1, id => do
    let s ← Compile.scope id
    let outer : Compile (List Component) := match s.parent with
      | some p => components fuel p
      | none => return []
    match s.kind with
    | .namespace_ name _ =>
      if s.parent.isNone then return []
      return (← outer) ++ [.space (if name == "" then "_GLOBAL__N_1" else name)]
    | .record r => return (← outer) ++ [.record r]
    | .enum e => return (← outer) ++ [.enum e]
    | .block => return [.inner id]
    | .template => outer

mutual

def type : Nat → Ty → Spell String
  | 0, _ => return "v"
  | fuel + 1, t => do
    match t with
    | .void => return "v"
    | .null => return "Dn"
    | .auto => return "Da"
    | .unknown => return "?"
    | .number k => return k.letter
    | .enum id =>
      let e ← Compile.getEnum id
      named fuel ((← components 64 e.parent) ++ [.enum id])
    | .record id =>
      let r ← Compile.getRecord id
      named fuel ((← components 64 r.parent) ++ [.record id])
    | .pointer t => shared (do return "P" ++ (← type fuel t))
    | .reference t passing => shared (do return (if passing then "O" else "R") ++ (← type fuel t))
    | .const t => shared (do return "K" ++ (← type fuel t))
    | .array t n => shared (do return "A" ++ toString n ++ "_" ++ (← type fuel t))
    | .openArray t | .sizedArray t _ => shared (do return "A_" ++ (← type fuel t))
    | .member owner t => shared (do return "M" ++ (← type fuel owner) ++ (← type fuel t))
    | .function r ps traits =>
      shared (do
        let result ← type fuel r
        let parameters ← types fuel ps
        return (if traits.isConst then "K" else "") ++ "F" ++ result
          ++ (if ps.isEmpty && !traits.variadic then "v" else parameters)
          ++ (if traits.variadic then "z" else "")
          ++ (if traits.reference = 1 then "R" else if traits.reference = 2 then "O" else "") ++ "E")
    | .hole i _ | .appliedHole i _ => shared (return "T" ++ sequel i)
    | .applied id as =>
      let t ← Compile.getTemplate id
      let comps ← components 64 t.main.scope
      let name : Spell String := do return (← path fuel comps) ++ source t.name
      let inner : Spell String := do
        let front ← if t.name == "allocator" && comps == [.space "std"] then pure "Sa" else shared name
        return front ++ "I" ++ (← arguments fuel as) ++ "E"
      if comps.length ≤ 1 && (comps.isEmpty || comps == [.space "std"]) then shared inner
      else return "N" ++ (← shared inner) ++ "E"

def types : Nat → List Ty → Spell String
  | 0, _ | _, [] => return ""
  | fuel + 1, t :: ts => do
    let front ← type fuel t
    return front ++ (← types fuel ts)

def argument : Nat → TypeArgument → Spell String
  | 0, _ => return ""
  | fuel + 1, a => do
    match a with
    | .type (.hole i true) => return "Dp" ++ (← type fuel (.hole i false))
    | .type t => type fuel t
    | .value n t =>
      let number := if n < 0 then "n" ++ toString n.natAbs else toString n
      return "L" ++ (← type fuel t) ++ number ++ "E"
    | .symbol name _ => return if name.startsWith "_Z" then "XadL" ++ name ++ "EE" else "XadL_Z" ++ source name ++ "EE"
    | .template id => return source (← Compile.getTemplate id).name
    | .pack items => return "J" ++ (← arguments fuel items) ++ "E"
    | .hole i _ => type fuel (.hole i false)
    | .unknown => return "?"

def arguments : Nat → List TypeArgument → Spell String
  | 0, _ | _, [] => return ""
  | fuel + 1, a :: as => do
    let front ← argument fuel a
    return front ++ (← arguments fuel as)

/-- The scopes down to one of them. -/
def path : Nat → List Component → Spell String
  | 0, _ => return ""
  | fuel + 1, comps => do
    match comps.getLast? with
    | none => return ""
    | some last =>
      if comps == [.space "std"] then return "St"
      let before := comps.dropLast
      match last with
      | .space name => shared (do return (← path fuel before) ++ source name)
      | .inner n => return source ("inner" ++ toString n)
      | .enum id => shared (do
          let front ← path fuel before
          return front ++ source (← Compile.getEnum id).name)
      | .record id =>
        let r ← Compile.getRecord id
        match r.template with
        | none => shared (do return (← path fuel before) ++ source r.name)
        | some (_, as) => shared (do
            let name : Spell String := do return (← path fuel before) ++ source r.name
            let front ← if r.name == "allocator" && before == [.space "std"] then pure "Sa" else shared name
            return front ++ "I" ++ (← arguments fuel as) ++ "E")

/-- The name of a type. -/
def named : Nat → List Component → Spell String
  | 0, _ => return ""
  | fuel + 1, comps => do
    let plain := comps.length ≤ 1 || (comps.length = 2 && comps.head? == some (.space "std"))
    if plain then path fuel comps
    else
      -- a reference to all of it needs no brackets
      let all ← path fuel comps
      let isReference := all.startsWith "S" && all.endsWith "_" && all.length ≤ 4
      return if isReference then all else "N" ++ all ++ "E"

end

def depth : Nat := 200

/-- A type as a text that tells it from all others. -/
def key (t : Ty) : Compile String := (type depth t).run' none

/-- The symbol of a variable. -/
def variable_ (name : String) (scope : Nat) (isInner : Bool) : Compile String := do
  let comps ← components 64 scope
  let mark := if isInner then "L" else ""
  if comps.isEmpty then return if isInner then "_ZL" ++ source name else name
  let inner : Spell String := do
    let front ← path depth comps
    if comps == [.space "std"] then return "_ZSt" ++ mark ++ source name
    return "_ZN" ++ front ++ mark ++ source name ++ "E"
  inner.run' (some #[])

/-- The types in the symbol of a function: those of its parameters, and for a template that of its
result before them. -/
def signature (result : Option Ty) (parameters : List (Ty × Bool)) (variadic : Bool) : Spell String := do
  let front ← match result with
    | some t => type depth t
    | none => pure ""
  let inner ← parameters.mapM fun (t, isPack) => do
    return (if isPack then "Dp" else "") ++ (← type depth t.plain)
  let inner := String.join inner ++ (if variadic then "z" else "")
  return front ++ (if inner == "" then "v" else inner)

/-- The symbol of a function. For one that was made from a template, `pattern` tells the types in
terms of its parameters. `kind` is the number of the constructor or destructor. -/
def function (f : Function) (kind : String) (pattern : Option (Ty × List (Ty × Bool))) : Compile String := do
  let comps ← components 64 f.scope
  let unary := f.parameters.length + (if f.owner.isSome && !f.isStatic then 1 else 0) = 1
  let spell : Spell String := do
    let own : Spell String := match f.role with
      | .constructor => return "C" ++ kind
      | .destructor => return "D" ++ kind
      | .conversion => do return "cv" ++ (← type depth f.result)
      | .ordinary =>
        return (if f.sight = .hidden && f.owner.isNone && !comps.contains (.space "_GLOBAL__N_1") then "L" else "")
          ++ unqualified f.name unary
    let name : Spell String := do
      let front ← path depth comps
      return front ++ (← own)
    let full ← match f.template with
      | none => name
      | some (_, as) => do
        let front ← shared name
        let isClass := f.role = .constructor
        let _ := isClass
        pure (front ++ "I" ++ (← arguments depth as) ++ "E")
    let traits := (if f.traits.isConst then "K" else "")
      ++ (if f.traits.reference = 1 then "R" else if f.traits.reference = 2 then "O" else "")
    let plain := comps.isEmpty || comps == [.space "std"]
    let entity := if plain then full else "N" ++ traits ++ full ++ "E"
    let types ← match f.template, pattern with
      | some _, some (result, parameters) =>
        signature (if f.role = .ordinary then some result else none) parameters f.traits.variadic
      | some _, none =>
        signature (if f.role = .ordinary then some f.result else none)
          (f.parameters.map fun p => (p.type, false)) f.traits.variadic
      | none, _ => signature none (f.parameters.map fun p => (p.type, false)) f.traits.variadic
    return "_Z" ++ entity ++ types
  spell.run' (some #[])

/-- The symbol of something that belongs to a class or a type: its table, or what tells its type. -/
def special (mark : String) (t : Ty) : Compile String := do
  return "_Z" ++ mark ++ (← (type depth t).run' (some #[]))

end Spell
end ModuleForge.Host.Native
