import ModuleForge.Host.Native.Directive
import ModuleForge.Host.Native.Prelude
import ModuleForge.Host.Native.Statement

/-!
# Units

Reads a whole program, and gathers what it contributes to a module: the functions and variables that
others may use, and all that these need.
-/
namespace ModuleForge.Host.Native

/-! ## The reader -/

/-- The parts of the reader, which may call each other so many times within each other. -/
def Grammar.upTo : Nat → Grammar
  | 0 => default
  | depth + 1 =>
    let g := Grammar.upTo depth
    { expression := Compile.expression g
      assignment := Compile.assignment g
      operand := Compile.operand g
      statement := Compile.statement g
      declaration := Compile.declaration g
      specifiers := Compile.specifiers g
      declarator := Compile.declarator g
      typeName := Compile.typeName g
      makeFunction := Compile.makeFunction g
      instantiate := Compile.instantiate g
      complete := Compile.complete g
      construct := Compile.construct g
      convert := Compile.convert g
      distance := Compile.distance g
      select := Compile.select g
      callFunctions := Compile.callFunctions g
      classBody := Compile.classBody g }

/-- The reader of programs. -/
def Grammar.whole : Grammar := Grammar.upTo 1200

namespace Compile

/-- Reads declarations up to the end. -/
def unitWithin (g : Grammar) : Nat → Compile Unit
  | 0 => fail "program is too long"
  | fuel + 1 => do
    match (← get).tokens with
    | [] => return
    | t :: _ =>
      modify fun s => { s with isOwn := t.line ≠ 0 }
      g.declaration
      unitWithin g fuel

/-- Reads the bodies of functions that are waited for. -/
def settleWaiting (g : Grammar) : Nat → Compile Unit
  | 0 => fail "too many functions"
  | fuel + 1 => do
    match (← get).waiting with
    | [] => return
    | id :: rest =>
      modify fun s => { s with waiting := rest }
      g.makeFunction id
      settleWaiting g fuel

/-- Reads the bodies of all functions that are used, whether or not they were known before. -/
def settleUsed (g : Grammar) : Nat → Compile Unit
  | 0 => return
  | fuel + 1 => do
    settleWaiting g 1000000
    let late := (← get).functions.toList.zip (List.range (← get).functions.size) |>.filter fun (f, _) =>
      f.isUsed && f.stage ≠ .made && f.given ≠ .deleted && (f.body.isSome || f.given = .byDefault)
    if late.isEmpty then return
    for (_, id) in late do g.makeFunction id
    settleUsed g fuel

/-- Reads a program. -/
def unit (g : Grammar) (ts : List Lexeme) : Compile Unit := do
  let isCpp ← isCpp
  let before := Lexeme.readLine 0 (Prelude.common ++ (if isCpp then Prelude.exceptions else "")).toList
  setTokens before
  unitWithin g 1000000
  setTokens ts
  unitWithin g 10000000
  settleUsed g 1000
  let s ← get
  if s.reading.fatal.any s.warnings.contains then fail "a warning is treated as an error"

end Compile

/-! ## What a unit needs -/

mutual

/-- The symbols that a value names, before those that are known already. -/
def Core.symbols : Nat → Core → List String → List String
  | 0, _, known => known
  | fuel + 1, c, known => match c with
    | .symbol name => name :: known
    | .load _ a | .unary _ _ a | .convert _ _ a | .clear a _ | .reserve a => a.symbols fuel known
    | .store _ a b | .binary _ _ a b | .first a b | .copy a b _ => a.symbols fuel (b.symbols fuel known)
    | .call f arguments _ _ => f.symbols fuel (arguments.foldr (fun (_, a) acc => a.symbols fuel acc) known)
    | .choose a b c => a.symbols fuel (b.symbols fuel (c.symbols fuel known))
    | .steps before value => before.foldr (fun s acc => s.symbols fuel acc) (value.symbols fuel known)
    | .nothing | .number .. | .real .. | .frame _ | .label _ | .framePointer => known

def Step.symbols : Nat → Step → List String → List String
  | 0, _, known => known
  | fuel + 1, s, known => match s with
    | .value a | .unless a _ | .leave _ a => a.symbols fuel known
    | .leap a b => a.symbols fuel (b.symbols fuel known)
    | .label _ | .jump _ | .landing => known

end

/-- The symbols that a function names. -/
def CoreFunction.symbols (f : CoreFunction) : List String :=
  (f.body.foldr (fun s acc => s.symbols 100000 acc) []).eraseDups

namespace Compiling

/-- All symbols that some need, with those that these need. -/
def reach (s : Compiling) : Nat → List String → Std.HashMap String Unit → Std.HashMap String Unit
  | 0, _, seen => seen
  | _, [], seen => seen
  | fuel + 1, name :: rest, seen =>
    if seen.contains name then s.reach fuel rest seen
    else
      let inner := match s.finished[name]? with
        | some f => f.symbols
        | none => match s.data[name]? with
          | some (_, d) => d.addresses.map fun (_, n, _) => n
          | none => []
      let inner := inner ++ (s.aliases.filter (fun (n, _, _) => n == name)).map fun (_, _, target) => target
      s.reach fuel (inner ++ rest) (seen.insert name ())

/-- Whether a function is kept even if nothing in the unit uses it. -/
def isRoot (s : Compiling) (symbol : String) : Bool :=
  match s.functionOfSymbol[symbol]? with
  | none => false
  | some id => match s.functions[id]? with
    | none => false
    | some f =>
      if f.sight = .hidden || f.given = .byDefault || f.template.isSome then false
      else match s.reading.language with
        | .c => !f.isInline
        | .cpp => f.sight = .shown || (f.isOwn && !f.isInline)

/-- The other names of constructors and destructors. -/
def secondNames (s : Compiling) (kept : String → Bool) : List (String × Sight × String) :=
  s.finishedOrder.reverse.filterMap fun symbol => do
    let id ← s.functionOfSymbol[symbol]?
    let f ← s.functions[id]?
    if !kept symbol || !f.isOwn then none
    match f.role with
    | .constructor | .destructor =>
      match ((Spell.function f "2" none).run s).toOption with
      | some (name, _) => if name == symbol || f.template.isSome then none else some (name, f.sight, symbol)
      | none => none
    | _ => none

/-- What the unit contributes. -/
def result (s : Compiling) : CoreUnit :=
  let isC := s.reading.language = .c
  let functionRoots := s.finishedOrder.filter s.isRoot
  let placed := s.variableTable.toList.filterMap fun v => match v.location with
    | .symbol name => some (name, v)
    | .frame .. => none
  let shared := placed.filter fun (_, v) => v.isInline
  let dataRoots := s.dataOrder.filter fun name => match s.data[name]? with
    | some (sight, _) => sight = .shown || (sight ≠ .hidden && placed.any (·.1 == name) && !shared.any (·.1 == name))
    | none => false
  let roots := functionRoots ++ dataRoots ++ s.first ++ s.last ++ s.roots ++ s.aliases.map (fun (n, _, _) => n)
  let kept := s.reach 10000000 roots {}
  let external (symbol : String) : Bool := isC && match s.functionOfSymbol[symbol]? with
    | some id => (s.functions[id]?).any fun f => f.isInline && f.sight = .shown
    | none => false
  let functions := s.finishedOrder.reverse.filterMap fun name =>
    if !kept.contains name || external name then none
    else (s.finished[name]?).map fun f =>
      let sight := match s.functionOfSymbol[name]? with
        | some id => ((s.functions[id]?).map (·.sight)).getD .hidden
        | none => if name.startsWith "_ZThn" then .sharedHidden else .hidden
      (name, sight, f)
  let data := s.dataOrder.reverse.filterMap fun name =>
    if !kept.contains name then none
    else (s.data[name]?).map fun (sight, d) => (name, sight, d)
  { functions, data
    aliases := s.aliases ++ s.secondNames kept.contains
    first := s.first, last := s.last
    maybe := s.functions.toList.filterMap fun f =>
      if f.sight = .shared && !f.isInline && f.template.isNone && f.body.isNone then some f.symbol else none }

end Compiling

/-- Reads a program, and tells what it contributes to a module. -/
def CoreUnit.compile (reading : Reading) (ts : List Lexeme) : Except String CoreUnit := do
  let ((), s) ← (Compile.unit Grammar.whole ts).run { reading }
  return s.result

end ModuleForge.Host.Native
