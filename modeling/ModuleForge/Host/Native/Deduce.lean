import ModuleForge.Host.Native.Convert
import ModuleForge.Host.Native.Declarator

/-!
# Arguments of templates that follow from values

Finds the arguments with which the parameters of a function's template have the types of the values
that are passed, by laying the types as they are written over those of the values.
-/
namespace ModuleForge.Host.Native.Compile

/-- What was found for the parameters of a template. -/
abbrev Matching := Array (Option TypeArgument)

/-- Puts an argument down for a parameter, if it agrees with what was found before. -/
def settle (m : Matching) (i : Nat) (a : TypeArgument) : Option Matching :=
  match m[i]? with
  | some none => some (m.set! i (some a))
  | some (some b) =>
    match a, b with
    | .value x _, .value y _ => if x == y then some m else none
    | a, b => if a == b then some m else none
  | none => some m

/-- The number of a parameter that stands for any number of types, within a type. -/
def packHole? : Nat → Ty → Option Nat
  | 0, _ => none
  | fuel + 1, t => match t with
    | .hole i true => some i
    | .pointer t | .reference t _ | .const t | .array t _ => packHole? fuel t
    | .applied _ as | .appliedHole _ as => as.findSome? fun
      | .type t => packHole? fuel t
      | _ => none
    | .function r ps _ => (packHole? fuel r) <|> ps.findSome? (packHole? fuel)
    | _ => none

mutual

/-- Lays a type with holes over a type; a loose fit lets the pattern be more constant than the
type. -/
def unify : Nat → Bool → Ty → Ty → Matching → Compile (Option Matching)
  | 0, _, _, _, _ => return none
  | fuel + 1, loose, p, a, m => do
    match p, a with
    | .hole i _, a => return settle m i (.type a)
    | .unknown, _ => return some m
    | .const p, .const a => unify fuel loose p a m
    | .const p, a => if loose then unify fuel loose p a m else return none
    | .pointer p, .pointer a => unify fuel loose p a m
    | .pointer p, .const (.pointer a) => if loose then unify fuel loose p a m else return none
    | .reference p x, .reference a y => if x == y then unify fuel loose p a m else return none
    | .array p x, .array a y => if x == y then unify fuel loose p a m else return none
    | .openArray p, .openArray a => unify fuel loose p a m
    | .openArray p, .array a _ => if loose then unify fuel loose p a m else return none
    | .member p x, .member a y => do
      match ← unify fuel false p a m with
      | some m => unify fuel false x y m
      | none => return none
    | .function r ps s, .function q qs t =>
      if s.variadic != t.variadic || s.isConst != t.isConst then return none
      match ← unify fuel false r q m with
      | none => return none
      | some m => unifyAll fuel ps qs m
    | .applied id as, a =>
      if id = arrayPattern then
        match as, a with
        | [.type e, n], .array a count => do
          match ← unify fuel loose e a m with
          | some m => unifyArgument fuel n (.value count .ulong) m
          | none => return none
        | _, _ => return none
      else match a.plain with
        | .applied id' bs => if id = id' then unifyArguments fuel as bs m else return none
        | .record r =>
          let record ← getRecord r
          match record.template with
          | some (id', bs) => if id = id' then unifyArguments fuel as bs m else unifyBases fuel p record.bases.toList m
          | none => unifyBases fuel p record.bases.toList m
        | _ => return none
    | .appliedHole i as, a =>
      match a.plain with
      | .record r => match (← getRecord r).template with
        | some (id, bs) => match settle m i (.template id) with
          | some m => unifyArguments fuel as bs m
          | none => return none
        | none => return none
      | _ => return none
    | p, a => return if p == a then some m else none

def unifyBases : Nat → Ty → List Base → Matching → Compile (Option Matching)
  | 0, _, _, _ | _, _, [], _ => return none
  | fuel + 1, p, b :: bs, m => do
    match ← unify fuel false p (.record b.record) m with
    | some m => return some m
    | none => unifyBases fuel p bs m

def unifyAll : Nat → List Ty → List Ty → Matching → Compile (Option Matching)
  | 0, _, _, _ => return none
  | fuel + 1, ps, as, m => do
    match ps, as with
    | [], [] => return some m
    | [p], as =>
      match packHole? 16 p with
      | some i => unifyPack fuel p i as [] m
      | none => match as with
        | [a] => unify fuel false p a m
        | _ => return none
    | p :: ps, a :: as =>
      match ← unify fuel false p a m with
      | some m => unifyAll fuel ps as m
      | none => return none
    | _, _ => return none

/-- Lays a type over each of several types; what was found for a pack are the members one by one. -/
def unifyPack : Nat → Ty → Nat → List Ty → List TypeArgument → Matching → Compile (Option Matching)
  | 0, _, _, _, _, _ => return none
  | _ + 1, _, i, [], found, m => return settle m i (.pack found)
  | fuel + 1, p, i, a :: as, found, m => do
    let before := m[i]?.getD none
    match ← unify fuel false p a (m.set! i none) with
    | none => return none
    | some m' =>
      match m'[i]?.getD none with
      | some one => unifyPack fuel p i as (found ++ [one]) (m'.set! i before)
      | none => unifyPack fuel p i as found (m'.set! i before)

def unifyArgument : Nat → TypeArgument → TypeArgument → Matching → Compile (Option Matching)
  | 0, _, _, _ => return none
  | fuel + 1, p, a, m => do
    match p, a with
    | .type p, .type a => unify fuel false p a m
    | .hole i _, a => return settle m i a
    | .type (.hole i _), a => return settle m i a
    | .unknown, _ => return some m
    | .value x _, .value y _ => return if x == y then some m else none
    | .pack ps, .pack as => unifyArguments fuel ps as m
    | p, a => return if p == a then some m else none

/-- Arguments that are left out in the pattern are those that templates have by default. -/
def unifyArguments : Nat → List TypeArgument → List TypeArgument → Matching → Compile (Option Matching)
  | 0, _, _, _ => return none
  | fuel + 1, ps, as, m => do
    match ps, as with
    | [], _ => return some m
    | [.type (.hole i true)], as =>
      match as with
      | [.pack items] => return settle m i (.pack items)
      | as => return settle m i (.pack as)
    | [.hole i true], as =>
      match as with
      | [.pack items] => return settle m i (.pack items)
      | as => return settle m i (.pack as)
    | p :: ps, .pack items :: as =>
      match p with
      | .pack qs => match ← unifyArguments fuel qs items m with
        | some m => unifyArguments fuel ps as m
        | none => return none
      | _ => unifyArguments fuel (p :: ps) (items ++ as) m
    | p :: ps, a :: as =>
      match ← unifyArgument fuel p a m with
      | some m => unifyArguments fuel ps as m
      | none => return none
    | _ :: _, [] => return none

end

def unifyDepth : Nat := 100

/-! ## Functions -/

/-- A scope in which the parameters of a template stand for what is to be found. -/
def holeScope (ps : Array TemplateParameter) (parent : Nat) : Compile Nat := do
  let id ← newScope .template parent
  for (p, i) in ps.toList.zip (List.range ps.size) do
    if let some name := p.name then bindIn id name (.argument (.hole i p.isPack))
  return id

/-- The types of a template's function, in terms of its parameters. -/
def shapeOf (g : Grammar) (id : Nat) : Compile (Ty × List Parameter × FunctionTraits) := do
  let t ← getTemplate id
  match t.shape with
  | some s => return s
  | none =>
    let home ← holeScope t.main.parameters t.main.scope
    let read : Compile Declared := do
      modify fun s => { s with atMember := t.owner.isSome }
      let before := (← get).tokens
      setTokens t.main.tokens
      let packs := (← get).packIndex
      modify fun s => { s with packIndex := none }
      let (_, base) ← g.specifiers
      let d ← g.declarator base
      setTokens before
      modify fun s => { s with packIndex := packs, atMember := false }
      return d
    match ← attempt (typesOnly (inside home read)) with
    | some d =>
      match d.type, d.parameters with
      | .function r _ traits, some ps =>
        changeTemplate id fun t => { t with shape := some (r, ps, traits) }
        return (r, ps, traits)
      | _, _ => fail ("'" ++ t.name ++ "' is not a function template")
    | none => fail ("template of '" ++ t.name ++ "' is not understood")

/-- Arguments that were written, put down for the parameters. -/
def written (ps : Array TemplateParameter) : Nat → List TypeArgument → Matching → Matching
  | _, [], m => m
  | i, a :: as, m => match ps[i]? with
    | none => m
    | some p =>
      if p.isPack then m.set! i (some (.pack (a :: as)))
      else written ps (i + 1) as (m.set! i (some a))

/-- The type that a value gives to a parameter with a type. -/
def deduceOne (p : Ty) (o : Operand) (m : Matching) : Compile (Option Matching) := do
  if !p.hasHoles then return some m
  match o with
  | .value v =>
    match p with
    | .reference (.hole i x) true =>
      let t := if v.category = .place then v.type.refer false else v.type
      let t := match t with
        | .reference .. => t
        | t => t
      unify unifyDepth true (.hole i x) t m
    | .reference u _ =>
      match u with
      | .const inner => unify unifyDepth true inner v.type.plain m
      | u =>
        match ← unify unifyDepth true u v.type m with
        | some m => return some m
        | none => unify unifyDepth true u v.type.plain m
    | p => unify unifyDepth true p.plain v.type.decayed.plain m
  | .functions [f] [] none none =>
    let f ← getFunction f
    let t : Ty := .function f.result (f.parameters.map (·.type.plain)) f.traits
    match p with
    | .reference (.hole i x) true => unify unifyDepth true (.hole i x) (t.refer false) m
    | .reference u _ => unify unifyDepth true u.plain t m
    | p => unify unifyDepth true p.plain (.pointer t) m
  | .functions .. => return some m
  | .braces items =>
    match p.referred.plain with
    | .applied id [a] =>
      let t ← getTemplate id
      let element : Ty := match a with
        | .type e => e
        | .hole i isPack => .hole i isPack
        | _ => .unknown
      if t.name ≠ "initializer_list" then return some m
      let mut result : Option Matching := some m
      for (_, o) in items do
        match result, o with
        | some m, .value v => result := ← unify unifyDepth true element v.type.decayed.plain m
        | _, _ => pure ()
      return result
    | .array e n =>
      if n < items.length then return none
      let mut result : Option Matching := some m
      for (_, o) in items do
        match result, o with
        | some m, .value v => result := ← unify unifyDepth true e v.type.decayed.plain m
        | _, _ => pure ()
      return result
    | _ => return some m

/-- What follows from several values for a pack. -/
def deducePack (p : Ty) (i : Nat) : List Operand → List TypeArgument → Matching → Compile (Option Matching)
  | [], found, m => return settle m i (.pack found)
  | o :: os, found, m => do
    let before := m[i]?.getD none
    match ← deduceOne p o (m.set! i none) with
    | none => return none
    | some m' => match m'[i]?.getD none with
      | some one => deducePack p i os (found ++ [one]) (m'.set! i before)
      | none => return none

/-- What follows for the parameters of a template from the values passed to a function. -/
def deduceAll : List Parameter → List Operand → Matching → Compile (Option Matching)
  | [], [], m => return some m
  | [], _ :: _, _ => return none
  | p :: ps, os, m => do
    if p.isPack then
      match packHole? 16 p.type with
      | none => return none
      | some i =>
        -- a pack whose members were written has as many values
        match m[i]?.getD none with
        | some (.pack written) =>
          if os.length = written.length then return some m
          deducePack p.type i os [] (m.set! i none)
        | _ => deducePack p.type i os [] m
    else match os with
      | o :: os => match ← deduceOne p.type o m with
        | some m => deduceAll ps os m
        | none => return none
      | [] => if p.standard.isSome then deduceAll ps [] m else return none

/-- Binds the parameters of a template to arguments. -/
def bindArguments (id : Nat) (ps : List TemplateParameter) (as : List TypeArgument) : Compile Unit := do
  for (p, a) in ps.zip as do
    if let some name := p.name then bindIn id name (match a with
      | .pack items => .argument (.pack items)
      | a => ofArgument a)

/-- The argument that a parameter has if none is given. -/
def standardArgument (g : Grammar) (home : Nat) (p : TemplateParameter) : Compile TypeArgument := do
  match p.standard with
  | none => fail "template argument is missing"
  | some ts => inside home (do
    let before := (← get).packIndex
    modify fun s => { s with packIndex := none }
    let a ← oneArgument g ts
    modify fun s => { s with packIndex := before }
    return a)

/-- The value of an argument in the type of its parameter. -/
def typedArgument (g : Grammar) (home : Nat) (p : TemplateParameter) (a : TypeArgument) : Compile TypeArgument := do
  match p.valueType, a with
  | some ts, .value n t =>
    match ← attempt (inside home (reading ts (do
        let (_, base) ← g.specifiers
        let d ← g.declarator base
        setTokens []
        return d.type))) with
    | some u =>
      match u.plain with
      | .number k => return .value (k.wrap n) (.number k)
      | .auto => return .value n t
      | u => return .value n u
    | none => return .value n t
  | some _, .type _ => fail "type/value mismatch in template argument"
  | none, .value .. => if p.isTemplate then return a else fail "type/value mismatch in template argument"
  | none, .type _ => if p.isTemplate then fail "type/value mismatch in template argument" else return a
  | _, a => return a

/-- The arguments for all parameters, with those that are given by default. -/
def completeArguments (g : Grammar) (ps : Array TemplateParameter) (parent : Nat) (m : Matching) :
    Compile (List TypeArgument) := do
  let home ← newScope .template parent
  let mut result : List TypeArgument := []
  for (p, i) in ps.toList.zip (List.range ps.size) do
    let a ← match m[i]?.getD none with
      | some (.pack items) =>
        if p.isPack then
          let items ← items.mapM fun a => typedArgument g home p a
          pure (TypeArgument.pack items)
        else fail "too many template arguments"
      | some a => typedArgument g home p a
      | none =>
        if p.isPack then pure (.pack [])
        else
          let a ← standardArgument g home p
          typedArgument g home p a
    bindArguments home [p] [a]
    result := result ++ [a]
  return result

/-- The function of a template that is called with values, if there is one. -/
def deduceFunction (g : Grammar) (id : Nat) (explicit : Option (List TypeArgument)) (values : List Operand) :
    Compile (Option Nat) := do
  let make : Compile (Option Nat) := do
    let t ← getTemplate id
    let (_, ps, traits) ← shapeOf g id
    let given := explicit.getD []
    if t.main.parameters.size < given.length && !(t.main.parameters.any (·.isPack)) then return none
    let start := written t.main.parameters 0 given (Array.replicate t.main.parameters.size none)
    let values := if traits.variadic then values.take ps.length else values
    match ← deduceAll ps values start with
    | none => return none
    | some m =>
      let as ← completeArguments g t.main.parameters t.main.scope m
      match ← g.instantiate id as with
      | .function f => return some f
      | _ => return none
  return (← attempt make).getD none

/-- Whether the first template is at least as special as the second. -/
def atLeastAsSpecial (g : Grammar) (a b : Nat) : Compile Bool := do
  let (_, ps, _) ← shapeOf g a
  let (_, qs, _) ← shapeOf g b
  let size := (← getTemplate b).main.parameters.size
  let types (ps : List Parameter) : List Ty := ps.map fun p => p.type.referred.plain
  let count := min ps.length qs.length
  let isRest := qs.any (·.isPack) && !(ps.any (·.isPack))
  -- a function that takes any number of values is less special than one that does not
  let takesMore := ps.any (·.isPack) && !(qs.any (·.isPack))
  match ← unifyAll unifyDepth ((types qs).take count) ((types ps).take count) (Array.replicate size none) with
  | some _ => return !takesMore
  | none => return isRest

end ModuleForge.Host.Native.Compile
