import ModuleForge.Host.Native.Evaluate
import ModuleForge.Host.Native.Layout

/-!
# Looking up names

What a name stands for where it is used: names are looked for from the innermost scope outwards, in
the bases of a class with the class, and in the namespaces that are used with the scope.
-/
namespace ModuleForge.Host.Native.Compile

/-- How deep scopes may lie within each other. -/
def scopeDepth : Nat := 200

def isType : Binding → Bool
  | .type _ => true
  | .argument (.type _) => true
  | .argument (.hole ..) => true
  | _ => false

def isTemplate : Binding → Bool
  | .template _ => true
  | _ => false

/-! ## Scopes -/

/-- What a name stands for in a namespace and those used with it. -/
def inNamespace : Nat → Nat → String → Compile (List Binding)
  | 0, _, _ => return []
  | fuel + 1, id, name => do
    let s ← scope id
    match s.names[name]? with
    | some (b :: bs) => return b :: bs
    | _ =>
      let found ← s.used.mapM fun u => inNamespace fuel u name
      return found.flatten

/-- What a name stands for in a class or its bases. -/
def inRecord (g : Grammar) : Nat → Nat → String → Compile (List Binding)
  | 0, _, _ => return []
  | fuel + 1, id, name => do
    let r ← getRecord id
    match (← scope r.scope).names[name]? with
    | some (b :: bs) => return b :: bs
    | _ =>
      let found ← r.bases.toList.mapM fun b => inRecord g fuel b.record name
      return found.flatten

/-- What a name stands for in a scope, without those around it. -/
def inScope (g : Grammar) (id : Nat) (name : String) : Compile (List Binding) := do
  let s ← scope id
  match s.kind with
  | .record r => inRecord g scopeDepth r name
  | .namespace_ .. => inNamespace 8 id name
  | _ => match s.names[name]? with
    | some (b :: bs) => return b :: bs
    | _ => match s.used with
      | [] => return []
      | used =>
        let found ← used.mapM fun u => inNamespace 8 u name
        return found.flatten

/-- What a name stands for in the standard library. -/
def inStandard (g : Grammar) (name : String) : Compile (List Binding) := do
  match ← inScope g 0 "std" with
  | .namespace_ id :: _ => inScope g id name
  | _ => return []

/-- The scopes from one outwards. -/
def outwards : Nat → Nat → Compile (List Nat)
  | 0, _ => return []
  | fuel + 1, id => do
    match (← scope id).parent with
    | some p => return id :: (← outwards fuel p)
    | none => return [id]

def firstFound (g : Grammar) (name : String) : List Nat → Compile (List Binding)
  | [] => return []
  | id :: rest => do
    match ← inScope g id name with
    | [] => firstFound g name rest
    | bs => return bs

/-- The binding of an argument. -/
def ofArgument : TypeArgument → Binding
  | .type t => .type t
  | .value n t => .constant n t
  | .template id => .template id
  | a => .argument a

/-- The member of a pack that is meant, if one is. -/
def chosen (b : Binding) : Compile Binding := do
  match (← get).packIndex, b with
  | some i, .argument (.pack items) => match items[i]? with
    | some a => return ofArgument a
    | none => return b
  | some i, .pack vs => match vs[i]? with
    | some v => return .variable v
    | none => return b
  | _, b => return b

/-- What a name stands for where it is used. -/
def lookup (g : Grammar) (name : String) : Compile (List Binding) := do
  let found ← firstFound g name (← outwards scopeDepth (← get).here)
  found.mapM chosen

/-- The type that bindings stand for, if they stand for nothing else. -/
def typeOf? (bs : List Binding) : Option Ty :=
  let others := bs.filter fun b => !isType b && !isTemplate b
  if !others.isEmpty then none
  else bs.findSome? fun
    | .type t => some t
    | .argument (.hole i p) => some (.hole i p)
    | _ => none

/-- The template that bindings stand for; the name of a class made from one stands for that, too. -/
def templateOf? (bs : List Binding) : Compile (Option Nat) := do
  match bs.findSome? (fun | .template t => some t | _ => none) with
  | some t => return some t
  | none => match typeOf? bs with
    | some (.record id) => return (← getRecord id).template.map (·.1)
    | _ => return none

/-! ## Arguments of templates -/

/-- Splits the tokens behind an opening bracket of a template's arguments at commas, up to the
closing bracket. -/
def splitArguments : Nat → Nat → Bool → List Lexeme → List (List Lexeme) → List Lexeme →
    Option (List (List Lexeme) × List Lexeme)
  | _, _, _, _, _, [] => none
  | depth, angle, afterName, now, done, t :: rest =>
    let isName : Bool := match t.token with
      | .word w => w != "operator"
      | _ => false
    let close (now : List Lexeme) : List (List Lexeme) :=
      if now.isEmpty && done.isEmpty then [] else (now.reverse :: done).reverse
    if t.opens then splitArguments (depth + 1) angle isName (t :: now) done rest
    else if t.closes then
      match depth with
      | 0 => none
      | depth + 1 => splitArguments depth angle isName (t :: now) done rest
    else if depth ≠ 0 then splitArguments depth angle isName (t :: now) done rest
    else if t.isSign ";" then none
    else if t.isSign "<" && afterName then splitArguments depth (angle + 1) isName (t :: now) done rest
    else if t.isSign ">" then
      if angle = 0 then some (close now, rest)
      else splitArguments depth (angle - 1) isName (t :: now) done rest
    else if t.isSign ">>" then
      let one : Lexeme := { t with token := .sign ">" }
      if angle = 0 then some (close now, one :: rest)
      else if angle = 1 then some (close (one :: now), rest)
      else splitArguments depth (angle - 2) isName (t :: now) done rest
    else if t.isSign ">=" && angle = 0 then some (close now, { t with token := .sign "=" } :: rest)
    else if t.isSign "," && angle = 0 then splitArguments depth angle false [] (now.reverse :: done) rest
    else splitArguments depth angle isName (t :: now) done rest

/-- Splits tokens at commas outside of brackets. -/
def splitCommas (angles : Bool) : Nat → List Lexeme → List (List Lexeme)
  | 0, _ => []
  | fuel + 1, ts =>
    let (read, rest) := Lexeme.upTo (·.isSign ",") angles 0 0 [] ts
    match rest with
    | [] => [read.reverse]
    | _ :: rest => read.reverse :: splitCommas angles fuel rest

/-- How many members the packs have that are named among tokens. -/
def packLength? (g : Grammar) (ts : List Lexeme) : Compile (Option Nat) := do
  let before := (← get).packIndex
  modify fun s => { s with packIndex := none }
  let mut found : Option Nat := none
  for w in (Lexeme.words ts).eraseDups do
    if found.isNone then
      for b in ← lookup g w do
        match b with
        | .argument (.pack items) => found := found <|> some items.length
        | .pack vs => found := found <|> some vs.length
        | _ => pure ()
  modify fun s => { s with packIndex := before }
  return found

/-- Whether tokens name parameters of templates that are to be found. -/
def mentionsHole (g : Grammar) (ts : List Lexeme) : Compile Bool :=
  (Lexeme.words ts).eraseDups.anyM fun w => do
    (← lookup g w).anyM fun
      | .argument (.hole ..) | .argument .unknown => return true
      | .type t => return t.hasHoles
      | .variable id => return (← getVariable id).type.hasHoles
      | .pack ids => ids.anyM fun id => do return (← getVariable id).type.hasHoles
      | _ => return false

/-- Does something for each member of the packs that are named among tokens. -/
def forPack (g : Grammar) (ts : List Lexeme) (m : Compile α) : Compile (List α) := do
  match ← packLength? g ts with
  | none => fail "expansion pattern contains no parameter packs"
  | some n =>
    let before := (← get).packIndex
    let results ← (List.range n).mapM fun i => do
      modify fun s => { s with packIndex := some i }
      m
    modify fun s => { s with packIndex := before }
    return results

/-- The value of an operand that is a constant. -/
def constantOf (g : Grammar) (o : Operand) : Compile (Int × Ty) := do
  match o with
  | .value v =>
    match v.constant with
    | some n => return (n, v.type.plain)
    | none =>
      let v ← if v.type.isRecord then g.convert o .long false else pure v
      let s ← scalar v.type
      if s.isReal then fail "constant is not a whole number"
      let code := if v.category = .fresh then v.code else .load s v.code
      match ← Evaluate.value? g s code with
      | some n => return (n, v.type.plain)
      | none => fail "the value is not usable in a constant expression"
  | _ => fail "the value is not usable in a constant expression"

/-- The function or variable whose address an operand is. -/
def symbolOf? (o : Operand) : Compile (Option (String × Ty)) := do
  match o with
  | .functions [f] [] none none =>
    let f' ← getFunction f
    changeFunction f fun f => { f with isUsed := true }
    return some (f'.symbol, .pointer (.function f'.result (f'.parameters.map (·.type)) f'.traits))
  | .value v => match v.code with
    | .symbol name => return some (name, v.type.decayed)
    | _ => return none
  | _ => return none

/-- An argument that is not an expansion. -/
def oneArgument (g : Grammar) (ts : List Lexeme) : Compile TypeArgument := do
  let isDependent ← mentionsHole g ts
  let asTemplate : Compile (Option TypeArgument) := match ts with
    | [t] => match t.token with
      | .word w => do
        match ← lookup g w with
        | [.template id] => return some (.template id)
        | [.argument (.hole i p)] => return some (.hole i p)
        | [.argument .unknown] => return some .unknown
        | _ => return none
      | _ => return none
    | _ => return none
  match ← asTemplate with
  | some a => return a
  | none =>
    match ← attempt (reading ts g.typeName) with
    | some t => return .type t
    | none =>
      if isDependent then return .unknown
      let qualifiedTemplate : Compile Nat := do
        let o ← reading ts (do
          let before := ts.dropLast
          let last := ts.getLast?
          match before.getLast?, last with
          | some c, some l => match c.token, l.token with
            | .sign "::", .word w =>
              setTokens before.dropLast
              let scopeType ← attempt g.typeName
              match scopeType with
              | some (.record r) => inScope g (← getRecord r).scope w
              | _ =>
                let mut at_ := (← get).here
                for x in Lexeme.words before do
                  match ← firstFound g x (← outwards scopeDepth at_) with
                  | .namespace_ n :: _ => at_ := n
                  | _ => fail "no template"
                setTokens []
                inScope g at_ w
            | _, _ => fail "no template"
          | _, _ => fail "no template")
        match o with
        | [.template id] => return id
        | _ => fail "no template"
      match ← attempt qualifiedTemplate with
      | some id => return .template id
      | none =>
        let o ← typesOnly (reading ts g.assignment)
        match ← attempt (constantOf g o) with
        | some (n, t) => return .value n t
        | none => match ← symbolOf? o with
          | some (name, t) => return .symbol name t
          | none => fail "template argument is not a constant"

/-- The arguments that the tokens of one stand for. -/
def readArgument (g : Grammar) (ts : List Lexeme) : Compile (List TypeArgument) := do
  match ts.getLast? with
  | some last =>
    if last.isSign "..." then
      let pattern := ts.dropLast
      if (← packLength? g pattern).isNone && (← mentionsHole g pattern) then
        return [← oneArgument g pattern]
      forPack g pattern (oneArgument g pattern)
    else return [← oneArgument g ts]
  | none => fail "template argument is missing"

/-- The arguments of a template, behind the opening bracket. -/
def templateArguments (g : Grammar) : Compile (List TypeArgument) := do
  match splitArguments 0 0 false [] [] (← get).tokens with
  | none => fail "template argument list is not closed"
  | some (slices, rest) =>
    let found ← slices.mapM (readArgument g)
    setTokens rest
    return found.flatten

/-- What a template stands for with arguments. -/
def applyTemplate (g : Grammar) (id : Nat) (arguments : List TypeArgument) : Compile Binding := do
  let t ← getTemplate id
  let isOpen (a : TypeArgument) : Bool := match a with
    | .type t => t.hasHoles
    | .hole .. | .unknown => true
    | .pack items => items.any fun
      | .type t => t.hasHoles
      | .hole .. | .unknown => true
      | _ => false
    | _ => false
  if arguments.any isOpen && t.kind ≠ .alias_ then return .type (.applied id arguments)
  g.instantiate id arguments

/-! ## Names with scopes -/

/-- The scope before a name. -/
structure Qualifier where
  scope : Option Nat := none
  /-- Whether it depends on what is not known yet. -/
  isUnknown : Bool := false
  /-- The type whose scope it is. -/
  type : Option Ty := none
  deriving Inhabited

/-- The scope of a type or a namespace. -/
def scopeOf? (g : Grammar) (bs : List Binding) : Compile (Option Qualifier) := do
  match bs.findSome? (fun | .namespace_ n => some n | _ => none) with
  | some n => return some { scope := some n }
  | none =>
    let named := bs.findSome? fun
      | .type t => some t
      | .argument (.hole i p) => some (.hole i p)
      | _ => none
    match named.map Ty.plain with
    | some (.record id) =>
      g.complete id
      return some { scope := some (← getRecord id).scope, type := some (.record id) }
    | some (.enum id) => return some { scope := some (← getEnum id).scope, type := some (.enum id) }
    | some t => return if t.hasHoles then some { isUnknown := true } else none
    | none => return none

/-- What a name stands for behind a scope, or without one. -/
def find (g : Grammar) (q : Option Qualifier) (name : String) : Compile (List Binding) := do
  match q with
  | none => lookup g name
  | some q => match q.scope with
    | some id => (← inScope g id name).mapM chosen
    | none => return []

/-- Takes the arguments of a template that is only known by name. -/
def skipArguments : Compile Unit := do
  match splitArguments 0 0 false [] [] (← get).tokens with
  | some (_, rest) => setTokens rest
  | none => fail "template argument list is not closed"

/-- Goes on behind a scope with names that have `::` behind them. -/
def qualifierWithin (g : Grammar) : Nat → Option Qualifier → Compile (Option Qualifier)
  | 0, q => return q
  | fuel + 1, q => do
    let before := (← get).tokens
    let _ ← if q.isSome then acceptWord "template" else pure false
    match ← peek with
    | .word w =>
      if isKeyword (← get).reading w && w ≠ "decltype" then setTokens before; return q
      if w == "decltype" then
        if q.isSome then setTokens before; return q
        let read : Compile Ty := do
          advance
          expectSign "("
          let inner ← takeInside
          let (_, t) ← reading ([{ token := .word w }, { token := .sign "(" }] ++ inner ++ [{ token := .sign ")" }]) g.specifiers
          expectSign "::"
          return t
        match ← attempt read with
        | some t => qualifierWithin g fuel (← scopeOf? g [.type t])
        | none => setTokens before; return q
      else match ← ahead 1 with
      | .sign "::" =>
        if (← ahead 2) == .sign "*" then setTokens before; return q
        if q.any (·.isUnknown) then
          advance; advance
          qualifierWithin g fuel q
        else
          let bs ← find g q w
          match ← scopeOf? g bs with
          | some inner =>
            advance; advance
            qualifierWithin g fuel (some inner)
          | none => fail ("'" ++ w ++ "' is not a class, namespace, or enumeration")
      | .sign "<" =>
        if q.any (·.isUnknown) then
          advance; advance
          match ← attempt skipArguments with
          | some () =>
            if ← acceptSign "::" then qualifierWithin g fuel q
            else setTokens before; return q
          | none => setTokens before; return q
        else
          match ← templateOf? (← find g q w) with
          | none => setTokens before; return q
          | some id =>
            -- only a name with a closing bracket and `::` behind it is a scope
            let rest := splitArguments 0 0 false [] [] ((← get).tokens.drop 2)
            match rest with
            | some (_, r :: _) =>
              if r.isSign "::" then
                advance; advance
                let arguments ← templateArguments g
                expectSign "::"
                if (← peek) == .sign "*" then setTokens before; return q
                match ← scopeOf? g [← applyTemplate g id arguments] with
                | some inner => qualifierWithin g fuel (some inner)
                | none => fail ("'" ++ w ++ "' is not a class, namespace, or enumeration")
              else setTokens before; return q
            | _ => setTokens before; return q
      | _ => setTokens before; return q
    | _ => setTokens before; return q

/-- The scope before a name, if there is one. -/
def qualifier (g : Grammar) : Compile (Option Qualifier) := do
  if !(← isCpp) then return none
  let start ← if ← acceptSign "::" then pure (some { scope := some 0 : Qualifier }) else pure none
  qualifierWithin g 64 start

/-- A name that was read, with what it stands for. -/
structure Found where
  name : String
  bindings : List Binding := []
  arguments : Option (List TypeArgument) := none
  qualifier : Option Qualifier := none
  /-- The type, if it is the name of a conversion. -/
  target : Option Ty := none

/-- The pointers and references behind a type, without a name. -/
def pointersWithin : Nat → Ty → Compile Ty
  | 0, t => return t
  | fuel + 1, t => do
    if ← acceptSign "*" then pointersWithin fuel (.pointer t)
    else if ← acceptSign "&" then pointersWithin fuel (t.refer false)
    else if ← acceptSign "&&" then pointersWithin fuel (t.refer true)
    else if ← acceptWord "const" then pointersWithin fuel t.asConst
    else return t

/-- The name of an operator, behind the word `operator`; there is a type if it is a conversion. -/
def operatorName (g : Grammar) : Compile (String × Option Ty) := do
  match ← peek with
  | .sign "(" => advance; expectSign ")"; return ("operator()", none)
  | .sign "[" => advance; expectSign "]"; return ("operator[]", none)
  | .word w =>
    if w == "new" || w == "delete" then
      advance
      if ← acceptSign "[" then expectSign "]"; return ("operator " ++ w ++ "[]", none)
      else return ("operator " ++ w, none)
    else
      let (_, t) ← g.specifiers
      let t ← pointersWithin 16 t
      return ("operator conversion", some t)
  | .text "" "" =>
    advance
    return ("operator\"\" " ++ (← expectName), none)
  | .sign s =>
    if s == "::" then
      let (_, t) ← g.specifiers
      return ("operator conversion", some (← pointersWithin 16 t))
    else
      advance
      return ("operator" ++ s, none)
  | _ => fail "expected an operator"

/-- Reads a name in an expression. -/
def readName (g : Grammar) : Compile Found := do
  let q ← qualifier g
  let _ ← acceptWord "template"
  if ← acceptWord "operator" then
    let (name, target) ← operatorName g
    return { name, bindings := ← find g q name, qualifier := q, target }
  if ← acceptSign "~" then
    let name ← expectName
    return { name := "~" ++ name, bindings := ← find g q ("~" ++ name), qualifier := q }
  let name ← expectName
  let bs ← find g q name
  if !(← isSign "<") then return { name, bindings := bs, qualifier := q }
  let templates := bs.filter isTemplate
  if templates.isEmpty then
    match ← templateOf? bs with
    | none => return { name, bindings := bs, qualifier := q }
    | some id =>
      advance
      let arguments ← templateArguments g
      return { name, bindings := [← applyTemplate g id arguments], qualifier := q }
  else
    advance
    let arguments ← templateArguments g
    match templates with
    | [.template id] =>
      if (← getTemplate id).kind = .function then
        return { name, bindings := bs, arguments := some arguments, qualifier := q }
      else return { name, bindings := [← applyTemplate g id arguments], qualifier := q }
    | _ => return { name, bindings := bs, arguments := some arguments, qualifier := q }

end ModuleForge.Host.Native.Compile
