import ModuleForge.Host.Native.Class

/-!
# Declarations

Reads declarations: of functions, variables and types, of namespaces and what is taken from them,
and what only has to hold.
-/
namespace ModuleForge.Host.Native.Compile

/-! ## Namespaces -/

/-- Adds a namespace to those whose names can be used in a scope. -/
def useNamespace (home id : Nat) : Compile Unit := modify fun s => { s with
  scopes := s.scopes.modify home fun c => { c with used := if c.used.contains id then c.used else c.used ++ [id] } }

/-- The namespace with a name in a scope; it is made if there is none. -/
def namespaceIn (home : Nat) (name : String) (isInline : Bool) : Compile Nat := do
  let known := (← scope home).names[if name == "" then ".nameless" else name]?.getD []
  match known with
  | .namespace_ id :: _ => return id
  | _ :: _ => fail ("'" ++ name ++ "' redeclared as different kind of entity")
  | [] =>
    let id ← newScope (.namespace_ name isInline) home
    bindIn home (if name == "" then ".nameless" else name) (.namespace_ id)
    if isInline || name == "" then useNamespace home id
    return id

/-- Reads declarations up to the closing brace. -/
def declarationsWithin (g : Grammar) : Nat → Compile Unit
  | 0 => fail "too many declarations"
  | fuel + 1 => do
    if ← acceptSign "\x7d" then return
    if (← get).tokens.isEmpty then expected "\x7d"
    g.declaration
    declarationsWithin g fuel

/-- Reads a namespace behind its word. -/
def namespaceDeclaration (g : Grammar) (isInline : Bool) : Compile Unit := do
  skipAttributes g
  let here := (← get).here
  match ← peekName? with
  | some name =>
    if (← ahead 1) == .sign "=" then
      advance; advance
      let q ← qualifier g
      let other ← expectName
      expectSign ";"
      match ← find g q other with
      | .namespace_ id :: _ => bindIn here name (.namespace_ id)
      | _ => fail ("'" ++ other ++ "' is not a namespace-name")
      return
  | none => pure ()
  let rec names : Nat → Nat → Bool → Compile Nat
    | 0, home, _ => return home
    | fuel + 1, home, isInline => do
      match ← peekName? with
      | some name =>
        advance
        let id ← namespaceIn home name isInline
        if ← acceptSign "::" then
          let inner ← acceptWord "inline"
          names fuel id inner
        else return id
      | none => namespaceIn home "" isInline
  let id ← names 32 here isInline
  skipAttributes g
  expectSign "\x7b"
  inside id (declarationsWithin g 1000000)

/-- Reads what is taken from elsewhere, behind the word `using`. -/
def usingDeclaration (g : Grammar) : Compile Unit := do
  let here := (← get).here
  if ← acceptWord "namespace" then
    let q ← qualifier g
    let name ← expectName
    skipAttributes g
    expectSign ";"
    match ← find g q name with
    | .namespace_ id :: _ => useNamespace here id
    | _ => fail ("'" ++ name ++ "' is not a namespace-name")
    return
  match ← ahead 1 with
  | .sign "=" | .sign "[" =>
    let name ← expectName
    skipAttributes g
    expectSign "="
    let t ← g.typeName
    expectSign ";"
    let home ← declaringScope
    let known := (← scope home).names[name]?.getD []
    match known with
    | [] => bindIn home name (.type t)
    | [.type u] => if !(t == u) then fail ("conflicting declaration '" ++ name ++ "'")
    | _ => fail ("'" ++ name ++ "' redeclared as different kind of entity")
  | _ =>
    let item : Compile Unit := do
      let _ ← acceptWord "typename"
      let some q ← qualifier g | fail "expected a scope behind 'using'"
      let name ← if ← acceptWord "operator" then do pure (← operatorName g).1 else expectName
      let found ← find g (some q) name
      if found.isEmpty then fail ("'" ++ name ++ "' has not been declared in its scope")
      let home ← declaringScope
      let known := (← scope home).names[name]?.getD []
      let fresh := found.filter fun b => !known.any fun c => match b, c with
        | .function f, .function h => f == h
        | .template f, .template h => f == h
        | .variable f, .variable h => f == h
        | .type t, .type u => t == u
        | _, _ => false
      modify fun s => { s with scopes := s.scopes.modify home fun c => { c with names := c.names.insert name (known ++ fresh) } }
      match ← find g (some q) (tagName name) with
      | b :: _ => bindIn home (tagName name) b
      | [] => pure ()
    let all ← takeUpTo (·.isSign ";") false
    expectSign ";"
    for ts in splitCommas true (all.length + 1) all do
      if ts.getLast?.any (·.isSign "...") then
        let front := ts.dropLast
        let _ ← forPack g front (reading front item)
      else reading ts item

/-! ## What has to hold -/

/-- Reads a condition that has to hold. -/
def assertion (g : Grammar) : Compile Unit := do
  expectSign "("
  let o ← typesOnly g.assignment
  let holds : Bool ← match o with
    | .value v => do
      let v ← if v.type.isRecord then g.convert o .bool true else loaded v
      match v.constant with
      | some n => pure (n != 0)
      | none =>
        let s ← scalar v.type
        match ← Evaluate.value? g s v.code with
        | some n => pure (n != 0)
        | none => fail "non-constant condition for static assertion"
    | _ => fail "non-constant condition for static assertion"
  if ← acceptSign "," then
    match ← peek with
    | .text .. =>
      let _ ← textPieces 1000 []
    | _ => fail "expected string-literal"
  expectSign ")"
  expectSign ";"
  if !holds then fail "static assertion failed"

/-! ## Functions -/

/-- What follows a function that is declared: a body, or what stands for one. -/
def functionEnd (g : Grammar) (id : Nat) (specs : Specifiers) (inner : Nat) (inTemplate : Bool) : Compile Bool := do
  let specs := specs
  let f ← getFunction id
  if ← startsBody then
    let body ← takeBody
    defineFunction id body inner
    if specs.runsFirst then modify fun s => { s with first := s.first ++ [f.symbol] }
    if specs.runsLast then modify fun s => { s with last := s.last ++ [f.symbol] }
    if !inTemplate then demand g id
    return true
  if ← acceptSign "=" then
    if ← acceptWord "delete" then
      changeFunction id fun f => { f with given := .deleted }
    else if ← acceptWord "default" then
      changeFunction id fun f => { f with given := .byDefault }
      if !inTemplate then demand g id
    else fail ("function '" ++ f.name ++ "' is initialized like a variable")
  match specs.sameAs with
  | some target =>
    modify fun s => { s with aliases := s.aliases ++ [(f.symbol, f.sight, target)], roots := target :: s.roots }
  | none => pure ()
  return false

/-- Defines a member of a class outside of it. -/
def defineOutside (g : Grammar) (specs : Specifiers) (d : Declared) (home record : Nat) : Compile Bool := do
  let .function result _ traits := d.type | fail "not a function"
  let r ← getRecord record
  let ps := d.parameters.getD []
  let name := if d.role = .constructor then "constructor" else d.name
  let (fs, _) := functionsOf ((← scope home).names[name]?.getD [])
  let same ← fs.filterM fun f => do
    let f ← getFunction f
    if f.owner ≠ some record then return false
    if f.role = .conversion && !(f.result == result) then return false
    return hasParameters f ps traits
  let inTemplate ← isWithinTemplate home
  match same with
  | [] => fail ("no declaration matches '" ++ r.name ++ "::" ++ d.name ++ "'")
  | id :: _ =>
    let f ← getFunction id
    if d.role = .ordinary && !(f.result == result) && !f.result.isAuto then
      fail ("no declaration matches '" ++ r.name ++ "::" ++ d.name ++ "'")
    let specs := mergedSpecifiers specs d.specifiers
    let parameters := (f.parameters.zip ps).map fun (p, q) => { q with standard := p.standard <|> q.standard }
    let isInline := specs.isInline || specs.isConstant || inTemplate
    let sight := if isInline && f.sight = .shown then .shared else f.sight
    changeFunction id fun f => { f with parameters, isInline := f.isInline || isInline, sight, isOwn := f.isOwn }
    functionEnd g id specs home inTemplate

/-! ## Names for parts of an object -/

/-- Reads names for the parts of an object, behind the type. -/
def structuredBinding (g : Grammar) (specs : Specifiers) (base : Ty) : Compile Unit := do
  let t ← if ← acceptSign "&" then pure (base.refer false)
    else if ← acceptSign "&&" then pure (base.refer true)
    else pure base
  expectSign "["
  let inner ← takeInside
  let names := Lexeme.words inner
  let hidden := ".parts" ++ toString (← fresh)
  let inFunction := (← get).making.function.isSome
  let sign (s : String) : Lexeme := { token := .sign s }
  let word (s : String) : Lexeme := { token := .word s }
  let count (n : Nat) : Lexeme := { token := .number (toString n) }
  let start ← if t.isReference || !(← isSign "=") then pure none else
    probe (do
      advance
      match (← typesOnly g.assignment) with
      | .value v => return v.type.plain
      | _ => fail "no value")
  let isOwn := (← get).isOwn
  match start with
  | some (.array _ n) =>
    -- an array is copied element by element
    advance
    let source := hidden ++ "source"
    let value ← takeUpTo (·.isSign ";") false
    expectSign ";"
    let elements := (List.range n).map fun i => [word source, sign "[", count i, sign "]", sign ","]
    modify fun s => { s with isOwn := false }
    reading ([word "auto", sign "&&", word source, sign "="] ++ value ++ [sign ";"]) g.declaration
    reading ([word "__typeof__", sign "(", word source, sign "[", count 0, sign "]", sign ")", word hidden, sign "[",
      count n, sign "]", sign "=", sign "\x7b"] ++ elements.flatten ++ [sign "\x7d", sign ";"]) g.declaration
    modify fun s => { s with isOwn }
  | _ =>
    let d : Declared := { type := t, name := hidden }
    if inFunction then declareLocal g { specs with isUnused := true } d else declareLasting g specs d
    expectSign ";"
  let whole ← match ← lookup g hidden with
    | .variable id :: _ => pure (← getVariable id).type.referred.plain
    | _ => fail "cannot decompose"
  let parts : List (List Lexeme) ← match whole with
    | .array _ n => pure ((List.range n).map fun i => [word hidden, sign "[", count i, sign "]"])
    | .record id => do
      g.complete id
      let r ← getRecord id
      -- a class may tell how many parts it has
      let size ← if r.name == "pair" then pure none else attempt (do
        let ts := [word "std", sign "::", word "tuple_size", sign "<", word "__typeof__", sign "(", word hidden, sign ")",
          sign ">", sign "::", word "value"]
        return (← constantOf g (← typesOnly (reading ts g.expression))).1.toNat)
      if let some n := size then
        pure ((List.range n).map fun i =>
          [word "std", sign "::", word "get", sign "<", count i, sign ">", sign "(", word hidden, sign ")"])
      else
        let home := if r.fields.isEmpty then r.bases.toList.map (·.record) else [id]
        let fields ← home.mapM fun c => return (← getRecord c).fields.toList
        pure ((fields.flatten.filter (·.name ≠ "")).map fun f => [word hidden, sign ".", word f.name])
    | _ => fail "cannot decompose a type that is neither a class nor an array"
  if parts.length ≠ names.length then fail (toString names.length ++ " names provided for structured binding, while the type has "
    ++ toString parts.length ++ " elements")
  modify fun s => { s with isOwn := false }
  for (name, part) in names.zip parts do
    reading ([word "auto", sign "&&", word name, sign "="] ++ part ++ [sign ";"]) g.declaration
  modify fun s => { s with isOwn }

/-! ## Declarations -/

/-- Gives a type another name. -/
def declareTypeName (specs : Specifiers) (d : Declared) : Compile Unit := do
  let _ := specs
  let home ← declaringScope
  let own := (← scope home).names[d.name]?.getD []
  for b in own do
    match b with
    | .type t => if !(t == d.type) then fail ("conflicting declaration 'typedef " ++ d.name ++ "'")
    | _ => fail ("'" ++ d.name ++ "' redeclared as different kind of entity")
  -- a class without a name takes this one
  match d.type with
  | .record id =>
    let r ← getRecord id
    if r.name.startsWith "." && (← isCpp) then changeRecord id fun r => { r with name := d.name }
  | .enum id =>
    let e ← getEnum id
    if e.name.startsWith "." && (← isCpp) then
      modify fun s => { s with enums := s.enums.modify id fun e => { e with name := d.name } }
  | _ => pure ()
  if own.isEmpty then bindIn home d.name (.type d.type)

/-- The types of parameters that stand between the parameters of a function and its body. -/
def takeParameterTypes (g : Grammar) (d : Declared) : Compile Declared := do
  match d.type, d.parameters with
  | .function r _ traits, some (p :: ps) =>
    if !traits.isOpen || (← startsBody) || (← isSign ";") || (← isSign ",") then return d
    let rec read : Nat → List (String × Ty) → Compile (List (String × Ty))
      | 0, found => return found
      | fuel + 1, found => do
        if ← startsBody then return found
        let (_, base) ← g.specifiers
        let rec names : Nat → List (String × Ty) → Compile (List (String × Ty))
          | 0, found => return found
          | n + 1, found => do
            let one ← g.declarator base
            let found := (one.name, one.type.asParameter) :: found
            if ← acceptSign "," then names n found else return found
        let found ← names 64 found
        expectSign ";"
        read fuel found
    let found ← read 64 []
    let ps := (p :: ps).map fun q => match q.name.bind fun w => found.lookup w with
      | some t => { q with type := t }
      | none => q
    return { d with type := .function r (ps.map (·.type)) traits, parameters := some ps }
  | _, _ => return d

/-- Declares what one declarator names; the result tells whether that was a function with a body. -/
def declareOne (g : Grammar) (specs : Specifiers) (base : Ty) (d : Declared) : Compile Bool := do
  let s ← get
  let isCpp ← isCpp
  if d.name == "" then fail ("expected unqualified-id before '" ++ (← peek).write ++ "'")
  if base == .unknown && d.role = .ordinary then
    if isCpp || !d.type.isFunction then fail ("'" ++ d.name ++ "' does not name a type")
  if specs.isTypedef then
    declareTypeName specs d
    return false
  let here ← declaringScope
  let inBlock : Bool := match (← scope here).kind with
    | .block => true
    | _ => false
  if d.type.isFunction then
    let ownerRecord ← match d.owner with
      | some home => match (← scope home).kind with
        | .record id => pure (some (home, id))
        | _ => pure none
      | none => pure none
    match ownerRecord with
    | some (home, record) => defineOutside g specs d home record
    | none =>
      if d.role ≠ .ordinary then fail ("'" ++ d.name ++ "' is a member that is declared outside of a class")
      if specs.isVirtual || specs.isExplicit || specs.isMutable then fail "a function outside of a class cannot be declared like that"
      let specs := mergedSpecifiers specs d.specifiers
      let d ← takeParameterTypes g d
      let isDefinition := (← startsBody) && !inBlock
      let id ← declareFunction g specs d isDefinition
      if inBlock then
        bindIn here d.name (.function id)
        return false
      let inner := match d.owner with
        | some home => home
        | none => s.here
      functionEnd g id specs inner (← isWithinTemplate s.here)
  else
    let specs := mergedSpecifiers specs d.specifiers
    if specs.isVirtual || specs.isExplicit || specs.isMutable then fail "a variable cannot be declared like that"
    let d := if specs.isConstant && !d.type.isReference then { d with type := d.type.asConst } else d
    if inBlock then
      if specs.isExtern then
        let space ← namespaceAround scopeDepth here
        declareLasting g specs { d with owner := some (if isCpp then space else 0) }
      else declareLocal g specs d
    else declareLasting g specs d
    return false

/-- Declares what the declarators behind a type name. -/
def declarators (g : Grammar) (specs : Specifiers) (base : Ty) : Nat → Compile Unit
  | 0 => fail "too many declarators"
  | fuel + 1 => do
    let d ← g.declarator base
    if ← declareOne g specs base d then return
    if ← acceptSign "," then declarators g specs base fuel
    else expectSign ";"

/-- Reads a declaration that starts with a type; `isLinked` tells whether the words before it say
that it is known elsewhere. -/
def plainDeclaration (g : Grammar) (isLinked : Bool) : Compile Unit := do
  if (← isWord "explicit") || (← ahead 1) == .sign "(" then
    if let some (_, ts) ← guide? g (Lexeme.upTo (·.isSign ";") false 0 0 [] (← get).tokens).1.reverse then
      let _ ← takeUpTo (·.isSign ";") false
      expectSign ";"
      return ← reading (ts ++ [{ token := .sign ";" }]) g.declaration
  let (specs, base) ← g.specifiers
  let specs := if isLinked then { specs with isExtern := true } else specs
  if ← acceptSign ";" then
    if base == .unknown then fail "declaration does not declare anything"
    match base.plain with
    | .record _ | .enum _ => return
    | _ => if ← isCpp then fail "declaration does not declare anything" else return
  if base.plain == .auto && (← isCpp) then
    let first ← peek
    let second ← ahead 1
    if first == .sign "[" || ((first == .sign "&" || first == .sign "&&") && second == .sign "[") then
      return ← structuredBinding g specs base
  let isImplied := base == .unknown && !(← isCpp)
  declarators g specs (if isImplied then .int else base) 100000

/-- Reads a declaration. -/
def declaration (g : Grammar) : Compile Unit := do
  let isCpp ← isCpp
  match ← peek with
  | .sign ";" => advance; return
  | .word "_Static_assert" => advance; return ← assertion g
  | .word "static_assert" =>
    if isCpp then
      advance
      return ← assertion g
  | .word "asm" | .word "__asm__" =>
    advance
    let _ ← takeUpTo (·.isSign ";") false
    expectSign ";"
    return
  | .word "__extension__" =>
    advance
    return ← g.declaration
  | _ => pure ()
  if isCpp then
    match ← peek, ← ahead 1 with
    | .word "using", _ => advance; return ← usingDeclaration g
    | .word "namespace", _ => advance; return ← namespaceDeclaration g false
    | .word "inline", .word "namespace" => advance; advance; return ← namespaceDeclaration g true
    | .word "template", _ => advance; return ← templateDeclaration g false
    | .word "extern", .word "template" => advance; advance; return ← templateDeclaration g true
    | .word "extern", .text "" language =>
      advance; advance
      let before := (← get).plainNames
      if language ≠ "C" && language ≠ "C++" then fail ("language string '" ++ language ++ "' not recognized")
      modify fun s => { s with plainNames := language == "C" }
      if ← acceptSign "\x7b" then declarationsWithin g 1000000
      else match ← peek with
        | .word "namespace" | .word "template" | .word "using" | .word "static_assert" => g.declaration
        | .word "extern" => g.declaration
        | _ => plainDeclaration g true
      modify fun s => { s with plainNames := before }
      return
    | _, _ => pure ()
  match (← scope (← declaringScope)).kind with
  | .record id => memberDeclaration g id
  | _ => plainDeclaration g false

end ModuleForge.Host.Native.Compile
