import ModuleForge.Host.Native.Template

/-!
# Classes

Reads the members of a class: fields, functions, types, templates and friends. The bodies of its
functions are read when all members are known.
-/
namespace ModuleForge.Host.Native.Compile

/-! ## Bases -/

/-- Reads a base, whose tokens are all there are. -/
def readBase (g : Grammar) (standard : Access) : Compile (Base × Bool) := do
  let mut access := standard
  let mut isVirtual := false
  for _ in [0:3] do
    if ← acceptWord "public" then access := .everyone
    else if ← acceptWord "protected" then access := .heirs
    else if ← acceptWord "private" then access := .itself
    else if ← acceptWord "virtual" then isVirtual := true
    else skipAttributes g
  let t ← g.typeName
  match t.plain with
  | .record id =>
    g.complete id
    let r ← getRecord id
    if !r.isComplete then fail ("invalid use of incomplete type '" ++ r.name ++ "'")
    if r.isFinal then fail ("cannot derive from 'final' base '" ++ r.name ++ "'")
    if r.tag = .union_ then fail "base type fails to be a struct or class type"
    return ({ record := id, access }, isVirtual)
  | _ => fail "base type fails to be a struct or class type"

/-- Reads the bases of a class, up to the brace. -/
def readBases (g : Grammar) (id : Nat) (standard : Access) : Compile Unit := do
  let ts ← takeUpTo (·.isSign "\x7b") false
  let year := (← get).reading.standard
  for slice in splitCommas true (ts.length + 1) ts do
    let last := slice.getLast?
    let isExpanded := last.any (·.isSign "...")
    let found ← if isExpanded then
        let pattern := slice.dropLast
        forPack g pattern (reading pattern (readBase g standard))
      else do pure [← reading slice (readBase g standard)]
    for (b, isVirtual) in found do
      if (← getRecord id).bases.any (·.record = b.record) then fail "duplicate base type"
      let open_ := b.access = .everyone && !isVirtual && 2017 ≤ year
      changeRecord id fun r => { r with bases := r.bases.push b, isAggregate := r.isAggregate && open_ }
  inheritTable id

/-! ## Fields -/

/-- Makes the members of a member without a name known. -/
def exposeFields : Nat → Nat → Nat → Compile Unit
  | 0, _, _ => return
  | depth + 1, home, inner => do
    let r ← getRecord inner
    for (f, i) in r.fields.toList.zip (List.range r.fields.size) do
      if f.name.startsWith "." then
        if let some c := f.type.record? then exposeFields depth home c
      else if f.name ≠ "" then
        if !((← scope home).names[f.name]?.getD []).isEmpty then fail ("redeclaration of '" ++ f.name ++ "'")
        bindIn home f.name (.field inner i)

/-- Adds a field to a class. -/
def addField (g : Grammar) (id : Nat) (specs : Specifiers) (name : String) (t : Ty) (bits : Option Nat) : Compile Unit := do
  let s ← get
  let r ← getRecord id
  let isCpp ← isCpp
  match t with
  | .openArray e => if !(← isComplete g e) then fail ("field '" ++ name ++ "' has incomplete type")
  | .reference .. => pure ()
  | t =>
    if t.isVoid then fail ("variable or field '" ++ name ++ "' declared void")
    if !(← isComplete g t) then fail ("field '" ++ name ++ "' has incomplete type")
  if let some c := t.record? then
    for f in (← getRecord c).virtuals do
      if (← getFunction f).given = .pure then fail ("cannot declare field '" ++ name ++ "' to be of abstract type")
  match bits with
  | some _ => if !(t.isInteger || t.isEnum) then fail ("bit-field '" ++ name ++ "' with non-integral type")
  | none => pure ()
  let isStart := (← isSign "=") || (← isSign "\x7b")
  let start ← if isCpp && isStart then
      let ts ← takeUpTo (fun t => t.isSign "," || t.isSign ";") true
      pure (some ts)
    else pure none
  if name ≠ "" then
    let own := (← scope r.scope).names[name]?.getD []
    if own.any (fun b => !isType b) then fail ("redeclaration of '" ++ name ++ "'")
    if !isCpp && !own.isEmpty then fail ("duplicate member '" ++ name ++ "'")
  let index := r.fields.size
  changeRecord id fun r => { r with
    fields := r.fields.push { name, type := t, bits := bits.map (0, ·), access := s.access, isMutable := specs.isMutable, start }
    isAggregate := r.isAggregate && s.access = .everyone && (start.isNone || 2014 ≤ s.reading.standard)
    alignment := max r.alignment specs.alignment }
  if name ≠ "" then bindIn r.scope name (.field id index)

/-! ## Functions -/

/-- Whether something is declared among the arguments of a template. -/
def isWithinTemplate (id : Nat) : Compile Bool := do
  (← outwards scopeDepth id).anyM fun s => do return (← scope s).kind = .template

/-- Adds a function to a class. -/
def addMember (g : Grammar) (id : Nat) (specs : Specifiers) (d : Declared) : Compile Unit := do
  let s ← get
  let r ← getRecord id
  let .function result _ traits := d.type | fail "not a function"
  let specs := mergedSpecifiers specs { d.specifiers with isVirtual := false }
  let ps := d.parameters.getD []
  let name := if d.role = .constructor then "constructor" else d.name
  let takesMemory := ["operator new", "operator delete", "operator new[]", "operator delete[]"].contains name
  let isStatic := specs.isStatic || takesMemory
  if d.role = .destructor && d.name ≠ "~" ++ r.name then fail "expected the name of the class behind '~'"
  let known := (← scope r.scope).names[name]?.getD []
  for b in known do
    match b with
    | .function h =>
      let h ← getFunction h
      if hasParameters h ps traits && h.owner == some id && !h.isInherited then
        fail ("'" ++ d.name ++ "' cannot be overloaded with itself")
    | .template _ | .type _ => pure ()
    | _ => fail ("declaration of '" ++ d.name ++ "' conflicts with a previous one")
  -- a constructor that was taken over makes way
  let hidden ← r.constructors.filterM fun h => do
    let h ← getFunction h
    return d.role = .constructor && h.isInherited && hasParameters h ps traits
  if !hidden.isEmpty then
    changeRecord id fun r => { r with constructors := r.constructors.filter (!hidden.contains ·) }
    modify fun s => { s with scopes := s.scopes.modify r.scope fun c => { c with
      names := c.names.insert name (known.filter fun
        | .function h => !hidden.contains h
        | _ => true) } }
  let sight ← sightOf specs (← isNameless r.scope) false
  let f : Function := {
    name, symbol := "", result := if d.role = .constructor || d.role = .destructor then .void else result
    parameters := ps, traits, scope := r.scope, inner := r.scope, owner := some id, role := d.role, isStatic
    isVirtual := specs.isVirtual || d.specifiers.isVirtual, isExplicit := specs.isExplicit
    isConstant := specs.isConstant, isInline := specs.isInline || specs.isConstant, sight, access := s.access
    neverReturns := specs.neverReturns }
  let symbol ← match specs.symbol with
    | some name => pure name
    | none => Spell.function f "1" none
  let inTemplate ← isWithinTemplate r.scope
  let everywhere ← sightOf specs (← isNameless r.scope) true
  let f := { f with symbol, sight := if inTemplate then everywhere else f.sight }
  let n ← addFunction f
  modify fun s => { s with functionOfSymbol := s.functionOfSymbol.insert symbol n }
  bindIn r.scope name (.function n)
  match d.role with
  | .constructor => changeRecord id fun r => { r with constructors := n :: r.constructors }
  | .destructor => changeRecord id fun r => { r with destructor := some n }
  | _ => pure ()
  -- what stands behind
  let notAggregate : Compile Unit := if d.role = .constructor then
      changeRecord id fun r => { r with isAggregate := false }
    else return
  if ← acceptSign "=" then
    if ← acceptWord "default" then
      changeFunction n fun f => { f with given := .byDefault, isInline := true, isConstant := true, sight := everywhere }
      if 2020 ≤ s.reading.standard || specs.isExplicit then notAggregate
    else if ← acceptWord "delete" then
      changeFunction n fun f => { f with given := .deleted }
      if 2020 ≤ s.reading.standard then notAggregate
    else
      match ← peek with
      | .number _ =>
        advance
        if !f.isVirtual then fail ("initializer specified for non-virtual method '" ++ d.name ++ "'")
        changeFunction n fun f => { f with given := .pure }
      | _ => expected ";"
    expectSign ";"
  else if ← startsBody then
    notAggregate
    let body ← takeBody
    let _ ← acceptSign ";"
    changeFunction n fun f => { f with body := some body, isInline := true, sight := everywhere }
    if s.isOwn && !inTemplate then modify fun s => { s with later := n :: s.later }
  else
    notAggregate
    expectSign ";"
  enterVirtual g id n (d.specifiers.isVirtual && !specs.isVirtual)

/-- A friend of a class. -/
def readFriend (g : Grammar) (id : Nat) : Compile Unit := do
  let addNames (ws : List String) : Compile Unit := changeRecord id fun r => { r with friends := ws ++ r.friends }
  let first ← peek
  let isTag := match first with
    | .word w => (tagOf? w).isSome
    | _ => false
  if isTag && (← isClassDeclaration g) then
    advance
    let ts ← takeUpTo (·.isSign ";") false
    expectSign ";"
    addNames (Lexeme.words ts)
    -- a class that is not known yet is one of the namespace around
    match Lexeme.tokens ts with
    | [.word w] =>
      if (← lookup g w).isEmpty then
        let home ← namespaceAround scopeDepth (← getRecord id).parent
        let n ← newRecord w .class_ home
        bindTag home w (.record n)
    | _ => pure ()
    return
  let (specs, base) ← g.specifiers
  if ← acceptSign ";" then
    match base.record? with
    | some c => addNames [(← getRecord c).name]
    | none => pure ()
    return
  let d ← g.declarator base
  if !d.type.isFunction then fail "a friend has to be a class or a function"
  addNames [if d.role = .constructor then "constructor" else d.name]
  if d.isQualified then
    let _ ← takeUpTo (·.isSign ";") false
    expectSign ";"
    return
  let r ← getRecord id
  let home ← namespaceAround scopeDepth r.parent
  let isDefinition ← startsBody
  if d.arguments.isSome then
    let _ ← takeUpTo (·.isSign ";") false
    expectSign ";"
    return
  let n ← declareFunction g { specs with isInline := specs.isInline || isDefinition } { d with owner := some home, isQualified := false } isDefinition
  if isDefinition then
    let body ← takeBody
    let _ ← acceptSign ";"
    defineFunction n body r.scope
    let inTemplate ← isWithinTemplate r.scope
    if (← get).isOwn && !inTemplate then modify fun s => { s with later := n :: s.later }
  else
    if ← acceptSign "=" then
      let _ ← acceptWord "default"
      let _ ← acceptWord "delete"
    expectSign ";"

/-! ## Names from elsewhere -/

/-- Takes over the constructors of a base. -/
def inheritConstructors (id base : Nat) : Compile Unit := do
  let r ← getRecord id
  let b ← getRecord base
  let name := ".base" ++ toString base
  bindIn r.scope name (.type (.record base))
  let sign (s : String) : Lexeme := { token := .sign s }
  let word (s : String) : Lexeme := { token := .word s }
  for c in b.constructors do
    let f ← getFunction c
    let what ← special? c
    if what.isNone then
      let ps := (f.parameters.zip (List.range f.parameters.length)).map fun (p, i) =>
        { p with name := some (".p" ++ toString i), isPack := false }
      -- a value is handed on as it came
      let values := (ps.zip (List.range ps.length)).flatMap fun (_, i) =>
        let p := word (".p" ++ toString i)
        [sign ",", word "static_cast", sign "<", word "decltype", sign "(", p, sign ")", sign "&&", sign ">", sign "(", p, sign ")"]
      let body := [sign ":", word name, sign "("] ++ values.drop 1 ++ [sign ")", sign "\x7b", sign "\x7d"]
      let made : Function := { f with
        scope := r.scope, inner := r.scope, owner := some id, parameters := ps, body := some body, stage := .declared
        given := .written, isInline := true, sight := .shared, template := none, isUsed := false, isInherited := true }
      let own := (← scope r.scope).names["constructor"]?.getD []
      let isHidden ← own.anyM fun
        | .function h => do return hasParameters (← getFunction h) f.parameters f.traits
        | _ => return false
      if isHidden then continue
      let symbol ← Spell.function made "1" none
      let n ← addFunction { made with symbol }
      modify fun s => { s with functionOfSymbol := s.functionOfSymbol.insert symbol n }
      bindIn r.scope "constructor" (.function n)
      changeRecord id fun r => { r with constructors := n :: r.constructors, isAggregate := false }

/-- Brings a name of a base into a class. -/
def usingBase (g : Grammar) (id : Nat) : Compile Unit := do
  let _ ← acceptWord "typename"
  let some q ← qualifier g | fail "expected a scope behind 'using'"
  let name ← if ← acceptWord "operator" then do pure (← operatorName g).1 else expectName
  let r ← getRecord id
  match q.type with
  | some (.record base) =>
    let b ← getRecord base
    let isTemplateName := b.template.isSome && name == b.name
    if name == b.name || isTemplateName then
      inheritConstructors id base
      return
  | _ => pure ()
  let found ← find g (some q) name
  if found.isEmpty then fail ("no members matching '" ++ name ++ "' in its scope")
  let known := (← scope r.scope).names[name]?.getD []
  modify fun s => { s with scopes := s.scopes.modify r.scope fun c => { c with names := c.names.insert name (known ++ found) } }

/-- Brings names of bases into a class; a name with dots behind it stands for one in each of several
bases. -/
def usingMember (g : Grammar) (id : Nat) : Compile Unit := do
  let all ← takeUpTo (·.isSign ";") false
  expectSign ";"
  for ts in splitCommas true (all.length + 1) all do
    if ts.getLast?.any (·.isSign "...") then
      let front := ts.dropLast
      let _ ← forPack g front (reading front (usingBase g id))
    else reading ts (usingBase g id)

/-! ## Members -/

/-- Reads one of the declarations in a class. -/
def memberDeclaration (g : Grammar) (id : Nat) : Compile Unit := do
  let s ← get
  let isCpp ← isCpp
  skipAttributesOnly
  match ← peek, ← ahead 1 with
  | .sign ";", _ => advance; return
  | .word "public", .sign ":" => advance; advance; modify fun s => { s with access := .everyone }; return
  | .word "protected", .sign ":" => advance; advance; modify fun s => { s with access := .heirs }; return
  | .word "private", .sign ":" => advance; advance; modify fun s => { s with access := .itself }; return
  | _, _ => pure ()
  if isCpp then
    if ← acceptWord "template" then templateDeclaration g false; return
    if ← acceptWord "friend" then readFriend g id; return
    if ← isWord "static_assert" then g.declaration; return
    if ← isWord "using" then
      match ← ahead 1, ← ahead 2 with
      | .word _, .sign "=" => g.declaration; return
      | _, _ =>
        advance
        usingMember g id
        return
  if (← isWord "_Static_assert") then g.declaration; return
  modify fun s => { s with atMember := true }
  let (specs, base) ← g.specifiers
  if specs.isFriend then readFriendBehind specs base; return
  if ← acceptSign ";" then
    match base.record? with
    | some c =>
      let inner ← getRecord c
      if inner.name.startsWith "." then
        let name := inner.name
        addField g id specs name base none
        let r ← getRecord id
        -- the name is only for this use
        exposeFields 8 r.scope c
    | none => if base == .unknown then fail "declaration does not declare anything"
    return
  declarators specs base s.access 10000
where
  skipAttributesOnly : Compile Unit := do
    if ← isWord "__extension__" then advance
  readFriendBehind (specs : Specifiers) (base : Ty) : Compile Unit := do
    let d ← g.declarator base
    changeRecord id fun r => { r with friends := d.name :: r.friends }
    let r ← getRecord id
    let home ← namespaceAround scopeDepth r.parent
    let isDefinition ← startsBody
    let n ← declareFunction g { specs with isInline := true } { d with owner := some home, isQualified := false } isDefinition
    if isDefinition then
      let body ← takeBody
      defineFunction n body r.scope
      let inTemplate ← isWithinTemplate r.scope
      if (← get).isOwn && !inTemplate then modify fun s => { s with later := n :: s.later }
    else expectSign ";"
  declarators (specs : Specifiers) (base : Ty) (access : Access) : Nat → Compile Unit
    | 0 => fail "too many declarators"
    | fuel + 1 => do
      let isCpp ← isCpp
      -- bits without a name
      if ← acceptSign ":" then
        let (n, _) ← constantOf g (← g.assignment)
        addField g id specs "" base (some n.toNat)
      else
        modify fun s => { s with atMember := true }
        let d ← g.declarator base
        modify fun s => { s with atMember := false }
        if d.name == "" then fail ("expected unqualified-id before '" ++ (← peek).write ++ "'")
        if specs.isTypedef then
          bind d.name (.type d.type)
        else if d.type.isFunction then
          if base == .unknown && d.role = .ordinary then fail ("ISO C++ forbids declaration of '" ++ d.name ++ "' with no type")
          if !isCpp then fail ("field '" ++ d.name ++ "' declared as a function")
          -- a function may have a body, and then no others follow
          if ← isSign "," then
            let rest := (← get).tokens
            setTokens [{ token := .sign ";" }]
            addMember g id specs d
            setTokens rest
          else
            addMember g id specs d
            return
        else if base == .unknown then fail ("'" ++ d.name ++ "' does not name a type")
        else if specs.isStatic then
          let next ← peek
          let hasStart := next == .sign "=" || next == .sign "\x7b" || next == .sign "("
          let isInline := specs.isInline || specs.isConstant || hasStart
          let specs := mergedSpecifiers specs d.specifiers
          if !specs.isInline && !specs.isConstant && hasStart && !d.type.isConst then
            fail ("ISO C++ forbids in-class initialization of non-const static member '" ++ d.name ++ "'")
          let d := if specs.isConstant && !d.type.isReference then { d with type := d.type.asConst } else d
          declareLasting g { specs with isStatic := false, isExtern := !isInline, isInline } d
        else
          let bits ← if ← acceptSign ":" then do
              let o ← g.assignment
              let (n, _) ← constantOf g o
              if n < 0 then fail "negative width in bit-field"
              pure (some n.toNat)
            else pure none
          if bits == some 0 then fail ("zero width for bit-field '" ++ d.name ++ "'")
          if specs.isConstant then fail "non-static data member declared 'constexpr'"
          if specs.isVirtual || specs.isInline || specs.isExtern then fail "a field cannot be declared like that"
          if d.type.isAuto then fail "non-static data member declared with placeholder 'auto'"
          addField g id (mergedSpecifiers specs d.specifiers) d.name d.type bits
      if ← acceptSign "," then declarators specs base access fuel
      else expectSign ";"

/-- Reads members up to the closing brace. -/
def membersWithin (g : Grammar) (id : Nat) : Nat → Compile Unit
  | 0 => fail "too many members"
  | fuel + 1 => do
    if ← acceptSign "\x7d" then return
    if (← get).tokens.isEmpty then expected "\x7d"
    memberDeclaration g id
    membersWithin g id fuel

/-- Reads a class behind its name: the bases and the members. -/
def classBody (g : Grammar) (id : Nat) : Compile Unit := do
  let before ← get
  changeRecord id fun r => { r with isStarted := true }
  let r ← getRecord id
  let isCpp ← isCpp
  let standard : Access := if r.tag = .class_ then .itself else .everyone
  if isCpp && r.template.isNone && !r.name.startsWith "." then
    bindIn r.scope r.name (.type (.record id))
    bindIn r.scope (tagName r.name) (.type (.record id))
  if ← acceptSign ":" then readBases g id standard
  expectSign "\x7b"
  inside r.scope do
    modify fun s => { s with access := standard, plainNames := false, later := [] }
    membersWithin g id 100000
  let later := (← get).later
  modify fun s => { s with access := before.access, plainNames := before.plainNames }
  layoutRecord g id
  addImplicit g id
  -- bodies see all members of the classes around
  let within ← (← outwards scopeDepth r.parent).anyM fun s => do
    match (← scope s).kind with
    | .record outer =>
      let o ← getRecord outer
      return o.isStarted && !o.isComplete
    | _ => return false
  if within then modify fun s => { s with later := later ++ before.later }
  else
    modify fun s => { s with later := before.later }
    for f in later.reverse do g.makeFunction f

end ModuleForge.Host.Native.Compile
