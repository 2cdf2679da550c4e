import ModuleForge.Host.Native.Function

/-!
# Templates

Keeps what is declared for any arguments as tokens, and reads the tokens again for every list of
arguments that is asked for. A class may be written down differently for some arguments: the most
special way that fits counts.
-/
namespace ModuleForge.Host.Native.Compile

/-! ## Parameters -/

/-- The name of a parameter that stands for a value, in the tokens of its type. -/
def valueName (ts : List Lexeme) : Compile (Option String) := do
  let reading := (← get).reading
  let group := (ts.zip (ts.drop 1)).findSome? fun (a, b) =>
    match b.token with
    | .word w => if (a.isSign "*" || a.isSign "&") && ts.any (·.isSign "(") then some w else none
    | _ => none
  if group.isSome then return group
  match ts.reverse with
  | last :: before :: _ =>
    match last.token with
    | .word w => return if isKeyword reading w || before.isSign "::" then none else some w
    | _ => return none
  | _ => return none

/-- Reads a parameter of a template, whose tokens are all there are. -/
def templateParameter (ts : List Lexeme) : Compile TemplateParameter := do
  let (front, rest) := Lexeme.upTo (·.isSign "=") true 0 0 [] ts
  let front := front.reverse
  let standard := match rest with
    | _ :: more => some more
    | [] => none
  let isPack := front.any (·.isSign "...")
  let plain := front.filter fun t => !t.isSign "..."
  match Lexeme.tokens plain with
  | [.word w] => if w == "typename" || w == "class" then return { name := none, isPack, standard }
  | [.word w, .word name] => if w == "typename" || w == "class" then return { name := some name, isPack, standard }
  | _ => pure ()
  match front with
  | t :: _ =>
    if t.token == .word "template" then
      let last := match (Lexeme.tokens plain).getLast? with
        | some (.word w) => if w == "class" || w == "typename" then none else some w
        | _ => none
      return { name := last, isPack, isTemplate := true, standard }
    return { name := ← valueName plain, isPack, valueType := some plain, standard }
  | [] => fail "template parameter is missing"

/-! ## Choosing how a class is written -/

/-- Whether the tokens of a class have its members. -/
def hasMembers (ts : List Lexeme) : Bool := ts.any (·.isSign "\x7b")

/-- The arguments for the parameters of a variant, if it fits. -/
def fits? (v : Variant) (arguments : List TypeArgument) : Compile (Option (List TypeArgument)) := do
  match v.pattern with
  | none => return some arguments
  | some pattern =>
    match ← attempt (unifyArguments unifyDepth pattern arguments (Array.replicate v.parameters.size none)) with
    | some (some m) =>
      let all := m.toList.map fun a => a.getD (.pack [])
      let missing := (m.toList.zip v.parameters.toList).any fun (a, p) => a.isNone && !p.isPack
      return if missing then none else some all
    | _ => return none

/-- Whether the first variant fits only where the second one does. -/
def isMoreSpecial (a b : Variant) : Compile Bool := do
  match a.pattern, b.pattern with
  | some _, none => return true
  | some p, some q =>
    let forward ← attempt (unifyArguments unifyDepth q p (Array.replicate b.parameters.size none))
    let back ← attempt (unifyArguments unifyDepth p q (Array.replicate a.parameters.size none))
    let holds (m : Option (Option Matching)) : Bool := match m with
      | some (some _) => true
      | _ => false
    return holds forward && (!holds back || a.parameters.size < b.parameters.size)
  | none, _ => return false

/-- How a template is written for some arguments, with those for its parameters. -/
def chooseVariant (t : Template) (arguments : List TypeArgument) : Compile (Variant × List TypeArgument) := do
  let found ← t.variants.filterMapM fun v => do
    return (← fits? v arguments).map (v, ·)
  let best ← found.filterM fun (v, _) => do
    found.allM fun (w, _) => do
      let same := match v.pattern, w.pattern with
        | some p, some q => Ty.sameArguments p q
        | _, _ => false
      if same then return true
      isMoreSpecial v w
  match best, found with
  | b :: _, _ => return b
  | [], [] => return (t.main, arguments)
  | [], _ => fail ("ambiguous template instantiation for '" ++ t.name ++ "'")

/-! ## Making what a template stands for -/

/-- Reads something of a template, away from what is being read. -/
def apart (t : Template) (m : Compile α) : Compile α := do
  let before ← get
  if 400 < before.depth then fail "template instantiation depth exceeds maximum"
  set { before with
    packIndex := none, atMember := false, target := none, plainNames := false, isOwn := t.isOwn, tokens := []
    access := .everyone, depth := before.depth + 1, later := [] }
  let a ← m
  modify fun s => { s with
    packIndex := before.packIndex, atMember := before.atMember, target := before.target
    plainNames := before.plainNames, isOwn := before.isOwn, tokens := before.tokens, access := before.access
    depth := before.depth, here := before.here, later := before.later }
  return a

/-- A scope in which the parameters of a template stand for arguments. -/
def argumentScope (ps : Array TemplateParameter) (parent : Nat) (arguments : List TypeArgument) : Compile Nat := do
  let home ← newScope .template parent
  bindArguments home ps.toList arguments
  return home

/-- The arguments of a template as they stand before the name of one of its members. -/
def memberPattern? (name : String) : List Lexeme → Option (List (List Lexeme))
  | t :: a :: rest =>
    if t.token == .word name && a.isSign "<" then
      match splitArguments 0 0 false [] [] rest with
      | some (slices, b :: _) => if b.isSign "::" then some slices else memberPattern? name (a :: rest)
      | _ => memberPattern? name (a :: rest)
    else memberPattern? name (a :: rest)
  | _ => none

/-- Defines a member of a class that was made of a template, where the definition stands outside. -/
def defineMember (g : Grammar) (t : Template) (record : Nat) (member : Array TemplateParameter × Nat × List Lexeme) :
    Compile Unit := do
  let (ps, scopeId, ts) := member
  let r ← getRecord record
  match r.template, memberPattern? t.name ts with
  | some (_, arguments), some slices =>
    let holes ← holeScope ps scopeId
    let pattern ← inside holes (slices.mapM (readArgument g))
    match ← attempt (unifyArguments unifyDepth pattern.flatten arguments (Array.replicate ps.size none)) with
    | some (some m) =>
      let found := m.toList.map fun a => a.getD (.pack [])
      apart t do
        let home ← argumentScope ps scopeId found
        inside home (reading ts g.declaration)
    | _ => return
  | _, _ => return

/-- Reads the members of a class that was made of a template. -/
def complete (g : Grammar) (id : Nat) : Compile Unit := do
  let r ← getRecord id
  if r.isComplete || r.isStarted then return
  match r.template with
  | none => return
  | some (tid, arguments) =>
    let t ← getTemplate tid
    let (v, found) ← chooseVariant t arguments
    if !hasMembers v.tokens then return
    apart t do
      let home ← argumentScope v.parameters v.scope found
      changeRecord id fun r => { r with parent := home }
      modify fun s => { s with
        scopes := s.scopes.modify r.scope fun c => { c with parent := some home }
        target := some id }
      let _ ← inside home (reading v.tokens g.specifiers)
    for m in (← getTemplate tid).members.reverse do defineMember g t id m

/-- The tag of a class in its tokens. -/
def tagIn (ts : List Lexeme) : Tag := match ts with
  | t :: _ => match t.token with
    | .word w => (tagOf? w).getD .structure_
    | _ => .structure_
  | [] => .structure_

/-- Adds what a template stands for with arguments. -/
def addInstance (id : Nat) (arguments : List TypeArgument) (b : Binding) : Compile Unit :=
  changeTemplate id fun t => { t with instances := (arguments, b) :: t.instances }

/-- Makes the function of a template. -/
def instantiateFunction (g : Grammar) (id : Nat) (t : Template) (arguments : List TypeArgument) : Compile Binding := do
  let (shapeResult, shapeParameters, _) ← shapeOf g id
  apart t do
    let home ← argumentScope t.main.parameters t.main.scope arguments
    inside home do
      modify fun s => { s with atMember := t.owner.isSome, plainNames := false }
      setTokens t.main.tokens
      let (specs, base) ← g.specifiers
      let d ← g.declarator base
      let .function result _ traits := d.type | fail "not a function"
      let isConstructor := d.role = .constructor
      let specs := mergedSpecifiers specs d.specifiers
      let sight ← sightOf specs (specs.isStatic && t.owner.isNone) true
      let f : Function := {
        name := if isConstructor then "constructor" else t.name
        symbol := "", result := if isConstructor then .void else result
        parameters := d.parameters.getD [], traits, scope := t.main.scope, inner := home, owner := t.owner
        role := d.role, isStatic := specs.isStatic && t.owner.isSome, isExplicit := specs.isExplicit
        isConstant := specs.isConstant, isInline := true, sight, access := t.access
        template := some (id, arguments), neverReturns := specs.neverReturns }
      let symbol ← Spell.function f "1" (some (shapeResult, shapeParameters.map fun p => (p.type, p.isPack)))
      let (body, given) : Option (List Lexeme) × Given ← if ← acceptSign "=" then
          if ← acceptWord "delete" then pure (none, Given.deleted)
          else pure (none, Given.written)
        else if ← startsBody then do pure (some (← takeBody), Given.written)
        else pure (none, Given.written)
      setTokens []
      let n ← addFunction { f with symbol, body, given }
      modify fun s => { s with functionOfSymbol := s.functionOfSymbol.insert symbol n }
      addInstance id arguments (.function n)
      return .function n

/-- Makes what a template stands for with arguments. -/
def instantiate (g : Grammar) (id : Nat) (arguments : List TypeArgument) : Compile Binding := do
  let t ← getTemplate id
  let found := t.instances.find? fun (as, _) => Ty.sameArguments as arguments
  if let some (_, b) := found then return b
  -- arguments that are written out may leave some to their defaults, or stand for a pack
  let arguments ← completeArguments g t.main.parameters t.main.scope
    (written t.main.parameters 0 (if arguments.any (fun | .pack _ => true | _ => false) then [] else arguments)
      (if arguments.any (fun | .pack _ => true | _ => false)
        then ((arguments.map some).toArray ++ Array.replicate (t.main.parameters.size - arguments.length) none)
        else Array.replicate t.main.parameters.size none))
  let count := t.main.parameters.size
  if count < arguments.length then fail ("wrong number of template arguments for '" ++ t.name ++ "'")
  let found := (← getTemplate id).instances.find? fun (as, _) => Ty.sameArguments as arguments
  if let some (_, b) := found then return b
  match t.kind with
  | .record =>
    let record ← newRecord t.name (tagIn t.main.tokens) t.main.scope
    changeRecord record fun r => { r with template := some (id, arguments), isOwn := t.isOwn }
    -- within the class, its name without arguments is the class
    bindIn (← getRecord record).scope t.name (.type (.record record))
    bindIn (← getRecord record).scope (tagName t.name) (.type (.record record))
    addInstance id arguments (.type (.record record))
    return .type (.record record)
  | .function => instantiateFunction g id t arguments
  | .alias_ =>
    let type ← apart t do
      let home ← argumentScope t.main.parameters t.main.scope arguments
      inside home (reading t.main.tokens g.typeName)
    if !type.hasHoles then addInstance id arguments (.type type)
    return .type type
  | .variable =>
    let (v, found) ← chooseVariant t arguments
    apart t do
      let home ← argumentScope v.parameters v.scope found
      inside home do
        setTokens v.tokens
        let (specs, base) ← g.specifiers
        let d ← g.declarator base
        let symbol := "." ++ t.name ++ toString (← fresh)
        let type := if specs.isConstant && !d.type.isReference then d.type.asConst else d.type
        let n ← addVariable { name := t.name, type, location := .symbol symbol, scope := home, isInline := true, isUsed := true }
        addInstance id arguments (.variable n)
        setUpLasting g symbol .hidden n specs (initializer g)
        setTokens []
        return .variable n

/-! ## Declarations -/

/-- Takes the tokens of a declaration, up to its end; functions keep their bodies. -/
def takeDeclaration (isClass : Bool) : Compile (List Lexeme) := do
  if isClass then
    let ts ← takeUpTo (·.isSign ";") false
    expectSign ";"
    return ts
  let all := (← get).tokens
  let (front, rest) := Lexeme.upTo (fun t => t.isSign ";" || t.isSign "\x7b" || t.isSign ":") false 0 0 [] all
  let front := front.reverse
  -- an operator may be named by the same sign
  let rec assignsIn : Nat → List Lexeme → Bool
    | 0, _ => false
    | fuel + 1, ts => match Lexeme.upTo (·.isSign "=") false 0 0 [] ts with
      | (_, []) => false
      | (before, _ :: behind) =>
        if before.head?.any (·.token == .word "operator") then assignsIn fuel behind else true
  let assigns := assignsIn 4 front
  let hasParameters := front.any (·.isSign "(")
  if assigns || !hasParameters then
    let ts ← takeUpTo (·.isSign ";") false
    expectSign ";"
    return ts
  match rest with
  | t :: _ =>
    if t.isSign ";" then
      setTokens (rest.drop 1)
      return front
    setTokens rest
    let body ← takeBody
    return front ++ body
  | [] => fail "expected ';' at end of input"

/-- Reads the front of a declaration to see what it declares. -/
def declaredBy (g : Grammar) (home : Nat) (ts : List Lexeme) (atMember : Bool) : Compile (Option (Specifiers × Declared)) := do
  attempt (typesOnly (inside home (do
    let before := (← get).tokens
    let packs := (← get).packIndex
    modify fun s => { s with atMember, packIndex := none }
    setTokens ts
    let (specs, base) ← g.specifiers
    let d ← g.declarator base
    setTokens before
    modify fun s => { s with atMember := false, packIndex := packs }
    return (specs, d))))

/-- The template of a class whose member is named in tokens, with arguments that name some of the
parameters. -/
def templateBefore (g : Grammar) (names : List String) : List Lexeme → Compile (Option Nat)
  | t :: a :: rest => do
    match t.token with
    | .word w =>
      if a.isSign "<" then
        match splitArguments 0 0 false [] [] rest with
        | some (slices, b :: c :: _) =>
          let namesMember := match c.token with
            | .word _ => true
            | .sign s => s == "~"
            | _ => false
          let isOpen := (Lexeme.words slices.flatten).any names.contains
          if b.isSign "::" && namesMember && isOpen then
            match ← templateOf? (← lookup g w) with
            | some id => if (← getTemplate id).kind = .record then return some id else templateBefore g names (a :: rest)
            | none => templateBefore g names (a :: rest)
          else templateBefore g names (a :: rest)
        | _ => templateBefore g names (a :: rest)
      else templateBefore g names (a :: rest)
    | _ => templateBefore g names (a :: rest)
  | _ => return none

/-- Parameters with what earlier declarations say is taken by default. -/
def mergedTemplateParameters (old new : Array TemplateParameter) : Array TemplateParameter :=
  (new.toList.zip (List.range new.size)).map (fun (p, i) =>
    { p with standard := p.standard <|> (old[i]?.bind (·.standard)) }) |>.toArray

/-- Declares a template of a class, or another way to write one down. -/
def declareClassTemplate (g : Grammar) (ps : Array TemplateParameter) (ts : List Lexeme) : Compile Unit := do
  let s ← get
  let home ← declaringScope
  -- the name behind the tag and attributes
  let holes ← holeScope ps s.here
  let (name, q, pattern) ← typesOnly (inside holes (do
    let before := (← get).tokens
    setTokens (ts.drop 1)
    skipAttributes g
    let q ← qualifier g
    let name ← expectName
    let pattern ← if ← acceptSign "<" then do pure (some (← templateArguments g)) else pure none
    setTokens before
    return (name, q, pattern)))
  let home := (q.bind (·.scope)).getD home
  let variant : Variant := { parameters := ps, scope := s.here, tokens := ts }
  let known := (← scope home).names[name]?.getD []
  let existing := known.findSome? fun
    | .template id => some id
    | _ => none
  match pattern, existing with
  | some pattern, some id =>
    let t ← getTemplate id
    let pattern ← if ps.isEmpty then
        completeArguments g t.main.parameters t.main.scope
          (written t.main.parameters 0 pattern (Array.replicate t.main.parameters.size none))
      else pure (packed t.main.parameters pattern)
    let others := t.variants.filter fun v => !(v.pattern.any fun p => Ty.sameArguments p pattern && (v.parameters.size == ps.size))
    changeTemplate id fun t => { t with variants := { variant with pattern := some pattern } :: others }
  | some _, none => fail ("'" ++ name ++ "' is not a class template")
  | none, some id =>
    let t ← getTemplate id
    if t.kind ≠ .record then fail ("'" ++ name ++ "' redeclared as different kind of entity")
    let isDefined := hasMembers t.main.tokens
    if isDefined && hasMembers ts then fail ("redefinition of 'class " ++ name ++ "'")
    let merged := mergedTemplateParameters t.main.parameters ps
    if isDefined then changeTemplate id fun t => { t with main := { t.main with parameters := mergedTemplateParameters ps t.main.parameters } }
    else changeTemplate id fun t => { t with main := { variant with parameters := merged } }
  | none, none =>
    if !(known.filter fun b => !isType b).isEmpty || !known.isEmpty then
      fail ("'" ++ name ++ "' redeclared as different kind of entity")
    let owner := match (← scope home).kind with
      | .record r => some r
      | _ => none
    let id ← addTemplate { name, kind := .record, main := variant, owner, access := s.access, isOwn := s.isOwn }
    bindIn home name (.template id)
where
  /-- Arguments of a pattern, with those for a pack put together. -/
  packed (ps : Array TemplateParameter) (pattern : List TypeArgument) : List TypeArgument :=
    match ps.findIdx? (·.isPack) with
    | some i =>
      if pattern.length = ps.size && (pattern[i]?).any (fun | .pack _ => true | _ => false) then pattern
      else pattern.take i ++ [.pack (pattern.drop i)]
    | none => pattern

/-- Whether two functions' templates declare the same. -/
def sameShape (g : Grammar) (a b : Nat) : Compile Bool := do
  let s ← getTemplate a
  let t ← getTemplate b
  if s.main.parameters.size ≠ t.main.parameters.size then return false
  match ← attempt (shapeOf g a), ← attempt (shapeOf g b) with
  | some (r, ps, u), some (q, qs, v) =>
    let kinds := (s.main.parameters.toList.zip t.main.parameters.toList).all fun (x, y) =>
      x.valueType.isSome == y.valueType.isSome
    return r == q && Ty.sameAll (ps.map (·.type.plain)) (qs.map (·.type.plain)) && u.isConst == v.isConst && kinds
      && !(ps.any fun p => p.type == .unknown) && !(r == .unknown)
  | _, _ => return false

/-- Declares a template of a function. -/
def declareFunctionTemplate (g : Grammar) (ps : Array TemplateParameter) (ts : List Lexeme) (specs : Specifiers)
    (d : Declared) : Compile Unit := do
  let s ← get
  let home ← match d.owner with
    | some id => pure id
    | none => declaringScope
  let owner := match (← scope home).kind with
    | .record r => some r
    | _ => none
  let name := if d.role = .constructor then "constructor" else d.name
  let scopeFor := if d.owner.isSome then home else s.here
  let shown := if d.role = .constructor then d.name else name
  let id ← addTemplate {
    name := shown, kind := .function, main := { parameters := ps, scope := scopeFor, tokens := ts }
    owner, access := s.access, isStatic := specs.isStatic, isOwn := s.isOwn }
  let known := (← scope home).names[name]?.getD []
  let others := known.filterMap fun
    | .template t => some t
    | _ => none
  for b in known do
    match b with
    | .function _ | .template _ | .type _ => pure ()
    | _ => fail ("'" ++ name ++ "' redeclared as different kind of entity")
  match ← others.findM? fun t => sameShape g t id with
  | some old =>
    let o ← getTemplate old
    let merged := mergedTemplateParameters o.main.parameters ps
    if hasMembers ts then
      if hasMembers o.main.tokens && !d.isQualified then fail ("redefinition of '" ++ name ++ "'")
      changeTemplate old fun t => { t with
        main := { t.main with parameters := merged, scope := scopeFor, tokens := ts } }
      -- what has been made of it has a body now
      for (as, b) in o.instances do
        match b with
        | .function f =>
          let f' ← getFunction f
          if f'.body.isNone && f'.given = .written then
            let t ← getTemplate old
            let without := t.instances.filter fun (bs, _) => !Ty.sameArguments bs as
            changeTemplate old fun t => { t with instances := without }
            match ← instantiateFunction g old (← getTemplate old) as with
            | .function n =>
              let made ← getFunction n
              changeFunction f fun f => { f with body := made.body, inner := made.inner, parameters := f.parameters }
              changeTemplate old fun t => { t with instances := (as, b) :: without }
              if f'.isUsed then use f
            | _ => pure ()
        | _ => pure ()
  | none =>
    if d.isQualified && d.owner.isSome then fail ("no declaration matches '" ++ name ++ "'")
    bindIn home name (.template id)

/-- Whether the tokens of a declaration are those of a class. -/
def isClassDeclaration (g : Grammar) : Compile Bool := do
  let first ← peek
  let isTag := match first with
    | .word w => (tagOf? w).isSome
    | _ => false
  if !isTag then return false
  let found ← probe (do
    advance
    skipAttributes g
    -- the name may have scopes and arguments
    let rec skip : Nat → Compile Unit
      | 0 => return
      | n + 1 => do
        match ← peek with
        | .word w => if w == "final" then return else advance; skip n
        | .sign "::" => advance; skip n
        | .sign "<" => advance; skipArguments; skip n
        | _ => return
    skip 64
    let _ ← acceptWord "final"
    match ← peek with
    | .sign ";" | .sign "\x7b" | .sign ":" => return ()
    | _ => fail "no class")
  return found.isSome

/-- The name of the functions that tell which class follows from values. -/
def guideName (name : String) : String := ".guide " ++ name

/-- A guide that tells which class follows from values, as a function. -/
def guide? (g : Grammar) (ts : List Lexeme) : Compile (Option (String × List Lexeme)) := do
  let ts : List Lexeme := match ts with
    | t :: rest => if t.token == .word "explicit" then rest else t :: rest
    | [] => []
  match ts with
  | n :: o :: rest => match n.token, Lexeme.inside? rest with
    | .word name, some (inner, arrow :: behind) =>
      if !o.isSign "(" || !arrow.isSign "->" then return none
      match ← templateOf? (← lookup g name) with
      | none => return none
      | some _ =>
        let auto : Lexeme := { token := .word "auto" }
        return some (guideName name, [auto, { n with token := .word (guideName name) }, o] ++ inner
          ++ [{ token := .sign ")" }, arrow] ++ behind)
    | _, _ => return none
  | _ => return none

/-- Declares a template with parameters. -/
def declareTemplate (g : Grammar) (ps : Array TemplateParameter) : Compile Unit := do
  let s ← get
  if ← acceptWord "friend" then
    let isClass ← isClassDeclaration g
    let ts ← takeDeclaration isClass
    if !isClass then
      -- a function that is a friend belongs to the namespace around the class
      let space ← namespaceAround scopeDepth s.here
      let names := Lexeme.words ts
      match (← declaringScope, (← scope (← declaringScope)).kind) with
      | (_, .record r) => changeRecord r fun c => { c with friends := names ++ c.friends }
      | _ => pure ()
      if hasMembers ts then
        let holes ← holeScope ps s.here
        match ← declaredBy g holes ts false with
        | some (_, d) =>
          let id ← addTemplate { name := d.name, kind := .function, main := { parameters := ps, scope := s.here, tokens := ts }, isOwn := s.isOwn }
          bindIn space d.name (.template id)
        | none => pure ()
    else
      match (← scope (← declaringScope)).kind with
      | .record r => changeRecord r fun c => { c with friends := Lexeme.words ts ++ c.friends }
      | _ => pure ()
    return
  if ← acceptWord "using" then
    let name ← expectName
    skipAttributes g
    expectSign "="
    let ts ← takeUpTo (·.isSign ";") false
    expectSign ";"
    let id ← addTemplate { name, kind := .alias_, main := { parameters := ps, scope := s.here, tokens := ts }, access := s.access, isOwn := s.isOwn }
    bindIn (← declaringScope) name (.template id)
    return
  if ← isWord "concept" then fail "concepts are not supported"
  if ← isWord "requires" then fail "constraints are not supported"
  let isClass ← isClassDeclaration g
  if isClass then
    let ts ← takeDeclaration true
    -- members of classes that are defined outside of a template
    declareClassTemplate g ps ts
    return
  if ← isWord "template" then
    -- a template in a template: a member of a class that is one
    let rest := (← get).tokens
    let holes ← holeScope ps s.here
    let _ := holes
    advance
    expectSign "<"
    match splitArguments 0 0 false [] [] (← get).tokens with
    | none => fail "template parameter list is not closed"
    | some (_, behind) =>
      let front := rest.take (rest.length - behind.length)
      setTokens behind
      let isClass ← isClassDeclaration g
      let ts := front ++ (← takeDeclaration isClass)
      match ← templateBefore g (ps.toList.filterMap (·.name)) ts with
      | some id => defineLater id ps s.here (ts ++ (if hasBodyAtEnd ts then [] else [{ token := .sign ";" }]))
      | none => fail "too many template parameter lists"
    return
  let ts ← takeDeclaration false
  let holes ← holeScope ps s.here
  let atMember := match (← scope (← declaringScope)).kind with
    | .record _ => true
    | _ => false
  match ← templateBefore g (ps.toList.filterMap (·.name)) (Lexeme.upTo (fun t => t.isSign "(" || t.isSign "=" || t.isSign "\x7b") false 0 0 [] ts).1.reverse with
  | some id =>
    let isFree ← do
      -- the result of a function may be named by a class, too
      match ← declaredBy g holes ts atMember with
      | some (_, d) => pure !d.isQualified
      | none => pure false
    if !isFree then
      defineLater id ps s.here (ts ++ (if hasBodyAtEnd ts then [] else [{ token := .sign ";" }]))
      return
  | none => pure ()
  if let some guide ← guide? g ts then
    let (name, ts) := guide
    match ← declaredBy g holes ts false with
    | some (specs, d) => return ← declareFunctionTemplate g ps ts specs { d with name }
    | none => fail "deduction guide is not understood"
  match ← declaredBy g holes ts atMember with
  | none => fail "template declaration is not understood"
  | some (specs, d) =>
    if d.type.isFunction then declareFunctionTemplate g ps ts specs d
    else
      let id ← addTemplate { name := d.name, kind := .variable, main := { parameters := ps, scope := s.here, tokens := ts }, access := s.access, isOwn := s.isOwn }
      match d.arguments with
      | some pattern =>
        -- another way for some arguments
        match ((← scope (← declaringScope)).names[d.name]?.getD []).findSome? (fun | .template t => some t | _ => none) with
        | some old => changeTemplate old fun t => { t with
            variants := { parameters := ps, pattern := some pattern, scope := s.here, tokens := ts } :: t.variants }
        | none => fail ("'" ++ d.name ++ "' is not a template")
      | none => bindIn (← declaringScope) d.name (.template id)
where
  hasBodyAtEnd (ts : List Lexeme) : Bool := ts.getLast?.any (·.isSign "\x7d") && ts.any (·.isSign "(")
  /-- Keeps the definition of a member, for all classes made of a template. -/
  defineLater (id : Nat) (ps : Array TemplateParameter) (scopeId : Nat) (ts : List Lexeme) : Compile Unit := do
    let member := (ps, scopeId, ts)
    changeTemplate id fun t => { t with members := member :: t.members }
    let t ← getTemplate id
    for (_, b) in t.instances do
      match b with
      | .type (.record r) => if (← getRecord r).isComplete then defineMember g t r member
      | _ => pure ()

/-- The template of a function and its arguments that a declaration of a special function means. -/
def specialized? (g : Grammar) (d : Declared) (templates : List Nat) : Compile (Option (Nat × List TypeArgument)) := do
  let .function _ ps _ := d.type | return none
  let mut found : Option (Nat × List TypeArgument) := none
  for id in templates do
    if found.isNone then
      let t ← getTemplate id
      let tried ← attempt (do
        let (_, qs, _) ← shapeOf g id
        let start := written t.main.parameters 0 (d.arguments.getD []) (Array.replicate t.main.parameters.size none)
        if qs.length ≠ ps.length && !(qs.any (·.isPack)) then fail "another function"
        match ← unifyAll unifyDepth (qs.map (·.type.plain)) (ps.map Ty.plain) start with
        | some m => completeArguments g t.main.parameters t.main.scope m
        | none => fail "another function")
      if let some as := tried then found := some (id, as)
  return found

/-- Declares what a template stands for with some arguments, behind empty brackets. -/
def specializeTemplate (g : Grammar) : Compile Unit := do
  if ← isClassDeclaration g then
    let ts ← takeDeclaration true
    declareClassTemplate g #[] ts
    return
  let s ← get
  let ts ← takeDeclaration false
  let isVariable := !(ts.any (·.isSign "("))
  match ← declaredBy g s.here ts false with
  | none =>
    -- a member of a class made of a template
    reading (ts ++ [{ token := .sign ";" }]) g.declaration
  | some (specs, d) =>
    let home ← match d.owner with
      | some id => pure id
      | none => declaringScope
    let known := (← scope home).names[d.name]?.getD []
    let (fs, templates) := functionsOf known
    if isVariable || !d.type.isFunction then
      match templates, d.arguments with
      | id :: _, some pattern => changeTemplate id fun t => { t with
          variants := { parameters := #[], pattern := some pattern, scope := s.here, tokens := ts } :: t.variants }
      | _, _ => fail ("'" ++ d.name ++ "' is not a template")
      return
    if templates.isEmpty && !fs.isEmpty && d.isQualified then
      reading (ts ++ (if hasMembers ts then [] else [{ token := .sign ";" }])) g.declaration
      return
    match ← specialized? g d templates with
    | none => fail ("template-id '" ++ d.name ++ "' does not match any template declaration")
    | some (id, as) =>
      let t ← getTemplate id
      let (shapeResult, shapeParameters, _) ← shapeOf g id
      let .function result _ traits := d.type | fail "not a function"
      let existing := t.instances.find? fun (bs, _) => Ty.sameArguments bs as
      let sight ← sightOf specs specs.isStatic (specs.isInline || specs.isConstant)
      let n ← match existing with
        | some (_, .function n) => pure n
        | _ => do
          let f : Function := {
            name := d.name, symbol := "", result, parameters := d.parameters.getD [], traits, scope := t.main.scope
            inner := s.here, owner := t.owner, isStatic := t.isStatic, isInline := specs.isInline
            isConstant := specs.isConstant, sight, access := t.access, template := some (id, as) }
          let symbol ← Spell.function f "1" (some (shapeResult, shapeParameters.map fun p => (p.type, p.isPack)))
          let n ← addFunction { f with symbol }
          modify fun s => { s with functionOfSymbol := s.functionOfSymbol.insert symbol n }
          addInstance id as (.function n)
          pure n
      let behind ← reading ts (inside s.here (do
        let (_, base) ← g.specifiers
        let _ ← g.declarator base
        let body ← if ← startsBody then do pure (some (← takeBody)) else pure none
        setTokens []
        return body))
      match behind with
      | some body =>
        changeFunction n fun f => { f with body := some body, inner := s.here, parameters := d.parameters.getD [] }
        demand g n
      | none => return

/-- Makes what a template stands for with arguments, as asked for in so many words. -/
def instantiateHere (g : Grammar) (isElsewhere : Bool) : Compile Unit := do
  let ts ← takeUpTo (·.isSign ";") false
  expectSign ";"
  if isElsewhere then return
  match ts with
  | t :: _ =>
    let isTag := match t.token with
      | .word w => (tagOf? w).isSome
      | _ => false
    if isTag then
      let (_, type) ← reading ts g.specifiers
      match type with
      | .record id =>
        g.complete id
        let all := (← get).functions
        for (f, n) in all.toList.zip (List.range all.size) do
          if f.owner == some id && f.given = .written && f.body.isSome then
            use n
            modify fun s => { s with roots := f.symbol :: s.roots }
      | _ => fail "expected a class"
    else
      match ← declaredBy g (← get).here ts false with
      | none => fail "explicit instantiation is not understood"
      | some (_, d) =>
        let home := d.owner.getD (← declaringScope)
        let (_, templates) := functionsOf ((← scope home).names[d.name]?.getD [])
        match ← specialized? g d templates with
        | none => fail ("template-id '" ++ d.name ++ "' does not match any template declaration")
        | some (id, as) => match ← g.instantiate id as with
          | .function n =>
            use n
            let f ← getFunction n
            modify fun s => { s with roots := f.symbol :: s.roots }
          | _ => pure ()
  | [] => return

/-- Reads a declaration behind the word `template`. -/
def templateDeclaration (g : Grammar) (isElsewhere : Bool) : Compile Unit := do
  if !(← acceptSign "<") then instantiateHere g isElsewhere; return
  match splitArguments 0 0 false [] [] (← get).tokens with
  | none => fail "template parameter list is not closed"
  | some (slices, rest) =>
    setTokens rest
    match slices with
    | [] => specializeTemplate g
    | slices =>
      let ps ← slices.mapM templateParameter
      declareTemplate g ps.toArray

end ModuleForge.Host.Native.Compile
