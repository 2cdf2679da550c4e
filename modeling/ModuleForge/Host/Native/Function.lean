import ModuleForge.Host.Native.Variable

/-!
# Functions

Declares functions, and reads their bodies once they are needed. What constructors, assignments and
destructors do to the parts of an object, and what a class does without being told, is written down
here.
-/
namespace ModuleForge.Host.Native.Compile

/-! ## Declarations -/

/-- What is said before and behind a name, together. -/
def mergedSpecifiers (a b : Specifiers) : Specifiers :=
  { a with
    isWeak := a.isWeak || b.isWeak
    isHidden := a.isHidden || b.isHidden
    isShown := a.isShown || b.isShown
    isUnused := a.isUnused || b.isUnused
    neverReturns := a.neverReturns || b.neverReturns
    runsFirst := a.runsFirst || b.runsFirst
    runsLast := a.runsLast || b.runsLast
    alignment := max a.alignment b.alignment
    symbol := a.symbol <|> b.symbol
    sameAs := a.sameAs <|> b.sameAs }

/-- Whether a function has parameters of the same types. -/
def hasParameters (f : Function) (ps : List Parameter) (traits : FunctionTraits) : Bool :=
  Ty.sameAll (f.parameters.map (·.type.plain)) (ps.map (·.type.plain)) && f.traits.variadic == traits.variadic
    && f.traits.isConst == traits.isConst && f.traits.reference == traits.reference

/-- Parameters with names and with what is passed by default, from two declarations of a
function. -/
def mergedParameters : List Parameter → List Parameter → Compile (List Parameter)
  | p :: ps, q :: qs => do
    if p.standard.isSome && q.standard.isSome then fail "redefinition of default argument"
    return { q with standard := p.standard <|> q.standard } :: (← mergedParameters ps qs)
  | _, qs => return qs

/-- The symbol of a function. -/
def functionSymbol (f : Function) (specs : Specifiers) : Compile String := do
  match specs.symbol with
  | some name => return name
  | none =>
    let isGlobal := (← scope f.scope).parent.isNone
    if !(← isCpp) then return f.name
    if f.owner.isNone && ((← get).plainNames || (isGlobal && f.name == "main")) then return f.name
    Spell.function f "1" none

/-- Declares a function in a namespace, or finds the one that is declared again. -/
def declareFunction (g : Grammar) (specs : Specifiers) (d : Declared) (isDefinition : Bool) : Compile Nat := do
  let _ := g
  let isCpp ← isCpp
  let specs := mergedSpecifiers specs d.specifiers
  let .function result _ traits := d.type | fail "not a function"
  let ps := d.parameters.getD []
  let s ← get
  let home ← match d.owner with
    | some id => pure id
    | none => do
      let id ← declaringScope
      match (← scope id).kind with
      | .block => namespaceAround scopeDepth id
      | _ => pure id
  let known := (← scope home).names[d.name]?.getD []
  for b in known do
    match b with
    | .function _ | .template _ => pure ()
    | .type t =>
      let isTag := match (← scope home).names[tagName d.name]?.getD [] with
        | .type u :: _ => u == t
        | _ => false
      if !isCpp || !isTag then fail ("'" ++ d.name ++ "' redeclared as different kind of entity")
    | _ => fail ("'" ++ d.name ++ "' redeclared as different kind of entity")
  let fs := (functionsOf known).1
  let same ← fs.filterM fun f => do
    let f ← getFunction f
    return if isCpp then hasParameters f ps traits else true
  let nameless ← isNameless home
  match same with
  | id :: _ =>
    let f ← getFunction id
    if isCpp then
      if !(f.result == result) && !f.result.isAuto then fail ("ambiguating new declaration of '" ++ d.name ++ "'")
      if s.plainNames && f.symbol ≠ f.name then fail ("conflicting declaration of '" ++ d.name ++ "' with 'C' linkage")
    else
      let open_ := f.traits.isOpen || traits.isOpen
      if !(f.result.plain == result.plain) || (!open_ && !hasParameters f ps traits) then
        fail ("conflicting types for '" ++ d.name ++ "'")
      if specs.isStatic && f.sight ≠ .hidden then
        fail ("static declaration of '" ++ d.name ++ "' follows non-static declaration")
    if isCpp && specs.isStatic && f.sight ≠ .hidden then
      fail ("'" ++ d.name ++ "' was declared 'extern' and later 'static'")
    let parameters ← if !isCpp && traits.isOpen && !isDefinition then pure f.parameters else mergedParameters f.parameters ps
    let sight := if specs.isHidden && f.sight ≠ .hidden then .sharedHidden
      else if specs.isWeak && f.sight = .shown then .shared else f.sight
    changeFunction id fun f => { f with
      parameters, sight
      traits := if f.traits.isOpen && !traits.isOpen then traits else f.traits
      isInline := if isCpp then f.isInline || specs.isInline || specs.isConstant
        else f.isInline && specs.isInline && !specs.isExtern
      isConstant := f.isConstant || specs.isConstant
      neverReturns := f.neverReturns || specs.neverReturns }
    return id
  | [] =>
    if d.isQualified && d.owner.isSome then fail ("'" ++ d.name ++ "' should have been declared inside its scope")
    let isInner := specs.isStatic || nameless
    let isInline := specs.isConstant || (specs.isInline && (isCpp || !specs.isExtern))
    let sight ← sightOf specs isInner (isInline && isCpp)
    let f : Function := {
      name := d.name, symbol := "", result, parameters := ps, traits, scope := home, inner := home, sight
      isInline, isConstant := specs.isConstant, neverReturns := specs.neverReturns }
    let symbol ← functionSymbol f specs
    if isCpp && s.plainNames then
      for h in fs do
        if (← getFunction h).symbol == symbol then fail ("conflicting declaration of C function '" ++ d.name ++ "'")
    match s.functionOfSymbol[symbol]? with
    | some other =>
      -- the same function, declared in another namespace
      let o ← getFunction other
      if isCpp && o.name == d.name && o.body.isSome && isDefinition && !isInner then fail ("redefinition of '" ++ d.name ++ "'")
    | none => pure ()
    let id ← addFunction { f with symbol }
    modify fun s => { s with functionOfSymbol := s.functionOfSymbol.insert symbol id }
    bindIn home d.name (.function id)
    return id

/-! ## Bodies as tokens -/

/-- The tokens of the list that says how the members of an object start, up to the body. -/
def takeStarts : Nat → List Lexeme → Compile (List Lexeme)
  | 0, _ => fail "too many member initializers"
  | fuel + 1, done => do
    let (name, rest) := Lexeme.upTo (fun t => t.isSign "(" || t.isSign "\x7b") false 0 0 [] (← get).tokens
    match rest with
    | [] => expected "\x7b"; return []
    | first :: rest =>
      match Lexeme.inside? rest with
      | none => fail "expected closing bracket at end of input"
      | some (inner, behind) =>
        let close : Lexeme := { first with token := .sign (if first.isSign "(" then ")" else "\x7d") }
        let done := done ++ name.reverse ++ [first] ++ inner ++ [close]
        let (dots, behind) : List Lexeme × List Lexeme := match behind with
          | t :: more => if t.isSign "..." then ([t], more) else ([], behind)
          | [] => ([], [])
        setTokens behind
        let done := done ++ dots
        match behind with
        | t :: more =>
          if t.isSign "," then
            setTokens more
            takeStarts fuel (done ++ [t])
          else return done
        | [] => return done

/-- Whether the body of a function starts here. -/
def startsBody : Compile Bool := do
  match ← peek with
  | .sign "\x7b" => return true
  | .sign ":" => return ← isCpp
  | .word "try" => return ← isCpp
  | _ => return false

/-- The tokens of the body of a function, with the braces and what stands before them. -/
def takeBody : Compile (List Lexeme) := do
  let tried : List Lexeme ← match (← get).tokens with
    | t :: _ => if ← acceptWord "try" then pure [t] else pure []
    | [] => pure []
  let starts : List Lexeme ← match (← get).tokens with
    | t :: _ => if ← acceptSign ":" then do pure (t :: (← takeStarts 1000 [])) else pure []
    | [] => pure []
  match (← get).tokens with
  | t :: _ =>
    expectSign "\x7b"
    let inner ← takeInside
    let body := [t] ++ inner ++ [{ t with token := .sign "\x7d" }]
    if tried.isEmpty then return starts ++ body
    let rec catches : Nat → List Lexeme → Compile (List Lexeme)
      | 0, done => return done
      | n + 1, done => do
        match (← get).tokens with
        | c :: p :: _ =>
          if c.token == .word "catch" then
            advance
            expectSign "("
            let clause ← takeInside
            match (← get).tokens with
            | b :: _ =>
              expectSign "\x7b"
              let inner ← takeInside
              catches n (done ++ [c, p] ++ clause ++ [{ p with token := .sign ")" }, b] ++ inner
                ++ [{ b with token := .sign "\x7d" }])
            | [] => return done
          else return done
        | _ => return done
    -- what stands before the body is not guarded
    let handlers ← catches 100 []
    return starts ++ [{ t with token := .sign "\x7b" }] ++ tried ++ body ++ handlers ++ [{ t with token := .sign "\x7d" }]
  | [] => fail "expected a function body"

/-- Gives a function its body. -/
def defineFunction (id : Nat) (body : List Lexeme) (inner : Nat) : Compile Unit := do
  let f ← getFunction id
  if f.body.isSome || f.given ≠ .written then fail ("redefinition of '" ++ f.name ++ "'")
  changeFunction id fun f => { f with body := some body, inner, isOwn := f.isOwn }
  let isOwn := (← get).isOwn
  changeFunction id fun f => { f with isOwn }

/-- Asks for the body of a function to be read soon, whether it is used or not. -/
def demand (g : Grammar) (id : Nat) : Compile Unit := do
  let f ← getFunction id
  if f.isOwn && f.stage ≠ .made then g.makeFunction id

/-! ## The parts of objects -/

/-- How a member starts, as it is written: its name, and what follows. -/
structure MemberStart where
  name : List Lexeme
  tokens : List Lexeme
  isList : Bool
  isExpanded : Bool := false

/-- The list of how members start, behind the colon. -/
def memberStarts : Nat → Compile (List MemberStart)
  | 0 => return []
  | fuel + 1 => do
    let (name, rest) := Lexeme.upTo (fun t => t.isSign "(" || t.isSign "\x7b") false 0 0 [] (← get).tokens
    match rest with
    | [] => return []
    | first :: rest =>
      if name.isEmpty then return []
      match Lexeme.inside? rest with
      | none => fail "expected closing bracket at end of input"
      | some (inner, behind) =>
        setTokens behind
        let isExpanded ← acceptSign "..."
        let one : MemberStart := { name := name.reverse, tokens := inner, isList := first.isSign "\x7b", isExpanded }
        if ← acceptSign "," then return one :: (← memberStarts fuel)
        else return [one]

/-- The values with which a member starts. -/
def startValues (g : Grammar) (m : MemberStart) : Compile (Nat × List Operand) := do
  if m.isList then
    let open_ : Lexeme := { token := .sign "\x7b" }
    let list ← reading ([open_] ++ m.tokens ++ [{ token := .sign "\x7d" }]) (bracedList g)
    return (byList, [list])
  else
    let values ← reading (m.tokens ++ [{ token := .sign ")" }]) (callArguments g)
    return (byValues, values)

/-- The object that is being made, by its address. -/
def thisAddress : Compile Core := do
  match (← get).making.this with
  | some (place, _) => return .load .u64 (.frame place)
  | none => fail "there is no object"

/-- Sets up a field from values. -/
def startField (g : Grammar) (f : Field) (address : Core) (style : Nat) (values : List Operand) : Compile Core := do
  match f.bits, values with
  | some _, [o] =>
    let o := match o with
      | .braces [([], o)] => o
      | o => o
    let v ← convert g o f.type false
    stored { Value.place f.type (address.offset f.offset) with bits := f.bits } v.code
  | some _, _ => stored { Value.place f.type (address.offset f.offset) with bits := f.bits } (.number (← scalar f.type) 0)
  | none, _ =>
    if f.type.isArray && style = byValues && values.isEmpty then construct g f.type (address.offset f.offset) byList [.braces []]
    else construct g f.type (address.offset f.offset) style values

/-- Sets up an object of a class as a base of another one. -/
def asBase (id : Nat) (m : Compile α) : Compile α := do
  let before := (← get).making.base
  changeMaking fun s => { s with base := some id }
  let a ← m
  changeMaking fun s => { s with base := before }
  return a

/-- Sets up the parts of an object: the bases, the tables, and the members. -/
def startParts (g : Grammar) (id : Nat) (starts : List MemberStart) : Compile Unit := do
  let r ← getRecord id
  let this ← thisAddress
  let named (m : MemberStart) : Option String := match Lexeme.tokens m.name with
    | [.word w] => some w
    | _ => none
  -- another constructor may do all the work
  let own ← starts.findM? fun m => do
    if m.isExpanded then return false
    match ← attempt (reading m.name g.typeName) with
    | some (.record d) => return d = id
    | _ => return false
  if let some m := own then
    emitFull do
      let (style, values) ← startValues g m
      construct g (.record id) this style values
    return
  let isField (w : String) : Bool := r.fields.any (·.name == w)
  let mut used : List Nat := []
  let typed ← (starts.zip (List.range starts.length)).mapM fun (m, i) => do
    if (named m).any isField then return ([] : List (Nat × Option Nat × Nat × MemberStart))
    if m.isExpanded then
      let found ← forPack g (m.name ++ m.tokens) (do
        let k := (← get).packIndex
        match ← reading m.name g.typeName with
        | .record d => return (i, k, d, m)
        | _ => fail "not a base")
      return found
    match ← attempt (reading m.name g.typeName) with
    | some (.record d) => return [(i, none, d, m)]
    | _ => return []
  let typed := typed.flatten
  for b in r.bases do
    match typed.find? (fun (_, _, d, _) => d == b.record) with
    | some (i, pack, _, m) =>
      used := i :: used
      emitFull do
        let before := (← get).packIndex
        modify fun s => { s with packIndex := pack <|> s.packIndex }
        let (style, values) ← startValues g m
        modify fun s => { s with packIndex := before }
        asBase b.record (construct g (.record b.record) (this.offset b.offset) style values)
    | none => emitFull (asBase b.record (construct g (.record b.record) (this.offset b.offset) byNothing []))
  emitValue (← setTables g id this)
  for f in r.fields do
    let index := starts.findIdx? fun m => named m == some f.name
    match index.bind fun i => starts[i]?.map (i, ·) with
    | some (i, m) =>
      used := i :: used
      emitFull do
        let (style, values) ← startValues g m
        startField g f this style values
    | none =>
      if f.name ≠ "" then
        if let some inner := if f.name.startsWith "." then f.type.record? else none then
          -- a member of a member without a name
          for (m, i) in starts.zip (List.range starts.length) do
            match named m with
            | some w =>
              match ← fieldNamed g 8 inner w with
              | some (k, true) =>
                let c ← getRecord inner
                if let some h := c.fields[k]? then
                  used := i :: used
                  emitFull do
                    let (style, values) ← startValues g m
                    startField g h (this.offset f.offset) style values
              | _ => pure ()
            | none => pure ()
          let c ← getRecord inner
          if !(starts.any fun m => (named m).any fun w => c.fields.any (·.name == w)) then
            for h in c.fields do
              if h.start.isSome then emitFull (fillMember g c h (this.offset f.offset))
        else if f.start.isSome then
          match f.bits with
          | none => emitFull (fillMember g r f this)
          | some _ =>
            let value ← inside r.scope (reading (f.start.getD []) (do
              let _ ← acceptSign "="
              if ← isSign "\x7b" then g.operand else g.assignment))
            emitFull (startField g f this byCopy [value])
        else if r.tag ≠ .union_ && f.bits.isNone then
          if f.type.isReference then fail ("uninitialized reference member '" ++ f.name ++ "'")
          if f.type.isConst && (← isTrivial g .create f.type) then fail ("uninitialized const member '" ++ f.name ++ "'")
          emitFull (construct g f.type (this.offset f.offset) byNothing [])
  for (m, i) in starts.zip (List.range starts.length) do
    if !used.contains i && !(typed.any fun (j, _, _, _) => j == i && used.contains j) then
      if !m.isExpanded then
        fail ("class '" ++ r.name ++ "' does not have any field named '" ++ (match named m with
          | some w => w
          | none => "") ++ "'")

/-- Has the parts of an object go when its destructor is left. -/
def endParts (g : Grammar) (id : Nat) : Compile Unit := do
  let r ← getRecord id
  let this ← thisAddress
  let push (code : Option Core) : Compile Unit := match code with
    | some code => changeMaking fun m => { m with cleanups := { code } :: m.cleanups }
    | none => return
  for b in r.bases do push (← destroy? g (.record b.record) (this.offset b.offset))
  if r.tag ≠ .union_ then
    for f in r.fields do
      if !f.type.isReference then push (← destroy? g f.type (this.offset f.offset))

/-- The other object, from which the parts of an object are copied or moved. -/
def otherParts (id : Nat) (other : Core) (passing : Bool) (constant : Bool)
    (each : Ty → Core → Value → Compile Core) : Compile Unit := do
  let r ← getRecord id
  let this ← thisAddress
  let category : Category := if passing then .passing else .place
  for b in r.bases do
    let t : Ty := .record b.record
    let v : Value := { type := if constant then t.asConst else t, category, code := other.offset b.offset }
    emitFull (asBase b.record (each t (this.offset b.offset) v))
  for f in r.fields do
    match f.bits with
    | some _ =>
      let v : Value := { type := f.type, category := .place, code := other.offset f.offset, bits := f.bits }
      if f.name ≠ "" then
        emitFull do
          let v ← loaded v
          stored { Value.place f.type (this.offset f.offset) with bits := f.bits } v.code
    | none =>
      let v : Value := match f.type with
        | .reference u _ => .place u (.load .u64 (other.offset f.offset))
        | t => { type := if constant && !f.isMutable then t.asConst else t, category, code := other.offset f.offset }
      emitFull (each f.type (this.offset f.offset) v)

/-- What a class does without being told. -/
def makeGiven (g : Grammar) (id : Nat) (what : Special) (other : Option Core) : Compile Unit := do
  let r ← getRecord id
  let t : Ty := .record id
  match what, other with
  | .create, _ => startParts g id []
  | .destroy, _ =>
    emitValue (← setTables g id (← thisAddress))
    endParts g id
  | _, none => fail "there is no other object"
  | what, some other =>
    let passing := what = .move || what = .assignMove
    let this ← thisAddress
    if (← isTrivial g what t) || r.tag = .union_ then emitValue (.copy this other r.size)
    else
      match what with
      | .copy | .move =>
        otherParts id other passing (!passing) fun t address v => construct g t address byCopy [.value v]
        emitValue (← setTables g id this)
      | _ =>
        otherParts id other passing (!passing) fun t address v => do
          match t with
          | .reference .. => fail "a reference cannot be assigned to"
          | t => assignPart 8 t address v
        emit (.leave .u64 this)
where
  assignPart : Nat → Ty → Core → Value → Compile Core
    | 0, _, _, _ => fail "type is nested too deeply"
    | depth + 1, t, address, v => do
      match t.plain with
      | .array e n =>
        let size ← sizeOf g e
        if ← isTrivial g (if v.category = .place then .assignCopy else .assignMove) e then
          return .copy address v.code (n * size)
        let (before, source) ← simple v.code
        let (first, target) ← simple address
        let i ← newPlace 8 8
        let code ← forElementsUp (.long 0) n size fun at_ => do
          let e' := match v.type.element? with
            | some e => e
            | none => e
          let from_ : Value := { v with type := e', code := .binary .add .u64 source (.load .u64 (.frame i)) }
          let inner ← assignPart depth e (.binary .add .u64 target (.load .u64 (.frame i))) from_
          return .first (.store .u64 (.frame i) at_) inner
        return Core.andThen before (Core.andThen first code)
      | t =>
        let target : Value := .place t address
        match ← assignBy g "" (.value target) (.value v) with
        | .value r => return r.code
        | _ => return .nothing

/-! ## Reading bodies -/

/-- The parameters of the function that is being made, as variables; the result tells how each is
passed. -/
def placeParameters (g : Grammar) (f : Function) : Compile (List (Scalar × Nat) × List Nat) := do
  let mut packs : List (String × List Nat) := []
  let mut passed : List (Scalar × Nat) := []
  let mut ids : List Nat := []
  let here := (← get).here
  let making := (← get).making.id
  for p in f.parameters do
    let isObject := p.type.isRecord
    let (s, size) ← if p.type.isReference || isObject then pure (Scalar.u64, 8) else do
      let s ← scalar p.type
      pure (s, s.size)
    let place ← newPlace size size
    passed := passed ++ [(s, place)]
    let t := if isObject then Ty.reference p.type false else p.type
    if isObject then
      if !(← isComplete g p.type) then fail "parameter has incomplete type"
    let id ← addVariable { name := p.name.getD "", type := t, location := .frame making place, scope := here }
    ids := ids ++ [id]
    if isObject then changeMaking fun m => { m with objects := id :: m.objects }
    if let some name := p.name then
      if p.isPack then
        let before := (packs.lookup name).getD []
        packs := (name, before ++ [id]) :: packs.filter (·.1 ≠ name)
      else
        if !((← scope here).names[name]?.getD []).isEmpty then fail ("redefinition of parameter '" ++ name ++ "'")
        bind name (.variable id)
  for (name, vs) in packs do
    bind name (.pack vs)
  return (passed, ids)

/-- Names of packs of parameters without members. -/
def bindEmptyPacks (f : Function) : Compile Unit := do
  for name in f.emptyPacks do
    if !(f.parameters.any fun p => p.name == some name) then bind name (.pack [])

/-- Reads statements up to the end of the tokens. -/
def statementsWithin (g : Grammar) : Nat → Compile Unit
  | 0 => fail "too many statements"
  | fuel + 1 => do
    if (← get).tokens.isEmpty then return
    g.statement
    statementsWithin g fuel

/-- Reads the body of a function in braces. -/
def readBody (g : Grammar) (ts : List Lexeme) : Compile Unit := do
  let before := (← get).tokens
  setTokens ts
  expectSign "\x7b"
  let inner ← takeInside
  setTokens inner
  statementsWithin g 1000000
  setTokens before

/-- Finishes the jumps to names. -/
def settleMarks : Compile Unit := do
  for m in (← get).making.marks do
    if !m.isPlaced then fail ("label '" ++ m.name ++ "' used but not defined")
    for (label, cs) in m.sources do
      emitLate do
        emit (.label label)
        for c in cs.take (cs.length - m.depth) do emitCleanup c
        emit (.jump m.label)

/-- Warns about variables that are not used. -/
def tellUnused (parameters : List Nat) : Compile Unit := do
  for id in (← get).making.declared do
    if !(← getVariable id).isUsed then warn "unused-variable"
  for id in parameters do
    let v ← getVariable id
    if !v.isUsed && v.name ≠ "" then warn "unused-parameter"

/-- The name that all returns in a body name, if it is one. -/
def onlyReturned? (body : List Lexeme) : Option String :=
  let rec names : List Lexeme → Option (List String)
    | t :: rest =>
      if t.token == .word "return" then
        match rest with
        | x :: s :: _ => match x.token with
          | .word name => if s.isSign ";" then (names rest).map (name :: ·) else none
          | _ => none
        | _ => none
      else names rest
    | [] => some []
  match names body with
  | some (x :: xs) => if xs.all (· == x) then some x else none
  | _ => none

/-- The steps of a function, from its parameters to its end. -/
def makeSteps (g : Grammar) (id : Nat) : Compile (List (Scalar × Nat)) := do
  let f ← getFunction id
  let resultPlace ← newPlace 8 8
  changeMaking fun m => { m with resultPlace := some resultPlace }
  let this ← match f.owner with
    | some owner =>
      if f.isStatic then pure [] else do
        let place ← newPlace 8 8
        let t : Ty := if f.traits.isConst then (Ty.record owner).asConst else .record owner
        changeMaking fun m => { m with this := some (place, t) }
        pure [(Scalar.u64, place)]
    | none => pure []
  let (passed, ids) ← placeParameters g f
  bindEmptyPacks f
  let returns : List (Scalar × Nat) := if f.result.isRecord then [(Scalar.u64, resultPlace)] else []
  let all := returns ++ this ++ passed
  if f.traits.variadic then
    let place ← newPlace 176 16
    let wholes := (all.filter fun (s, _) => !s.isReal).length
    let reals := (all.filter fun (s, _) => s.isReal).length
    changeMaking fun m => { m with
      restPlace := some place, wholesNamed := min wholes 6, realsNamed := min reals 8
      memoryNamed := (wholes - 6) + (reals - 8) }
  let what : Option Special ← if f.owner.isSome then special? id else pure none
  let other : Option Core ← match ids with
    | v :: _ => do
      let v ← getVariable v
      match v.location with
      | .frame _ place => pure (some (Core.load .u64 (.frame place)))
      | .symbol _ => pure none
    | [] => pure none
  match f.given, f.owner with
  | .byDefault, some owner =>
    match what with
    | some what => makeGiven g owner what other
    | none =>
      if f.name == "operator==" then
        -- all parts have to be equal
        let r ← getRecord owner
        let other := other.getD .nothing
        let this ← thisAddress
        let no ← newLabel
        for field in r.fields do
          let a : Value := .place field.type.asConst (this.offset field.offset)
          let b : Value := .place field.type.asConst (other.offset field.offset)
          let c ← truthOf (← single (← Compile.binary g "==" (.value a) (.value b)))
          emit (.unless c no)
        emit (.leave .u8 (.number .u8 1))
        emit (.label no)
        emit (.leave .u8 (.number .u8 0))
      else fail ("'" ++ f.name ++ "' cannot be defaulted")
  | _, _ =>
    let body := f.body.getD []
    changeMaking fun m => { m with returnedName := onlyReturned? body }
    match f.role, f.owner with
    | .constructor, some owner =>
      let before := (← get).tokens
      setTokens body
      let starts ← if ← acceptSign ":" then memberStarts 1000 else pure []
      let rest := (← get).tokens
      setTokens before
      startParts g owner starts
      readBody g rest
    | .destructor, some owner =>
      emitValue (← setTables g owner (← thisAddress))
      endParts g owner
      readBody g body
    | _, _ => readBody g body
  let m := (← get).making
  if m.reached then
    emitCleanups 0
    let isMain := f.symbol == "main"
    if isMain then emit (.leave .i32 (.number .i32 0))
    else
      let isVoid := m.result.isVoid || m.result.isAuto || f.role = .constructor || f.role = .destructor
      if !isVoid && f.given = .written && !f.neverReturns then warn "return-type"
      emit (.leave .u64 .nothing)
  settleMarks
  if f.given = .written && f.template.isNone then tellUnused (if f.isVirtual then [] else ids)
  let m := (← get).making
  let returns : List (Scalar × Nat) := if m.result.isRecord then [(Scalar.u64, resultPlace)] else []
  return returns ++ this ++ passed

/-- Reads the body of a function, if that has not been done. -/
def makeFunction (g : Grammar) (id : Nat) : Compile Unit := do
  let f ← getFunction id
  if f.stage = .made then return
  if f.given = .written && f.body.isNone then return
  if f.given = .deleted then return
  let before ← get
  if 400 < before.depth then fail "template instantiation depth exceeds maximum"
  changeFunction id fun f => { f with stage := .made }
  set { (← get) with
    tokens := [], packIndex := none, atMember := false, target := none, plainNames := false, isOwn := f.isOwn
    access := .everyone, later := [], depth := before.depth + 1, here := f.inner }
  let (passed, made) ← inMaking { id := ← fresh, function := some id, result := f.result }
    (inNew .block (makeSteps g id))
  let result := if made.result.isAuto then .void else made.result
  changeFunction id fun f => { f with result }
  finishMaking f.symbol passed made
  modify fun s => { s with
    tokens := before.tokens, packIndex := before.packIndex, atMember := before.atMember, target := before.target
    plainNames := before.plainNames, isOwn := before.isOwn, access := before.access, later := before.later
    depth := before.depth, here := before.here }

end ModuleForge.Host.Native.Compile
