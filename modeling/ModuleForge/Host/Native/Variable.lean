import ModuleForge.Host.Native.Expression

/-!
# Variables

Declares variables and writes down how they start. A variable of a function lies in its frame and
goes when its scope is left; one that stays starts with bytes if they can be worked out beforehand,
and otherwise in a function of its own that runs when the module is loaded.
-/
namespace ModuleForge.Host.Native.Compile

/-! ## Leaving scopes -/

/-- Where the innermost handler of exceptions is kept. -/
def handlerChain : Compile Core := do
  let name := "__support_top"
  for b in (← scope 0).names[name]?.getD [] do
    match b with
    | .variable id => changeVariable id fun v => { v with isUsed := true }
    | _ => pure ()
  return .symbol name

/-- Lets exceptions come to a label of this function. -/
def enterHandler (place label : Nat) : Compile Unit := do
  let chain ← handlerChain
  let record := Core.frame place
  emitValue (.store .u64 record (.load .u64 chain))
  emitValue (.store .u64 (record.offset 8) .framePointer)
  emitValue (.store .u64 (record.offset 16) (.label label))
  emitValue (.store .u64 chain record)

/-- Takes a handler away again. -/
def leaveHandler (place : Nat) : Compile Unit := do
  let chain ← handlerChain
  emitValue (.store .u64 chain (.load .u64 (.frame place)))

/-- Puts steps behind those of the function, where only jumps lead. -/
def emitLate (m : Compile Unit) : Compile Unit := do
  let reached := (← get).making.reached
  let ((), steps) ← stepsOf m
  changeMaking fun s => { s with late := s.late ++ steps, reached }

/-- Has something done when the scope is left, in whatever way. -/
def addCleanup (code : Core) : Compile Unit := do
  if (← get).making.onlyTypes then return
  let place ← newPlace 24 8
  let label ← newLabel
  enterHandler place label
  changeMaking fun m => { m with cleanups := { code, handler := some place } :: m.cleanups }
  let goOn ← supportCall "__support_go" []
  emitLate do
    emit (.label label)
    emit .landing
    emitValue code
    emitValue goOn

/-- Does what has to be done when a scope is left. -/
def emitCleanup (c : Cleanup) : Compile Unit := do
  if let some place := c.handler then leaveHandler place
  match c.flag with
  | none => emitValue c.code
  | some flag =>
    let skip ← newLabel
    emit (.unless (.load .u8 (.frame flag)) skip)
    emitValue c.code
    emit (.label skip)

/-- Does what has to be done when all scopes are left in which there are more cleanups than some
number. -/
def emitCleanups (depth : Nat) : Compile Unit := do
  let cs := (← get).making.cleanups
  for c in cs.take (cs.length - depth) do emitCleanup c

/-- Reads something in a scope of its own: what it declares goes at its end. -/
def inScopeOfItsOwn (m : Compile α) : Compile α := do
  let depth := (← get).making.cleanups.length
  let a ← inNew .block m
  if (← get).making.reached then emitCleanups depth
  changeMaking fun s => { s with cleanups := s.cleanups.drop (s.cleanups.length - depth) }
  return a

/-- Leaves the function with a value. -/
def emitLeave (s : Scalar) (value : Core) : Compile Unit := do
  let cs := (← get).making.cleanups
  if cs.isEmpty then emit (.leave s value)
  else
    let place ← newPlace 8 8
    let isNothing : Bool := match value with
      | .nothing => true
      | _ => false
    if !isNothing then emitValue (.store s (.frame place) value)
    emitCleanups 0
    emit (.leave s (if isNothing then .nothing else .load s (.frame place)))

/-! ## How variables start -/

/-- What stands behind the name of a variable: the way it is set up, and the values. -/
def initializer (g : Grammar) : Compile (Nat × List Operand) := do
  if ← acceptSign "=" then
    if ← isSign "\x7b" then return (byCopy, [← bracedList g])
    return (byCopy, [← g.assignment])
  if ← isCpp then
    if ← isSign "\x7b" then return (byList, [← bracedList g])
    if ← acceptSign "(" then return (byValues, ← callArguments g)
  return (byNothing, [])

/-- The type that stands for `auto`, if a type of a value is laid under another. -/
def matchAuto : Ty → Ty → Option Ty
  | .auto, t => some t
  | .const p, t => matchAuto p t.plain
  | .pointer p, t => match t.plain with
    | .pointer u => matchAuto p u
    | _ => none
  | .reference p _, t => matchAuto p t
  | _, _ => none

/-- The type of a variable that follows from how it starts. -/
def typeFromValues (g : Grammar) (t : Ty) (style : Nat) (values : List Operand) : Compile Ty := do
  match values with
  | [] => fail "declaration of a variable with deduced type has no initializer"
  | [.braces items] =>
    if style = byList then
      match items with
      | [([], .value v)] => return Ty.fill v.type.decayed.plain t
      | _ => fail "direct-list-initialization of 'auto' requires exactly one element"
    else match items with
      | ([], .value v) :: _ =>
        let e := v.type.decayed.plain
        let found ← match ← inScope g 0 "std" with
          | .namespace_ n :: _ => inScope g n "initializer_list"
          | _ => pure []
        match ← templateOf? found with
        | some id => match ← g.instantiate id [.type e] with
          | .type l => return Ty.fill l t
          | _ => fail "cannot deduce type for variable"
        | none => fail "deducing from brace-enclosed initializer list requires '#include <initializer_list>'"
      | _ => fail "cannot deduce type for variable"
  | [o] =>
    let v ← single o
    match t with
    | .reference .auto true =>
      return if v.category = .place then v.type.refer false else v.type.refer true
    | .reference p passing =>
      match matchAuto p v.type with
      | some u => return .reference (Ty.fill u p) passing
      | none => fail "cannot deduce type for variable"
    | t =>
      if v.type.isVoid then fail "variable has type void"
      match matchAuto t v.type.decayed.plain with
      | some u => return Ty.fill u t
      | none => fail "cannot deduce type for variable"
  | _ => fail "variable with deduced type has several initializers"

/-- How many elements an array has by the values it starts with. -/
def openCount (g : Grammar) (e : Ty) (values : List Operand) : Compile Nat := do
  let ofItems (items : Items) : Compile Nat := do
    let width ← match e with
      | .array _ n =>
        let flat := items.all fun
          | ([], .braces _) => false
          | ([], .value v) => !v.type.isArray
          | _ => false
        pure (if flat then n else 1)
      | .record id =>
        let r ← getRecord id
        let flat ← items.allM fun
          | ([], .value v) => do return !(← isWhole g e (.value v))
          | _ => return false
        pure (if flat && r.isAggregate then max 1 r.fields.size else 1)
      | _ => pure 1
    let (_, most) := items.foldl (fun (at_, most) (ds, _) =>
      match ds with
      | .index _ upTo :: _ => (upTo + 1, max most (upTo + 1))
      | _ => (at_ + 1, max most (at_ + 1))) (0, 0)
    return (most + width - 1) / width
  match values with
  | [.braces [([], .value v)]] =>
    match ← textLength? g v e with
    | some n => return n
    | none => ofItems [([], .value v)]
  | [.braces items] => ofItems items
  | [.value v] =>
    match ← textLength? g v e with
    | some n => return n
    | none => match v.type.plain with
      | .array _ n => return n
      | _ => fail "array must be initialized with a brace-enclosed initializer"
  | _ => fail "array size missing"

/-- The type of a variable whose declaration leaves some of it to its values. -/
def settledType (g : Grammar) (t : Ty) (style : Nat) (values : List Operand) : Compile Ty := do
  match t.plain with
  | .openArray e =>
    let n ← openCount g e values
    return if t.isConst then (Ty.array e n).asConst else .array e n
  | .applied id [] =>
    let values : List Operand := match values with
      | [.braces items] => items.map fun (_, o) => o
      | vs => vs
    let u ← match values with
      | [.value v] => match v.type.record? with
        | some r => do
          let r ← getRecord r
          if r.template.any (fun (made, _) => made == id) then pure v.type.plain else classFromValues g id values
        | none => classFromValues g id values
      | values => classFromValues g id values
    return if t.isConst then u.asConst else u
  | u => if u.isAuto || t.isAuto then typeFromValues g t style values else return t

/-- Whether the type of a variable depends on its values. -/
def needsValues (t : Ty) : Bool := t.isAuto || match t.plain with
  | .openArray _ | .applied _ [] => true
  | _ => false

/-- The number that a constant starts with, if it is known. -/
def knownNumber (g : Grammar) (t : Ty) (isConstant : Bool) (values : List Operand) : Compile (Option Int) := do
  if !t.isConst || t.isReference then return none
  let plain := t.plain
  if !(plain.isInteger || plain.isEnum) then return none
  match values with
  | [o] =>
    let o := match o with
      | .braces [([], o)] => o
      | o => o
    match ← attempt (typesOnly (g.convert o plain false)) with
    | some v =>
      match v.constant with
      | some n => return some n
      | none =>
        if !isConstant then return none
        Evaluate.value? g (← scalar plain) v.code
    | none => return none
  | _ => return none

/-! ## Finishing functions -/

/-- Keeps the steps of a function that has been read. -/
def finishMaking (symbol : String) (parameters : List (Scalar × Nat)) (m : Making) : Compile Unit := do
  let made : CoreFunction := {
    places := m.places, parameters, kept := m.restPlace, body := m.steps.toList ++ m.late }
  modify fun s => { s with
    finished := s.finished.insert symbol made
    finishedOrder := symbol :: s.finishedOrder }

/-- Makes a function that is not in the program, and gives its symbol. -/
def makeStep (kind : String) (m : Compile Unit) : Compile String := do
  let n ← fresh
  let symbol := "." ++ kind ++ toString n
  let before := (← get).here
  let ((), made) ← inMaking { id := ← fresh } do
    m
    emit (.leave .i32 .nothing)
  modify fun s => { s with here := before }
  finishMaking symbol [] made
  return symbol

/-- Has something done when the module is put away. -/
def atEnd (m : Compile Unit) : Compile Unit := do
  let symbol ← makeStep "end" m
  modify fun s => { s with last := s.last ++ [symbol] }

/-! ## Names -/

/-- Refuses a name that already stands for something else in a scope. -/
def checkFree (id : Nat) (name : String) : Compile Unit := do
  let own := (← scope id).names[name]?.getD []
  let clash ← own.anyM fun b => match b with
    | .type t => do
      -- a class or an enumeration may have the name, too
      if !(← isCpp) then return true
      match (← scope id).names[tagName name]?.getD [] with
      | .type u :: _ => return !(t == u)
      | _ => return true
    | _ => return true
  if clash then fail ("redeclaration of '" ++ name ++ "'")

/-- Binds a variable; it hides a class of the same name. -/
def bindVariable (scopeId : Nat) (name : String) (id : Nat) : Compile Unit := bindIn scopeId name (.variable id)

/-! ## Variables that stay -/

/-- Sets up a variable that stays, from values that are read in `start`. The result is its type. -/
def setUpLasting (g : Grammar) (symbol : String) (sight : Sight) (id : Nat) (specs : Specifiers)
    (start : Compile (Nat × List Operand)) : Compile Unit := do
  let v ← getVariable id
  let isCpp ← isCpp
  -- the steps that set it up, in a function of its own
  let number ← fresh
  let read : Compile (Ty × Core × List Cleanup × Option Int × Option CoreData) := do
    let ((t, code, known), temporaries) ← fullExpression (do
      let (style, values) ← start
      let t ← settledType g v.type style values
      changeVariable id fun v => { v with type := t }
      match t.plain with
      | .array .. | .record _ | .reference .. => pure ()
      | .openArray _ => pure ()
      | u => if !(← isComplete g u) then fail "variable has incomplete type"
      let known ← knownNumber g t (specs.isConstant || t.isConst) values
      if t.isConst && style = byNothing && isCpp && !t.isReference then
        let trivial ← isTrivial g .create t
        if trivial then fail ("uninitialized const '" ++ v.name ++ "'")
      if t.isReference && style = byNothing then fail ("'" ++ v.name ++ "' declared as reference but not initialized")
      let code ← construct g t (.symbol symbol) style values
      return (t, code, known))
    let (size, alignment) ← layout g (match t with
      | .reference .. => .pointer .void
      | t => t)
    let alignment := max alignment specs.alignment
    let made := (← get).making
    let data ← if made.steps.isEmpty && made.late.isEmpty then Evaluate.data? g symbol size alignment code else pure none
    return (t, code, temporaries, known, data)
  let ((t, code, temporaries, known, data), made) ← inMaking { id := number } read
  let (size, alignment) ← layout g (match t with
    | .reference .. => .pointer .void
    | t => t)
  let alignment := max alignment specs.alignment
  changeVariable id fun v => { v with type := t, constant := known }
  match data with
  | some d =>
    addData symbol sight { d with isConstant := t.isConst || t.isReference }
  | none =>
    if !isCpp then fail "initializer element is not constant"
    if specs.isConstant then fail ("the value of '" ++ v.name ++ "' is not usable in a constant expression")
    addData symbol sight { size, alignment }
    let opening ← makeStep "start" do
      let inner := (← get).making.id
      changeMaking fun _ => { made with id := inner }
      emitValue code
      for step in ← temporariesCode temporaries do emit step
    modify fun s => { s with first := s.first ++ [opening] }
  let goes ← probe (do
    let ((), _) ← inMaking {} (do
      match ← destroy? g t (.symbol symbol) with
      | some _ => return ()
      | none => fail "nothing to do")
    return ())
  if goes.isSome then
    atEnd do
      if let some code ← destroy? g t (.symbol symbol) then emitValue code

/-- Whether a scope lies in a namespace without a name. -/
def isNameless (id : Nat) : Compile Bool := do
  (← outwards scopeDepth id).anyM fun s => do
    match (← scope s).kind with
    | .namespace_ name _ =>
      let c ← scope s
      return name == "" && c.parent.isSome
    | _ => return false

/-- How a variable or a function is seen from other units. -/
def sightOf (specs : Specifiers) (isInner isShared : Bool) : Compile Sight := do
  if isInner then return .hidden
  if specs.isHidden then return .sharedHidden
  let hides := (← get).reading.hides && !specs.isShown && (← get).isOwn
  if hides then return .sharedHidden
  if !(← get).isOwn && isShared then return .sharedHidden
  return if isShared || specs.isWeak then .shared else .shown

/-- Declares a variable outside of functions, or a member that is shared by all objects of a
class. -/
def declareLasting (g : Grammar) (specs : Specifiers) (d : Declared) : Compile Unit := do
  let isCpp ← isCpp
  let home ← match d.owner with
    | some id => pure id
    | none => declaringScope
  let isMember : Bool := match (← scope home).kind with
    | .record _ => true
    | _ => false
  let s ← get
  let next ← peek
  let hasStart := next == .sign "=" || next == .sign "\x7b" || next == .sign "("
  if d.type.isVoid then fail ("variable or field '" ++ d.name ++ "' declared void")
  let known := (← scope home).names[d.name]?.getD []
  let others := known.filter fun b => !isType b
  if others.isEmpty && d.owner.isNone then checkFree home d.name
  let isExternOnly := specs.isExtern && !hasStart
  let inner := specs.isStatic || (← isNameless home)
    || (isCpp && d.type.isConst && !specs.isExtern && !specs.isInline && !isMember && !s.plainNames)
    || (isCpp && d.type.isConst && !specs.isExtern && !specs.isInline && !isMember && s.plainNames && !specs.isConstant && false)
  let find : Compile (Option Nat) := do
    match others with
    | [] => return none
    | .variable id :: _ => return some id
    | _ => fail ("'" ++ d.name ++ "' redeclared as different kind of entity")
  let id ← match ← find with
    | some id =>
      let v ← getVariable id
      let same := v.type.plain == d.type.plain || d.type.isAuto || match v.type.plain, d.type.plain with
        | .openArray a, .array b _ | .array a _, .openArray b => a == b
        | .array a m, .array b n => a == b && m == n
        | _, _ => false
      if !same then fail ("conflicting declaration '" ++ d.name ++ "'")
      if v.isDefined && !isExternOnly && (isCpp || hasStart) && !(isMember && v.isInline && !hasStart) then
        let isTentative := !isCpp && !hasStart
        let wasTentative := !isCpp && (match v.location with
          | .symbol name => s.data.contains name && !v.isInline
          | _ => false) && v.start.isEmpty
        if !isTentative && !wasTentative then fail ("redefinition of '" ++ d.name ++ "'")
      if !isCpp && specs.isStatic then
        match v.location with
        | .symbol name =>
          if let some (sight, _) := s.data[name]? then
            if sight ≠ .hidden then fail ("static declaration of '" ++ d.name ++ "' follows non-static declaration")
        | _ => pure ()
      -- a known size stays
      match v.type.plain, d.type.plain with
      | .array .., .openArray _ => pure ()
      | _, _ => changeVariable id fun v => { v with type := d.type }
      pure id
    | none =>
      if d.isQualified then fail ("'" ++ d.name ++ "' is not a member of the scope before it")
      let symbol ← match specs.symbol <|> d.specifiers.symbol with
        | some name => pure name
        | none =>
          if !isCpp then pure d.name
          else if s.plainNames && !isMember then pure d.name
          else Spell.variable_ d.name home (inner && !(← isNameless home))
      let id ← addVariable {
        name := d.name, type := d.type, location := .symbol symbol, scope := home, isDefined := false
        isInline := specs.isInline || (isMember && specs.isConstant), access := s.access }
      bindVariable home d.name id
      pure id
  let v ← getVariable id
  let .symbol symbol := v.location | fail "variable is not one that stays"
  if isExternOnly then return
  if isMember && v.isInline && v.isDefined && !hasStart then return
  let isShared := specs.isInline || v.isInline
  let wasInner := (s.data[symbol]?).any (·.1 = .hidden)
  let sight ← sightOf specs (inner || wasInner) isShared
  let scopeForStart := if d.owner.isSome then home else s.here
  changeVariable id fun v => { v with isDefined := true, start := if hasStart then [{ token := .sign "=" }] else v.start }
  inside scopeForStart (setUpLasting g symbol sight id specs (initializer g))

/-! ## Variables of functions -/

/-- Declares a variable in a function that stays when the function is left. -/
def declareStatic (g : Grammar) (specs : Specifiers) (d : Declared) : Compile Unit := do
  let here := (← get).here
  checkFree here d.name
  let symbol := d.name ++ "." ++ toString (← fresh)
  let id ← addVariable { name := d.name, type := d.type, location := .symbol symbol, scope := here }
  bindVariable here d.name id
  let before := (← get).tokens
  let making := (← get).making
  -- with constants it starts before the program does
  let constant ← attempt (do
    let known := (← get).first.length
    setUpLasting g symbol .hidden id specs (initializer g)
    if known ≠ (← get).first.length then fail "not a constant"
    return ())
  if constant.isSome then return
  if !(← isCpp) || specs.isConstant then
    -- the same again, for the message
    setUpLasting g symbol .hidden id specs (initializer g)
    return
  setTokens before
  let _ := making
  let guard := symbol ++ ".guard"
  addData guard .hidden { size := 8, alignment := 8 }
  let skip ← newLabel
  let isOpen := Core.binary .eq .i32 (.convert .u8 .i32 (.load .u8 (.symbol guard))) (.number .i32 0)
  emit (.unless isOpen skip)
  let (t, temporaries) ← fullExpression (do
    let (style, values) ← initializer g
    let t ← settledType g d.type style values
    changeVariable id fun v => { v with type := t }
    let code ← construct g t (.symbol symbol) style values
    emitValue code
    return t)
  for step in ← temporariesCode temporaries do emit step
  emitValue (.store .u8 (.symbol guard) (.number .u8 1))
  emit (.label skip)
  let (size, alignment) ← layout g (match t with
    | .reference .. => .pointer .void
    | t => t)
  addData symbol .hidden { size, alignment }
  if !t.isReference then
    let goes := !(← isTrivial g .destroy t)
    if goes then
      atEnd do
        let skip ← newLabel
        emit (.unless (.convert .u8 .i32 (.load .u8 (.symbol guard))) skip)
        if let some code ← destroy? g t (.symbol symbol) then emitValue code
        emit (.label skip)

/-- Refuses what cannot be a variable of a function. -/
def checkLocal (g : Grammar) (t : Ty) (name : String) : Compile Unit := do
  if t.isVoid then fail ("variable or field '" ++ name ++ "' declared void")
  match t.plain with
  | .sizedArray .. => return
  | .reference .. => return
  | u =>
    if !(← isComplete g u) then fail ("variable '" ++ name ++ "' has incomplete type")

/-- Declares a variable of a function. -/
def declareLocal (g : Grammar) (specs : Specifiers) (d : Declared) : Compile Unit := do
  if specs.isStatic || specs.isConstant then declareStatic g specs d; return
  let here := (← get).here
  checkFree here d.name
  let s ← get
  let depends := needsValues d.type
  let place ← newPlace 0 1
  let id ← addVariable {
    name := d.name, type := d.type, location := .frame s.making.id place, scope := here, isUsed := specs.isUnused }
  if !depends || (match d.type.plain with
      | .openArray _ => true
      | _ => false) then
    bindVariable here d.name id
  let setPlace (t : Ty) : Compile Unit := do
    let (size, alignment) ← match t with
      | .reference .. | .sizedArray .. => pure (8, 8)
      | t => layout g t
    changeMaking fun m => { m with places := m.places.set! place (size, max alignment specs.alignment) }
  if !depends then
    checkLocal g d.type d.name
    setPlace d.type
  let isResult ← do
    match s.making.returnedName, s.making.resultPlace with
    | some name, some home =>
      let same := d.type.isRecord && !d.type.isConst && d.type == s.making.result.plain
      if name == d.name && same && s.making.returnedVariable.isNone then
        changeMaking fun m => { m with returnedVariable := some id }
        changeVariable id fun v => { v with type := .reference d.type false, location := .frame s.making.id home }
        pure (some home)
      else pure none
    | _, _ => pure none
  let address := match isResult with
    | some home => Core.load .u64 (.frame home)
    | none => Core.frame place
  let ((t, keeps), temporaries) ← fullExpression (do
    let (style, values) ← initializer g
    let t ← settledType g d.type style values
    if depends then
      checkLocal g t d.name
      setPlace t
      changeVariable id fun v => { v with type := t }
      if ((← scope here).names[d.name]?.getD []).all (fun | .variable i => i != id | _ => true) then bindVariable here d.name id
    let known ← knownNumber g t false values
    if known.isSome then changeVariable id fun v => { v with constant := known }
    match t with
    | .reference .. =>
      if style = byNothing then fail ("'" ++ d.name ++ "' declared as reference but not initialized")
      let keeps : Bool := match values with
        | [.value v] => v.category ≠ .place || !(v.type.plain == t.referred.plain)
        | [.functions ..] => false
        | _ => true
      emitValue (← construct g t address style values)
      return (t, keeps)
    | .sizedArray _ size =>
      if style ≠ byNothing then fail "variable-sized object may not be initialized"
      emitValue (.store .u64 address (.reserve (.load .u64 (.frame size))))
      return (t, false)
    | t =>
      if t.isConst && style = byNothing && (← isCpp) then
        if ← isTrivial g .create t then fail ("uninitialized const '" ++ d.name ++ "'")
      emitValue (← construct g t address style values)
      return (t, false))
  if keeps then
    for c in temporaries.reverse do
      changeMaking fun m => { m with cleanups := c :: m.cleanups }
  else
    for step in ← temporariesCode temporaries do emit step
  if s.isOwn && !specs.isUnused then
    let plainEnd := !t.isRecord || (← isTrivial g .destroy t.plain)
    if plainEnd then changeMaking fun m => { m with declared := id :: m.declared }
  if !t.isReference && isResult.isNone then
    if let some code ← destroy? g t address then addCleanup code

end ModuleForge.Host.Native.Compile
