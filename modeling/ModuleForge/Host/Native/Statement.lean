import ModuleForge.Host.Native.Declaration

/-!
# Statements

Reads statements and writes down their steps. Whatever way control takes out of a scope, the objects
in it go first.
-/
namespace ModuleForge.Host.Native.Compile

/-! ## What starts here -/

/-- Words that start nothing but a declaration. -/
def declarationWords : List String :=
  ["typedef", "static", "extern", "register", "inline", "constexpr", "consteval", "constinit", "thread_local",
   "_Thread_local", "using", "namespace", "static_assert", "_Static_assert", "template", "struct", "class",
   "union", "enum", "const", "volatile", "auto", "alignas", "_Alignas", "_Noreturn", "virtual", "friend",
   "mutable", "explicit"]

/-- Whether what stands here can be read as a declaration. -/
def couldDeclare (g : Grammar) : Compile Bool := do
  let found ← probe (typesOnly (do
    let (_, base) ← g.specifiers
    if base == .unknown then fail "no type"
    if ← isSign ";" then return ()
    let d ← g.declarator base
    if d.name == "" then fail "no name"
    match ← peek with
    | .sign s =>
      if ["=", ";", ",", "(", "\x7b", ":", ")", "["].contains s then return () else fail "no declaration"
    | .word w => if w == "asm" || w == "__asm__" || w == "__attribute__" then return () else fail "no declaration"
    | _ => fail "no declaration"))
  return found.isSome

/-- Whether a declaration starts here. -/
def startsDeclaration (g : Grammar) : Compile Bool := do
  match ← peek with
  | .word w =>
    let s ← get
    if declarationWords.contains w && isKeyword s.reading w then
      if w == "auto" then
        let next ← ahead 1
        return next != .sign "(" && next != .sign "\x7b"
      return true
    if !(← startsType g) then return false
    couldDeclare g
  | .sign "::" =>
    if !(← startsType g) then return false
    couldDeclare g
  | _ => return false

/-! ## Statements as tokens -/

/-- The tokens of one statement, and what follows it. -/
def statementTokens : Nat → List Lexeme → Option (List Lexeme × List Lexeme)
  | 0, _ => none
  | fuel + 1, ts =>
    let group (ts : List Lexeme) : Option (List Lexeme × List Lexeme) := match ts with
      | t :: rest => if t.opens then (Lexeme.inside? rest).map fun (inner, behind) =>
          ([t] ++ inner ++ [{ t with token := .sign (if t.isSign "(" then ")" else if t.isSign "[" then "]" else "\x7d") }], behind)
        else none
      | [] => none
    match ts with
    | [] => none
    | t :: rest =>
      if t.isSign "\x7b" then group ts
      else match t.token with
        | .word w =>
          if w == "if" then
            let (front, rest) : List Lexeme × List Lexeme := match rest with
              | c :: more => if c.token == .word "constexpr" then ([t, c], more) else ([t], rest)
              | [] => ([t], [])
            match group rest with
            | none => none
            | some (condition, rest) => match statementTokens fuel rest with
              | none => none
              | some (body, rest) => match rest with
                | e :: more =>
                  if e.token == .word "else" then
                    (statementTokens fuel more).map fun (other, rest) => (front ++ condition ++ body ++ [e] ++ other, rest)
                  else some (front ++ condition ++ body, rest)
                | [] => some (front ++ condition ++ body, rest)
          else if w == "while" || w == "for" || w == "switch" then
            match group rest with
            | none => none
            | some (condition, rest) => (statementTokens fuel rest).map fun (body, rest) => ([t] ++ condition ++ body, rest)
          else if w == "do" then
            match statementTokens fuel rest with
            | some (body, rest) =>
              let (last, rest) := Lexeme.upTo (·.isSign ";") false 0 0 [] rest
              some ([t] ++ body ++ last.reverse ++ rest.take 1, rest.drop 1)
            | none => none
          else if w == "try" then
            match group rest with
            | none => none
            | some (body, rest) => some (handlers fuel ([t] ++ body) rest)
          else if w == "case" || w == "default" then
            let (front, rest) := Lexeme.upTo (·.isSign ":") false 0 0 [] ts
            (statementTokens fuel (rest.drop 1)).map fun (body, rest') => (front.reverse ++ rest.take 1 ++ body, rest')
          else match rest with
            | c :: more =>
              if c.isSign ":" then (statementTokens fuel more).map fun (body, rest) => ([t, c] ++ body, rest)
              else plain ts
            | [] => plain ts
        | _ => plain ts
where
  plain (ts : List Lexeme) : Option (List Lexeme × List Lexeme) :=
    let (front, rest) := Lexeme.upTo (·.isSign ";") false 0 0 [] ts
    match rest with
    | [] => none
    | s :: rest => some (front.reverse ++ [s], rest)
  handlers : Nat → List Lexeme → List Lexeme → List Lexeme × List Lexeme
    | 0, done, rest => (done, rest)
    | fuel + 1, done, rest => match rest with
      | c :: p :: more =>
        if c.token == .word "catch" then
          match Lexeme.inside? more with
          | some (clause, b :: rest) => match Lexeme.inside? rest with
            | some (inner, rest) => handlers fuel (done ++ [c, p] ++ clause ++ [{ p with token := .sign ")" }, b] ++ inner
                ++ [{ b with token := .sign "\x7d" }]) rest
            | none => (done, rest)
          | _ => (done, rest)
        else (done, rest)
      | _ => (done, rest)

/-- Takes the tokens of one statement. -/
def takeStatement : Compile (List Lexeme) := do
  match statementTokens 10000 (← get).tokens with
  | some (ts, rest) => setTokens rest; return ts
  | none => fail "expected a statement"

/-! ## Parts of statements -/

/-- What is computed for an expression whose value is not used. -/
def discarded (g : Grammar) (o : Operand) : Compile Core := do
  match o with
  | .value v => if v.make.isSome && v.type.isRecord then addressOf g v else return v.code
  | .functions .. =>
    let _ ← single o
    return .nothing
  | .braces _ => fail "braces are not allowed here"

/-- An expression that stands as a statement. -/
def expressionStatement (g : Grammar) : Compile Unit := do
  emitFull do
    discarded g (← g.expression)

/-- Reads statements up to the closing brace. -/
def blockWithin (g : Grammar) : Nat → Compile Unit
  | 0 => fail "too many statements"
  | fuel + 1 => do
    if ← acceptSign "\x7d" then return
    if (← get).tokens.isEmpty then expected "\x7d"
    g.statement
    blockWithin g fuel

/-- A value as a condition. -/
def conditionOf (g : Grammar) (o : Operand) : Compile Core := do
  match o with
  | .value v =>
    let v ← if v.type.isRecord then convert g o .bool true else pure v
    if v.type.isVoid then fail "could not convert a void value to 'bool'"
    truthOf v
  | o => truthOf (← loaded (← single o))

/-- Reads a condition, which may declare a variable. -/
def condition (g : Grammar) : Compile Core := do
  if (← isCpp) && (← startsDeclaration g) then
    let (specs, base) ← g.specifiers
    let d ← g.declarator base
    if d.type.isFunction then fail "a function cannot be a condition"
    declareLocal g specs d
    match ← lookup g d.name with
    | .variable id :: _ =>
      let v ← variableValue id
      numberFull .i32 (conditionOf g (.value { v with constant := none }))
    | _ => fail "expected a condition"
  else
    numberFull .i32 do
      conditionOf g (← g.expression)

/-- Reads a statement with labels to leave it and to go on with it. -/
def inLoop (leave again : Option (Nat × Nat)) (m : Compile Unit) : Compile Unit := do
  let before := (← get).making
  changeMaking fun s => { s with leave := leave <|> s.leave, again := again <|> s.again }
  m
  changeMaking fun s => { s with leave := before.leave, again := before.again }

/-- Whether a condition always holds. -/
def alwaysHolds : Core → Bool
  | .number _ n => n ≠ 0
  | _ => false

/-- Whether some step goes to a label. -/
def isAim (steps : Array Step) (n : Nat) : Bool := steps.any fun
  | .jump m => m == n
  | _ => false

/-- Reads what may stand before a condition. -/
def conditionStart (g : Grammar) : Compile Unit := do
  match Lexeme.inside? (← get).tokens with
  | some (inner, _) =>
    let (_, rest) := Lexeme.upTo (·.isSign ";") false 0 0 [] inner
    if rest.isEmpty then return
    if ← acceptSign ";" then return
    if ← startsDeclaration g then g.declaration
    else
      expressionStatement g
      expectSign ";"
  | none => fail "expected ')' at end of input"

/-! ## Choices -/

def ifStatement (g : Grammar) : Compile Unit := do
  let isConstant ← acceptWord "constexpr"
  expectSign "("
  inScopeOfItsOwn do
    if ← isCpp then conditionStart g
    if isConstant then
      let o ← typesOnly g.expression
      let o ← match o with
        | .value v => if v.type.isRecord then do pure (.value (← g.convert o .bool true)) else pure o
        | o => pure o
      let (n, _) ← constantOf g o
      expectSign ")"
      if n ≠ 0 then
        inScopeOfItsOwn g.statement
        if ← acceptWord "else" then
          let _ ← takeStatement
      else
        let _ ← takeStatement
        if ← acceptWord "else" then inScopeOfItsOwn g.statement
    else
      let c ← condition g
      expectSign ")"
      let no ← newLabel
      if !alwaysHolds c then emit (.unless c no)
      inScopeOfItsOwn g.statement
      let reached := (← get).making.reached
      if ← acceptWord "else" then
        let done ← newLabel
        if reached then emit (.jump done)
        emit (.label no)
        inScopeOfItsOwn g.statement
        let other := (← get).making.reached
        emit (.label done)
        changeMaking fun m => { m with reached := reached || other }
      else
        emit (.label no)
        if alwaysHolds c then changeMaking fun m => { m with reached }

def switchStatement (g : Grammar) : Compile Unit := do
  expectSign "("
  inScopeOfItsOwn do
    if ← isCpp then conditionStart g
    let place ← newPlace 8 8
    let read (o : Operand) : Compile (Ty × Scalar × Core) := do
      let v ← single o
      let v ← if v.type.isRecord then arithmeticOperand g v else loaded v
      let t : Ty ← match v.type.plain with
        | .number k => if k.isReal then fail "switch quantity not an integer" else pure (Ty.number k.promoted)
        | .enum id => pure (Ty.enum id)
        | _ => fail "switch quantity not an integer"
      let v ← asNumber g v t
      return (t, ← scalar t, v.code)
    let (t, s) ← do
      if (← isCpp) && (← startsDeclaration g) then
        let (specs, base) ← g.specifiers
        let d ← g.declarator base
        declareLocal g specs d
        match ← lookup g d.name with
        | .variable id :: _ =>
          let (t, s, c) ← read (.value { (← variableValue id) with constant := none })
          emitValue (.store s (.frame place) c)
          pure (t, s)
        | _ => fail "expected a condition"
      else
        let ((t, s, c), temporaries) ← fullExpression (do read (← g.expression))
        emitValue (.store s (.frame place) c)
        for step in ← temporariesCode temporaries do emit step
        pure (t, s)
    expectSign ")"
    let choose ← newLabel
    let done ← newLabel
    let depth := (← get).making.cleanups.length
    let before := (← get).making.cases
    emit (.jump choose)
    changeMaking fun m => { m with cases := some { type := t } }
    inLoop (some (done, depth)) none (inScopeOfItsOwn g.statement)
    let reached := (← get).making.reached
    if reached then emit (.jump done)
    let cases := (← get).making.cases
    changeMaking fun m => { m with cases := before }
    emit (.label choose)
    let value := Core.load s (.frame place)
    match cases with
    | none => pure ()
    | some c =>
      for (low, high, label) in c.values.reverse do
        if low = high then emit (.unless (.binary .ne s value (.number s low)) label)
        else
          let within := Core.choose (.binary .ge s value (.number s low)) (.binary .le s value (.number s high)) (.number .i32 0)
          emit (.unless (.binary .eq .i32 within (.number .i32 0)) label)
      emit (.jump (c.otherwise.getD done))
    emit (.label done)
    let isLeft := isAim (← get).making.steps done
    match cases with
    | some c => if c.otherwise.isSome && !reached && !isLeft then changeMaking fun m => { m with reached := false }
    | none => pure ()

/-- A place among the alternatives of a choice. -/
def caseLabel (g : Grammar) (isDefault : Bool) : Compile Unit := do
  match (← get).making.cases with
  | none => fail (if isDefault then "'default' label not within a switch statement" else "case label not within a switch statement")
  | some c =>
    let label ← newLabel
    if isDefault then
      expectSign ":"
      if c.otherwise.isSome then fail "multiple default labels in one switch"
      changeMaking fun m => { m with cases := some { c with otherwise := some label } }
    else
      let value : Compile Int := do
        let o ← ternary g
        match c.type, o with
        | .enum e, .value v =>
          if (← getEnum e).isScoped && !(v.type.plain == c.type) then fail "could not convert the case value"
        | _, _ => pure ()
        let (n, _) ← constantOf g o
        return (← scalar c.type).wrap n
      let low ← value
      let high ← if ← acceptSign "..." then value else pure low
      expectSign ":"
      if c.values.any (fun (l, h, _) => low ≤ h && l ≤ high) then fail "duplicate case value"
      changeMaking fun m => { m with cases := some { c with values := (low, high, label) :: c.values } }
    emit (.label label)
    if !(← isSign "\x7d") then g.statement

/-! ## Loops -/

def whileStatement (g : Grammar) : Compile Unit := do
  expectSign "("
  let again ← newLabel
  let done ← newLabel
  let out ← newLabel
  let start := (← get).making.steps.size
  emit (.label again)
  let depth := (← get).making.cleanups.length
  let forever ← inNew .block (do
    let c ← condition g
    expectSign ")"
    if !alwaysHolds c then emit (.unless c out)
    inLoop (some (done, depth)) (some (again, depth)) (inScopeOfItsOwn g.statement)
    if (← get).making.reached then
      emitCleanups depth
      emit (.jump again)
    emit (.label out)
    emitCleanups depth
    changeMaking fun m => { m with cleanups := m.cleanups.drop (m.cleanups.length - depth) }
    return alwaysHolds c)
  emit (.label done)
  let steps := (← get).making.steps
  if forever && !isAim (steps.extract start steps.size) done then changeMaking fun m => { m with reached := false }

def doStatement (g : Grammar) : Compile Unit := do
  let start ← newLabel
  let again ← newLabel
  let done ← newLabel
  let depth := (← get).making.cleanups.length
  let first := (← get).making.steps.size
  emit (.label start)
  inLoop (some (done, depth)) (some (again, depth)) (inScopeOfItsOwn g.statement)
  emit (.label again)
  if !(← acceptWord "while") then expected "while"
  expectSign "("
  let c ← numberFull .i32 (do conditionOf g (← g.expression))
  expectSign ")"
  expectSign ";"
  if !alwaysHolds c then emit (.unless c done)
  emit (.jump start)
  emit (.label done)
  let steps := (← get).making.steps
  if alwaysHolds c && !isAim (steps.extract first steps.size) done then changeMaking fun m => { m with reached := false }

/-- A loop over what some range holds. -/
def rangeLoop (g : Grammar) (start named range : List Lexeme) : Compile Unit := do
  let body ← takeStatement
  let n := toString (← fresh)
  let sign (s : String) : Lexeme := { token := .sign s }
  let word (s : String) : Lexeme := { token := .word s }
  let whole := word (".range" ++ n)
  let first := word (".first" ++ n)
  let last := word (".last" ++ n)
  let isOwn := (← get).isOwn
  let hiddenly (m : Compile Unit) : Compile Unit := do
    modify fun s => { s with isOwn := false }
    m
    modify fun s => { s with isOwn }
  inScopeOfItsOwn do
    if !start.isEmpty then reading start g.statement
    hiddenly (reading ([word "auto", sign "&&", whole, sign "="] ++ range ++ [sign ";"]) g.declaration)
    let t ← match ← lookup g (".range" ++ n) with
      | .variable id :: _ => pure (← getVariable id).type.referred
      | _ => fail "range is not understood"
    let (from_, until_) : List Lexeme × List Lexeme ← match t.plain with
      | .array _ count =>
        pure ([whole], [whole, sign "+", { token := .number (toString count) : Lexeme }])
      | .record id => do
        g.complete id
        let hasMembers := !(← inRecord g scopeDepth id "begin").isEmpty && !(← inRecord g scopeDepth id "end").isEmpty
        if hasMembers then
          pure ([whole, sign ".", word "begin", sign "(", sign ")"], [whole, sign ".", word "end", sign "(", sign ")"])
        else pure ([word "begin", sign "(", whole, sign ")"], [word "end", sign "(", whole, sign ")"])
      | _ => fail "'begin' was not declared in this scope"
    hiddenly (reading ([word "auto", first, sign "="] ++ from_ ++ [sign ";"]) g.declaration)
    hiddenly (reading ([word "auto", last, sign "="] ++ until_ ++ [sign ";"]) g.declaration)
    reading ([word "for", sign "(", sign ";", first, sign "!=", last, sign ";", sign "++", first, sign ")", sign "\x7b"]
      ++ named ++ [sign "=", sign "*", first, sign ";"] ++ body ++ [sign "\x7d"]) g.statement

def forStatement (g : Grammar) : Compile Unit := do
  expectSign "("
  match Lexeme.inside? (← get).tokens with
  | none => fail "expected ')' at end of input"
  | some (inner, behind) =>
    let (first, rest) := Lexeme.upTo (·.isSign ";") false 0 0 [] inner
    let (_, rest2) := Lexeme.upTo (·.isSign ";") false 0 0 [] (rest.drop 1)
    if (← isCpp) && rest2.isEmpty then
      let (start, loop) : List Lexeme × List Lexeme := match rest with
        | [] => ([], inner)
        | s :: more => (first.reverse ++ [s], more)
      let (named, range) := Lexeme.upTo (·.isSign ":") false 0 0 [] loop
      if range.isEmpty then fail "expected ';' before ')'"
      setTokens behind
      return ← rangeLoop g start named.reverse (range.drop 1)
    inScopeOfItsOwn do
      if !(← acceptSign ";") then
        if ← startsDeclaration g then g.declaration
        else
          expressionStatement g
          expectSign ";"
      let top ← newLabel
      let again ← newLabel
      let done ← newLabel
      let start := (← get).making.steps.size
      emit (.label top)
      let depth := (← get).making.cleanups.length
      let c ← if ← isSign ";" then pure (Core.number .i32 1) else condition g
      expectSign ";"
      if !alwaysHolds c then emit (.unless c done)
      let step ← takeUpTo (·.isSign ")") false
      expectSign ")"
      inLoop (some (done, depth)) (some (again, depth)) (inScopeOfItsOwn g.statement)
      emit (.label again)
      if !step.isEmpty then reading step (expressionStatement g)
      emit (.jump top)
      emit (.label done)
      let steps := (← get).making.steps
      if alwaysHolds c && !isAim (steps.extract start steps.size) done then
        changeMaking fun m => { m with reached := false }

/-! ## Jumps -/

/-- Leaves a loop or a choice, or goes on with the next round. -/
def leaveLoop (target : Option (Nat × Nat)) (message : String) : Compile Unit := do
  expectSign ";"
  match target with
  | none => fail message
  | some (label, depth) =>
    emitCleanups depth
    emit (.jump label)

/-- The variable that a return names, if it goes with the function. -/
def goingVariable? (g : Grammar) : Compile (Option Nat) := do
  match ← peekName?, ← ahead 1 with
  | some name, .sign ";" =>
    match ← lookup g name with
    | .variable id :: _ =>
      let v ← getVariable id
      let m := (← get).making
      match v.location with
      | .frame making _ =>
        let isOwn := making = m.id && !v.type.isReference && v.type.isRecord
        return if isOwn || m.objects.contains id || m.returnedVariable == some id then some id else none
      | .symbol _ => return none
    | _ => return none
  | _, _ => return none

/-- Sets up the result of a function, an object, from a value. -/
def returnObject (g : Grammar) (t : Ty) (going : Option Nat) (o : Operand) : Compile Unit := do
  let m := (← get).making
  let some place := m.resultPlace | fail "function has no place for its result"
  let address := Core.load .u64 (.frame place)
  if going.isSome && going == m.returnedVariable then return
  emitFull do
    match going, o with
    | some _, .value v =>
      match ← attempt (construct g t address byCopy [.value { v with category := .passing }]) with
      | some code => return code
      | none => construct g t address byCopy [o]
    | _, _ => construct g t address byCopy [o]

def returnStatement (g : Grammar) : Compile Unit := do
  let m := (← get).making
  let isCpp ← isCpp
  changeMaking fun m => { m with returned := true }
  if ← acceptSign ";" then
    if m.result.isAuto then changeMaking fun m => { m with result := .void }
    else if !m.result.isVoid then
      if isCpp then fail "return-statement with no value" else warn "return-type"
    emitLeave .u64 .nothing
    return
  let going ← goingVariable? g
  let read : Compile Operand := do
    if ← isSign "\x7b" then bracedList g else g.expression
  if m.result.isVoid then
    let ((code, isVoid), temporaries) ← fullExpression (do
      let o ← read
      match o with
      | .value v => return (← discarded g o, v.type.isVoid)
      | _ => fail "return-statement with a value in function returning 'void'")
    if !isVoid then
      if isCpp then fail "return-statement with a value, in function returning 'void'" else warn "return-mismatch"
    emitValue code
    for step in ← temporariesCode temporaries do emit step
    expectSign ";"
    if (← get).making.reached then emitLeave .u64 .nothing
    return
  let depends := m.result.isAuto
  -- the type of the result may follow from the first value that is returned
  let tokens := (← get).tokens
  let t ← if depends then do
      let o ← typesOnly read
      setTokens tokens
      let isVoid : Bool := match o with
        | .value v => v.type.isVoid
        | _ => false
      let t ← if isVoid then pure Ty.void else typeFromValues g m.result byCopy [o]
      changeMaking fun m => { m with result := t }
      pure t
    else pure m.result
  if t.isVoid then
    emitFull (do discarded g (← read))
    expectSign ";"
    emitLeave .u64 .nothing
    return
  match t.plain with
  | .record _ =>
    let place := m.resultPlace.getD 0
    let (o, temporaries) ← fullExpression (do
      let o ← read
      returnObject g t.plain going o
      return o)
    let _ := o
    for step in ← temporariesCode temporaries do emit step
    expectSign ";"
    if (← get).making.reached then emitLeave .u64 (.load .u64 (.frame place))
  | .reference .. =>
    let code ← numberFull .u64 (do
      let o ← read
      return (← convert g o t false).code)
    expectSign ";"
    if (← get).making.reached then emitLeave .u64 code
  | u =>
    let s ← scalar u
    let code ← numberFull s (do
      let o ← read
      return (← convert g o u false).code)
    expectSign ";"
    if (← get).making.reached then emitLeave s code

def gotoStatement (g : Grammar) : Compile Unit := do
  if ← acceptSign "*" then
    emitFull do
      let v ← loaded (← single (← g.expression))
      return .steps [.leap .framePointer v.code] .nothing
    expectSign ";"
    changeMaking fun m => { m with reached := false }
    return
  let name ← expectName
  expectSign ";"
  let m := (← get).making
  match m.marks.find? (·.name == name) with
  | some mark =>
    if mark.isPlaced then
      emitCleanups mark.depth
      emit (.jump mark.label)
    else leaveFor mark.name mark.label
  | none =>
    let label ← newLabel
    changeMaking fun m => { m with marks := { name, label } :: m.marks }
    leaveFor name label
where
  /-- Goes to a place that comes later; what has to go before is known there. -/
  leaveFor (name : String) (label : Nat) : Compile Unit := do
    let cs := (← get).making.cleanups
    if cs.isEmpty then emit (.jump label)
    else
      let source ← newLabel
      emit (.jump source)
      changeMaking fun m => { m with marks := m.marks.map fun k =>
        if k.name == name then { k with sources := (source, cs) :: k.sources } else k }

/-- A name for the place where it stands. -/
def placeMark (name : String) : Compile Unit := do
  let m := (← get).making
  let depth := m.cleanups.length
  match m.marks.find? (·.name == name) with
  | some mark =>
    if mark.isPlaced then fail ("duplicate label '" ++ name ++ "'")
    changeMaking fun m => { m with marks := m.marks.map fun k =>
      if k.name == name then { k with isPlaced := true, depth } else k }
    emit (.label mark.label)
  | none =>
    let label ← newLabel
    changeMaking fun m => { m with marks := { name, label, isPlaced := true, depth } :: m.marks }
    emit (.label label)

/-! ## Exceptions -/

/-- Reads what is done with an exception of some type. -/
def catchClause (g : Grammar) (done : Nat) : Compile Bool := do
  expectSign "("
  let next ← newLabel
  let caught ← inScopeOfItsOwn (do
    let object ← newPlace 8 8
    let all ← acceptSign "..."
    let named ← if all then pure none else do
      let (_, base) ← g.specifiers
      let d ← g.declarator base
      pure (some { d with type := d.type.asParameter })
    expectSign ")"
    match named with
    | some d =>
      let kind ← kindSymbol g d.type.referred.plain
      let found ← supportCall "__support_match" [.symbol kind]
      emitValue (.store .u64 (.frame object) found)
      emit (.unless (Core.load .u64 (.frame object)).isSet next)
    | none => pure ()
    emitValue (← supportCall "__support_enter" [])
    addCleanup (← supportCall "__support_leave" [])
    match named with
    | some d =>
      if d.name ≠ "" then
        let making := (← get).making.id
        let address := Core.load .u64 (.frame object)
        match d.type with
        | .reference t _ =>
          let id ← addVariable { name := d.name, type := .reference t false, location := .frame making object, scope := (← get).here, isUsed := true }
          bind d.name (.variable id)
        | t =>
          let place ← placeFor g t
          let id ← addVariable { name := d.name, type := t, location := .frame making place, scope := (← get).here, isUsed := true }
          bind d.name (.variable id)
          emitFull (construct g t (.frame place) byCopy [.value (.place t.plain address)])
          if let some code ← destroy? g t (.frame place) then addCleanup code
    | none => pure ()
    expectSign "\x7b"
    blockWithin g 1000000
    return all)
  if (← get).making.reached then emit (.jump done)
  emit (.label next)
  return caught

def tryStatement (g : Grammar) : Compile Unit := do
  let place ← newPlace 24 8
  let handler ← newLabel
  let done ← newLabel
  let depth := (← get).making.cleanups.length
  enterHandler place handler
  changeMaking fun m => { m with cleanups := { code := .nothing, handler := some place } :: m.cleanups }
  expectSign "\x7b"
  inScopeOfItsOwn (blockWithin g 1000000)
  let reached := (← get).making.reached
  if reached then
    emitCleanups depth
    emit (.jump done)
  changeMaking fun m => { m with cleanups := m.cleanups.drop (m.cleanups.length - depth) }
  emit (.label handler)
  emit .landing
  let rec clauses : Nat → Bool → Compile Unit
    | 0, _ => return
    | fuel + 1, all => do
      if ← acceptWord "catch" then
        if all then fail "'...' handler must be the last handler for its try block"
        clauses fuel (← catchClause g done)
      else
        if !all then emitValue (← supportCall "__support_go" [])
        return
  if !(← isWord "catch") then expected "catch"
  clauses 1000 false
  let steps := (← get).making.steps
  emit (.label done)
  if !isAim steps done then changeMaking fun m => { m with reached := false }

/-! ## All statements -/

/-- Reads a statement. -/
def statement (g : Grammar) : Compile Unit := do
  let isCpp ← isCpp
  match ← peek with
  | .sign "\x7b" =>
    advance
    inScopeOfItsOwn (blockWithin g 1000000)
  | .sign ";" => advance
  | .sign "[" =>
    if (← ahead 1) == .sign "[" then
      let before := (← get).tokens
      skipAttributes g
      if ← acceptSign ";" then return
      if ← startsDeclaration g then
        setTokens before
        g.declaration
      else g.statement
    else
      expressionStatement g
      expectSign ";"
  | .word w =>
    match w with
    | "if" => advance; ifStatement g
    | "while" => advance; whileStatement g
    | "do" => advance; doStatement g
    | "for" => advance; forStatement g
    | "switch" => advance; switchStatement g
    | "case" => advance; caseLabel g false
    | "default" => advance; caseLabel g true
    | "break" => advance; leaveLoop (← get).making.leave "break statement not within loop or switch"
    | "continue" => advance; leaveLoop (← get).making.again "continue statement not within a loop"
    | "return" => advance; returnStatement g
    | "goto" => advance; gotoStatement g
    | "asm" | "__asm__" | "__asm" =>
      advance
      let _ ← acceptWords ["volatile", "__volatile__", "goto", "inline"]
      let _ ← acceptWords ["volatile", "__volatile__"]
      expectSign "("
      let inner ← takeInside
      expectSign ";"
      match Lexeme.tokens inner with
      | .text "" code :: _ => if !(code.toList.all Char.isWhitespace) then fail "assembly is not supported"
      | _ => fail "expected string-literal"
    | "else" => fail "'else' without a previous 'if'"
    | "try" =>
      if isCpp then advance; tryStatement g
      else
        expressionStatement g
        expectSign ";"
    | "__attribute__" =>
      skipAttributes g
      g.statement
    | "__label__" =>
      advance
      let _ ← takeUpTo (·.isSign ";") false
      expectSign ";"
    | _ =>
      let isMark := (← ahead 1) == .sign ":" && !isKeyword (← get).reading w
      if isMark then
        advance; advance
        placeMark w
        if !(← isSign "\x7d") then g.statement
      else if ← startsDeclaration g then g.declaration
      else
        expressionStatement g
        expectSign ";"
  | _ =>
    if ← startsDeclaration g then g.declaration
    else
      expressionStatement g
      expectSign ";"

end ModuleForge.Host.Native.Compile
