import ModuleForge.Host.Native.Builtin

/-!
# Expressions

Reads expressions by recursive descent, operators by their strength, and computes what they come to.
-/
namespace ModuleForge.Host.Native.Compile

/-! ## Lists of values -/

/-- A value in a list: an expression, or a list in braces. -/
def listed (g : Grammar) : Compile Operand := do
  if ← isSign "\x7b" then g.operand else g.assignment

/-- Reads one value of a list, or as many as there are members in a pack. -/
def expanded (g : Grammar) (item : Compile Operand) : Compile (List Operand) := do
  let ts := (← get).tokens
  let (read, rest) := Lexeme.upTo (fun t => t.isSign ",") false 0 0 [] ts
  match read with
  | last :: before =>
    if last.isSign "..." && (← isCpp) then
      let pattern := before.reverse
      let values ← forPack g pattern (reading pattern item)
      setTokens rest
      return values
    else return [← item]
  | [] => return [← item]

/-- The values of a call up to the closing parenthesis. -/
def argumentsWithin (g : Grammar) : Nat → List Operand → Compile (List Operand)
  | 0, _ => fail "too many arguments"
  | fuel + 1, done => do
    let values ← expanded g (listed g)
    let done := done ++ values
    if ← acceptSign "," then argumentsWithin g fuel done
    else
      expectSign ")"
      return done

def callArguments (g : Grammar) : Compile (List Operand) := do
  if ← acceptSign ")" then return []
  argumentsWithin g 100000 []

/-- The designators before a value. -/
def designators (g : Grammar) : Nat → List Designator → Compile (List Designator)
  | 0, ds => return ds
  | fuel + 1, ds => do
    if (← isSign ".") then
      match ← ahead 1 with
      | .word w =>
        advance; advance
        designators g fuel (ds ++ [.field w])
      | _ => return ds
    else if (← isSign "[") && !((← isCpp) && ds.isEmpty && (← couldBeLambda)) then
      advance
      let (n, _) ← constantOf g (← g.assignment)
      let upTo ← if ← acceptSign "..." then do
          let (m, _) ← constantOf g (← g.assignment)
          pure m
        else pure n
      expectSign "]"
      if n < 0 || upTo < n then fail "array index in initializer is out of range"
      designators g fuel (ds ++ [.index n.toNat upTo.toNat])
    else return ds
where
  couldBeLambda : Compile Bool := do
    match Lexeme.inside? ((← get).tokens.drop 1) with
    | some (_, t :: _) => return !(t.isSign "=" || t.isSign "." || t.isSign "[")
    | _ => return true

/-- The items of a list up to the closing brace. -/
def itemsWithin (g : Grammar) : Nat → List (List (List Designator × Operand)) →
    Compile (List (List Designator × Operand))
  | 0, _ => fail "list is too long"
  | fuel + 1, done => do
    if ← acceptSign "\x7d" then return done.reverse.flatten
    let named ← match ← peek, ← ahead 1 with
      | .word w, .sign ":" =>
        if !(← isCpp) then
          advance; advance
          pure (some [Designator.field w])
        else pure none
      | _, _ => pure none
    let ds ← match named with
      | some ds => pure ds
      | none => designators g 16 []
    let items ← if ds.isEmpty then do
        let values ← expanded g (listed g)
        pure (values.map fun o => (([] : List Designator), o))
      else do
        if named.isNone then
          if !(← isSign "\x7b") then expectSign "="
        pure [(ds, ← listed g)]
    if ← acceptSign "," then itemsWithin g fuel (items :: done)
    else
      expectSign "\x7d"
      return (items :: done).reverse.flatten

/-- A list in braces. -/
def bracedList (g : Grammar) : Compile Operand := do
  expectSign "\x7b"
  return .braces (← itemsWithin g 1000000 [])

/-! ## Names -/

/-- The namespaces whose functions a call without a scope may mean. -/
def withAssociated (fs ts : List Nat) (name : String) (values : List Operand) : Compile (List Nat × List Nat) := do
  let areMembers ← fs.anyM fun f => do return (← getFunction f).owner.isSome
  if areMembers then return (fs, ts)
  let (gs, us) ← associated name values
  return ((fs ++ gs).eraseDups, (ts ++ us).eraseDups)

/-- Declares a function that is called without a declaration. -/
def declareOpen (name : String) : Compile Nat := do
  let id ← addFunction {
    name, symbol := name, result := .int, parameters := [], traits := { isOpen := true }, scope := 0, inner := 0 }
  modify fun s => { s with functionOfSymbol := s.functionOfSymbol.insert name id }
  bindIn 0 name (.function id)
  warn "implicit-function-declaration"
  return id

/-- What a name stands for as a value. -/
def nameOperand (g : Grammar) (found : Found) : Compile Operand := do
  let values := found.bindings.filter fun b => !isType b
  match values with
  | .variable id :: _ =>
    let v ← getVariable id
    match (← scope v.scope).kind with
    | .record owner => checkAccess g owner v.access v.name
    | _ => pure ()
    return .value (← variableValue id)
  | .constant n t :: _ =>
    return .value { Value.ofInt t (← scalar t) n with isLiteral := false }
  | .field r i :: _ =>
    if (← getRecord r).isClosure then
      match (← get).making.this with
      | some (place, t) =>
        if t.record? == some r then
          return .value (← fieldOf g (.place t (.load .u64 (.frame place))) r i)
        else fail "not captured"
      | none => fail "not captured"
    if (← get).making.onlyTypes && (← get).making.this.isNone then
      -- the type of a member can be asked for without an object
      match (← getRecord r).fields[i]? with
      | some f => return .value (.place f.type.referred .nothing)
      | none => fail "no such member"
    return .value (← fieldOf g (← thisValue g (some r)) r i)
  | .namespace_ _ :: _ => fail ("'" ++ found.name ++ "' is a namespace")
  | .argument (.hole ..) :: _ | .argument .unknown :: _ => fail "value is not known yet"
  | .argument _ :: _ | .pack _ :: _ => fail "parameter packs not expanded with '...'"
  | .template id :: _ =>
    let (fs, ts) := functionsOf values
    let t ← getTemplate id
    if t.kind = .function || !fs.isEmpty then
      let object ← implicitObject fs ts
      return .functions fs ts found.arguments object
    else fail ("missing template arguments after '" ++ found.name ++ "'")
  | .function _ :: _ =>
    let (fs, ts) := functionsOf values
    let object ← implicitObject fs ts
    let object := object.map fun v => { v with isExact := found.qualifier.isSome }
    return .functions fs ts found.arguments object
  | [] =>
    match typeOf? found.bindings with
    | some _ => fail ("expected primary-expression before a type name '" ++ found.name ++ "'")
    | none => fail (undeclared found.name)
  | .type _ :: _ => fail "expected an expression"
where
  /-- The object of the function that is being made, for functions that need one. -/
  implicitObject (fs ts : List Nat) : Compile (Option Value) := do
    let owners ← fs.mapM fun f => do
      let f ← getFunction f
      return if f.isStatic || f.role = .constructor then none else f.owner
    let templateOwners ← ts.mapM fun t => do
      let t ← getTemplate t
      return if t.isStatic then none else t.owner
    match (owners ++ templateOwners).findSome? id with
    | none => return none
    | some owner =>
      let v ← attempt (thisValue g (some owner))
      return v

/-! ## Parts of expressions -/

/-- Whether a cast starts here: a type in parentheses. -/
def startsCast (g : Grammar) : Compile Bool := do
  let before := (← get).tokens
  advance
  let isType ← startsType g
  setTokens before
  if !isType then return false
  return (← probe (do
    advance
    let inner ← takeInside
    let _ ← reading inner (typesOnly g.typeName))).isSome

/-- An object of a type from values, as `T(values)` or `T{values}`. -/
def constructed (g : Grammar) (t : Ty) (values : List Operand) (list : Option Operand) : Compile Operand := do
  if t.isVoid then
    return .value (.void .nothing)
  match list with
  | some o =>
    match t.plain with
    | .record _ => return .value (← newObject g t byList [o])
    | .array .. | .openArray _ =>
      -- an array without a name
      let n : Nat := match o with
        | .braces items => items.length
        | _ => 0
      let t := match t with
        | .openArray e => Ty.array e n
        | t => t
      let place ← placeFor g t
      let code ← construct g t (.frame place) byList [o]
      return .value { type := t, category := .passing, code := .first code (.frame place) }
    | t => return .value (← convert g o t false)
  | none =>
    match t, values with
    | .reference .., [o] => return .value (← castValue g t o true)
    | t, [] =>
      match t.plain with
      | .record _ => return .value (← newObject g t byValues [])
      | t => return .value (← convert g (.braces []) t false)
    | t, [o] =>
      match t.plain with
      | .record id =>
        match o with
        | .value v =>
          if v.type.record? == some id && v.category = .fresh then return .value v
          else return .value (← newObject g t byValues [o])
        | _ => return .value (← newObject g t byValues [o])
      | t => return .value (← castValue g t o true)
    | t, values =>
      match t.plain with
      | .record _ => return .value (← newObject g t byValues values)
      | _ => fail "functional cast expression list treated as compound expression"

/-- The class that the values for an object give to a template without arguments. -/
def classFromValues (g : Grammar) (id : Nat) (values : List Operand) : Compile Ty := do
  let t ← getTemplate id
  let guides := (← scope t.main.scope).names[".guide " ++ t.name]?.getD []
  let (fs, ts) := functionsOf guides
  if !guides.isEmpty then
    if let some f ← (attempt (select g fs ts none none values true)) then
      if let some f := f then return (← getFunction f).result
  -- the constructors of the template, tried one by one, and the members of an aggregate
  let home ← holeScope t.main.parameters t.main.scope
  let size := t.main.parameters.size
  let body := (t.main.tokens.dropWhile fun t => !t.isSign "\x7b").drop 1
  let rec constructors : Nat → List Lexeme → List (List Lexeme)
    | 0, _ | _, [] => []
    | fuel + 1, x :: rest =>
      if x.opens then match Lexeme.inside? rest with
        | some (_, rest) => constructors fuel rest
        | none => []
      else match x.token, rest with
        | .word w, o :: more =>
          if w == t.name && o.isSign "(" then match Lexeme.inside? more with
            | some (inner, rest) => inner :: constructors fuel rest
            | none => []
          else constructors fuel rest
        | _, _ => constructors fuel rest
  let found := constructors body.length body
  for inner in found do
    let shape ← attempt (typesOnly (inside home (do
      let before := (← get).tokens
      setTokens (inner ++ [{ token := .sign ")" }])
      let (ps, _) ← parameterList g
      setTokens before
      return ps)))
    if let some ps := shape then
      if let some m ← deduceAll ps values (Array.replicate size none) then
        if let some as ← attempt (completeArguments g t.main.parameters t.main.scope m) then
          if let .type r ← g.instantiate id as then return r
  -- the members in order
  let ofValue (i : Nat) : Compile TypeArgument := do
    match (values[i]? : Option Operand), values with
    | some (.value v), _ => return .type v.type.decayed.plain
    | _, .braces ((_, .value v) :: _) :: _ => return .type v.type.decayed.plain
    | _, _ => fail "class template argument deduction failed"
  let as ← (List.range size).mapM ofValue
  match ← g.instantiate id as with
  | .type r => return r
  | _ => fail "class template argument deduction failed"

/-- The values behind a type that makes an object. -/
def typeConstruction (g : Grammar) (t : Ty) : Compile Operand := do
  if ← isSign "\x7b" then
    let list ← bracedList g
    let t ← match t with
      | .applied id [] => match list with
        | .braces items => classFromValues g id (items.map (·.2))
        | _ => pure t
      | t => pure t
    constructed g t [] (some list)
  else
    expectSign "("
    let values ← callArguments g
    let t ← match t with
      | .applied id [] => classFromValues g id values
      | t => pure t
    constructed g t values none

/-- A cast that is spelled with a word. -/
def namedCast (g : Grammar) (word : String) : Compile Operand := do
  expectSign "<"
  let t ← g.typeName
  expectAngle
  expectSign "("
  let o ← g.expression
  expectSign ")"
  match word with
  | "static_cast" => return .value (← castValue g t o false)
  | "dynamic_cast" => return .value (← dynamicCast g t o)
  | "const_cast" =>
    let v ← single o
    match t with
    | .reference u passing => return .value { v with type := u, category := if passing then .passing else .place }
    | t =>
      let v ← loaded v
      if !t.isPointer then fail "invalid use of const_cast"
      return .value { v with type := t.plain }
  | _ =>
    match t with
    | .reference u passing =>
      let v ← single o
      return .value { type := u, category := if passing then .passing else .place, code := ← addressOf g v }
    | t =>
      match o with
      | .functions .. => return .value { (← single (← addressOperand g o)) with type := t.plain }
      | o =>
        let v ← loaded (← single o)
        if v.type.isArithmetic && t.isArithmetic && !(v.type.plain == t.plain) then fail "invalid cast"
        return .value (← reinterpreted g v t)

/-- Puts an operator between the members of a pack, in parentheses. -/
def fold? (g : Grammar) (inner : List Lexeme) : Compile (Option Operand) := do
  if !(← isCpp) then return none
  let hasDots := (Lexeme.upTo (·.isSign "...") false 0 0 [] inner)
  match hasDots with
  | (_, []) => return none
  | (beforeReversed, _ :: behind) =>
    let operatorOf (t : Lexeme) : Option String := match t.token with
      | .sign s => if (Condition.strengths.lookup s).isSome || s == "," || s.endsWith "=" then some s else none
      | _ => none
    let combineRight (op : String) (values : List Operand) (last : Option Operand) : Compile Operand := do
      let all := values ++ last.toList
      match all.reverse with
      | [] => empty op
      | x :: rest => rest.foldlM (fun acc v => combine op v acc) x
    let combineLeft (op : String) (first : Option Operand) (values : List Operand) : Compile Operand := do
      match first.toList ++ values with
      | [] => empty op
      | x :: rest => rest.foldlM (fun acc v => combine op acc v) x
    match beforeReversed, behind with
    | [], o :: pattern =>
      -- (... op pack)
      match operatorOf o with
      | some op => return some (← combineLeft op none (← forPack g pattern (reading pattern g.operand)))
      | none => return none
    | o :: patternReversed, [] =>
      -- (pack op ...)
      match operatorOf o with
      | some op =>
        let pattern := patternReversed.reverse
        return some (← combineRight op (← forPack g pattern (reading pattern g.operand)) none)
      | none => return none
    | o :: frontReversed, p :: back =>
      match operatorOf o, operatorOf p with
      | some op, some op' =>
        if op ≠ op' then return none
        let front := frontReversed.reverse
        match ← packLength? g front, ← packLength? g back with
        | some _, none =>
          let last ← reading back g.operand
          return some (← combineRight op (← forPack g front (reading front g.operand)) (some last))
        | _, some _ =>
          let first ← reading front g.operand
          return some (← combineLeft op (some first) (← forPack g back (reading back g.operand)))
        | none, none => return none
      | _, _ => return none
    | [], [] => return none
where
  empty (op : String) : Compile Operand := do
    match op with
    | "&&" => return .value (.ofInt .bool .u8 1)
    | "||" => return .value (.ofInt .bool .u8 0)
    | "," => return .value (.void .nothing)
    | _ => fail "fold of empty expansion"
  combine (op : String) (a b : Operand) : Compile Operand := do
    match op with
    | "," =>
      let x ← single a
      let y ← single b
      return .value { y with code := .first x.code y.code, make := y.make.map fun m t => .first x.code (m t), constant := none }
    | "&&" | "||" =>
      let x ← truthOf (← convert g a .bool true)
      let y ← truthOf (← convert g b .bool true)
      let one : Core := .number .i32 1
      let zero : Core := .number .i32 0
      let c := if op == "&&" then Core.choose x y zero else Core.choose x one y
      match x, y with
      | .number _ m, .number _ n =>
        let r := if op == "&&" then (if m ≠ 0 && n ≠ 0 then 1 else 0) else (if m ≠ 0 || n ≠ 0 then 1 else 0)
        return .value (.ofInt .bool .u8 r)
      | _, _ => return .value (.bool (.convert .i32 .u8 c))
    | "=" => assignBy g "" a b
    | _ =>
      if (Operator.ofSign? op).isSome then Compile.binary g op a b
      else assignBy g (String.ofList op.toList.dropLast) a b

/-- The pieces of a text that follow each other. -/
def textPieces : Nat → List (String × String) → Compile (List (String × String))
  | 0, ps => return ps
  | fuel + 1, ps => do
    match ← peek with
    | .text mark content =>
      advance
      textPieces fuel (ps ++ [(mark, content)])
    | _ => return ps

/-- What follows a literal directly and makes an object of it. -/
def literalSuffix (g : Grammar) (values : List Operand) (suffix : String) : Compile Operand := do
  let name := "operator\"\" " ++ suffix
  let (fs, ts) := functionsOf (← lookup g name)
  if fs.isEmpty then fail ("unable to find numeric literal operator '" ++ name ++ "'")
  g.callFunctions fs ts none none values name

/-- A selection by the type of a value. -/
def generic (g : Grammar) : Compile Operand := do
  expectSign "("
  let all ← slices
  match all with
  | [] => fail "expected an expression"
  | control :: cases =>
    let v ← loaded (← single (← typesOnly (reading control g.assignment)))
    let t := v.type.plain
    let mut chosen : Option (List Lexeme) := none
    let mut otherwise : Option (List Lexeme) := none
    for c in cases do
      let (read, rest) := Lexeme.upTo (·.isSign ":") false 0 0 [] c
      let front := read.reverse
      let back := rest.drop 1
      match Lexeme.tokens front with
      | [.word "default"] => otherwise := some back
      | _ =>
        let u ← reading front g.typeName
        if u == t && chosen.isNone then chosen := some back
    match chosen <|> otherwise with
    | some ts => reading ts g.assignment
    | none => fail "'_Generic' selector is not compatible with any association"

/-- A call of a function by its name, with the values that follow. -/
def callNamed (g : Grammar) (found : Found) : Compile Operand := do
  let isCpp ← isCpp
  let nonTypes := found.bindings.filter fun b => !isType b
  if nonTypes.isEmpty && found.qualifier.isNone then
    -- only the values may tell which function is meant
    if found.name.startsWith "__builtin_" || found.name.startsWith "__atomic_" || found.name.startsWith "__sync_" then
      advance
      let values ← callArguments g
      match ← builtinCall? g found.name values with
      | some o => return o
      | none =>
        let short := String.ofList (found.name.toList.drop 10)
        match functionsOf (← inScope g 0 short) with
        | ([], _) => fail (undeclared found.name)
        | (fs, ts) => return ← g.callFunctions fs ts none none values short
    if !isCpp then
      advance
      let values ← callArguments g
      let f ← declareOpen found.name
      return ← g.callFunctions [f] [] none none values found.name
    advance
    let values ← callArguments g
    let (fs, ts) ← associated found.name values
    if fs.isEmpty && ts.isEmpty then fail (undeclared found.name)
    g.callFunctions fs ts found.arguments none values found.name
  else
    let o ← nameOperand g found
    match o with
    | .functions fs ts as object =>
      advance
      let values ← callArguments g
      let (fs, ts) ← if isCpp && found.qualifier.isNone then withAssociated fs ts found.name values else pure (fs, ts)
      g.callFunctions fs ts as object values found.name
    | o => return o

/-- The smallest expressions. -/
def primary (g : Grammar) : Compile Operand := do
  let s ← get
  match ← peek with
  | .number written =>
    advance
    let (v, suffix) ← numberValue written
    if suffix == "" then return .value v
    if !(← isCpp) then fail ("invalid suffix '" ++ suffix ++ "' on constant")
    literalSuffix g [.value v] suffix
  | .character mark content =>
    advance
    return .value (← characterValue mark content)
  | .text .. =>
    let pieces ← textPieces 100000 []
    let v ← textValue pieces
    match (← get).tokens with
    | t :: _ =>
      match t.token with
      | .word w =>
        if !t.blank && (← isCpp) && !isKeyword s.reading w then
          let n := match v.type with
            | .array _ n => n - 1
            | _ => 0
          if (functionsOf (← lookup g ("operator\"\" " ++ w))).1.isEmpty then return .value v
          advance
          literalSuffix g [.value v, .value (.ofInt .ulong .u64 n)] w
        else return .value v
      | _ => return .value v
    | [] => return .value v
  | .sign "(" =>
    if (← ahead 1) == .sign "\x7b" then
      -- steps with a value
      advance
      let inner ← takeInside
      let before := (← get).tokens
      setTokens (inner.drop 1).dropLast
      let here ← newScope .block (← get).here
      let last ← inside here (statements 100000 .nothing)
      setTokens before
      return last
    advance
    match Lexeme.inside? (← get).tokens with
    | none => fail "expected ')' at end of input"
    | some (inner, rest) =>
      match ← fold? g inner with
      | some o => setTokens rest; return o
      | none =>
        let o ← g.expression
        expectSign ")"
        return o
  | .sign "[" =>
    if !(← isCpp) then expected "expression"
    if s.reading.standard < 2011 then warn "c++11-extensions"
    advance
    return .value (← lambda g)
  | .sign "::" => namePrimary g
  | .sign "~" => namePrimary g
  | .word w =>
    match w with
    | "this" =>
      if !(← isCpp) then namePrimary g
      else
        advance
        let v ← thisValue g none
        return .value { type := .pointer v.type, code := v.code }
    | _ =>
      if isKeyword s.reading w then keywordPrimary g w
      else if w == "__func__" || w == "__FUNCTION__" || w == "__PRETTY_FUNCTION__" then
        advance
        let name ← match s.making.function with
          | some f => pure (← getFunction f).name
          | none => pure ""
        return .value (← textValue [("", name)])
      else if questions.contains w && (← ahead 1) == .sign "(" then
        advance
        return .value { Value.ofInt .bool .u8 (if ← question g w (← typeArguments g) then 1 else 0) with isLiteral := false }
      else if w == "__builtin_offsetof" || w == "__builtin_va_arg" || w == "__builtin_types_compatible_p" || w == "__builtin_choose_expr" then
        advance
        specialBuiltin g w
      else if w == "__null" then
        advance
        return .value { Value.ofInt .long .i64 0 with isLiteral := true }
      else namePrimary g
  | t => fail ("expected primary-expression before '" ++ t.write ++ "'")
where
  /-- The steps in a block whose last one gives a value. -/
  statements : Nat → Core → Compile Operand
    | 0, _ => fail "block is too long"
    | fuel + 1, _ => do
      let rec collect : Nat → List Step → Compile (List Step × Option Operand)
        | 0, steps => return (steps, none)
        | n + 1, steps => do
          if (← get).tokens.isEmpty then return (steps, none)
          -- an expression at the very end is the value
          let (_, rest) := Lexeme.upTo (·.isSign ";") false 0 0 [] (← get).tokens
          let isLast : Bool := rest.length == 1
          let asValue ← if isLast && !(← startsType g) then do
              let found ← attempt (do
                let (o, own) ← stepsOf (do
                  let o ← g.expression
                  expectSign ";"
                  return o)
                if !(← get).tokens.isEmpty then fail "not at the end"
                return (o, own))
              pure found
            else pure none
          match asValue with
          | some (o, own) => return (steps ++ own, some o)
          | none =>
            let ((), own) ← stepsOf g.statement
            collect n (steps ++ own)
      let (steps, value) ← collect fuel []
      match value with
      | none => return .value (.void (.steps steps .nothing))
      | some o =>
        let v ← loaded (← single o)
        match v.make with
        | some m => return .value { v with make := some fun t => .steps steps (m t) }
        | none =>
          if v.type.isRecord then return .value { v with category := .passing, code := .steps steps v.code, constant := none }
          return .value { v with code := .steps steps v.code, constant := none }
  namePrimary (g : Grammar) : Compile Operand := do
    -- a type with values makes an object
    let isType ← startsTypeName g
    match isType with
    | some t =>
      let next ← peek
      if next == .sign "(" || next == .sign "\x7b" then typeConstruction g t
      else fail ("expected primary-expression before '" ++ next.write ++ "'")
    | none =>
      let found ← readName g
      if (← isSign "(") && !found.bindings.any (fun b => match b with
          | .variable _ | .field .. | .constant .. => true
          | _ => false) then
        callNamed g found
      else if found.name == "operator conversion" then fail "conversion without an object"
      else nameOperand g found
  /-- A name of a type with something to make an object of behind it. -/
  startsTypeName (g : Grammar) : Compile (Option Ty) := do
    if !(← isCpp) then return none
    let start ← get
    match ← attempt (namedType? g) with
    | some (some t) =>
      let next ← peek
      if next == .sign "(" || next == .sign "\x7b" then return some t
      set start
      return none
    | _ =>
      set start
      return none
  keywordPrimary (g : Grammar) (w : String) : Compile Operand := do
    let s ← get
    match w with
    | "true" => advance; return .value (.ofInt .bool .u8 1)
    | "false" => advance; return .value (.ofInt .bool .u8 0)
    | "nullptr" => advance; return .value { type := .null, code := .long 0, constant := some 0 }
    | "operator" => namePrimary g
    | "static_cast" | "dynamic_cast" | "const_cast" | "reinterpret_cast" => advance; namedCast g w
    | "typeid" =>
      advance
      expectSign "("
      let inner ← takeInside
      let info ← match typeOf? (← inStandard g "type_info") with
        | some t => pure t
        | none => fail "must '#include <typeinfo>' before using 'typeid'"
      match ← attempt (reading inner g.typeName) with
      | some t => return .value (.place info.asConst (.symbol (← kindSymbol g t.referred)))
      | none =>
        let v ← single (← reading inner g.expression)
        match v.type.record? with
        | some id =>
          if (← getRecord id).hasTable then
            let table := Core.load .u64 (← addressOf g v)
            return .value (.place info.asConst (.load .u64 (.binary .sub .u64 table (.long 8))))
          else return .value (.place info.asConst (.symbol (← kindSymbol g v.type)))
        | none => return .value (.place info.asConst (.symbol (← kindSymbol g v.type)))
    | "_Generic" => advance; generic g
    | "typename" =>
      let (_, t) ← g.specifiers
      typeConstruction g t
    | "__extension__" => advance; g.operand
    | "requires" => fail "requires-expressions are not supported"
    | _ =>
      if w == "decltype" then
        if let some (_, t :: _) := Lexeme.inside? (s.tokens.drop 2) then
          if t.isSign "::" then return ← namePrimary g
      if (numberWords s.reading).contains w || w == "decltype" || w == "auto" || w == "void" then
        let (_, t) ← g.specifiers
        let next ← peek
        if t == .auto && next == .sign "(" then
          advance
          let v ← single (← g.expression)
          expectSign ")"
          let t := v.type.decayed.plain
          return .value (← convert g (.value v) t false)
        if next == .sign "(" || next == .sign "\x7b" then typeConstruction g t
        else fail ("expected primary-expression before '" ++ w ++ "'")
      else fail ("expected primary-expression before '" ++ w ++ "'")
  specialBuiltin (g : Grammar) (w : String) : Compile Operand := do
    expectSign "("
    let all ← slices
    match w, all with
    | "__builtin_va_arg", [list, t] =>
      let l ← single (← reading list g.assignment)
      let t ← reading t g.typeName
      return .value (← nextArgument g l t)
    | "__builtin_types_compatible_p", [a, b] =>
      let a ← reading a g.typeName
      let b ← reading b g.typeName
      return .value (.int (if a.plain == b.plain then 1 else 0))
    | "__builtin_choose_expr", [c, a, b] =>
      let (n, _) ← constantOf g (← reading c g.assignment)
      reading (if n ≠ 0 then a else b) g.assignment
    | "__builtin_offsetof", t :: path :: _ =>
      let t ← reading t g.typeName
      -- the address of the member in an object at the start of memory
      let object := Value.place t (.long 0)
      let rec walk : Nat → Value → Compile Value
        | 0, v => return v
        | n + 1, v => do
          match ← peek with
          | .word name =>
            advance
            match v.type.record? with
            | some id =>
              g.complete id
              match ← inRecord g scopeDepth id name with
              | .field r i :: _ => walk n (← fieldOf g v r i)
              | _ => fail ("no member named '" ++ name ++ "'")
            | none => fail "offsetof of something that is not a class"
          | .sign "." => advance; walk n v
          | .sign "[" =>
            advance
            let i ← g.expression
            expectSign "]"
            walk n (← single (← element g (.value v) i))
          | _ => return v
      let v ← reading path (walk 32 object)
      return .value { type := .ulong, code := v.code }
    | _, _ => fail ("wrong arguments to " ++ w)

/-! ## What follows an expression -/

/-- A member of an object, behind the sign that asks for it. -/
def memberOf (g : Grammar) (object : Value) : Compile Operand := do
  let _ ← acceptWord "template"
  match object.type.record? with
  | none =>
    -- numbers can be let go as well as objects
    let isDestructor ← probe (do
      let _ ← qualifier g
      expectSign "~")
    if isDestructor.isSome then
      let _ ← qualifier g
      expectSign "~"
      let _ ← expectName
      expectSign "("
      expectSign ")"
      return .value (.void object.code)
    fail "request for member in something not a structure or union"
  | some id =>
    g.complete id
    if !(← getRecord id).isComplete then
      -- the members that were declared so far can be used
      if (← getRecord id).fields.isEmpty && (← scope (← getRecord id).scope).names.isEmpty then
        fail "invalid use of incomplete type"
    let q ← if (← ahead 1) == .sign "::" || (← ahead 1) == .sign "<" || (← isSign "::") then attempt (qualifier g) else pure none
    let q := q.bind fun q => q
    let _ ← acceptWord "template"
    if ← acceptSign "~" then
      let _ ← expectName
      if ← acceptSign "<" then
        let _ ← templateArguments g
      match (← getRecord id).destructor with
      | some f => return .functions [f] [] none (some { object with isExact := q.isSome })
      | none =>
        expectSign "("
        expectSign ")"
        return .value (.void object.code)
    let name ← if ← acceptWord "operator" then do
        let (name, _) ← operatorName g
        pure name
      else match ← peek with
      | .word w =>
        if isKeyword (← get).reading w then expected "a member"
        advance
        pure w
      | t => fail ("expected a member before '" ++ t.write ++ "'")
    let bs ← match q with
      | some q => find g (some q) name
      | none => inRecord g scopeDepth id name
    let as ← if (← isSign "<") && bs.any isTemplate then
        advance
        pure (some (← templateArguments g))
      else pure none
    memberOperand g object name bs as q.isSome

/-- A call of what an expression stands for. -/
def callOperand (g : Grammar) (o : Operand) : Compile Operand := do
  let values ← callArguments g
  match o with
  | .functions fs ts as object => g.callFunctions fs ts as object values "function"
  | .braces _ => fail "a list cannot be called"
  | .value v =>
    if v.type.isRecord then
      match ← overloaded? g "operator()" (.value v :: values) true with
      | some o => return o
      | none =>
        match v.type.record? with
        | some id =>
          let members := functionsOf (← inRecord g scopeDepth id "operator()")
          if members.1.isEmpty && members.2.isEmpty then
            -- an object that can be converted to a pointer to a function
            let p ← arithmeticOperand g v
            match p.type.pointed? with
            | some t => return .value (← callPointer g t p.code [] values)
            | none => fail "no match for call"
          else fail "no match for call"
        | none => fail "no match for call"
    else match v.type.plain, v.make with
      | .member _ t, some object =>
        let this ← newPlace 8 8
        let target ← newPlace 8 8
        let self := Core.load .u64 (.frame this)
        let chosen := Core.load .u64 (.frame target)
        let code := Core.choose (.convert .u64 .i32 (.binary .and .u64 chosen (.long 1)))
          (.load .u64 (.binary .add .u64 (.load .u64 self) (.binary .sub .u64 chosen (.long 1)))) chosen
        let result ← callPointer g t code [(.u64, self)] values
        let before : Core := .first (.store .u64 (.frame target) v.code) (.store .u64 (.frame this) (object .nothing))
        return .value (match result.make with
          | some make => { result with make := some fun place => .first before (make place) }
          | none => { result with code := .first before result.code })
      | _, _ =>
        let v ← loaded v
        match v.type.pointed? with
        | some t => return .value (← callPointer g t v.code [] values)
        | none => fail "expression cannot be used as a function"

/-- Goes on behind an expression with calls, elements, members and counting. -/
def postfixWithin (g : Grammar) : Nat → Operand → Compile Operand
  | 0, o => return o
  | fuel + 1, o => do
    match ← peek with
    | .sign "(" =>
      advance
      postfixWithin g fuel (← callOperand g o)
    | .sign "[" =>
      advance
      let i ← if ← isSign "\x7b" then bracedList g else g.expression
      expectSign "]"
      postfixWithin g fuel (← element g o i)
    | .sign "." =>
      advance
      let v ← single o
      postfixWithin g fuel (← memberOf g v)
    | .sign "->" =>
      advance
      let v ← arrowTarget g 16 o
      postfixWithin g fuel (← memberOf g v)
    | .sign "++" => advance; postfixWithin g fuel (← count g true true o)
    | .sign "--" => advance; postfixWithin g fuel (← count g false true o)
    | _ => return o

/-! ## Memory -/

/-- A type behind `new`, with the number of elements for an array. -/
def newType (g : Grammar) : Compile (Ty × Option Operand) := do
  let (_, base) ← g.specifiers
  if base == .unknown then fail "expected a type behind 'new'"
  let t ← pointersWithin 16 base
  if ← acceptSign "[" then
    if ← acceptSign "]" then return (.openArray t, none)
    let n ← g.expression
    expectSign "]"
    let rec more : Nat → Ty → Compile Ty
      | 0, t => return t
      | k + 1, t => do
        if ← acceptSign "[" then
          let (m, _) ← constantOf g (← g.expression)
          expectSign "]"
          return .array (← more k t) m.toNat
        else return t
    return (← more 8 t, some n)
  return (t, none)

/-- Makes an object that stays until it is deleted. -/
def newExpression (g : Grammar) : Compile Operand := do
  let mut placement : List Operand := []
  let mut typed : Option (Ty × Option Operand) := none
  if ← isSign "(" then
    -- an address, or a type in parentheses
    if ← startsCast g then
      advance
      let inner ← takeInside
      typed := some (← reading inner (do return (← g.typeName, none)))
    else
      advance
      placement ← callArguments g
  let (t, length) ← match typed with
    | some x => pure x
    | none =>
      if (← isSign "(") then
        advance
        let inner ← takeInside
        reading inner (do return (← g.typeName, none))
      else newType g
  -- how the object starts
  let (values, list, given) ← if ← isSign "\x7b" then do
      pure (([] : List Operand), some (← bracedList g), true)
    else if ← acceptSign "(" then do
      pure (← callArguments g, none, true)
    else pure ([], none, false)
  let t ← match t with
    | .applied id [] => classFromValues g id (match list with
      | some (.braces items) => items.map (·.2)
      | _ => values)
    | .auto => match values with
      | [o] => do pure (← single o).type.decayed.plain
      | _ => fail "invalid use of 'auto'"
    | t => pure t
  let (t, length) : Ty × Option Operand := match t, length with
    | .array e n, none => (e, some (.value (.ofInt .ulong .u64 n)))
    | t, l => (t, l)
  let (t, length) : Ty × Option Operand ← match t with
    | .openArray e => match list with
      | some (.braces items) => pure (e, some (.value (.ofInt .ulong .u64 items.length)))
      | _ => fail "expected a size in array new-expression"
    | t => pure (t, length)
  let size ← sizeOf g t
  let trivial ← isTrivial g .destroy t
  let needsCount := length.isSome && !trivial
  let place ← newPlace 8 8
  let address := Core.load .u64 (.frame place)
  let total ← match length with
    | none => pure (Core.long size)
    | some n =>
      let n ← convert g n .ulong false
      match n.constant with
      | some k => pure (Core.long (k * size + (if needsCount then 8 else 0)))
      | none => pure (Core.binary .add .u64 (.binary .mul .u64 n.code (.long size)) (.long (if needsCount then 8 else 0)))
  -- where the memory comes from
  let room : Core ← match placement with
    | [] =>
      let own ← match t.record? with
        | some id => pure (functionsOf (← inRecord g scopeDepth id (if length.isSome then "operator new[]" else "operator new"))).1
        | none => pure []
      match own with
      | f :: _ => do
        let v ← callOne g f none [.value { type := .ulong, code := total }]
        pure v.code
      | [] =>
        let name := if length.isSome then "operator new[]" else "operator new"
        let (fs, _) := functionsOf (← inScope g 0 name)
        match ← attempt (select g fs [] none none [.value { type := .ulong, code := total }] true) with
        | some (some f) => do pure (← callOne g f none [.value { type := .ulong, code := total }]).code
        | _ => pure (.call (.symbol (if length.isSome then "_Znam" else "_Znwm")) [(.u64, total)] .u64 false)
    | first :: rest =>
      let name := if length.isSome then "operator new[]" else "operator new"
      let (fs, ts) := functionsOf (← inScope g 0 name)
      let values := Operand.value { type := .ulong, code := total } :: first :: rest
      match ← attempt (select g fs ts none none values true) with
      | some (some f) => do pure (← callOne g f none values).code
      | _ =>
        let v ← loaded (← single first)
        if v.type.isPointer then pure v.code
        else pure (.call (.symbol "_Znwm") [(.u64, total)] .u64 false)
  let start := Core.store .u64 (.frame place) room
  match length with
  | none =>
    let code ← match list with
      | some o => construct g t address byList [o]
      | none => if given then construct g t address byValues values else construct g t address byNothing []
    return .value { type := .pointer t, code := .first start (Core.andThen code address) }
  | some n =>
    let n ← convert g n .ulong false
    let countPlace ← newPlace 8 8
    let count := Core.load .u64 (.frame countPlace)
    let first := if needsCount then Core.first (.store .u64 address count) (.store .u64 (.frame place) (address.offset 8))
      else .nothing
    let items : Items := match list with
      | some (.braces items) => items
      | _ => []
    let mut code : Core := .nothing
    for ((_, o), i) in items.zip (List.range items.length) do
      code := Core.andThen code (← construct g t (address.offset (i * size)) byCopy [o])
    -- the elements that are left
    let i ← newPlace 8 8
    let index := Core.load .u64 (.frame i)
    let one := Core.binary .add .u64 address (.binary .mul .u64 index (.long size))
    let each ← if given || list.isSome then construct g t one byList [.braces []] else construct g t one byNothing []
    let rest ← match each with
      | .nothing => pure Core.nothing
      | each => do
        let again ← newLabel
        let done ← newLabel
        pure (Core.steps [.value (.store .u64 (.frame i) (.long items.length)), .label again,
          .unless (.binary .lt .u64 index count) done, .value each,
          .value (.store .u64 (.frame i) (.binary .add .u64 index (.long 1))), .jump again, .label done] .nothing)
    let all := Core.andThen (.store .u64 (.frame countPlace) n.code) (Core.andThen start (Core.andThen first (Core.andThen code rest)))
    return .value { type := .pointer t, code := .first all address }

/-- Lets an object go that was made to stay. -/
def deleteExpression (g : Grammar) : Compile Operand := do
  let isArray ← if (← isSign "[") && (← ahead 1) == .sign "]" then
      advance; advance
      pure true
    else pure false
  let v ← single (← g.operand)
  let v ← if v.type.isRecord then arithmeticOperand g v else loaded v
  match v.type.pointed? with
  | none => fail "type argument given to 'delete', expected pointer"
  | some t =>
    let place ← newPlace 8 8
    let p := Core.load .u64 (.frame place)
    let start := Core.store .u64 (.frame place) v.code
    let trivial ← isTrivial g .destroy t
    let free (symbol : String) (a : Core) : Compile Core := do
      let name := if isArray then "operator delete[]" else "operator delete"
      let own ← match t.record? with
        | some id => pure (functionsOf (← inRecord g scopeDepth id name)).1
        | none => pure []
      let (fs, _) := functionsOf (← inScope g 0 name)
      match own ++ fs with
      | f :: _ =>
        let f' ← getFunction f
        if f'.parameters.length = 1 then
          return (← callOne g f none [.value { type := .pointer .void, code := a }]).code
        else return .call (.symbol symbol) [(.u64, a)] .u64 false
      | [] => return .call (.symbol symbol) [(.u64, a)] .u64 false
    if t.isVoid then warn "delete-incomplete"
    let code ← if isArray then
        if trivial then free "_ZdaPv" p
        else do
          let size ← sizeOf g t
          let count := Core.load .u64 (.binary .sub .u64 p (.long 8))
          let i ← newPlace 8 8
          let index := Core.load .u64 (.frame i)
          let again ← newLabel
          let done ← newLabel
          let one := Core.binary .add .u64 p (.binary .mul .u64 index (.long size))
          let body := (← destroy? g t one).getD .nothing
          let loop := Core.steps [.value (.store .u64 (.frame i) count), .label again, .unless index.isSet done,
            .value (.store .u64 (.frame i) (.binary .sub .u64 index (.long 1))), .value body, .jump again, .label done] .nothing
          pure (.first loop (← free "_ZdaPv" (.binary .sub .u64 p (.long 8))))
      else match t.record? with
        | none => free "_ZdlPv" p
        | some id => do
          let r ← getRecord id
          match r.destructor with
          | some f =>
            let f' ← getFunction f
            checkAccess g id f'.access f'.name
            if f'.given = .deleted then fail "use of deleted destructor"
            match f'.slot with
            | some slot =>
              -- the object may be larger than its type tells
              let whole ← newPlace 8 8
              let table := Core.load .u64 p
              let top := Core.binary .add .u64 p (.load .u64 (.binary .sub .u64 table (.long 16)))
              let call := Core.call (.load .u64 ((Core.load .u64 p).offset (8 * slot))) [(.u64, p)] .u64 false
              pure (.first (.store .u64 (.frame whole) top) (.first call (← free "_ZdlPv" (.load .u64 (.frame whole)))))
            | none =>
              let body := (← destroy? g t p).getD .nothing
              pure (Core.andThen body (← free "_ZdlPv" p))
          | none => free "_ZdlPv" p
    return .value (.void (.first start (.choose p.isSet (.first code (.long 0)) (.long 0))))

/-! ## Operators before an operand -/

/-- The size of a type or an expression. -/
def sizeExpression (g : Grammar) : Compile Operand := do
  if ← acceptSign "..." then
    expectSign "("
    let name ← expectName
    expectSign ")"
    let before := (← get).packIndex
    modify fun s => { s with packIndex := none }
    let bs ← lookup g name
    modify fun s => { s with packIndex := before }
    match bs with
    | .argument (.pack items) :: _ => return .value (.ofInt .ulong .u64 items.length)
    | .pack vs :: _ => return .value (.ofInt .ulong .u64 vs.length)
    | _ => fail "'sizeof...' argument is not a parameter pack"
  let sizeOfType (t : Ty) : Compile Operand := do
    match t with
    | .sizedArray _ place => return .value { type := .ulong, code := .load .u64 (.frame place) }
    | t =>
      if t.isFunction && (← isCpp) then fail "invalid application of 'sizeof' to a function type"
      if t.isVoid && (← isCpp) then fail "invalid application of 'sizeof' to a void type"
      match t with
      | .openArray _ => fail "invalid application of 'sizeof' to incomplete type"
      | t => return .value { Value.ofInt .ulong .u64 (← sizeOf g t.referred) with isLiteral := false }
  if (← isSign "(") && (← startsCast g) then
    let after ← probe (do
      advance
      let _ ← takeInside
      if ← isSign "\x7b" then return ()
      fail "no list")
    if after.isNone then
      advance
      let t ← g.typeName
      expectSign ")"
      return ← sizeOfType t
  let o ← typesOnly g.operand
  match o with
  | .value v =>
    if v.bits.isSome then fail "invalid application of 'sizeof' to a bit-field"
    sizeOfType v.type
  | o => sizeOfType (← single o).type

/-- An operand with the operators and casts before it. -/
def operand (g : Grammar) : Compile Operand := do
  match ← peek with
  | .sign "\x7b" => bracedList g
  | .sign "++" => advance; count g true false (← g.operand)
  | .sign "--" => advance; count g false false (← g.operand)
  | .sign "&" =>
    advance
    -- a member of a class without an object
    let member ← probe (do
      match ← qualifier g with
      | some { type := some (.record id), .. } =>
        let name ← if ← acceptWord "operator" then do pure (← operatorName g).1 else expectName
        if (← isSign "(") || (← isSign "[") || (← isSign ".") then fail "an object follows"
        return (id, name)
      | _ => fail "no member")
    match member with
    | some (id, _) =>
      let found ← readName g
      match found.bindings.filter (fun b => !isType b) with
      | .field r i :: _ =>
        match (← getRecord r).fields[i]?, ← partOffset g 16 id r with
        | some f, some n =>
          checkAccess g r f.access f.name
          return .value { type := .member (.record r) f.type, code := .number .i64 (n + f.offset) }
        | _, _ => fail "no such member"
      | .function f :: _ =>
        let f' ← getFunction f
        if f'.isStatic then return ← addressOperand g (← nameOperand g found)
        knowResult g f
        use f
        let f' ← getFunction f
        let t : Ty := .function f'.result (f'.parameters.map (·.type)) f'.traits
        match f'.owner with
        | some owner =>
          checkAccess g owner f'.access f'.name
          -- a function that is chosen when the program runs is known by its slot, as an odd number
          let code : Core := match f'.slot with
            | some slot => .long (8 * slot + 1)
            | none => .symbol f'.symbol
          return .value { type := .member (.record owner) t, code }
        | none => return ← addressOperand g (← nameOperand g found)
      | _ => addressOperand g (← nameOperand g found)
    | none => unary g "&" (← g.operand)
  | .sign "&&" =>
    -- the address of a label
    advance
    let name ← expectName
    let m := (← get).making
    let label ← match m.marks.find? (·.name == name) with
      | some mark => pure mark.label
      | none =>
        let label ← newLabel
        changeMaking fun m => { m with marks := { name, label } :: m.marks }
        pure label
    return .value { type := .pointer .void, code := .label label }
  | .sign "*" => advance; unary g "*" (← g.operand)
  | .sign "+" => advance; unary g "+" (← g.operand)
  | .sign "-" => advance; unary g "-" (← g.operand)
  | .sign "!" => advance; unary g "!" (← g.operand)
  | .sign "~" =>
    advance
    unary g "~" (← g.operand)
  | .sign "(" =>
    if ← startsCast g then
      advance
      let t ← g.typeName
      expectSign ")"
      if ← isSign "\x7b" then
        -- an object without a name
        let list ← bracedList g
        let t := match t, list with
          | .openArray e, .braces items => Ty.array e items.length
          | t, _ => t
        let inFunction := (← get).making.function.isSome
        if inFunction then
          let place ← placeFor g t
          let code ← construct g t (.frame place) byList [list]
          let v : Value := { type := t, category := if ← isCpp then .passing else .place, code := .first code (.frame place) }
          postfixWithin g 1000 (.value v)
        else
          let symbol := ".object" ++ toString (← fresh)
          let (size, alignment) ← layout g t
          let code ← construct g t (.symbol symbol) byList [list]
          match ← Evaluate.data? g symbol size alignment code with
          | some d => addData symbol .hidden d
          | none => fail "initializer element is not constant"
          postfixWithin g 1000 (.value (.place t (.symbol symbol)))
      else
        let o ← g.operand
        return .value (← castValue g t o true)
    else postfixWithin g 1000 (← primary g)
  | .sign "::" =>
    match ← ahead 1 with
    | .word "new" => advance; advance; newExpression g
    | .word "delete" => advance; advance; deleteExpression g
    | _ => postfixWithin g 1000 (← primary g)
  | .word w =>
    let isCpp ← isCpp
    match w with
    | "sizeof" => advance; sizeExpression g
    | "_Alignof" | "alignof" | "__alignof__" | "__alignof" =>
      if w == "alignof" && !isCpp then postfixWithin g 1000 (← primary g)
      else
        advance
        if (← isSign "(") && (← startsCast g) then
          advance
          let t ← g.typeName
          expectSign ")"
          return .value (.ofInt .ulong .u64 (← layout g t.referred).2)
        let v ← single (← typesOnly g.operand)
        return .value (.ofInt .ulong .u64 (← layout g v.type).2)
    | "__extension__" => advance; g.operand
    | "__real__" | "__imag__" => fail "complex numbers are not supported"
    | "new" => if isCpp then advance; newExpression g else postfixWithin g 1000 (← primary g)
    | "delete" => if isCpp then advance; deleteExpression g else postfixWithin g 1000 (← primary g)
    | "noexcept" =>
      if isCpp then
        advance
        expectSign "("
        let inner ← takeInside
        let o ← typesOnly (reading inner g.expression)
        let _ := o
        let never ← neverThrows g inner
        let calls := inner.any (·.isSign "(")
        return .value (.ofInt .bool .u8 (if calls && !never then 0 else 1))
      else postfixWithin g 1000 (← primary g)
    | _ => postfixWithin g 1000 (← primary g)
  | _ => postfixWithin g 1000 (← primary g)
where
  /-- Whether the functions that are called in an expression say that they throw nothing. -/
  neverThrows (g : Grammar) (ts : List Lexeme) : Compile Bool := do
    if (Lexeme.words ts).contains "throw" then return false
    (Lexeme.words ts).allM fun w => do
      let (fs, templates) := functionsOf (← lookup g w)
      if !templates.isEmpty then return false
      fs.allM fun f => do
        let f ← getFunction f
        return f.traits.neverThrows

/-! ## Operators between operands -/

/-- The operators between two operands, with their strength. -/
def strengthOf? (reading : Reading) (sign : String) : Option Nat :=
  if sign == ".*" || sign == "->*" then if reading.language = .cpp then some 11 else none
  else if sign == "<=>" then none
  else Condition.strengths.lookup sign

/-- A member that a pointer to a member tells, of an object. -/
def pointedMember (g : Grammar) (object : Value) (o : Operand) : Compile Operand := do
  let m ← loaded (← single o)
  match m.type.plain with
  | .member owner t =>
    match owner.record?, object.type.record? with
    | some c, some d =>
      match ← partOffset g 16 d c with
      | none => fail "pointer to member of another class"
      | some n =>
        let base ← materialized g object
        match t with
        | .function .. =>
          -- only a call can follow, which finds the object with the value
          let place ← newPlace 8 8
          let target ← newPlace 8 8
          let set := Core.first (.store .u64 (.frame place) (base.code.offset n)) (.store .u64 (.frame target) m.code)
          return .value { type := .member owner t, code := .first set (.load .u64 (.frame target)), make := some fun _ => .load .u64 (.frame place) }
        | t =>
          let address := Core.binary .add .u64 (base.code.offset n) (.convert .i64 .u64 m.code)
          return .value { type := if object.type.isConst then t.asConst else t, category := if object.category = .place then .place else .passing, code := address }
    | _, _ => fail "pointer to member needs an object"
  | _ => fail "cannot be used as a member pointer"

/-- Whether one of two values counts: the second one is only looked at if the first does not
decide. -/
def logical (g : Grammar) (isAnd : Bool) (a : Operand) (second : Compile Operand) : Compile Operand := do
  let truth (o : Operand) : Compile Core := do
    match o with
    | .value v =>
      let v ← if v.type.isRecord then convert g o .bool true else pure v
      if v.type.isVoid then fail "invalid use of void expression"
      truthOf v
    | o => truthOf (← single o)
  let x ← truth a
  let b ← conditionally second
  let y ← truth b
  let isCpp ← isCpp
  let result (c : Core) : Value := if isCpp then .bool (.convert .i32 .u8 c) else { type := .int, code := c }
  let known (n : Int) : Value := if isCpp then .ofInt .bool .u8 n else .int n
  let one : Core := .number .i32 1
  let zero : Core := .number .i32 0
  match x, y with
  | .number _ m, .number _ n =>
    return .value (known (if isAnd then (if m ≠ 0 && n ≠ 0 then 1 else 0) else (if m ≠ 0 || n ≠ 0 then 1 else 0)))
  | .number _ m, y =>
    if isAnd && m = 0 then return .value (known 0)
    if !isAnd && m ≠ 0 then return .value (known 1)
    return .value (result y)
  | x, y => return .value (result (if isAnd then .choose x y zero else .choose x one y))

/-- Goes on behind an operand with operators of at least some strength. -/
def operatorsWithin (g : Grammar) : Nat → Nat → Operand → Compile Operand
  | 0, _, o => return o
  | fuel + 1, least, a => do
    match ← peek with
    | .sign sign =>
      match strengthOf? (← get).reading sign with
      | none => return a
      | some strength =>
        if strength < least then return a
        advance
        let second : Compile Operand := do
          let b ← g.operand
          operatorsWithin g fuel (strength + 1) b
        let result ← match sign with
          | "&&" => logical g true a second
          | "||" => logical g false a second
          | ".*" => pointedMember g (← single a) (← second)
          | "->*" => pointedMember g (← arrowTarget g 16 a) (← second)
          | _ => do
            let b ← second
            Compile.binary g sign a b
        operatorsWithin g fuel least result
    | _ => return a

/-- One of two operands as a value of a common type. -/
def chosen2 (g : Grammar) (c : Core) (a b : Operand) : Compile Operand := do
  let x ← single a
  let y ← single b
  let known : Option Bool := match c with
    | .number _ n => some (n ≠ 0)
    | _ => none
  let isThrow (v : Value) : Bool := v.type.isVoid
  if isThrow x || isThrow y then
    if isThrow x && isThrow y then return .value (.void (.choose c x.code y.code))
    -- an exception takes the place of one of the values
    let other := if isThrow x then y else x
    let other ← if other.type.isRecord then pure other else loaded other
    match other.type.record?, other.make with
    | some _, some m =>
      return .value { other with make := some fun t => if isThrow x then .choose c x.code (m t) else .choose c (m t) y.code }
    | some _, none => return .value { other with code := if isThrow x then .choose c x.code other.code else .choose c other.code y.code }
    | none, _ => return .value { other with code := if isThrow x then .choose c x.code other.code else .choose c other.code y.code, constant := none }
  let samePlace := x.category = y.category && x.category ≠ .fresh && x.type == y.type && x.bits.isNone && y.bits.isNone
  if samePlace && (← isCpp) then
    let constant := match known with
      | some true => x.constant
      | some false => y.constant
      | none => none
    return .value { x with code := .choose c x.code y.code, constant, isLiteral := false }
  if x.type.isRecord || y.type.isRecord then
    let t ← if x.type.plain == y.type.plain then pure x.type.plain
      else if x.type.isRecord && (← distance g b x.type.plain true).isSome then pure x.type.plain
      else if y.type.isRecord && (← distance g a y.type.plain true).isSome then pure y.type.plain
      else pure Ty.void
    if t.isVoid then
      let x ← arithmeticOperand g x
      let y ← arithmeticOperand g y
      let (x, y, k) ← balanced g x y
      return .value { type := .number k, code := .choose c x.code y.code }
    if !(← isCpp) then
      let x ← materialized g x
      let y ← materialized g y
      return .value { type := t, category := .passing, code := .choose c x.code y.code }
    let place ← newPlace 8 8
    let target := Core.load .u64 (.frame place)
    let m ← construct g t target byCopy [.value x]
    let n ← construct g t target byCopy [.value y]
    return .value { type := t, code := .nothing
                    make := some fun target => .first (.store .u64 (.frame place) target) (.choose c (.first m (.long 0)) (.first n (.long 0))) }
  let x ← loaded x
  let y ← loaded y
  let pick (t : Ty) (x y : Value) : Value :=
    match known with
    | some true => { x with type := t, isLiteral := false }
    | some false => { y with type := t, isLiteral := false }
    | none => { type := t, code := .choose c x.code y.code }
  match x.type.plain, y.type.plain with
  | .number _, .number _ =>
    let (x, y, k) ← balanced g x y
    return .value (pick (.number k) x y)
  | .enum i, .enum j =>
    if i = j then return .value (pick x.type.plain x y)
    let a ← arithmeticOperand g x
    let b ← arithmeticOperand g y
    let (x, y, k) ← balanced g a b
    return .value (pick (.number k) x y)
  | .enum _, .number _ | .number _, .enum _ =>
    let a ← arithmeticOperand g x
    let b ← arithmeticOperand g y
    let (x, y, k) ← balanced g a b
    return .value (pick (.number k) x y)
  | .pointer s, .pointer t =>
    let goal : Ty ← if onlyAddsConst 16 s t then pure y.type.plain
      else if onlyAddsConst 16 t s then pure x.type.plain
      else if (← pointerDistance g true s t).isSome then pure y.type.plain
      else if (← pointerDistance g true t s).isSome then pure x.type.plain
      else if !(← isCpp) then pure x.type.plain
      else fail "conditional expression between distinct pointer types"
    let x ← asNumber g x goal
    let y ← asNumber g y goal
    return .value (pick goal x y)
  | .pointer _, t =>
    let _ := t
    if isNullConstant y || !(← isCpp) then
      let y ← asNumber g y x.type.plain
      return .value (pick x.type.plain x y)
    else fail "operands to '?:' have different types"
  | _, .pointer _ =>
    if isNullConstant x || !(← isCpp) then
      let x ← asNumber g x y.type.plain
      return .value (pick y.type.plain x y)
    else fail "operands to '?:' have different types"
  | s, t =>
    if s == t then return .value (pick s x y)
    match ← distance g (.value y) s true, ← distance g (.value x) t true with
    | some _, _ =>
      let y ← convert g (.value y) s false
      return .value (pick s x y)
    | none, some _ =>
      let x ← convert g (.value x) t false
      return .value (pick t x y)
    | none, none => fail "operands to '?:' have different types"

/-- A choice between two values, or an operand alone. -/
def ternary (g : Grammar) : Compile Operand := do
  let a ← operatorsWithin g 100000 1 (← g.operand)
  if !(← isSign "?") then return a
  advance
  let v ← match a with
    | .value v => if v.type.isRecord then convert g a .bool true else pure v
    | o => single o
  if ← acceptSign ":" then
    -- without a second operand, the condition is the value
    let v ← loaded v
    let s ← scalar v.type
    let place ← newPlace 8 8
    let kept : Value := { type := v.type.plain, code := .load s (.frame place) }
    let truth ← truthOf kept
    let b ← conditionally g.assignment
    match ← chosen2 g truth (.value kept) b with
    | .value r => return .value { r with code := .first (.store s (.frame place) v.code) r.code, constant := none }
    | o => return o
  let c ← truthOf v
  let yes ← conditionally g.expression
  expectSign ":"
  let no ← conditionally g.assignment
  match yes, no with
  | .braces _, _ | _, .braces _ => fail "a list cannot be one of two values"
  | yes, no => chosen2 g c yes no

def assignmentSigns : List String := ["=", "+=", "-=", "*=", "/=", "%=", "&=", "|=", "^=", "<<=", ">>="]

/-- An expression without a comma. -/
def assignment (g : Grammar) : Compile Operand := do
  if (← isWord "throw") && (← isCpp) then
    advance
    let next ← peek
    if next == .sign ";" || next == .sign ")" || next == .sign ":" || next == .sign "," || next == .sign "" then
      return .value (← throwAgain)
    return .value (← throwValue g (← g.assignment))
  let a ← ternary g
  match ← peek with
  | .sign sign =>
    if assignmentSigns.contains sign then
      advance
      let b ← listed g
      assignBy g (String.ofList sign.toList.dropLast) a b
    else return a
  | _ => return a

/-- Expressions that follow each other; the last one is the value. -/
def expressionWithin (g : Grammar) : Nat → Operand → Compile Operand
  | 0, o => return o
  | fuel + 1, a => do
    if ← acceptSign "," then
      let b ← g.assignment
      match ← overloaded? g "operator," [a, b] false with
      | some o => expressionWithin g fuel o
      | none =>
        let x ← match a with
          | .value v => if v.make.isSome then materialized g v else pure v
          | _ => pure (.void .nothing)
        match b with
        | .value y =>
          expressionWithin g fuel (.value { y with
            code := .first x.code y.code, make := y.make.map fun m t => .first x.code (m t), constant := none, isLiteral := false })
        | b => expressionWithin g fuel b
    else return a

def expression (g : Grammar) : Compile Operand := do
  expressionWithin g 100000 (← g.assignment)

end ModuleForge.Host.Native.Compile
