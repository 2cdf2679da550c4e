import ModuleForge.Host.Native.Literal
import ModuleForge.Host.Native.Members

/-!
# Functions written in place

An expression that stands for a function becomes an object of a class of its own, which keeps what
the function uses of its surroundings and has the function as the operator of a call.
-/
namespace ModuleForge.Host.Native.Compile

/-- The object that a member function is called on, seen as an object of a class around or below
it. -/
def thisValue (g : Grammar) (record : Option Nat) : Compile Value := do
  let captured : Compile Value := do
    match ← lookup g "this" with
    | .field r i :: _ =>
      match (← get).making.this with
      | some (place, t) =>
        let object := Value.place t (.load .u64 (.frame place))
        let v ← loaded (← fieldOf g object r i)
        match v.type.plain with
        | .pointer u => return .place u v.code
        | _ => fail "'this' is unavailable"
      | none => fail "invalid use of 'this' in a function without an object"
    | _ => fail "invalid use of a member in a function without an object"
  match (← get).making.this with
  | none => captured
  | some (place, t) =>
    let own := Value.place t (.load .u64 (.frame place))
    match t.record?, record with
    | some whole, some part =>
      match ← partOffset g 16 whole part with
      | some _ => return own
      | none => captured
    | some whole, none => if (← getRecord whole).isClosure then captured else return own
    | none, _ => captured

/-- Something that a function keeps of its surroundings. -/
structure Capture where
  name : String
  byReference : Bool
  value : Operand
  /-- Whether it is one of a pack. -/
  isPack : Bool := false

/-- A name that the function mentions, if it is kept by default. -/
def mentionedCapture (g : Grammar) (byReference : Bool) (name : String) : Compile (List Capture) := do
  let making := (← get).making.id
  let ofVariable (id : Nat) (isPack : Bool) : Compile (List Capture) := do
    let v ← getVariable id
    match v.location with
    | .frame m _ =>
      if m ≠ making || v.constant.isSome then return []
      return [{ name, byReference, value := .value (← variableValue id), isPack }]
    | .symbol _ => return []
  match ← lookup g name with
  | .variable id :: _ => ofVariable id false
  | .pack ids :: _ =>
    let found ← ids.mapM fun id => ofVariable id true
    return found.flatten
  | .field r i :: _ =>
    if !(← getRecord r).isClosure || name == "this" then return []
    let v ← fieldOf g (← thisValueOfClosure r) r i
    return [{ name, byReference, value := .value v }]
  | _ => return []
where
  thisValueOfClosure (r : Nat) : Compile Value := do
    match (← get).making.this with
    | some (place, t) =>
      if t.record? == some r then return .place t (.load .u64 (.frame place))
      else fail "not captured"
    | none => fail "not captured"

/-- Reads one of the captures that are written out. -/
def writtenCapture (g : Grammar) : Compile (List Capture) := do
  if ← acceptSign "*" then
    if !(← acceptWord "this") then expected "this"
    let v ← thisValue g none
    return [{ name := "this", byReference := false, value := .value v }]
  if ← acceptWord "this" then
    return [{ name := "this", byReference := true, value := .value (← thisValue g none) }]
  let byReference ← acceptSign "&"
  let isPack ← acceptSign "..."
  let name ← expectName
  if ← acceptSign "=" then
    let _ := isPack
    return [{ name, byReference, value := ← g.assignment }]
  if ← isSign "\x7b" then
    return [{ name, byReference, value := ← g.operand }]
  if ← isSign "(" then
    advance
    let inner ← takeInside
    return [{ name, byReference, value := ← reading inner g.assignment }]
  let _ ← acceptSign "..."
  match ← lookup g name with
  | .variable _ :: _ | .pack _ :: _ | .field .. :: _ =>
    let found ← mentionedCapture g byReference name
    if found.isEmpty then
      -- a constant or a variable without a frame need not be kept
      match ← lookup g name with
      | .variable id :: _ =>
        match (← getVariable id).location with
        | .symbol _ => return []
        | .frame m _ =>
          if m = (← get).making.id then return [{ name, byReference, value := .value (← variableValue id) }]
          else fail ("'" ++ name ++ "' is not captured")
      | _ => return []
    return found
  | [] => fail (undeclared name)
  | _ => fail ("capture of non-variable '" ++ name ++ "'")

/-- Puts the names of invented types in the place of `auto`, and tells which there are. -/
def nameAutos : Nat → List Lexeme → List Lexeme × List String
  | _, [] => ([], [])
  | n, t :: rest =>
    if t.token == .word "auto" then
      let name := "auto." ++ toString n
      let (ts, names) := nameAutos (n + 1) rest
      ({ t with token := .word name } :: ts, name :: names)
    else
      let (ts, names) := nameAutos n rest
      (t :: ts, names)

/-- Gives a class the fields in which values are kept. -/
def addCaptures (g : Grammar) (id : Nat) (cs : List Capture) : Compile (List (Nat × Capture)) := do
  let mut done : List (Nat × Capture) := []
  for c in cs do
    let v ← single c.value
    let isThis := c.name == "this"
    let t : Ty := if isThis then (if c.byReference then .pointer v.type else v.type.plain)
      else if c.byReference then .reference v.type false
      else if v.type.isFunction then v.type.decayed
      else if v.type.isArray then v.type
      else v.type.plain
    let r ← getRecord id
    let index := r.fields.size
    changeRecord id fun r => { r with fields := r.fields.push { name := c.name, type := t } }
    if c.isPack then
      let _ := g
    else if !(isThis && !c.byReference) then
      if ((← scope r.scope).names[c.name]?.getD []).isEmpty then
        bindIn r.scope c.name (.field id index)
    done := done ++ [(index, c)]
  return done

/-- Reads a function that is written in place, behind its opening bracket. -/
def lambda (g : Grammar) : Compile Value := do
  let captureTokens ← takeInside
  -- the default, and what is written out
  let (byDefault, rest) : Option Bool × List Lexeme := match captureTokens with
    | [t] => if t.isSign "=" then (some false, []) else if t.isSign "&" then (some true, []) else (none, captureTokens)
    | t :: c :: more =>
      if c.isSign "," && t.isSign "=" then (some false, more)
      else if c.isSign "," && t.isSign "&" then (some true, more)
      else (none, captureTokens)
    | [] => (none, [])
  let here := (← get).here
  let slices := if rest.isEmpty then [] else splitCommas false (rest.length + 1) rest
  let written ← slices.mapM fun ts => reading ts (writtenCapture g)
  let written := written.flatten
  -- the parts of the function
  let templated ← if ← isSign "<" then
      advance
      match splitArguments 0 0 false [] [] (← get).tokens with
      | some (slices, rest) =>
        setTokens rest
        pure (some slices)
      | none => fail "template parameter list is not closed"
    else pure none
  let parameters ← if ← isSign "(" then
      advance
      takeInside
    else pure []
  let mut isMutable := false
  for _ in [0:4] do
    if ← acceptWord "mutable" then isMutable := true
    if ← acceptWords ["constexpr", "static"] then pure ()
    skipAttributes g
  let noexceptTokens ← if ← isWord "noexcept" then
      advance
      if ← isSign "(" then
        advance
        let _ ← takeInside
        pure ([] : List Lexeme)
      else pure []
    else pure []
  skipAttributes g
  let result ← if ← isSign "->" then takeUpTo (·.isSign "\x7b") true else pure []
  expectSign "\x7b"
  let body ← takeInside
  -- what it keeps
  let words := (Lexeme.words (parameters ++ result ++ body)).eraseDups
  let names := written.map (·.name)
  let kept ← match byDefault with
    | none => pure []
    | some byReference =>
      let found ← words.mapM fun w => do
        if names.contains w || w == "this" then return [] else mentionedCapture g byReference w
      pure found.flatten
  let thisKept ← if byDefault.isNone || names.contains "this" then pure [] else do
    match ← attempt (thisValue g none) with
    | some v => pure [({ name := "this", byReference := true, value := .value v } : Capture)]
    | none => pure []
  let captures := written ++ kept ++ thisKept
  let name := ".lambda" ++ toString (← fresh)
  let id ← newRecord name .class_ here
  changeRecord id fun r => { r with isClosure := true, isAggregate := false }
  let done ← addCaptures g id captures
  -- names that stand for several values
  let packNames := ((captures.filter (·.isPack)).map (·.name)).eraseDups
  let inner := (← getRecord id).scope
  let line := match (← get).tokens with
    | t :: _ => t.line
    | [] => 0
  let sign (s : String) : Lexeme := { token := .sign s, line }
  let word (s : String) : Lexeme := { token := .word s, line }
  let _ := packNames
  let (typed, autos) := nameAutos 0 parameters
  let isGeneric := templated.isSome || !autos.isEmpty
  let header : List Lexeme := if !isGeneric then [] else
    let own := (templated.getD []).flatMap fun ts => ts ++ [sign ","]
    let invented := autos.flatMap fun a => [word "typename", word a, sign ","]
    let isPack (a : String) : Bool := (typed.zip (typed.drop 1)).any fun (x, y) => x.token == .word a && (y.isSign "..." )
      || (typed.zip ((typed.drop 1).zip (typed.drop 2))).any fun (x, y, z) =>
        x.token == .word a && (y.isSign "&&" || y.isSign "&") && z.isSign "..."
    let invented := if autos.any isPack then autos.flatMap fun a =>
        if isPack a then [word "typename", sign "...", word a, sign ","] else [word "typename", word a, sign ","]
      else invented
    [word "template", sign "<"] ++ (own ++ invented).dropLast ++ [sign ">"]
  let bodyTokens := [sign "\x7b"] ++ body ++ [sign "\x7d"]
  let declaration := header ++ [word "constexpr", word "auto", word "operator", sign "(", sign ")", sign "("] ++ typed ++ [sign ")"]
    ++ (if isMutable then [] else [word "const"]) ++ noexceptTokens ++ result ++ bodyTokens
  inside inner (do
    let before := (← get).atMember
    let access := (← get).access
    modify fun s => { s with access := .everyone }
    reading declaration g.declaration
    if captures.isEmpty && !isGeneric && byDefault.isNone then
      let static := [word "static", word "constexpr", word "auto", word ".invoke", sign "("] ++ typed ++ [sign ")"] ++ result ++ bodyTokens
      reading static g.declaration
    modify fun s => { s with atMember := before, access })
  layoutRecord g id
  addImplicit g id
  -- the object
  let place ← newPlace 8 8
  let address := Core.load .u64 (.frame place)
  let r ← getRecord id
  let mut code : Core := .nothing
  for (index, c) in done do
    match r.fields[index]? with
    | none => pure ()
    | some f =>
      let target := address.offset f.offset
      let v ← single c.value
      let made ← if c.name == "this" && c.byReference then
          pure (Core.store .u64 target (← addressOf g v))
        else if c.byReference then pure (Core.store .u64 target (← addressOf g v))
        else construct g f.type target byCopy [c.value]
      code := Core.andThen code made
  let total := code
  return { type := .record id, code := .nothing
           make := some fun target => .first (.store .u64 (.frame place) target) total }

end ModuleForge.Host.Native.Compile
