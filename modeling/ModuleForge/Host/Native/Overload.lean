import ModuleForge.Host.Native.Deduce

/-!
# Calls

Which of several functions is called with some values, and how it is called. A function is better
than another one if no value is farther from what it takes, and one is nearer.
-/
namespace ModuleForge.Host.Native.Compile

/-- A function that could be called, with the distances of the values. -/
structure Candidate where
  function : Nat
  distances : List (List Nat)
  template : Option Nat := none
  deriving Inhabited

/-! ## Choosing -/

/-- How far an object is from the one that a member function is called on; not at all without
one. -/
def objectDistance (f : Function) (object : Option Value) : Option (List (List Nat)) :=
  if f.owner.isNone || f.isStatic || f.role = .constructor then some []
  else match object with
    | none => some []
    | some v =>
      if v.type.isConst && !f.traits.isConst && f.role ≠ .destructor then none
      else if f.traits.reference = 1 && v.category ≠ .place && !f.traits.isConst then none
      else if f.traits.reference = 2 && v.category = .place then none
      else some [[0, if v.type.isConst == f.traits.isConst then 0 else 1,
        if f.traits.reference = 1 && v.category ≠ .place then 1 else 0]]

/-- A function as a candidate, if it can be called with the values. -/
def candidate? (g : Grammar) (id : Nat) (template : Option Nat) (object : Option Value) (values : List Operand)
    (user : Bool) : Compile (Option Candidate) := do
  let f ← getFunction id
  let count := values.length
  if f.parameters.length < count && !f.traits.variadic && !f.traits.isOpen then return none
  if !((f.parameters.drop count).all (·.standard.isSome)) && !f.traits.isOpen then return none
  match objectDistance f object with
  | none => return none
  | some own =>
    let mut result : List (List Nat) := own
    for (p, o) in f.parameters.zip values do
      match ← distance g o p.type user with
      | some d => result := result ++ [d]
      | none => return none
    let rest := (values.drop f.parameters.length).map fun _ => [4]
    return some { function := id, distances := result ++ rest, template }

/-- Whether the first candidate is nowhere farther than the second, and somewhere nearer. -/
def nearer : List (List Nat) → List (List Nat) → Bool → Bool
  | a :: as, b :: bs, found => if b < a then false else nearer as bs (found || decide (a < b))
  | _, _, found => found

/-- Whether the first candidate is better than the second. -/
def better (g : Grammar) (a b : Candidate) : Compile Bool := do
  if nearer a.distances b.distances false then return true
  if nearer b.distances a.distances false then return false
  let isTie := (a.distances.zip b.distances).all fun (x, y) => !(x < y) && !(y < x)
  if !isTie then return false
  match a.template, b.template with
  | none, some _ => return true
  | some s, some t =>
    if s = t then return false
    return (← atLeastAsSpecial g s t) && !(← atLeastAsSpecial g t s)
  | none, none =>
    -- a function of a derived class hides one of a base that was brought along
    let f ← getFunction a.function
    let h ← getFunction b.function
    match f.owner, h.owner with
    | some c, some d => if c ≠ d then derives g c d else return false
    | _, _ => return false
  | _, none => return false

/-- The best of several functions and templates. -/
def select (g : Grammar) (fs templates : List Nat) (arguments : Option (List TypeArgument))
    (object : Option Value) (values : List Operand) (user : Bool) : Compile (Option Nat) := do
  let mut found : List Candidate := []
  if arguments.isNone then
    for f in fs.eraseDups do
      if let some c ← candidate? g f none object values user then found := c :: found
  for t in templates.eraseDups do
    if let some f ← deduceFunction g t arguments values then
      if let some c ← candidate? g f (some t) object values user then found := c :: found
  match found with
  | [] => return none
  | [c] => return some c.function
  | _ =>
    let mut best : List Candidate := []
    for c in found do
      let beaten ← found.anyM fun d => do return d.function != c.function && (← better g d c)
      if !beaten then best := c :: best
    match best with
    | [c] => return some c.function
    | [] => fail "call is ambiguous"
    | c :: rest =>
      -- what is declared several times is one function
      let symbol := (← getFunction c.function).symbol
      let same ← rest.allM fun d => do return (← getFunction d.function).symbol == symbol
      if same then return some c.function
      let symbols ← (c :: rest).mapM fun d => return (← getFunction d.function).symbol
      fail ("call of overloaded '" ++ (← getFunction c.function).name ++ "' is ambiguous: " ++ ", ".intercalate symbols)

/-! ## Access -/

/-- The classes in whose scopes the current place lies, and the names of those and of the
function. -/
def surroundings : Compile (List Nat × List String) := do
  let s ← get
  let scopes ← outwards scopeDepth s.here
  let kinds ← scopes.mapM fun id => return (← scope id).kind
  let records := kinds.filterMap fun
    | .record id => some id
    | _ => none
  let names ← records.mapM fun id => return (← getRecord id).name
  let own ← match s.making.function with
    | some f => pure [(← getFunction f).name]
    | none => pure []
  return (records, own ++ names)

/-- Refuses the use of a member by those who may not use it. -/
def checkAccess (g : Grammar) (owner : Nat) (access : Access) (name : String) : Compile Unit := do
  if access = .everyone then return
  let (records, names) ← surroundings
  if records.contains owner then return
  let r ← getRecord owner
  if r.friends.any names.contains then return
  -- a scope within the class belongs to it
  let nested ← records.anyM fun id => do
    let outer ← outwards scopeDepth (← getRecord id).parent
    return outer.contains r.scope
  if nested then return
  if access = .heirs then
    if ← records.anyM fun id => derives g id owner then return
  -- what is made of a template belongs with its friends
  fail ("'" ++ name ++ "' is not accessible within this context")

/-! ## Calling -/

/-- A value that is passed without a parameter for it. -/
def promoted (g : Grammar) (o : Operand) : Compile (Scalar × Core) := do
  let v ← loaded (← single o)
  match v.type.plain with
  | .number k =>
    let target : NumberKind := if k = .float then .double else if k.isReal then k else k.promoted
    let v ← asNumber g v (.number target)
    return (← scalar v.type, v.code)
  | .enum id =>
    let v ← asNumber g v (.number (← getEnum id).underlying.promoted)
    return (← scalar v.type, v.code)
  | .record _ => return (.u64, (← materialized g v).code)
  | .null => return (.u64, .long 0)
  | .void => fail "invalid use of void expression"
  | t => return (← scalar t, v.code)

/-- A value as it is passed to a parameter of a type. -/
def passed (g : Grammar) (o : Operand) (t : Ty) : Compile (Scalar × Core) := do
  let v ← convert g o t false
  if t.isReference then return (.u64, v.code)
  if v.type.isRecord then return (.u64, (← materialized g v).code)
  return (← scalar v.type, v.code)

/-- What a call gives, from the code with which arguments are passed. -/
def resultOf (result : Ty) (call : List (Scalar × Core) → Scalar → Core) : Compile Value := do
  match result with
  | .reference t passing =>
    return { type := t, category := if passing && !t.isFunction then .passing else .place, code := call [] .u64 }
  | t =>
    match t.plain with
    | .record _ =>
      return { type := t, code := .nothing, make := some fun target => call [(.u64, target)] .u64 }
    | .void => return .void (call [] .i32)
    | .auto | .unknown => fail "use of a function before its result type is known"
    | t => do
      let s ← scalar t
      return { type := t, code := call [] s }

/-- The values for all parameters, with those that are passed by default. -/
def arguments (g : Grammar) (f : Function) (values : List Operand) : Compile (List (Scalar × Core)) := do
  let given ← (f.parameters.zip values).mapM fun (p, o) => passed g o p.type
  let standard ← (f.parameters.drop values.length).mapM fun p => do
    match p.standard with
    | none => fail "too few arguments to function"
    | some ts =>
      let packs := (← get).packIndex
      modify fun s => { s with packIndex := none }
      let o ← inside f.inner (reading ts (do
        if ← isSign "\x7b" then g.operand else g.assignment))
      modify fun s => { s with packIndex := packs }
      passed g o p.type
  let rest ← (values.drop f.parameters.length).mapM (promoted g)
  return given ++ (if f.traits.isOpen then [] else standard) ++ rest

/-- The address of the object that a function is called on. -/
def objectAddress (g : Grammar) (f : Function) (v : Value) : Compile Core := do
  match f.owner with
  | none => addressOf g v
  | some owner => return (← bound g v (.record owner) false).code

/-- Makes the body of a function known whose result follows from it. -/
def knowResult (g : Grammar) (id : Nat) : Compile Unit := do
  let f ← getFunction id
  if f.result.isAuto && f.stage ≠ .made && f.body.isSome then g.makeFunction id

/-- Calls a function. -/
def callOne (g : Grammar) (id : Nat) (object : Option Value) (values : List Operand) : Compile Value := do
  knowResult g id
  use id
  let f ← getFunction id
  if let some owner := f.owner then checkAccess g owner f.access f.name
  let isMember := f.owner.isSome && !f.isStatic
  if f.neverReturns then changeMaking fun m => { m with reached := m.reached && m.conditional }
  if !isMember then
    let code ← arguments g f values
    resultOf f.result fun front result =>
      .call (.symbol f.symbol) (front ++ code) result (f.traits.variadic || f.traits.isOpen)
  else match object with
    | none => fail "cannot call member function without object"
    | some v =>
      let this ← objectAddress g f v
      match if v.isExact then none else f.slot with
      | none =>
        if f.given = .pure && v.isExact && f.body.isNone then pure ()
        let code ← arguments g f values
        if this.isSimple || code.all fun (_, a) => a.isSimple then
          resultOf f.result fun front result =>
            .call (.symbol f.symbol) (front ++ (.u64, this) :: code) result f.traits.variadic
        else
          -- the object comes before the arguments
          let place ← newPlace 8 8
          resultOf f.result fun front result =>
            .first (.store .u64 (.frame place) this)
              (.call (.symbol f.symbol) (front ++ (.u64, .load .u64 (.frame place)) :: code) result f.traits.variadic)
      | some slot =>
        let place ← newPlace 8 8
        let again := Core.load .u64 (.frame place)
        let target := Core.load .u64 ((Core.load .u64 again).offset (8 * slot))
        let code ← arguments g f values
        resultOf f.result fun front result =>
          .first (.store .u64 (.frame place) this)
            (.call target (front ++ (.u64, again) :: code) result f.traits.variadic)

/-- Calls the function at an address. -/
def callPointer (g : Grammar) (t : Ty) (target : Core) (this : List (Scalar × Core)) (values : List Operand) :
    Compile Value := do
  match t with
  | .function result ps traits =>
    if values.length < ps.length then fail "too few arguments to function"
    if ps.length < values.length && !traits.variadic && !traits.isOpen then fail "too many arguments to function"
    let given ← (ps.zip values).mapM fun (p, o) => passed g o p
    let rest ← (values.drop ps.length).mapM (promoted g)
    resultOf result fun front s =>
      .call target (front ++ this ++ given ++ rest) s (traits.variadic || traits.isOpen)
  | _ => fail "called object is not a function or function pointer"

/-- Calls the best of several functions. -/
def callFunctions (g : Grammar) (fs templates : List Nat) (explicit : Option (List TypeArgument))
    (object : Option Value) (values : List Operand) (name : String) : Compile Operand := do
  let isOnly := fs.length = 1 && templates.isEmpty
  match ← select g fs templates explicit object values true with
  | some f => return .value (← callOne g f object values)
  | none =>
    if isOnly && !(← isCpp) then
      -- without overloading, what does not fit is refused value by value, and some of it is only
      -- warned about
      match fs with
      | [f] =>
        let f' ← getFunction f
        if values.length < f'.parameters.length then fail "too few arguments to function"
        if f'.parameters.length < values.length && !f'.traits.variadic && !f'.traits.isOpen then fail "too many arguments to function"
        return .value (← callOne g f object values)
      | _ => fail ("no matching function for call to '" ++ name ++ "'")
    else fail ("no matching function for call to '" ++ name ++ "'")

end ModuleForge.Host.Native.Compile
