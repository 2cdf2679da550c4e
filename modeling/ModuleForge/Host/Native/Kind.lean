import ModuleForge.Host.Native.Operators

/-!
# Types when the program runs

The data that tell the type of an object: what is thrown and caught is compared by it, and the
tables of classes through which functions are chosen point to it. A table holds, for every part of
an object with a table of its own, the distance to the start of the object, the type, and the
functions.
-/
namespace ModuleForge.Host.Native.Compile

/-! ## Data -/

def addData (symbol : String) (sight : Sight) (d : CoreData) : Compile Unit := modify fun s =>
  { s with
    dataOrder := if s.data.contains symbol then s.dataOrder else symbol :: s.dataOrder
    data := s.data.insert symbol (sight, d) }

/-- The number of so many bytes, lowest first. -/
def bytesOf (size n : Nat) : List UInt8 := (List.range size).map fun i => UInt8.ofNat (n / 256 ^ i % 256)

/-- The symbol of a text, whose units have so many bytes. -/
def textSymbol (size : Nat) (units : List Nat) : Compile String := do
  let bytes := (units ++ [0]).flatMap (bytesOf size)
  let key := toString size ++ ":" ++ toString (bytes.map UInt8.toNat)
  match (← get).texts[key]? with
  | some symbol => return symbol
  | none =>
    let symbol := ".text" ++ toString (← get).texts.size
    modify fun s => { s with texts := s.texts.insert key symbol }
    addData symbol .hidden { size := bytes.length, alignment := size, bytes, isConstant := true }
    return symbol

/-- The units of a text in plain characters. -/
def plainUnits (s : String) : List Nat := s.toUTF8.toList.map UInt8.toNat

/-! ## Types -/

/-- The symbol of what tells a type. -/
def kindSymbolWithin (g : Grammar) : Nat → Ty → Compile String
  | 0, _ => fail "type is nested too deeply"
  | depth + 1, t => do
    let t := t.plain
    let symbol ← Spell.special "TI" t
    if (← get).data.contains symbol then return symbol
    let name ← textSymbol 1 (plainUnits (String.ofList ((← Spell.special "" t).toList.drop 2)))
    -- the data of a class that contains itself are found when they are asked for again
    addData symbol .sharedHidden { size := 16, alignment := 8 }
    let bases ← match t.record? with
      | none => pure []
      | some id => do
        g.complete id
        (← getRecord id).bases.toList.mapM fun b => do
          return (← kindSymbolWithin g depth (.record b.record), b.offset)
    let addresses := (0, name, 0) :: (bases.zip (List.range bases.length)).map fun ((s, _), i) => (16 + 16 * i, s, 0)
    let bytes := bytesOf 8 0 ++ bytesOf 8 bases.length ++ bases.flatMap fun (_, n) => bytesOf 8 0 ++ bytesOf 8 n
    addData symbol .sharedHidden { size := 16 + 16 * bases.length, alignment := 8, bytes, addresses, isConstant := true }
    return symbol

def kindSymbol (g : Grammar) (t : Ty) : Compile String := kindSymbolWithin g typeDepth t

/-! ## Tables of classes -/

/-- The forms in which the parameters of a function are passed. -/
def formsOf (f : Function) : Compile (List Scalar) := do
  let result : List Scalar := if f.result.isRecord then [.u64] else []
  let this : List Scalar := if f.owner.isSome && !f.isStatic then [.u64] else []
  let forms ← f.parameters.mapM fun p => do
    if p.type.isReference || p.type.isRecord then return Scalar.u64 else scalar p.type
  return result ++ this ++ forms

/-- A function that calls another one for the object around a part of it. -/
def aroundSymbol (id distance : Nat) : Compile String := do
  let f ← getFunction id
  if distance = 0 then return f.symbol
  let symbol := "_ZThn" ++ toString distance ++ "_" ++ String.ofList (f.symbol.toList.drop 2)
  if (← get).finished.contains symbol then return symbol
  let forms ← formsOf f
  let places := (forms.map fun s => (s.size, s.size)).toArray
  let thisAt := if f.result.isRecord then 1 else 0
  let values := (forms.zip (List.range forms.length)).map fun (s, i) =>
    let v := Core.load s (.frame i)
    (s, if i = thisAt then Core.binary .sub .u64 v (.long distance) else v)
  let result : Scalar ← if f.result.isReference || f.result.isRecord then pure .u64
    else pure ((← scalar? f.result).getD .i32)
  let call := Core.call (.symbol f.symbol) values result false
  let body := if f.result.isVoid || f.result.isRecord then [Step.value call] else [Step.leave result call]
  let made : CoreFunction := { places, parameters := forms.zip (List.range forms.length), body }
  modify fun s => { s with
    finished := s.finished.insert symbol made
    finishedOrder := symbol :: s.finishedOrder }
  return symbol

/-- The parts of an object that have tables of their own, with their distances: the object itself is
first. -/
def tablesOf (g : Grammar) : Nat → Nat → Nat → Compile (List (Nat × Nat))
  | 0, _, _ => return []
  | depth + 1, id, at_ => do
    let r ← getRecord id
    if !r.hasTable then return []
    let inner ← r.bases.toList.mapM fun b => tablesOf g depth b.record (at_ + b.offset)
    -- the first base with a table shares the one of the object
    let others := inner.flatten.filter (·.2 ≠ at_)
    return (id, at_) :: others

/-- The function that takes the place of one in a class. -/
def overrider (g : Grammar) (whole f : Nat) : Compile Nat := do
  let r ← getRecord whole
  let f' ← getFunction f
  let same (h : Nat) : Compile Bool := do
    let h' ← getFunction h
    if f'.role = .destructor || h'.role = .destructor then return f'.role = h'.role
    return h'.name == f'.name && h'.traits.isConst == f'.traits.isConst
      && Ty.sameAll (h'.parameters.map (·.type.plain)) (f'.parameters.map (·.type.plain))
  match ← r.virtuals.toList.findM? same with
  | some h => return h
  | none =>
    let _ := g
    return f

/-- The symbol of the table of a class, and where the part for each distance starts. -/
def tableSymbol (g : Grammar) (id : Nat) : Compile (String × List (Nat × Nat)) := do
  let parts ← tablesOf g 16 id 0
  let symbol ← Spell.special "TV" (.record id)
  let sized ← parts.mapM fun (part, at_) => do return (part, at_, (← getRecord part).virtuals.size)
  let starts := sized.foldl (fun (acc : List (Nat × Nat) × Nat) (_, at_, n) =>
    (acc.1 ++ [(at_, acc.2 + 16)], acc.2 + 16 + 8 * n)) ([], 0)
  if (← get).data.contains symbol then return (symbol, starts.1)
  addData symbol .sharedHidden { size := starts.2, alignment := 8, isConstant := true }
  let kind ← kindSymbol g (.record id)
  let mut bytes : List UInt8 := []
  let mut addresses : List (Nat × String × Nat) := []
  for (part, at_, _) in sized do
    addresses := addresses ++ [(bytes.length + 8, kind, 0)]
    bytes := bytes ++ bytesOf 8 ((2 ^ 64 - at_) % 2 ^ 64) ++ bytesOf 8 0
    for f in (← getRecord part).virtuals do
      let h ← overrider g id f
      let h' ← getFunction h
      let target ← if h'.given = .pure && h'.body.isNone then pure "__cxa_pure_virtual"
        else do
          if h'.given ≠ .deleted then use h
          -- the function belongs to a part of the object that may lie elsewhere
          let home ← match h'.owner with
            | some o => partOffset g 16 id o
            | none => pure none
          aroundSymbol h (at_ - (home.getD 0))
      addresses := addresses ++ [(bytes.length, target, 0)]
      bytes := bytes ++ bytesOf 8 0
  addData symbol .sharedHidden { size := starts.2, alignment := 8, bytes, addresses, isConstant := true }
  return (symbol, starts.1)

/-- The steps that make an object point to the tables of its class. -/
def setTables (g : Grammar) (id : Nat) (address : Core) : Compile Core := do
  let r ← getRecord id
  if !r.hasTable then return .nothing
  let (symbol, starts) ← tableSymbol g id
  let steps := starts.map fun (at_, start) =>
    Core.store .u64 (address.offset at_) ((Core.symbol symbol).offset start)
  return steps.foldl Core.andThen .nothing

/-! ## Throwing -/

/-- Throws a value. -/
def throwValue (g : Grammar) (o : Operand) : Compile Value := do
  let v ← single o
  let t := v.type.decayed.plain
  if t.isVoid then fail "expression of type void thrown"
  let size ← sizeOf g t
  let kind ← kindSymbol g t
  let destroyer ← match t.record? with
    | some id => match ← destructor? g id with
      | some f => do
        use f
        pure (Core.symbol (← getFunction f).symbol)
      | none => pure (Core.long 0)
    | none => pure (Core.long 0)
  let place ← newPlace 8 8
  let address := Core.load .u64 (.frame place)
  let room ← supportCall "__support_offer" [.long size, .symbol kind, destroyer]
  let code ← g.construct t address byCopy [.value v]
  let raise ← supportCall "__support_raise" [address]
  changeMaking fun m => { m with reached := m.reached && m.conditional }
  return .void (.first (.store .u64 (.frame place) room) (Core.andThen code raise))

/-- Throws again what was caught. -/
def throwAgain : Compile Value := do
  let call ← supportCall "__support_again" []
  changeMaking fun m => { m with reached := m.reached && m.conditional }
  return .void call

/-- A pointer or a reference to another class of the object, as it turns out when the program
runs. -/
def dynamicCast (g : Grammar) (t : Ty) (o : Operand) : Compile Value := do
  let v ← single o
  match t with
  | .reference u passing =>
    match v.type.record?, u.record? with
    | some c, some d =>
      if ← derives g c d then return ← convert g o t true
      if !(← getRecord c).hasTable then fail "cannot dynamic_cast: source type is not polymorphic"
      let kind ← kindSymbol g (.record d)
      -- what is thrown if it is none of them has to be known
      let thrower := (← inStandard g "__cast_reference").findSome? fun
        | .function id => some id
        | _ => none
      let symbol ← match thrower with
        | some id => do
          use id
          pure (← getFunction id).symbol
        | none => pure "__support_cast_reference"
      let call ← supportCall symbol [← addressOf g v, .symbol kind]
      return { type := u, category := if passing then .passing else .place, code := call }
    | _, _ => fail "cannot dynamic_cast to a reference to something that is not a class"
  | t =>
    let v ← loaded v
    match v.type.plain, t.plain with
    | .pointer a, .pointer b =>
      match a.record?, b.record? with
      | some c, some d =>
        if ← derives g c d then return ← convert g (.value v) t true
        g.complete c
        if !(← getRecord c).hasTable then fail "cannot dynamic_cast: source type is not polymorphic"
        g.complete d
        let kind ← kindSymbol g (.record d)
        let call ← supportCall "__support_cast" [v.code, .symbol kind]
        return { type := t.plain, code := call }
      | some _, none =>
        if !b.isVoid then fail "cannot dynamic_cast"
        let call ← supportCall "__support_whole" [v.code]
        return { type := t.plain, code := call }
      | _, _ => fail "cannot dynamic_cast"
    | _, _ => fail "cannot dynamic_cast"

end ModuleForge.Host.Native.Compile
