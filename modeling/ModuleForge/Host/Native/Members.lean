import ModuleForge.Host.Native.Kind

/-!
# Members of classes

Where the members of a class lie in its objects, which functions are chosen when the program runs,
and the constructors, assignments and destructors that a class has without asking for them.
-/
namespace ModuleForge.Host.Native.Compile

def alignUp (n alignment : Nat) : Nat := (n + max alignment 1 - 1) / max alignment 1 * max alignment 1

/-! ## Layout -/

/-- Where the next member may lie, in bits, with the alignment of all members so far. -/
structure Filling where
  bits : Nat := 0
  alignment : Nat := 1
  /-- The most bits that any member of a union takes. -/
  widest : Nat := 0

/-- Puts a field behind those before it. -/
def placeField (g : Grammar) (isUnion : Bool) (f : Field) (s : Filling) : Compile (Field × Filling) := do
  let (size, alignment) ← layout g f.type
  match f.bits with
  | some (_, width) =>
    let unit := 8 * size
    if unit < width then fail "width of bit-field exceeds its type"
    let start := if isUnion then 0
      else if width = 0 then alignUp s.bits unit
      else if s.bits % unit + width ≤ unit then s.bits else alignUp s.bits unit
    let field := { f with offset := start / unit * size, bits := some (start % unit, width) }
    let alignment := if f.name == "" then s.alignment else max s.alignment alignment
    return (field, { bits := if isUnion then 0 else start + width, alignment, widest := max s.widest (start + width) })
  | none =>
    let start := if isUnion then 0 else alignUp ((s.bits + 7) / 8) alignment
    return ({ f with offset := start }, {
      bits := if isUnion then 0 else 8 * (start + size)
      alignment := max s.alignment alignment, widest := max s.widest (8 * (start + size)) })

/-- Lays out a class whose bases and fields are known. -/
def layoutRecord (g : Grammar) (id : Nat) : Compile Unit := do
  let r ← getRecord id
  let baseHasTable ← r.bases.toList.anyM fun b => do return (← getRecord b.record).hasTable
  let ownTable := r.hasTable && !baseHasTable
  let mut at_ := if ownTable then 8 else 0
  let mut alignment := if ownTable then 8 else max 1 r.alignment
  alignment := max alignment r.alignment
  -- the base that shares its table with the class lies at the start
  let withTable ← r.bases.toList.filterM fun b => do return (← getRecord b.record).hasTable
  let first := withTable.head?.map (·.record)
  let mut bases : Array Base := #[]
  if let some p := first then at_ := max at_ (← getRecord p).used
  if let some p := first then alignment := max alignment (← getRecord p).alignment
  let mut empties : List Nat := []
  for b in r.bases do
    let c ← getRecord b.record
    if some b.record = first then bases := bases.push { b with offset := 0 }
    else if c.used = 0 then
      -- a base without members takes no room, unless the same one lies there
      let offset := if empties.contains b.record then alignUp (max at_ 1) c.alignment else 0
      bases := bases.push { b with offset }
      empties := b.record :: empties
      if offset ≠ 0 then at_ := offset + 1
    else
      let start := alignUp at_ c.alignment
      bases := bases.push { b with offset := start }
      at_ := start + c.size
      alignment := max alignment c.alignment
  let mut s : Filling := { bits := 8 * at_, alignment }
  let mut fields : Array Field := #[]
  for f in r.fields do
    let (f, s') ← placeField g (r.tag = .union_) f s
    fields := fields.push f
    s := s'
  let bits := if r.tag = .union_ then s.widest else s.bits
  let used := (bits + 7) / 8
  let size := alignUp (max used (if ← isCpp then 1 else 0)) s.alignment
  let isEmpty := used = 0
  changeRecord id fun r => { r with
    bases, fields, alignment := s.alignment, size, used := if isEmpty then 0 else size, isComplete := true }

/-! ## Functions chosen when the program runs -/

/-- Whether two member functions take the same values. -/
def sameSignature (f h : Function) : Bool :=
  if f.role = .destructor || h.role = .destructor then f.role = h.role
  else f.name == h.name && f.traits.isConst == h.traits.isConst && f.traits.reference == h.traits.reference
    && f.role = h.role && (f.role ≠ .conversion || f.result == h.result)
    && Ty.sameAll (f.parameters.map (·.type.plain)) (h.parameters.map (·.type.plain))

/-- The functions of the bases that are chosen when the program runs. -/
def inheritedVirtuals (g : Grammar) : Nat → Nat → Compile (List Nat)
  | 0, _ => return []
  | depth + 1, id => do
    let r ← getRecord id
    let found ← r.bases.toList.mapM fun b => do
      return (← getRecord b.record).virtuals.toList ++ (← inheritedVirtuals g depth b.record)
    return found.flatten

/-- Gives a member function its slot, if it needs one. -/
def enterVirtual (g : Grammar) (id f : Nat) (mustOverride : Bool) : Compile Unit := do
  let f' ← getFunction f
  if f'.isStatic || f'.role = .constructor then return
  let inherited ← inheritedVirtuals g 16 id
  let overrides ← inherited.anyM fun h => do return sameSignature f' (← getFunction h)
  if mustOverride && !overrides then fail ("'" ++ f'.name ++ "' marked 'override', but does not override")
  if !f'.isVirtual && !overrides then return
  for h in inherited do
    let h' ← getFunction h
    if sameSignature f' h' && f'.role = .ordinary then
      let related ← match f'.result.referred.record?, h'.result.referred.record? with
        | some c, some d => derives g c d
        | _, _ => match f'.result.pointed?, h'.result.pointed? with
          | some x, some y => match x.record?, y.record? with
            | some c, some d => derives g c d
            | _, _ => pure (x == y)
          | _, _ => pure (f'.result == h'.result)
      if !related then fail ("conflicting return type specified for '" ++ f'.name ++ "'")
  let r ← getRecord id
  let known ← r.virtuals.toList.mapM getFunction
  match known.findIdx? (sameSignature f') with
  | some i =>
    changeRecord id fun r => { r with virtuals := r.virtuals.set! i f, hasTable := true }
    changeFunction f fun f => { f with isVirtual := true, slot := some i }
  | none =>
    let i := r.virtuals.size
    changeRecord id fun r => { r with virtuals := r.virtuals.push f, hasTable := true }
    changeFunction f fun f => { f with isVirtual := true, slot := some i }

/-- Takes over the slots of the base that comes first. -/
def inheritTable (id : Nat) : Compile Unit := do
  let r ← getRecord id
  let withTable ← r.bases.toList.filterM fun b => do return (← getRecord b.record).hasTable
  match withTable with
  | b :: _ =>
    let base ← getRecord b.record
    changeRecord id fun r => { r with virtuals := base.virtuals, hasTable := true }
  | [] => return

/-! ## Functions that come by themselves -/

/-- Whether the values of a type cannot be made, copied, or let go. -/
def isDeletedFor (g : Grammar) (what : Special) (t : Ty) : Compile Bool := do
  let t := (t.element?).getD t
  match t with
  | .reference .. => return what = .create || what = .assignCopy || what = .assignMove
  | t =>
    if t.isConst && (what = .assignCopy || what = .assignMove) then return true
    match t.record? with
    | none => return t.isConst && what = .create
    | some id =>
      g.complete id
      let own : List (Special × Nat) ← specials id
      let chosen := own.filter (·.1 = what)
      let chosen := if chosen.isEmpty && what = .move then own.filter (·.1 = .copy)
        else if chosen.isEmpty && what = .assignMove then own.filter (·.1 = .assignCopy)
        else chosen
      let fs : List Function ← chosen.mapM fun (_, f) => getFunction f
      if fs.isEmpty then
        let r ← getRecord id
        return what ≠ .destroy && !(what = .create && r.constructors.isEmpty)
      return fs.all fun f => f.given = .deleted

/-- Whether what a class would do by itself is impossible for one of its parts. -/
def isImpossible (g : Grammar) (id : Nat) (what : Special) : Compile Bool := do
  let r ← getRecord id
  let ofBases ← r.bases.toList.anyM fun b => isDeletedFor g what (.record b.record)
  if ofBases then return true
  r.fields.toList.anyM fun f => do
    if what = .create && f.start.isSome then return false
    if r.tag = .union_ || f.bits.isSome then return false
    if what = .copy || what = .move then
      match f.type with
      | .reference .. => return false
      | _ => isDeletedFor g what f.type
    else isDeletedFor g what f.type

/-- Declares a function of a class that comes by itself. -/
def addGiven (id : Nat) (f : Function) : Compile Nat := do
  let r ← getRecord id
  let f := { f with
    owner := some id, scope := r.scope, inner := r.scope, isInline := true, isConstant := true
    sight := .shared
    parameters := f.parameters.map fun p => { p with name := some "other" } }
  let symbol ← Spell.function f "1" none
  let f := { f with symbol }
  let n ← addFunction f
  modify fun s => { s with functionOfSymbol := s.functionOfSymbol.insert symbol n }
  bindIn r.scope f.name (.function n)
  return n

/-- What a class declares of what it does as a matter of course. -/
structure Declares where
  constructor : Bool := false
  copy : Bool := false
  move : Bool := false
  assignCopy : Bool := false
  assignMove : Bool := false
  destructor : Bool := false

def declares (id : Nat) : Compile Declares := do
  let r ← getRecord id
  let own : List (Special × Nat) ← specials id
  let has (what : Special) : Bool := own.any (·.1 = what)
  let templates := (← scope r.scope).names["constructor"]?.getD []
  return {
    constructor := !r.constructors.isEmpty || !templates.isEmpty
    copy := has .copy, move := has .move, assignCopy := has .assignCopy, assignMove := has .assignMove
    destructor := has .destroy }

/-- Adds the functions that a class has without asking for them. -/
def addImplicit (g : Grammar) (id : Nat) : Compile Unit := do
  if !(← isCpp) then return
  let r ← getRecord id
  let d ← declares id
  let self : Ty := .record id
  let copied : Parameter := { type := .reference self.asConst false }
  let moved : Parameter := { type := .reference self true }
  let base : Function := { name := "constructor", symbol := "", result := .void, parameters := [], scope := 0, inner := 0 }
  let given (what : Special) : Compile Given := do
    return if ← isImpossible g id what then .deleted else .byDefault
  let constructor (f : Function) : Compile Unit := do
    let n ← addGiven id { f with role := .constructor, name := "constructor" }
    changeRecord id fun r => { r with constructors := n :: r.constructors }
  if !d.destructor then
    let n ← addGiven id { base with name := "~" ++ r.name, role := .destructor, given := ← given .destroy }
    changeRecord id fun r => { r with destructor := some n }
    enterVirtual g id n false
  if !d.constructor && !r.isClosure then
    constructor { base with given := ← given .create }
  let movesDeclared := d.move || d.assignMove
  let movesGiven := !d.copy && !d.move && !d.assignCopy && !d.assignMove && !d.destructor
  if !d.copy then
    let own ← given .copy
    constructor { base with parameters := [copied], given := if movesDeclared then .deleted else own }
  if movesGiven then
    if (← given .move) = .byDefault then constructor { base with parameters := [moved], given := .byDefault }
  if !d.assignCopy then
    let own ← given .assignCopy
    let f := { base with name := "operator=", result := .reference self false, parameters := [copied]
                         given := if movesDeclared || r.isClosure then .deleted else own }
    let _ ← addGiven id f
  if movesGiven && !r.isClosure then
    if (← given .assignMove) = .byDefault then
      let _ ← addGiven id { base with name := "operator=", result := .reference self false, parameters := [moved]
                                      given := .byDefault }

end ModuleForge.Host.Native.Compile
