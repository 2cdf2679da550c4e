import ModuleForge.Host.Native.Lookup

/-!
# Values

Reads values from places, keeps them in places, and lets objects go.
-/
namespace ModuleForge.Host.Native

namespace Value

def ofInt (t : Ty) (s : Scalar) (n : Int) : Value :=
  { type := t, code := .number s n, constant := some n }

def int (n : Int) : Value := ofInt .int .i32 n

def bool (c : Core) : Value := { type := .bool, code := c }

def void (c : Core) : Value := { type := .void, code := c }

def place (t : Ty) (address : Core) : Value := { type := t, category := .place, code := address }

end Value

namespace Compile

/-- The value of an operand that is a single one. -/
def single (o : Operand) : Compile Value := do
  match o with
  | .value v => return v
  | .functions [f] [] none none =>
    let f' ← getFunction f
    changeFunction f fun f => { f with isUsed := true }
    return .place (.function f'.result (f'.parameters.map (·.type)) f'.traits) (.symbol f'.symbol)
  | .functions .. => fail "overloaded function with no contextual type information"
  | .braces _ => fail "braces are not allowed here"

/-- Asks for a function to be made, since something refers to it. -/
def use (id : Nat) : Compile Unit := do
  let f ← getFunction id
  if f.given = .deleted then fail ("use of deleted function '" ++ f.name ++ "'")
  if (← get).making.onlyTypes then return
  changeFunction id fun f => { f with isUsed := true }
  if f.stage = .declared && (f.body.isSome || f.given = .byDefault) then
    changeFunction id fun f => { f with stage := .waiting }
    modify fun s => { s with waiting := id :: s.waiting }

/-- A function of the program's surroundings, by its symbol. -/
def supportCall (symbol : String) (arguments : List Core) : Compile Core := do
  if let some id := (← get).functionOfSymbol[symbol]? then use id
  return .call (.symbol symbol) (arguments.map fun a => (.u64, a)) .u64 false

/-- An address that can be used several times; what has to be done to compute it comes first. -/
def simple (a : Core) : Compile (Core × Core) := do
  if a.isSimple then return (.nothing, a)
  let place ← newPlace 8 8
  return (.store .u64 (.frame place) a, .load .u64 (.frame place))

/-! ## Reading -/

/-- The mask of so many bits. -/
def maskOf (width : Nat) : Int := 2 ^ width - 1

/-- The value that a place holds, as a number; arrays and functions become pointers. -/
def loaded (v : Value) : Compile Value := do
  if v.category = .fresh then return v
  match v.type.plain with
  | .array .. | .openArray _ | .sizedArray .. =>
    return { v with type := v.type.decayed, category := .fresh }
  | .function r ps t =>
    return { v with type := .pointer (.function r ps t), category := .fresh, constant := none }
  | t =>
    match ← scalar? t with
    | none => return v
    | some s =>
      match v.constant with
      | some n => return { Value.ofInt t s n with isLiteral := v.isLiteral }
      | none => match v.bits with
        | none => return { type := t, code := .load s v.code }
        | some (first, width) =>
          let whole := Core.load s v.code
          let total := 8 * s.size
          let wide : Scalar := if s.size = 8 then (if s.isSigned then .i64 else .u64)
            else if s.isSigned then .i32 else .u32
          let total := if s.size = 8 then 64 else if s.size < 4 then 32 else total
          let whole := if s.size < 4 then Core.convert s wide whole else whole
          let up := Core.binary .shl wide whole (.number wide (total - first - width))
          return { type := t, code := .binary .shr wide up (.number wide (total - width)) }

/-- Writes a number to a place; the value is what was written. -/
def stored (v : Value) (number : Core) : Compile Core := do
  let s ← scalar v.type
  match v.bits with
  | none => return .store s v.code number
  | some (first, width) =>
    let (before, address) ← simple v.code
    let wide : Scalar := if s.size = 8 then .u64 else .u32
    let keep := Core.binary .and wide (.load s address) (.number wide (-(maskOf width * 2 ^ first) - 1))
    let place ← newPlace 8 8
    let put := Core.binary .shl wide
      (.binary .and wide (.load wide (.frame place)) (.number wide (maskOf width))) (.number wide first)
    let back ← loaded { v with code := address, constant := none, category := .place }
    return Core.andThen before (.first (.store wide (.frame place) number)
      (.first (.store s address (.binary .or wide keep put)) back.code))

/-! ## Letting go -/

/-- Does something to each element of an array, from the last one on. -/
def forElements (address : Core) (count size : Nat) (m : Core → Compile Core) : Compile Core := do
  if count = 0 then return .nothing
  let (before, start) ← simple address
  let i ← newPlace 8 8
  let again ← newLabel
  let done ← newLabel
  let index := Core.load .u64 (.frame i)
  let body ← m (.binary .add .u64 start (.binary .mul .u64 index (.long size)))
  return .steps [.value before, .value (.store .u64 (.frame i) (.long count)), .label again,
    .unless index.isSet done, .value (.store .u64 (.frame i) (.binary .sub .u64 index (.long 1))), .value body,
    .jump again, .label done] .nothing

/-- The destructor of a class that has to be called. -/
def destructor? (g : Grammar) (id : Nat) : Compile (Option Nat) := do
  if ← isTrivial g .destroy (.record id) then return none
  return (← getRecord id).destructor

/-- The steps that let an object go, if there are any. -/
def destroyWithin (g : Grammar) : Nat → Ty → Core → Compile (Option Core)
  | 0, _, _ => return none
  | depth + 1, t, address => do
    match t.plain with
    | .record id => match ← destructor? g id with
      | none => return none
      | some f =>
        use f
        let f ← getFunction f
        return some (.call (.symbol f.symbol) [(.u64, address)] .u64 false)
    | .array e n =>
      if ← isTrivial g .destroy e then return none
      let size ← sizeOf g e
      return some (← forElements address n size fun a => do
        return (← destroyWithin g depth e a).getD .nothing)
    | _ => return none

def destroy? (g : Grammar) (t : Ty) (address : Core) : Compile (Option Core) :=
  destroyWithin g typeDepth t address

/-! ## Keeping -/

/-- Lets an object go at the end of the expression; the result is done once the object is there. -/
def addTemporary (g : Grammar) (t : Ty) (address : Core) : Compile Core := do
  match ← destroy? g t address with
  | none => return .nothing
  | some code =>
    if !(← get).making.conditional then
      changeMaking fun m => { m with temporaries := { code } :: m.temporaries }
      return .nothing
    let flag ← newPlace 1 1
    emitValue (.store .u8 (.frame flag) (.number .u8 0))
    changeMaking fun m => { m with temporaries := { code, flag := some flag } :: m.temporaries }
    return .store .u8 (.frame flag) (.number .u8 1)

/-- A value with an address: one without gets a place. -/
def materialized (g : Grammar) (v : Value) : Compile Value := do
  if v.category ≠ .fresh && v.bits.isNone then return v
  let v ← if v.bits.isSome then loaded v else pure v
  let place ← placeFor g v.type
  let address := Core.frame place
  match v.make with
  | some make =>
    let made := make address
    let after ← addTemporary g v.type address
    return { type := v.type, category := .passing, code := .first made (Core.andThen after address) }
  | none =>
    let s ← scalar v.type
    return { type := v.type, category := .passing, code := .first (.store s address v.code) address }

/-- The address of an object, for a place that is used once. -/
def addressOf (g : Grammar) (v : Value) : Compile Core := return (← materialized g v).code

/-- The code that lets the temporaries go. -/
def temporariesCode (cs : List Cleanup) : Compile (List Step) := do
  let steps ← cs.mapM fun c => do
    match c.flag with
    | none => return [Step.value c.code]
    | some flag =>
      let skip ← newLabel
      return [Step.unless (.load .u8 (.frame flag)) skip, .value c.code, .label skip]
  return steps.flatten

/-- Reads an expression that stands for itself: the objects that come up in it go at its end. -/
def fullExpression (m : Compile α) : Compile (α × List Cleanup) := do
  let before := (← get).making.temporaries
  let conditional := (← get).making.conditional
  changeMaking fun s => { s with temporaries := [], conditional := false }
  let a ← m
  let own := (← get).making.temporaries
  changeMaking fun s => { s with temporaries := before, conditional }
  return (a, own)

/-- Reads something that may be left out when the program runs. -/
def conditionally (m : Compile α) : Compile α := do
  let before := (← get).making.conditional
  changeMaking fun s => { s with conditional := true }
  let a ← m
  changeMaking fun s => { s with conditional := before }
  return a

/-- Writes down a computation and lets its temporaries go. -/
def emitFull (m : Compile Core) : Compile Unit := do
  let (code, cleanups) ← fullExpression m
  emitValue code
  for step in ← temporariesCode cleanups do emit step

/-- A number that stays while the temporaries of its expression go. -/
def numberFull (s : Scalar) (m : Compile Core) : Compile Core := do
  let (code, cleanups) ← fullExpression m
  if cleanups.isEmpty then return code
  let place ← newPlace 8 8
  emitValue (.store s (.frame place) code)
  for step in ← temporariesCode cleanups do emit step
  return .load s (.frame place)

/-! ## Conditions -/

/-- A number as 1 or 0. -/
def truthOf (v : Value) : Compile Core := do
  let v ← loaded v
  match v.constant with
  | some n => return .number .i32 (if n = 0 then 0 else 1)
  | none =>
    let s ← scalar v.type
    match v.code with
    | .binary op t a b => if op.compares then return .binary op t a b
    | _ => pure ()
    if v.type.plain == .bool then return .convert .u8 .i32 v.code
    if s.isReal then return .binary .ne s v.code (.real s 0)
    match v.type.plain with
    | .member _ t => return .binary .ne .i64 v.code (.number .i64 (if t.isFunction then 0 else -1))
    | _ =>
      if s.size < 4 then return .binary .ne .i32 (.convert s .i32 v.code) (.number .i32 0)
      return .binary .ne s v.code (.number s 0)

end Compile
end ModuleForge.Host.Native
