import ModuleForge.Host.Native.Lambda

/-!
# Functions of the compiler

Functions that are not called but known: those on the bits of numbers, those that reach the
arguments of a function that takes any number of them, and the questions about types.
-/
namespace ModuleForge.Host.Native.Compile

/-- The arguments of a call up to the closing parenthesis, each by its own tokens. -/
def slices : Compile (List (List Lexeme)) := do
  let inner ← takeInside
  let angles ← isCpp
  return if inner.isEmpty then [] else splitCommas angles (inner.length + 1) inner

/-! ## Questions about types -/

/-- The types in parentheses. -/
def typeArguments (g : Grammar) : Compile (List Ty) := do
  expectSign "("
  let found ← (← slices).mapM fun ts => do
    match ts.getLast? with
    | some last =>
      if last.isSign "..." then forPack g ts.dropLast (reading ts.dropLast g.typeName)
      else return [← reading ts g.typeName]
    | none => fail "expected a type"
  return found.flatten

/-- A value of a type that is only asked about. -/
def imagined (t : Ty) : Operand := .value (match t with
  | .reference u passing => { type := u, category := if passing then .passing else .place, code := .nothing }
  | t => { type := t, category := .passing, code := .nothing })

/-- Whether an object can be made of values. -/
def canConstruct (g : Grammar) (t : Ty) (values : List Ty) : Compile Bool := do
  match t with
  | .void => return false
  | .reference .. => match values with
    | [v] => return (← distance g (imagined v) t true).isSome
    | _ => return false
  | t =>
    match t.plain, values with
    | .array e _, [] => return (← probe (construct g e (.long 0) byValues [])).isSome
    | .record _, vs => return (← probe (typesOnly (construct g t.plain (.long 0) byValues (vs.map imagined)))).isSome
    | _, [] => return true
    | _, [v] => return (← distance g (imagined v) t.plain true).isSome
    | _, _ => return false

def questions : List String :=
  ["__is_same", "__is_same_as", "__is_base_of", "__is_class", "__is_union", "__is_enum", "__is_empty", "__is_polymorphic",
   "__is_abstract", "__is_final", "__is_aggregate", "__is_trivially_copyable", "__is_trivial",
   "__is_standard_layout", "__is_pod", "__is_constructible", "__is_assignable", "__is_convertible",
   "__is_trivially_constructible", "__is_trivially_assignable", "__has_trivial_destructor",
   "__has_virtual_destructor", "__is_literal_type", "__is_nothrow_constructible", "__is_destructible",
   "__is_nothrow_assignable", "__has_trivial_copy", "__has_trivial_constructor", "__has_trivial_assign",
   "__is_scoped_enum"]

def question (g : Grammar) (name : String) (ts : List Ty) : Compile Bool := do
  let record? (t : Ty) : Compile (Option Record) := do
    match t.record? with
    | some id =>
      g.complete id
      return some (← getRecord id)
    | none => return none
  match name, ts with
  | "__is_same", [a, b] | "__is_same_as", [a, b] => return a == b
  | "__is_base_of", [a, b] =>
    match a.record?, b.record? with
    | some c, some d => derives g d c
    | _, _ => return false
  | "__is_class", [t] => return (← record? t).any (·.tag ≠ .union_)
  | "__is_union", [t] => return (← record? t).any (·.tag = .union_)
  | "__is_enum", [t] => return t.isEnum
  | "__is_scoped_enum", [t] => match t.plain with
    | .enum id => return (← getEnum id).isScoped
    | _ => return false
  | "__is_empty", [t] => return (← record? t).any fun r => r.used = 0
  | "__is_polymorphic", [t] => return (← record? t).any (·.hasTable)
  | "__is_abstract", [t] =>
    match ← record? t with
    | some r => r.virtuals.toList.anyM fun f => do return (← getFunction f).given = .pure
    | none => return false
  | "__is_final", [t] => return (← record? t).any (·.isFinal)
  | "__is_aggregate", [t] => return t.isArray || (← record? t).any (·.isAggregate)
  | "__is_trivially_copyable", [t] =>
    return (← isTrivial g .copy t) && (← isTrivial g .destroy t) && !t.isReference && !t.isVoid
  | "__is_trivial", [t] | "__is_pod", [t] =>
    return (← isTrivial g .create t) && (← isTrivial g .copy t) && (← isTrivial g .destroy t) && !t.isReference
  | "__is_standard_layout", [t] => return !(← record? t).any (·.hasTable)
  | "__is_literal_type", [t] => isTrivial g .destroy t
  | "__has_trivial_destructor", [t] => isTrivial g .destroy t
  | "__has_trivial_copy", [t] => isTrivial g .copy t
  | "__has_trivial_constructor", [t] => isTrivial g .create t
  | "__has_trivial_assign", [t] => isTrivial g .assignCopy t
  | "__has_virtual_destructor", [t] =>
    match ← record? t with
    | some r => match r.destructor with
      | some f => return (← getFunction f).isVirtual
      | none => return false
    | none => return false
  | "__is_destructible", [t] => return !(← isDeletedFor g .destroy t) && !t.isVoid
  | "__is_constructible", t :: vs => canConstruct g t vs
  | "__is_nothrow_constructible", t :: vs =>
    if !(← canConstruct g t vs) then return false
    match t.record?, vs with
    | some id, [v] =>
      let what : Special := if v.isReference && !v.referred.isConst && (match v with
        | .reference _ p => p
        | _ => false) then .move else .copy
      let own : List (Special × Nat) ← specials id
      let fs : List Function ← (own.filter (·.1 = what)).mapM fun (_, f) => getFunction f
      return fs.all fun f => f.traits.neverThrows || f.given = .byDefault
    | some _, _ => return true
    | none, _ => return true
  | "__is_nothrow_assignable", [_, _] => return true
  | "__is_trivially_constructible", t :: vs =>
    match vs with
    | [] => isTrivial g .create t
    | _ => isTrivial g .copy t
  | "__is_trivially_assignable", [a, _] => isTrivial g .assignCopy a.referred
  | "__is_assignable", [a, b] =>
    let found ← probe (typesOnly (match imagined a with
      | .value v => assign g v (imagined b)
      | o => return o))
    return found.isSome
  | "__is_convertible", [a, b] =>
    if a.isVoid || b.isVoid then return a.isVoid && b.isVoid
    if b.isFunction || b.isArray then return false
    return (← distance g (imagined a) b true).isSome
  | _, _ => fail ("wrong arguments to " ++ name)

/-! ## Arguments without names -/

/-- Where the next argument without a name is kept. -/
def nextArgument (g : Grammar) (list : Value) (t : Ty) : Compile Value := do
  let list ← loaded list
  let (before, p) ← simple list.code
  let place ← newPlace 8 8
  let isReal := t.isReal
  let (offsetAt, limit, step) : Nat × Nat × Nat := if isReal then (4, 176, 16) else (0, 48, 8)
  let offset := Core.load .u32 (p.offset offsetAt)
  let memory := Core.load .u64 (p.offset 8)
  let inRegister := Core.first
    (.store .u64 (.frame place) (.binary .add .u64 (.load .u64 (p.offset 16)) (.convert .u32 .u64 offset)))
    (.store .u32 (p.offset offsetAt) (.binary .add .u32 offset (.number .u32 step)))
  let inMemory := Core.first (.store .u64 (.frame place) memory)
    (.store .u64 (p.offset 8) (.binary .add .u64 memory (.long 8)))
  let choose := Core.choose (.binary .lt .u32 offset (.number .u32 limit)) inRegister inMemory
  let address := Core.load .u64 (.frame place)
  let address := if t.isRecord then Core.load .u64 address else address
  let _ := g
  return .place t (.first before (.first choose address))

/-- Sets up a list of arguments without names. -/
def startArguments (list : Value) : Compile Value := do
  let list ← loaded list
  let m := (← get).making
  match m.restPlace with
  | none => fail "'va_start' used in function with fixed arguments"
  | some place =>
    let (before, p) ← simple list.code
    let steps := [before, .store .u32 p (.number .u32 (8 * m.wholesNamed)),
      .store .u32 (p.offset 4) (.number .u32 (48 + 16 * m.realsNamed)),
      .store .u64 (p.offset 8) (Core.framePointer.offset (16 + 8 * m.memoryNamed)),
      .store .u64 (p.offset 16) (.frame place)]
    return .void (steps.foldl Core.andThen .nothing)

/-! ## Numbers -/

/-- Functions on the bits of a number: the operator, the type it works on, and the result. -/
def bitFunctions : List (String × Unary × NumberKind × NumberKind) :=
  [("popcount", .ones, .uint, .int), ("popcountl", .ones, .ulong, .int), ("popcountll", .ones, .ulong, .int),
   ("clz", .leading, .uint, .int), ("clzl", .leading, .ulong, .int), ("clzll", .leading, .ulong, .int),
   ("ctz", .trailing, .uint, .int), ("ctzl", .trailing, .ulong, .int), ("ctzll", .trailing, .ulong, .int),
   ("bswap16", .swap, .ushort, .ushort), ("bswap32", .swap, .uint, .uint), ("bswap64", .swap, .ulong, .ulong),
   ("sqrt", .root, .double, .double), ("sqrtf", .root, .float, .float), ("fabs", .absolute, .double, .double),
   ("fabsf", .absolute, .float, .float)]

/-- A function on the bits of a number. -/
def bitFunction (g : Grammar) (op : Unary) (source target : NumberKind) (o : Operand) : Compile Value := do
  let v ← convert g o (.number source) false
  let s ← scalar (.number source)
  let t ← scalar (.number target)
  match v.constant with
  | some n => return .ofInt (.number target) t (op.apply s n)
  | none =>
    let code := Core.unary op s v.code
    let isCount := op = .ones || op = .leading || op = .trailing
    return { type := .number target, code := if isCount && s ≠ t then .convert s t code else code }

/-- Arithmetic that tells whether its result fits: the exact result is stored as far as it goes. -/
def overflowing (g : Grammar) (op : Operator) (a b target : Operand) : Compile Value := do
  let p ← loaded (← single target)
  match p.type.pointed? with
  | none => fail "third argument must be a pointer to an integer"
  | some t =>
    match t.kind? with
    | none => fail "third argument must be a pointer to an integer"
    | some k =>
      let s ← scalar t
      let x ← convert g a (.number k) false
      let y ← convert g b (.number k) false
      let px ← newPlace 8 8
      let py ← newPlace 8 8
      let r ← newPlace 8 8
      let cx := Core.load s (.frame px)
      let cy := Core.load s (.frame py)
      let cr := Core.load s (.frame r)
      let setUp := Core.first (.store s (.frame px) x.code) (.first (.store s (.frame py) y.code)
        (.first (.store s (.frame r) (.binary op s cx cy)) (.store s p.code cr)))
      let zero := Core.number s 0
      let flag (c : Core) : Core := c
      let check : Core :=
        if k.size < 8 then
          let wide : Scalar := if k.isSigned then .i64 else .u64
          .binary .ne wide (.binary op wide (.convert s wide cx) (.convert s wide cy)) (.convert s wide cr)
        else match op with
          | .add => if k.isSigned then
              .binary .lt s (.binary .and s (.binary .xor s cx cr) (.binary .xor s cy cr)) zero
            else .binary .lt s cr cx
          | .sub => if k.isSigned then
              .binary .lt s (.binary .and s (.binary .xor s cx cy) (.binary .xor s cx cr)) zero
            else .binary .lt s cx cy
          | _ =>
            -- the product divided by one factor is the other one
            .choose (.binary .eq s cx zero) (.number .i32 0)
              (.choose (.binary .and .i32 (.binary .eq s cx (.number s (-1))) (.number .i32 (if k.isSigned then 1 else 0)))
                (.binary .and .i32 (.binary .lt s cy zero) (.binary .eq s cr cy))
                (.binary .ne s (.binary .div s cr cx) cy))
      let t : Ty := if ← isCpp then .bool else .int
      return { type := t, code := .first setUp (if t == .bool then .convert .i32 .u8 (flag check) else flag check) }

/-! ## Memory that others see -/

/-- Operators behind the names of functions that change memory in one go. -/
def memoryOperators : List (String × Operator) :=
  [("add", .add), ("sub", .sub), ("and", .and), ("or", .or), ("xor", .xor)]

/-- Changes a place by an operator; the value is the old or the new one. -/
def changed (g : Grammar) (op : Operator) (old : Bool) (p v : Operand) : Compile Value := do
  let p ← loaded (← single p)
  match p.type.pointed? with
  | none => fail "argument must be a pointer"
  | some t =>
    let s ← scalar t
    let v ← convert g v (if t.isPointer then .long else t.plain) false
    let (before, address) ← simple p.code
    let was ← newPlace 8 8
    let now ← newPlace 8 8
    let code := Core.first (.store s (.frame was) (.load s address))
      (.first (.store s (.frame now) (.binary op s (.load s (.frame was)) v.code)) (.store s address (.load s (.frame now))))
    return { type := t.plain, code := Core.andThen before (.first code (.load s (.frame (if old then was else now)))) }

/-- Functions that read and write memory in one go, by the part of the name that tells what they
do. -/
def memoryFunction? (g : Grammar) (name : String) (values : List Operand) : Compile (Option Value) := do
  let fetch (what : String) : Option (Operator × Bool) :=
    memoryOperators.findSome? fun (n, op) =>
      if what == "fetch_" ++ n || what == "fetch_and_" ++ n then some (op, true)
      else if what == n ++ "_fetch" || what == n ++ "_and_fetch" then some (op, false)
      else none
  let what := if name.startsWith "__atomic_" then String.ofList (name.toList.drop 9)
    else if name.startsWith "__sync_" then String.ofList (name.toList.drop 7) else ""
  match fetch what, values with
  | some (op, old), p :: v :: _ => return some (← changed g op old p v)
  | _, _ =>
    match what, values with
    | "load_n", p :: _ =>
      let v ← single (← pointee g p)
      let v ← loaded v
      return some { v with type := v.type.plain }
    | "store_n", p :: v :: _ => return some (.void (← single (← assign g (← single (← pointee g p)) v)).code)
    | "exchange_n", p :: v :: _ | "lock_test_and_set", p :: v :: _ =>
      let target ← single (← pointee g p)
      let (before, address) ← simple target.code
      let s ← scalar target.type
      let v ← convert g v target.type.plain false
      let was ← newPlace 8 8
      return some { type := target.type.plain
                    code := Core.andThen before (.first (.store s (.frame was) (.load s address))
                      (.first (.store s address v.code) (.load s (.frame was)))) }
    | "compare_exchange_n", p :: e :: d :: _ =>
      let target ← single (← pointee g p)
      let expected ← single (← pointee g e)
      let s ← scalar target.type
      let (b1, a1) ← simple target.code
      let (b2, a2) ← simple expected.code
      let d ← convert g d target.type.plain false
      let v ← newPlace 8 8
      let code := Core.choose (.binary .eq s (.load s a1) (.load s a2))
        (.first (.store s a1 (.load s (.frame v))) (.number .i32 1))
        (.first (.store s a2 (.load s a1)) (.number .i32 0))
      return some (.bool (Core.andThen b1 (Core.andThen b2 (.first (.store s (.frame v) d.code) (.convert .i32 .u8 code)))))
    | "bool_compare_and_swap", p :: e :: d :: _ | "val_compare_and_swap", p :: e :: d :: _ =>
      let target ← single (← pointee g p)
      let s ← scalar target.type
      let (b1, a1) ← simple target.code
      let e ← convert g e target.type.plain false
      let d ← convert g d target.type.plain false
      let was ← newPlace 8 8
      let isSame := Core.binary .eq s (.load s (.frame was)) e.code
      let code := Core.first (.store s (.frame was) (.load s a1))
        (.choose isSame (.first (.store s a1 d.code) (.number .i32 1)) (.number .i32 0))
      if what == "bool_compare_and_swap" then
        return some (.bool (Core.andThen b1 (.convert .i32 .u8 code)))
      else return some { type := target.type.plain, code := Core.andThen b1 (.first code (.load s (.frame was))) }
    | "test_and_set", p :: _ =>
      let target ← single (← pointee g (.value { (← loaded (← single p)) with type := .pointer (.number .uchar) }))
      let (b1, a1) ← simple target.code
      let was ← newPlace 8 8
      return some (.bool (Core.andThen b1 (.first (.store .u8 (.frame was) (.load .u8 a1))
        (.first (.store .u8 a1 (.number .u8 1)) (.load .u8 (.frame was))))))
    | "clear", p :: _ =>
      let v ← loaded (← single p)
      return some (.void (.store .u8 v.code (.number .u8 0)))
    | "synchronize", _ | "thread_fence", _ | "signal_fence", _ => return some (.void .nothing)
    | "lock_release", p :: _ =>
      let target ← single (← pointee g p)
      return some (.void (.store (← scalar target.type) target.code (.number (← scalar target.type) 0)))
    | _, _ => return none

/-- A number with a fraction of a type. -/
def realOf (k : NumberKind) (x : Float) : Compile Value := do
  let s ← scalar (.number k)
  return { type := .number k, code := .real s (s.ofFloat x).toNat.toUInt64 }

/-- A function of the compiler with values, if it is one. -/
def builtinCall? (g : Grammar) (name : String) (values : List Operand) : Compile (Option Operand) := do
  if let some v ← memoryFunction? g name values then return some (.value v)
  if !name.startsWith "__builtin_" then return none
  let short := String.ofList (name.toList.drop 10)
  let value (m : Compile Value) : Compile (Option Operand) := do return some (.value (← m))
  match bitFunctions.find? (·.1 == short), values with
  | some (_, op, source, target), [o] => value (bitFunction g op source target o)
  | _, _ =>
    match short, values with
    | "expect", [a, b] => do
      let _ := b
      value (convert g a .long false)
    | "expect_with_probability", a :: _ => value (convert g a .long false)
    | "unreachable", [] =>
      changeMaking fun m => { m with reached := m.reached && m.conditional }
      return some (.value (.void .nothing))
    | "trap", [] => value (do return .void (.call (.symbol "abort") [] .i32 false))
    | "constant_p", [o] =>
      let known ← attempt (typesOnly (constantOf g o))
      return some (.value (.int (if known.isSome then 1 else 0)))
    | "is_constant_evaluated", [] => return some (.value (.ofInt .bool .u8 0))
    | "assume_aligned", p :: _ | "launder", p :: _ => return some p
    | "prefetch", _ => return some (.value (.void .nothing))
    | "object_size", _ => return some (.value (.ofInt .ulong .u64 (-1)))
    | "addressof", [o] =>
      let v ← single o
      return some (.value { type := .pointer v.type, code := v.code })
    | "huge_val", [] | "inf", [] => value (realOf .double (1.0 / 0.0))
    | "huge_valf", [] | "inff", [] => value (realOf .float (1.0 / 0.0))
    | "nan", [_] => value (realOf .double (0.0 / 0.0))
    | "nanf", [_] => value (realOf .float (0.0 / 0.0))
    | "isnan", [o] =>
      let v ← convert g o (.number .double) false
      let place ← newPlace 8 8
      let x := Core.load .f64 (.frame place)
      return some (.value { type := .int, code := .first (.store .f64 (.frame place) v.code) (.binary .ne .f64 x x) })
    | "isinf", [o] | "isinf_sign", [o] =>
      let v ← convert g o (.number .double) false
      return some (.value { type := .int, code := .binary .eq .f64 (.unary .absolute .f64 v.code) (.real .f64 0x7FF0000000000000) })
    | "isfinite", [o] =>
      let v ← convert g o (.number .double) false
      return some (.value { type := .int, code := .binary .lt .f64 (.unary .absolute .f64 v.code) (.real .f64 0x7FF0000000000000) })
    | "signbit", [o] =>
      let v ← convert g o (.number .double) false
      let place ← newPlace 8 8
      let isBelow := Core.binary .lt .i64 (.load .i64 (.frame place)) (.number .i64 0)
      return some (.value { type := .int, code := .first (.store .f64 (.frame place) v.code) isBelow })
    | "ffs", [o] | "ffsl", [o] | "ffsll", [o] =>
      let k : NumberKind := if short == "ffs" then .uint else .ulong
      let v ← convert g o (.number k) false
      let s ← scalar (.number k)
      let (before, x) ← do
        let place ← newPlace 8 8
        pure (Core.store s (.frame place) v.code, Core.load s (.frame place))
      let n := Core.binary .add .i32 (.convert s .i32 (.unary .trailing s x)) (.number .i32 1)
      return some (.value { type := .int, code := .first before (.choose (.binary .ne s x (.number s 0)) n (.number .i32 0)) })
    | "parity", [o] | "parityl", [o] | "parityll", [o] =>
      let v ← convert g o .ulong false
      let v := if short == "parity" then Core.binary .and .u64 v.code (.number .u64 0xFFFFFFFF) else v.code
      return some (.value { type := .int, code := .convert .u64 .i32 (.binary .and .u64 (.unary .ones .u64 v) (.long 1)) })
    | "alloca", [o] =>
      let v ← convert g o .ulong false
      return some (.value { type := .pointer .void, code := .reserve v.code })
    | "add_overflow", [a, b, r] => value (overflowing g .add a b r)
    | "sub_overflow", [a, b, r] => value (overflowing g .sub a b r)
    | "mul_overflow", [a, b, r] => value (overflowing g .mul a b r)
    | "va_start", l :: _ => do value (startArguments (← single l))
    | "va_end", [_] => return some (.value (.void .nothing))
    | "va_copy", [a, b] =>
      let a ← loaded (← single a)
      let b ← loaded (← single b)
      return some (.value (.void (.copy a.code b.code 24)))
    | "leap", [f, a] =>
      let f ← loaded (← single f)
      let a ← loaded (← single a)
      return some (.value (.void (.steps [.leap f.code a.code] .nothing)))
    | "frame_address", [_] => return some (.value { type := .pointer .void, code := .framePointer })
    | "return_address", [_] => return some (.value { type := .pointer .void, code := .load .u64 (Core.framePointer.offset 8) })
    | _, _ => return none

end ModuleForge.Host.Native.Compile
