import ModuleForge.Host.Native.Initialize

/-!
# Operators

What operators do: with numbers and pointers they are built in, with objects of classes they are
functions with names of their own. Members of objects and casts belong here, too.
-/
namespace ModuleForge.Host.Native.Compile

/-! ## Finding functions for operators -/

/-- The innermost namespace around a scope. -/
def namespaceAround : Nat → Nat → Compile Nat
  | 0, id => return id
  | fuel + 1, id => do
    let s ← scope id
    match s.kind, s.parent with
    | .namespace_ .., _ => return id
    | _, some p => namespaceAround fuel p
    | _, none => return id

/-- The namespaces that a type belongs to. -/
def namespacesOf : Nat → Ty → Compile (List Nat)
  | 0, _ => return []
  | fuel + 1, t => do
    match t with
    | .const t | .pointer t | .reference t _ | .array t _ | .openArray t => namespacesOf fuel t
    | .enum id => return [← namespaceAround scopeDepth (← getEnum id).parent]
    | .record id =>
      let r ← getRecord id
      let own ← namespaceAround scopeDepth r.parent
      let inherited ← r.bases.toList.mapM fun b => namespacesOf fuel (.record b.record)
      let fromArguments ← match r.template with
        | some (_, as) => as.mapM fun
          | .type t => namespacesOf fuel t
          | .pack items => do
            let found ← items.mapM fun
              | .type t => namespacesOf fuel t
              | _ => return []
            return found.flatten
          | _ => return []
        | none => pure []
      return own :: (inherited.flatten ++ fromArguments.flatten)
    | _ => return []

/-- The functions and templates among bindings. -/
def functionsOf (bs : List Binding) : List Nat × List Nat :=
  (bs.filterMap fun | .function f => some f | _ => none, bs.filterMap fun | .template t => some t | _ => none)

/-- The functions and templates with a name in the namespaces that belong to values. -/
def associated (name : String) (values : List Operand) : Compile (List Nat × List Nat) := do
  let spaces ← values.mapM fun
    | .value v => namespacesOf 8 v.type
    | _ => return []
  let found ← spaces.flatten.eraseDups.mapM fun id => inNamespace 8 id name
  let (fs, ts) := functionsOf found.flatten
  let ts ← ts.filterM fun t => do return (← getTemplate t).kind = .function
  return (fs, ts)

def isClassOrEnum (o : Operand) : Bool := match o with
  | .value v => v.type.isRecord || v.type.isEnum
  | _ => false

/-- What an operator means for objects of classes, if there is a function for it. -/
def overloaded? (g : Grammar) (name : String) (values : List Operand) (onlyMember : Bool) :
    Compile (Option Operand) := do
  if !(← isCpp) || !(values.any isClassOrEnum) then return none
  let members ← match values with
    | .value v :: _ => match v.type.record? with
      | some id =>
        g.complete id
        pure (functionsOf (← inRecord g scopeDepth id name))
      | none => pure ([], [])
    | _ => pure ([], [])
  let free ← if onlyMember then pure ([], []) else do
    let (fs, ts) := functionsOf (← lookup g name)
    let fs ← fs.filterM fun f => do return (← getFunction f).owner.isNone
    let ts ← ts.filterM fun t => do return (← getTemplate t).owner.isNone
    let (gs, us) ← associated name values
    pure ((fs ++ gs).eraseDups, (ts ++ us).eraseDups)
  if members.1.isEmpty && members.2.isEmpty && free.1.isEmpty && free.2.isEmpty then return none
  let object := match values with
    | .value v :: _ => some v
    | _ => none
  let asMember ← attempt (select g members.1 members.2 none object (values.drop 1) true)
  let asFree ← attempt (select g free.1 free.2 none none values true)
  match asMember, asFree with
  | none, none => fail ("ambiguous overload for '" ++ name ++ "'")
  | some (some m), some (some f) =>
    -- the nearer one counts
    let c ← candidate? g m none object (values.drop 1) true
    let d ← candidate? g f none none values true
    match c, d with
    | some c, some d =>
      let dm := if (← getFunction m).isStatic then [0, 0, 0] :: c.distances else c.distances
      if nearer d.distances dm false then return some (.value (← callOne g f none values))
      else return some (.value (← callOne g m object (values.drop 1)))
    | _, _ => return some (.value (← callOne g m object (values.drop 1)))
  | some (some m), _ => return some (.value (← callOne g m object (values.drop 1)))
  | _, some (some f) => return some (.value (← callOne g f none values))
  | _, _ => return none

/-! ## Numbers -/

/-- A value as a number for arithmetic; the value of an object is found by its class. -/
def arithmeticOperand (g : Grammar) (v : Value) : Compile Value := do
  if v.type.isRecord then
    -- the one conversion to a number or a pointer
    if let some f ← invoker? g v.type then
      use f
      let f ← getFunction f
      return { type := .pointer (.function f.result (f.parameters.map (·.type.plain)) f.traits), code := .symbol f.symbol }
    match v.type.record? with
    | some id =>
      let fs ← conversionsOf g 16 id
      let scalars ← fs.filterM fun f => do
        let f ← getFunction f
        return f.result.referred.isScalar && (!f.isExplicit)
      match scalars with
      | f :: _ => loaded (← callConversion g f v)
      | [] => fail "no match for operator"
    | none => return v
  else
    let v ← loaded v
    match v.type.plain with
    | .enum id =>
      let e ← getEnum id
      if e.isScoped then return v
      asNumber g v (.number e.underlying.promoted)
    | .number .bool => return v
    | .void => fail "invalid use of void expression"
    | _ => return v

/-- Two numbers in their common type. -/
def balanced (g : Grammar) (a b : Value) : Compile (Value × Value × NumberKind) := do
  match a.type.kind?, b.type.kind? with
  | some x, some y =>
    let k := NumberKind.common x y
    return (← asNumber g a (.number k), ← asNumber g b (.number k), k)
  | _, _ => fail "invalid operands to binary operator"

/-- Whether a computation can have been written as a constant of a number with a fraction. -/
def realConstant? (c : Core) : Option (Scalar × UInt64) := match c with
  | .real s bits => some (s, bits)
  | _ => none

/-- An operator on two numbers of one type. -/
def onNumbers (op : Operator) (k : NumberKind) (a b : Value) : Compile Value := do
  let s ← scalar (.number k)
  let truth : Ty ← if ← isCpp then pure .bool else pure .int
  let result : Ty := if op.compares then truth else .number k
  let make (c : Core) : Core := if op.compares then
      match result with
      | .number .bool => .convert .i32 .u8 c
      | _ => c
    else c
  match a.constant, b.constant with
  | some x, some y =>
    match op.apply s x y with
    | some z =>
      let r ← scalar result
      return { Value.ofInt result r z with isLiteral := false }
    | none => return { type := result, code := make (.binary op s a.code b.code) }
  | _, _ =>
    if k.isReal then
      if !([Operator.add, .sub, .mul, .div].contains op) && !op.compares then
        fail "invalid operands to binary operator"
      match realConstant? a.code, realConstant? b.code with
      | some (_, x), some (_, y) =>
        match op.arithmetic (s.toFloat x.toNat) (s.toFloat y.toNat) with
        | some z => return { type := result, code := .real s (s.ofFloat z).toNat.toUInt64 }
        | none => return { type := result, code := make (.binary op s a.code b.code) }
      | _, _ => return { type := result, code := make (.binary op s a.code b.code) }
    else return { type := result, code := make (.binary op s a.code b.code) }

/-- An operator of which one operand is a pointer. -/
def onPointers (g : Grammar) (op : Operator) (a b : Value) : Compile Value := do
  let cmp (x y : Core) : Compile Value := do
    let c := Core.binary op .u64 x y
    if ← isCpp then return .bool (.convert .i32 .u8 c) else return { type := .int, code := c }
  let elementSize (t : Ty) : Compile Nat := do
    match t with
    | .void | .const .void => if ← isCpp then fail "pointer of type void used in arithmetic" else return 1
    | .function .. => return 1
    | t => sizeOf g t
  match a.type.pointed?, b.type.pointed? with
  | some x, some y =>
    if op.compares then
      let related ← do
        let forward ← pointerDistance g true x y
        let back ← pointerDistance g true y x
        pure (forward.isSome || back.isSome || x.plain == y.plain)
      if !related then
        if ← isCpp then fail "comparison between distinct pointer types"
        else warn "compare-distinct-pointer-types"
      -- pointers to a class and a base of it meet at the base
      match x.record?, y.record? with
      | some c, some d =>
        if c ≠ d then
          if ← derives g c d then
            let a ← asNumber g a b.type
            cmp a.code b.code
          else
            let b ← asNumber g b a.type
            cmp a.code b.code
        else cmp a.code b.code
      | _, _ => cmp a.code b.code
    else if op = .sub then
      if !(x.plain == y.plain) && (← isCpp) then fail "invalid operands to binary operator-"
      let size ← elementSize x
      return { type := .long, code := .binary .div .i64 (.binary .sub .i64 a.code b.code) (.number .i64 (max size 1)) }
    else fail "invalid operands to binary operator"
  | some x, none =>
    if op.compares then
      if isNullConstant b || b.type.plain == .null then cmp a.code (.long 0)
      else if !(← isCpp) && b.type.isInteger then
        warn "int-conversion"
        let b ← asNumber g b .ulong
        cmp a.code b.code
      else fail "comparison between pointer and integer"
    else
      if !b.type.isInteger || !(op = .add || op = .sub) then fail "invalid operands to binary operator"
      let n ← asNumber g b .long
      let size ← elementSize x
      let step := match n.constant with
        | some k => Core.number .u64 (k * size)
        | none => if size = 1 then n.code else .binary .mul .u64 n.code (.long size)
      return { type := a.type.plain, code := .binary op .u64 a.code step }
  | none, some y =>
    if op.compares then
      if isNullConstant a || a.type.plain == .null then cmp (.long 0) b.code
      else if !(← isCpp) && a.type.isInteger then
        warn "int-conversion"
        let a ← asNumber g a .ulong
        cmp a.code b.code
      else fail "comparison between pointer and integer"
    else
      if !a.type.isInteger || op ≠ .add then fail "invalid operands to binary operator"
      let n ← asNumber g a .long
      let size ← elementSize y
      return { type := b.type.plain, code := .binary .add .u64 (.binary .mul .u64 n.code (.long size)) b.code }
  | none, none => fail "invalid operands to binary operator"

/-- A built-in operator. -/
def builtIn (g : Grammar) (op : Operator) (x y : Value) : Compile Value := do
  let a ← arithmeticOperand g x
  let b ← arithmeticOperand g y
  match a.type.plain, b.type.plain with
  | .number j, .number k =>
    if op = .shl || op = .shr then
      if j.isReal || k.isReal then fail "invalid operands to binary operator"
      let left ← asNumber g a (.number j.promoted)
      let right ← asNumber g b (.number k.promoted)
      let s ← scalar left.type
      let t ← scalar right.type
      match left.constant, right.constant with
      | some m, some n =>
        if 0 ≤ n && n < 8 * s.size then
          match op.apply s m n with
          | some z => return { Value.ofInt left.type s z with isLiteral := false }
          | none => pure ()
      | _, _ => pure ()
      let count := if t = s then right.code else Core.convert t s right.code
      return { type := left.type, code := .binary op s left.code count }
    let isSigned (k : NumberKind) : Bool := k.promoted.isSigned
    if op.compares && !j.isReal && !k.isReal then
      let common := NumberKind.common j k
      if !common.isSigned && ((isSigned j && !(a.constant.any (0 ≤ ·))) || (isSigned k && !(b.constant.any (0 ≤ ·)))) then
        warn "sign-compare"
    let (a, b, common) ← balanced g a b
    if (op = .rem || op = .and || op = .or || op = .xor) && common.isReal then
      fail "invalid operands to binary operator"
    if (op = .div || op = .rem) && b.constant == some 0 && b.isLiteral then warn "div-by-zero"
    onNumbers op common a b
  | .enum i, .enum j =>
    if i = j && op.compares then
      let s ← scalar a.type
      let c := Core.binary op s a.code b.code
      match a.constant, b.constant with
      | some m, some n => match op.apply s m n with
        | some z => return { Value.ofInt .bool .u8 z with isLiteral := false }
        | none => return .bool (.convert .i32 .u8 c)
      | _, _ => return .bool (.convert .i32 .u8 c)
    else fail "no match for operator"
  | .enum _, _ | _, .enum _ => fail "no match for operator"
  | .null, .null =>
    if op = .eq then return .ofInt .bool .u8 1
    else if op = .ne then return .ofInt .bool .u8 0
    else fail "invalid operands"
  | .member .., _ | _, .member .. =>
    if op = .eq || op = .ne then
      let t := match a.type.plain with
        | .member .. => a.type
        | _ => b.type
      let a ← convert g (.value a) t false
      let b ← convert g (.value b) t false
      return .bool (.convert .i32 .u8 (.binary op .i64 a.code b.code))
    else fail "invalid operands to binary operator"
  | _, _ => onPointers g op a b

/-- An operator between two operands. -/
def binary (g : Grammar) (sign : String) (a b : Operand) : Compile Operand := do
  match ← overloaded? g ("operator" ++ sign) [a, b] false with
  | some o => return o
  | none =>
    -- without a function of its own, inequality is the opposite of equality
    let opposite ← if sign == "!=" && 2020 ≤ (← get).reading.standard then
        overloaded? g "operator==" [a, b] false
      else pure none
    match opposite with
    | some (.value v) =>
      let truth ← truthOf v
      return .value (.bool (.convert .i32 .u8 (.binary .eq .i32 truth (.number .i32 0))))
    | _ =>
    match Operator.ofSign? sign with
    | some op => return .value (← builtIn g op (← single a) (← single b))
    | none => fail ("operator" ++ sign ++ " is not understood")

/-! ## Places -/

/-- Refuses to write to what cannot be written to. -/
def checkWritable (v : Value) : Compile Unit := do
  if v.category = .fresh then fail "lvalue required as left operand of assignment"
  if v.category = .passing && !v.type.isRecord then fail "using rvalue as lvalue"
  if v.type.isConst then fail "assignment of read-only location"
  if v.type.isFunction then fail "assignment of function"
  if v.type.isArray then fail "assignment to expression with array type"

/-- Sets a place to a value. -/
def assign (g : Grammar) (a : Value) (b : Operand) : Compile Operand := do
  match a.type.record? with
  | some id =>
    if ← isCpp then
      g.complete id
      let (fs, ts) := functionsOf (← inRecord g scopeDepth id "operator=")
      let values := [b]
      match ← select g fs ts none (some a) values true with
      | none => fail "no match for 'operator='"
      | some f =>
        let trivial ← match ← special? f with
          | some .assignCopy => isTrivial g .assignCopy a.type
          | some .assignMove => isTrivial g .assignMove a.type
          | _ => pure false
        let f' ← getFunction f
        if trivial && f'.given = .byDefault && f'.owner == some id then
          if a.type.isConst then fail "assignment of read-only location"
          if let some owner := f'.owner then checkAccess g owner f'.access f'.name
          match f'.parameters with
          | p :: _ =>
            let v ← convert g b p.type false
            return .value (.place a.type (.copy (← addressOf g a) v.code (← getRecord id).size))
          | [] => return .value (← callOne g f (some a) values)
        else return .value (← callOne g f (some a) values)
    else
      checkWritable a
      let v ← convert g b a.type.plain false
      match v.make with
      | some make =>
        -- the new object is made before the place is touched
        let place ← placeFor g a.type
        let size ← sizeOf g a.type
        return .value (.place a.type (.copy a.code (.first (make (.frame place)) (.frame place)) size))
      | none => return .value (.place a.type (.copy a.code v.code (← sizeOf g a.type)))
  | none =>
    checkWritable a
    let v ← convert g b a.type.plain false
    let (before, address) ← simple a.code
    let code ← stored { a with code := address } v.code
    if ← isCpp then
      return .value { a with code := Core.andThen before (.first code address), constant := none, isLiteral := false }
    else return .value { type := a.type.plain, code := Core.andThen before code }

/-- Sets a place by way of an operator. -/
def assignBy (g : Grammar) (sign : String) (a : Operand) (b : Operand) : Compile Operand := do
  if sign == "" then
    let v ← single a
    if v.type.isEnum then
      return ← assign g v b
    return ← assign g v b
  match ← overloaded? g ("operator" ++ sign ++ "=") [a, b] false with
  | some o => return o
  | none =>
    let v ← single a
    checkWritable v
    match Operator.ofSign? sign with
    | none => fail "operator is not understood"
    | some op =>
      let (before, address) ← simple v.code
      let here := { v with code := address, constant := none, isLiteral := false }
      let r ← builtIn g op here (← single b)
      if v.type.isEnum && (← isCpp) then fail "invalid conversion"
      let r ← convert g (.value r) v.type.plain false
      let code ← stored here r.code
      if ← isCpp then return .value { here with code := Core.andThen before (.first code address) }
      else return .value { type := v.type.plain, code := Core.andThen before code }

/-- Counts a place up or down. -/
def count (g : Grammar) (up after : Bool) (a : Operand) : Compile Operand := do
  let name := if up then "operator++" else "operator--"
  let values := if after then [a, .value (.int 0)] else [a]
  match ← overloaded? g name values false with
  | some o => return o
  | none =>
    let v ← single a
    checkWritable v
    if v.type.plain == .bool && (← isCpp) then
      if 2017 ≤ (← get).reading.standard || !up then fail "use of an operand of type 'bool' in 'operator++' is forbidden"
    if v.type.isEnum && (← isCpp) then fail "no match for 'operator++'"
    let (before, address) ← simple v.code
    let here := { v with code := address, constant := none, isLiteral := false }
    let old ← loaded here
    let r ← builtIn g (if up then .add else .sub) here (.int 1)
    let r ← asNumber g r v.type.plain
    if !after then
      let code ← stored here r.code
      if ← isCpp then return .value { here with code := Core.andThen before (.first code address) }
      else return .value { type := v.type.plain, code := Core.andThen before code }
    else
      let s ← scalar v.type
      let place ← newPlace 8 8
      let kept := Core.load s (.frame place)
      let r ← builtIn g (if up then .add else .sub) { type := v.type.plain, code := kept } (.int 1)
      let r ← asNumber g r v.type.plain
      let code ← stored here r.code
      return .value { type := v.type.plain
                      code := Core.andThen before (.first (.store s (.frame place) old.code) (.first code kept)) }

/-! ## One operand -/

/-- What a pointer points to. -/
def pointee (g : Grammar) (o : Operand) : Compile Operand := do
  match ← overloaded? g "operator*" [o] false with
  | some o => return o
  | none =>
    let v ← single o
    let v ← if v.type.isRecord then arithmeticOperand g v else loaded v
    match v.type.plain with
    | .pointer t =>
      if t.isVoid then fail "'void*' is not a pointer-to-object type"
      return .value (.place t v.code)
    | _ => fail "invalid type argument of unary '*'"

/-- The address of a place. -/
def addressOperand (g : Grammar) (o : Operand) : Compile Operand := do
  match o with
  | .functions _ _ _ (some _) => fail "cannot take the address of a bound function"
  | .functions fs ts as none =>
    match fs, ts with
    | [f], [] =>
      use f
      let v ← single o
      return .value { v with type := .pointer v.type, category := .fresh }
    | _, _ => return .functions fs ts as none
  | .braces _ => fail "taking the address of a list"
  | .value v =>
    match ← overloaded? g "operator&" [o] false with
    | some o => return o
    | none =>
      if v.category ≠ .place then fail "lvalue required as unary '&' operand"
      if v.bits.isSome then fail "attempt to take address of bit-field"
      return .value { type := .pointer v.type, code := v.code }

/-- An operator before its operand. -/
def unary (g : Grammar) (sign : String) (o : Operand) : Compile Operand := do
  match sign with
  | "*" => pointee g o
  | "&" => addressOperand g o
  | _ =>
    match ← overloaded? g ("operator" ++ sign) [o] false with
    | some r => return r
    | none =>
      let v ← single o
      if sign == "!" then
        let v ← if v.type.isRecord then g.convert o .bool true else pure v
        if v.type.isVoid then fail "invalid use of void expression"
        let truth ← truthOf v
        let isCpp ← isCpp
        match truth with
        | .number _ n =>
          let r : Value := if isCpp then .ofInt .bool .u8 (if n = 0 then 1 else 0) else .int (if n = 0 then 1 else 0)
          return .value { r with isLiteral := false }
        | truth =>
          let c := Core.binary .eq .i32 truth (.number .i32 0)
          return .value (if isCpp then .bool (.convert .i32 .u8 c) else { type := .int, code := c })
      else
        let v ← arithmeticOperand g v
        match v.type.plain with
        | .number k =>
          let v ← asNumber g v (.number (if k.isReal then k else k.promoted))
          let s ← scalar v.type
          match sign with
          | "+" => return .value { v with isLiteral := false }
          | "-" =>
            match v.constant with
            | some n => return .value { Value.ofInt v.type s (s.wrap (-n)) with constant := some (s.wrap (-n)), isLiteral := v.isLiteral }
            | none => match v.code with
              | .real s bits => return .value { v with code := .real s (s.ofFloat (-(s.toFloat bits.toNat))).toNat.toUInt64 }
              | _ => return .value { type := v.type, code := .unary .negate s v.code }
          | "~" =>
            if k.isReal then fail "wrong type argument to bit-complement"
            match v.constant with
            | some n => return .value { Value.ofInt v.type s (s.wrap (-n - 1)) with constant := some (s.wrap (-n - 1)) }
            | none => return .value { type := v.type, code := .unary .complement s v.code }
          | _ => fail "operator is not understood"
        | .pointer _ => if sign == "+" then return .value v else fail "wrong type argument to unary operator"
        | _ => fail "no match for unary operator"

/-- An element of an array, or what the class of an object says. -/
def element (g : Grammar) (a b : Operand) : Compile Operand := do
  match ← overloaded? g "operator[]" [a, b] true with
  | some o => return o
  | none =>
    let x ← single a
    let y ← single b
    -- a constant of an array can be told beforehand
    let sum ← builtIn g .add x y
    match sum.type.plain with
    | .pointer t =>
      if t.isVoid then fail "'void*' is not a pointer-to-object type"
      let category : Category := if x.type.isArray && x.category = .passing then .passing else .place
      return .value { Value.place t sum.code with category }
    | _ => fail "invalid types for array subscript"

/-! ## Members -/

/-- How far a part of an object lies behind its start: a base, or a member without a name. -/
def partOffset (g : Grammar) : Nat → Nat → Nat → Compile (Option Nat)
  | 0, _, _ => return none
  | depth + 1, whole, part => do
    if whole = part then return some 0
    match ← baseOffset? g whole part with
    | some n => return some n
    | none =>
      let r ← getRecord whole
      let mut found : Option Nat := none
      for f in r.fields do
        if found.isNone && f.name.startsWith "." then
          if let some inner := f.type.record? then
            if let some n ← partOffset g depth inner part then found := some (f.offset + n)
      if found.isSome then return found
      for b in r.bases do
        if found.isNone then
          if let some n ← partOffset g depth b.record part then found := some (b.offset + n)
      return found

/-- A field of an object. -/
def fieldOf (g : Grammar) (v : Value) (record index : Nat) : Compile Value := do
  let r ← getRecord record
  match r.fields[index]?, v.type.record? with
  | some f, some whole =>
    checkAccess g record f.access f.name
    match ← partOffset g 16 whole record with
    | none => fail ("'" ++ f.name ++ "' is not a member of the object")
    | some n =>
      let v ← materialized g v
      let address := v.code.offset (n + f.offset)
      match f.type with
      | .reference t _ => return .place t (.load .u64 address)
      | t =>
        let t := if v.type.isConst && !f.isMutable then t.asConst else t
        return { type := t, category := if v.category = .place then .place else .passing, code := address, bits := f.bits }
  | _, _ => fail "request for member in something that is not a class"

/-- A variable where it is used. -/
def variableValue (id : Nat) : Compile Value := do
  let v ← getVariable id
  if !v.isUsed then changeVariable id fun v => { v with isUsed := true }
  let address ← match v.location with
    | .symbol name => pure (Core.symbol name)
    | .frame making place =>
      if making ≠ (← get).making.id && v.constant.isNone && !(← get).making.onlyTypes then
        fail ("'" ++ v.name ++ "' is not captured")
      pure (Core.frame place)
  match v.type with
  | .reference t _ => return .place t (.load .u64 address)
  | .sizedArray e n => return .place (.sizedArray e n) (.load .u64 address)
  | t => return { Value.place t address with constant := v.constant }

/-- What bindings stand for as members of an object. -/
def memberOperand (g : Grammar) (object : Value) (name : String) (bs : List Binding)
    (as : Option (List TypeArgument)) (isExact : Bool) : Compile Operand := do
  let bs := bs.filter fun b => !isType b
  match bs with
  | .field r i :: _ => return .value (← fieldOf g object r i)
  | .variable id :: _ =>
    let v ← variableValue id
    return .value v
  | .constant n t :: _ => return .value (.ofInt t (← scalar t) n)
  | [] => fail ("no member named '" ++ name ++ "'")
  | bs =>
    let (fs, ts) := functionsOf bs
    if fs.isEmpty && ts.isEmpty then fail ("no member named '" ++ name ++ "'")
    return .functions fs ts as (some { object with isExact })

/-- The object behind an arrow. -/
def arrowTarget (g : Grammar) : Nat → Operand → Compile Value
  | 0, _ => fail "arrow leads to too many others"
  | fuel + 1, o => do
    let v ← single o
    if v.type.isRecord then
      match ← overloaded? g "operator->" [.value v] true with
      | some o => arrowTarget g fuel o
      | none => fail "base operand of '->' is not a pointer"
    else
      let v ← loaded v
      match v.type.plain with
      | .pointer t => return .place t v.code
      | _ => fail "base operand of '->' is not a pointer"

/-! ## Casts -/

/-- A number of one scalar type as the bits of another. -/
def reinterpreted (g : Grammar) (v : Value) (t : Ty) : Compile Value := do
  let v ← loaded v
  let target := t.plain
  match v.type.plain, target with
  | .pointer _, .pointer _ => return { type := target, code := v.code }
  | .pointer _, .number k =>
    if k.isReal then fail "invalid cast from a pointer"
    if k.size < 8 && k ≠ .bool && (← isCpp) then fail "cast from pointer to smaller type loses precision"
    asNumber g { type := .ulong, code := v.code } target
  | .null, .number _ => return ← asNumber g { type := .ulong, code := .long 0 } target
  | .number k, .pointer _ =>
    if k.isReal then fail "invalid cast to a pointer"
    let n ← asNumber g v (if k.isSigned then .long else .ulong)
    return { type := target, code := n.code, constant := n.constant }
  | .enum _, .pointer _ =>
    let n ← asNumber g v .long
    return { type := target, code := n.code }
  | .pointer _, .enum _ => return ← asNumber g { type := .ulong, code := v.code } target
  | .member .., .member .. => return { type := target, code := v.code }
  | _, _ => asNumber g v t

/-- A value in another type, as asked for in so many words. -/
def castValue (g : Grammar) (t : Ty) (o : Operand) (anyPointer : Bool) : Compile Value := do
  match t with
  | .reference u passing =>
    let v ← match o with
      | .value v => pure v
      | o => single o
    match ← isRelated g v.type u with
    | some _ =>
      -- references are also made to what cannot be written to, or to a place that is about to go
      let b ← bound g { v with type := v.type } u passing
      return { b with category := if passing && !u.isFunction then .passing else .place, constant := none }
    | none =>
      match v.type.record?, u.record? with
      | some c, some d =>
        match ← baseOffset? g d c with
        | some n =>
          return { type := u, category := if passing then .passing else .place, code := .binary .sub .u64 (← addressOf g v) (.long n) }
        | none =>
          if anyPointer then return .place u (← addressOf g v)
          convert g o t true
      | _, _ =>
        if anyPointer && v.category ≠ .fresh then
          return { type := u, category := if passing then .passing else .place, code := v.code }
        convert g o t true
  | t =>
    match t.plain with
    | .void =>
      match o with
      | .functions .. => return .void .nothing
      | .braces _ => fail "invalid cast"
      | .value v =>
        let v ← if v.make.isSome then materialized g v else pure v
        return .void v.code
    | .record _ => convert g o t true
    | .array .. | .openArray _ | .function .. => fail "invalid cast"
    | target =>
      match o with
      | .functions .. | .braces _ => convert g o target true
      | .value v =>
        if v.type.isRecord then return ← convert g o target true
        let v ← loaded v
        match v.type.plain, target with
        | .pointer a, .pointer b =>
          let constOk := anyPointer || !a.isConst || b.isConst
          if !constOk then fail "cast casts away qualifiers"
          match a.record?, b.record? with
          | some c, some d =>
            if c = d then return { type := target, code := v.code, constant := v.constant }
            match ← baseOffset? g c d with
            | some _ => return { (← asNumber g v (.pointer b.plain)) with type := target }
            | none => match ← baseOffset? g d c with
              | some n =>
                if n = 0 then return { type := target, code := v.code }
                let (before, p) ← simple v.code
                return { type := target, code := Core.andThen before (.choose p.isSet (.binary .sub .u64 p (.long n)) (.long 0)) }
              | none =>
                if !anyPointer then fail "invalid static_cast between pointers"
                return { type := target, code := v.code }
          | _, _ =>
            if !anyPointer && !(a.isVoid || b.isVoid || a.plain == b.plain || onlyAddsConst 16 a b) then
              fail "invalid static_cast between pointers"
            return { type := target, code := v.code, constant := v.constant }
        | .pointer _, .number .bool => asNumber g v target
        | .pointer _, _ | _, .pointer _ =>
          if isNullConstant v || v.type.plain == .null then asNumber g v target
          else
            if !anyPointer then fail "invalid static_cast"
            reinterpreted g v target
        | .null, _ => if anyPointer then reinterpreted g v target else convert g o target true
        | .member .., _ | _, .member .. =>
          match v.type.plain, target with
          | .member .., .member .. => return { type := target, code := v.code }
          | _, _ => convert g o target true
        | .void, _ => fail "void value not ignored as it ought to be"
        | _, _ =>
          let r ← asNumber g v target
          return { r with isLiteral := v.isLiteral && target.isInteger }

end ModuleForge.Host.Native.Compile
