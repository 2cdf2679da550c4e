import ModuleForge.Host.Native.Values

/-!
# Conversions

When a value can stand where one of another type is asked for, how far it is from that type, and how
it is converted. A distance is a list of numbers that are compared one after the other: the first
tells the kind of the conversion, from none at all to one that a class defines.
-/
namespace ModuleForge.Host.Native.Compile

/-- Whether a value is a zero that can stand for a pointer. -/
def isNullConstant (v : Value) : Bool :=
  v.type.plain == .null || (v.isLiteral && v.constant == some 0 && v.type.isInteger)

/-- Whether the first type becomes the second by adding constants. -/
def onlyAddsConst : Nat → Ty → Ty → Bool
  | 0, _, _ => false
  | fuel + 1, a, b =>
    (!a.isConst || b.isConst) && match a.plain, b.plain with
      | .pointer x, .pointer y => onlyAddsConst fuel x y
      | .array x m, .array y n => m == n && onlyAddsConst fuel x y
      | .array x _, .openArray y => onlyAddsConst fuel x y
      | x, y => x == y

/-- Whether two functions are the same apart from what is thrown. -/
def sameFunction (a b : Ty) : Bool := match a.plain, b.plain with
  | .function r ps s, .function q qs t =>
    (r == q || (r.isVoid && q.isVoid)) && (Ty.sameAll ps qs || s.isOpen || t.isOpen)
  | _, _ => false

/-- The distance between two types of pointers, by what they point to. -/
def pointerDistance (g : Grammar) (isCpp : Bool) (a b : Ty) : Compile (Option (List Nat)) := do
  if onlyAddsConst 16 a b then return some [0, if a.isConst == b.isConst then 0 else 1, 0]
  if sameFunction a b then return some [0, 0, 0]
  let constLost := a.isConst && !b.isConst
  if b.isVoid && (!a.isFunction || !isCpp) && (!constLost || !isCpp) then return some [2, 100]
  match a.plain, b.plain with
  | .record d, .record c =>
    if !constLost then
      if let some far ← generations? g typeDepth d c then
        if d ≠ c then return some [2, far]
  | _, _ => pure ()
  if isCpp then return none
  if a.isVoid then return some [2, 100]
  return some [2, 500]

/-- The distance between the types of two numbers or pointers. -/
def standardDistance (g : Grammar) (v : Value) (target : Ty) : Compile (Option (List Nat)) := do
  let isCpp ← isCpp
  let a := v.type.decayed.plain
  let b := target.plain
  if a == b then return some [0, 0, 0]
  match a, b with
  | .number x, .number y =>
    let promotes := y == x.promoted && x.rank < 3 && !x.isReal
    if promotes || (x == .float && y == .double) then return some [1]
    return some [2, 0]
  | .enum id, .number y =>
    let e ← getEnum id
    if e.isScoped then return none
    return some (if y == e.underlying.promoted then [1] else [2, 0])
  | .number x, .enum _ => return if isCpp || x.isReal then none else some [2, 0]
  | .enum _, .enum _ => return if isCpp then none else some [2, 0]
  | .pointer x, .pointer y => pointerDistance g isCpp x y
  | .null, .pointer _ | .null, .member .. => return some [2, 0]
  | .pointer _, .number .bool => return some [2, 900]
  | .member .., .number .bool => return some [2, 900]
  | .null, .number .bool => return none
  | .number _, .pointer _ | .number _, .member .. =>
    if isNullConstant v then return some [2, 0]
    return if isCpp || !(v.type.isInteger) then none else some [2, 700]
  | .pointer _, .number k => return if isCpp || k.isReal then none else some [2, 700]
  | .member o x, .member p y =>
    match o.record?, p.record? with
    | some c, some d => if x == y then if ← derives g d c then return some [2, 1]
    | _, _ => pure ()
    return none
  | .number _, .null => return none
  | _, _ => return none

/-- Whether an object of one class is also one of another. -/
def isRelated (g : Grammar) (a b : Ty) : Compile (Option Nat) := do
  if a.plain == b.plain then return some 0
  if onlyAddsConst 16 a b && (a.isArray || b.isArray) then return some 0
  if sameFunction a b then return some 0
  match a.record?, b.record? with
  | some d, some c => generations? g typeDepth d c
  | _, _ => return none

/-- The functions of a class that convert its objects, with those of its bases. -/
def conversionsOf (g : Grammar) : Nat → Nat → Compile (List Nat)
  | 0, _ => return []
  | depth + 1, id => do
    g.complete id
    let r ← getRecord id
    let own := ((← scope r.scope).names["operator conversion"]?.getD []).filterMap fun
      | .function f => some f
      | _ => none
    let inherited ← r.bases.toList.mapM fun b => conversionsOf g depth b.record
    return own ++ inherited.flatten

/-- The conversion of a class whose result is nearest to a type. -/
def conversionTo? (g : Grammar) (v : Value) (target : Ty) (explicit : Bool) :
    Compile (Option (Nat × List Nat)) := do
  match v.type.record? with
  | none => return none
  | some id =>
    let mut best : Option (Nat × List Nat) := none
    for f in ← conversionsOf g 16 id do
      let f' ← getFunction f
      let constOk := f'.traits.isConst || !v.type.isConst
      if constOk && (!f'.isExplicit || explicit) then
        let result : Value := match f'.result with
          | .reference t passing => { type := t, category := if passing then .passing else .place, code := .nothing }
          | t => { type := t, code := .nothing }
        match ← g.distance (.value result) target false with
        | some d =>
          -- a function that is not constant is nearer to an object that is not
          let d := d ++ [if f'.traits.isConst == v.type.isConst then 0 else 1]
          match best with
          | some (_, e) => if d < e then best := some (f, d)
          | none => best := some (f, d)
        | none => pure ()
    return best

/-- The function behind an object that stands for a function written in place and keeps nothing. -/
def invoker? (g : Grammar) (t : Ty) : Compile (Option Nat) := do
  match t.record? with
  | none => return none
  | some id =>
    let r ← getRecord id
    if !r.isClosure then return none
    match (← scope r.scope).names[".invoke"]? with
    | some (.function f :: _) =>
      let f' ← getFunction f
      if f'.result.isAuto && f'.stage ≠ .made then g.makeFunction f
      return some f
    | _ => return none

/-- That function, if it is of the type that is asked for. -/
def invokerFor? (g : Grammar) (v target : Ty) : Compile (Option Nat) := do
  match target.plain with
  | .pointer t =>
    if !t.isFunction then return none
    match ← invoker? g v with
    | none => return none
    | some f =>
      let f' ← getFunction f
      return if sameFunction (.function f'.result (f'.parameters.map (·.type.plain)) f'.traits) t then some f else none
  | _ => return none

/-- The constructor of a class that makes an object of one value. -/
def constructorFrom? (g : Grammar) (id : Nat) (o : Operand) (explicit : Bool) : Compile (Option Nat) := do
  g.complete id
  let r ← getRecord id
  let found := (← scope r.scope).names["constructor"]?.getD []
  let templates := found.filterMap fun
    | .template t => some t
    | _ => none
  let allowed ← r.constructors.filterM fun f => do return explicit || !(← getFunction f).isExplicit
  g.select allowed templates none none [o] false

/-- Whether a list in braces can make a value of a type. -/
def bracesDistance (g : Grammar) (items : List (List Designator × Operand)) (t : Ty) :
    Compile (Option (List Nat)) := do
  match t.plain with
  | .record id =>
    g.complete id
    let r ← getRecord id
    match r.template with
    | some (_, [.type e]) =>
      if r.name == "initializer_list" then
        let ds ← items.mapM fun (_, o) => g.distance o e true
        if ds.any (·.isNone) then return none
        let worst := ds.foldl (fun acc d => if acc < d.getD [] then d.getD [] else acc) [0, 0, 0]
        return some worst
      else pure ()
    | _ => pure ()
    if items.isEmpty then return some [3, 0]
    if r.isAggregate then
      if r.fields.size + r.bases.size < items.length && !(r.fields.any (·.type.isArray)) then return none
      let pairs := items.zip (r.fields.toList.map (·.type))
      let ok ← pairs.allM fun ((_, o), t) => do
        return t.isArray || (← g.distance o t true).isSome
      if ok then return some [3, 1]
      match items with
      | [(_, o)] => return (← g.distance o t false).map fun _ => [3, 1]
      | _ => return none
    let found := (← scope r.scope).names["constructor"]?.getD []
    let templates := found.filterMap fun
      | .template t => some t
      | _ => none
    -- a constructor that takes the list as a whole
    let wholes ← r.constructors.filterM fun f => do
      match (← getFunction f).parameters with
      | [p] => match p.type.referred.record? with
        | some c => return (← getRecord c).name == "initializer_list"
        | none => return false
      | _ => return false
    let asWhole ← wholes.anyM fun f => do
      match (← getFunction f).parameters with
      | [p] => return (← g.distance (.braces items) p.type false).isSome
      | _ => return false
    if asWhole then return some [3, 0]
    match ← g.select r.constructors templates none none (items.map (·.2)) true with
    | some _ => return some [3, 1]
    | none => return none
  | .array e n =>
    if n < items.length then return none
    let ok ← items.allM fun (_, o) => do return (← g.distance o e true).isSome
    return if ok then some [0, 0, 0] else none
  | _ => match items with
    | [] => return some [0, 0, 0]
    | [(_, o)] => match o with
      | .braces _ => return none
      | o => g.distance o t true
    | _ => return none

/-- The function among several whose type is asked for. -/
def functionFor? (g : Grammar) (fs templates : List Nat) (arguments : Option (List TypeArgument)) (t : Ty) :
    Compile (Option Nat) := do
  let wanted := match t.plain with
    | .pointer f => f
    | .reference f _ => f
    | .member _ f => f
    | f => f
  let matching ← fs.filterM fun f => do
    let f ← getFunction f
    return sameFunction (.function f.result (f.parameters.map (·.type.plain)) f.traits) wanted
  match matching with
  | f :: _ => return some f
  | [] =>
    match wanted with
    | .function _ ps _ =>
      let values : List Operand := ps.map fun p => .value (match p with
        | .reference u passing => { type := u, category := if passing then .passing else .place, code := .nothing }
        | u => { type := u, code := .nothing })
      match templates with
      | [] => return none
      | _ => g.select [] templates arguments none values false
    | _ => return none

/-- How far an operand is from a type. -/
def distance (g : Grammar) (o : Operand) (t : Ty) (user : Bool) : Compile (Option (List Nat)) := do
  match t with
  | .reference u passing =>
    match o with
    | .braces items =>
      if passing || u.isConst then
        return (← bracesDistance g items u.plain).map (· ++ [if passing then 0 else 1])
      else return none
    | .functions fs ts as none =>
      return (← functionFor? g fs ts as t).map fun _ => [0, 0, 0]
    | .functions .. => return none
    | .value v =>
      let isPlace := v.category = .place
      match ← isRelated g v.type u with
      | some far =>
        let constOk := !v.type.isConst || u.isConst || u.isFunction
        let added := if v.type.isConst == u.isConst then 0 else 1
        let level := if far = 0 then 0 else 2
        if !constOk then return none
        if u.isFunction then return some [0, 0, 0]
        let bound (kind : Nat) : List Nat := if far = 0 then [level, added, kind] else [level, far, added, kind]
        if passing then return if isPlace then none else some (bound 0)
        if isPlace then return some (bound 0)
        return if u.isConst then some (bound 1) else none
      | none =>
        -- a conversion of a class may give the place itself
        let asPlace ← if user then conversionTo? g v t false else pure none
        match asPlace with
        | some _ => return some [3, 0]
        | none =>
          if passing || u.isConst then
            match ← g.distance o u.plain user with
            | some d => return some (d ++ [if passing then 0 else 1])
            | none => return none
          else return none
  | t =>
    match o with
    | .braces items => bracesDistance g items t
    | .functions fs ts as none =>
      match t.plain with
      | .pointer (.function ..) => return (← functionFor? g fs ts as t).map fun _ => [0, 0, 0]
      | .record id =>
        if !user then return none
        return (← constructorFrom? g id o false).map fun _ => [3]
      | _ => return none
    | .functions .. => return none
    | .value v =>
      match t.plain with
      | .record id =>
        match v.type.record? with
        | some d =>
          if d = id then return some [0, 0, 0]
          if let some far ← generations? g typeDepth d id then return some [2, far]
        | none => pure ()
        if !user then return none
        match ← conversionTo? g v t false with
        | some (_, d) => return some (3 :: d)
        | none => return (← constructorFrom? g id o false).map fun _ => [3]
      | .array .. | .openArray _ | .function .. | .void => return none
      | _ =>
        if v.type.isRecord then
          if !user then return none
          if (← invokerFor? g v.type t).isSome then return some [3]
          match ← conversionTo? g v t false with
          | some (_, d) => return some (3 :: d)
          | none => return none
        if v.type.isVoid then return none
        standardDistance g v t

/-! ## Converting -/

/-- A number or a pointer as one of another type; that it can be one is known. -/
def asNumber (g : Grammar) (v : Value) (t : Ty) : Compile Value := do
  let v ← loaded v
  let target := t.plain
  let s ← scalar target
  let result (code : Core) : Value := { type := target, code }
  if target == .bool then
    let truth ← truthOf v
    return match truth with
      | .number _ n => { Value.ofInt target .u8 n with isLiteral := false }
      | truth => result (.convert .i32 .u8 truth)
  match v.type.plain, target with
  | .pointer a, .pointer b =>
    match a.record?, b.record? with
    | some d, some c =>
      match ← if d = c then pure (some 0) else baseOffset? g d c with
      | some n =>
        if n = 0 then return result v.code
        let (before, p) ← simple v.code
        return result (Core.andThen before (.choose p.isSet (p.offset n) (.long 0)))
      | none => return result v.code
    | _, _ => return result v.code
  | .null, .pointer _ => return { result (.long 0) with constant := some 0 }
  | .null, .member _ f => return result (.number .i64 (if f.isFunction then 0 else -1))
  | .number _, .member _ f => return result (.number .i64 (if f.isFunction then 0 else -1))
  | .member .., .member .. => return result v.code
  | _, _ =>
    let source ← scalar v.type
    match v.constant with
    | some n =>
      if s.isReal then
        return result (.real s (source.convert s n).toNat.toUInt64)
      else return { Value.ofInt target s (s.wrap n) with constant := some (s.wrap n) }
    | none =>
      if source = s then return result v.code
      return result (.convert source s v.code)

/-- Calls a function of a class for an object, without further arguments. -/
def callConversion (g : Grammar) (f : Nat) (v : Value) : Compile Value := do
  let o ← g.callFunctions [f] [] none (some v) [] "conversion"
  single o

/-- A value that refers to what another one is. -/
def bound (g : Grammar) (v : Value) (u : Ty) (passing : Bool) : Compile Value := do
  let v ← if v.bits.isSome then loaded v else pure v
  let v ← materialized g v
  let code ← match v.type.record?, u.record? with
    | some d, some c => do
      match ← if d = c then pure (some 0) else baseOffset? g d c with
      | some n => pure (v.code.offset n)
      | none => pure v.code
    | _, _ => pure v.code
  return { type := u, category := if passing then .passing else .place, code, constant := if u.isConst then v.constant else none }

/-- A new object that is made by constructing it. -/
def newObject (g : Grammar) (t : Ty) (style : Nat) (arguments : List Operand) : Compile Value := do
  let place ← newPlace 8 8
  let address := Core.load .u64 (.frame place)
  let code ← g.construct t.plain address style arguments
  return { type := t.plain, code := .nothing
           make := some fun target => .first (.store .u64 (.frame place) target) code }

/-- Whether a constant loses something in a narrower type. -/
def narrows (v : Value) (t : Ty) : Bool :=
  match v.type.kind?, t.kind? with
  | some a, some b =>
    if a.isReal && !b.isReal then match v.code with
      | .real .. => true
      | _ => false
    else match v.constant with
      | some n => !b.isReal && !b.holds n
      | none => false
  | _, _ => false

/-- A value as a value of a type. -/
def convert (g : Grammar) (o : Operand) (t : Ty) (explicit : Bool) : Compile Value := do
  match t with
  | .reference u passing =>
    match o with
    | .braces _ =>
      if !(passing || u.isConst) then fail "cannot bind a reference to a list"
      bound g (← g.convert o u.plain explicit) u passing
    | .functions fs ts as none => do
      match ← functionFor? g fs ts as t with
      | some f =>
        use f
        return .place u (.symbol (← getFunction f).symbol)
      | none => fail "no matching function"
    | .functions .. => fail "invalid use of a member function"
    | .value v =>
      match ← isRelated g v.type u with
      | some _ =>
        if v.type.isConst && !u.isConst && !u.isFunction then
          fail "binding reference discards qualifiers"
        if passing && v.category = .place && !u.isFunction then
          fail "cannot bind rvalue reference to lvalue"
        if !passing && v.category ≠ .place && !u.isConst then
          fail "cannot bind non-const lvalue reference to an rvalue"
        if !passing && v.bits.isSome && !u.isConst then fail "cannot bind bit-field"
        bound g v u passing
      | none =>
        match ← conversionTo? g v t explicit with
        | some (f, _) => bound g (← callConversion g f v) u passing
        | none =>
          if !(passing || u.isConst) then fail "cannot bind non-const lvalue reference to a value of another type"
          bound g (← g.convert o u.plain explicit) u passing
  | t =>
    match t.plain with
    | .record id =>
      match o with
      | .value v =>
        match v.type.record? with
        | some d =>
          if d = id then
            match v.category, v.make with
            | .fresh, some _ => return { v with type := t.plain }
            | _, _ => newObject g t 0 [o]
          else if ← derives g d id then newObject g t 0 [o]
          else match ← conversionTo? g v t explicit with
            | some (f, _) => g.convert (.value (← callConversion g f v)) t explicit
            | none => newObject g t (if explicit then 0 else 2) [o]
        | none => newObject g t (if explicit then 0 else 2) [o]
      | .braces _ => newObject g t (if explicit then 1 else 2) [o]
      | .functions .. => newObject g t (if explicit then 0 else 2) [o]
    | .void =>
      match o with
      | .value v => return .void v.code
      | _ => fail "invalid use of a list"
    | .array .. | .openArray _ => fail "cannot convert to an array"
    | .function .. => fail "cannot convert to a function"
    | target =>
      match o with
      | .braces items =>
        match items with
        | [] => do
          let s ← scalar target
          if s.isReal then return { type := target, code := .real s 0 }
          return .ofInt target s (match target with
            | .member _ f => if f.isFunction then 0 else -1
            | _ => 0)
        | [([], .value v)] =>
          if narrows v t then fail "narrowing conversion inside braces"
          g.convert (.value v) t explicit
        | [([], o)] => g.convert o t explicit
        | _ => fail "too many values in braces"
      | .functions fs ts as object => do
        if let some _ := object then
          match target with
          | .member .. => pure ()
          | _ => fail "invalid use of a member function"
        match ← functionFor? g fs ts as target with
        | some f =>
          use f
          return { type := target, code := .symbol (← getFunction f).symbol }
        | none =>
          if target == .bool then
            let _ ← single o
            return .ofInt target .u8 1
          if !(← isCpp) then asNumber g (← single o) target
          else fail "no matching function for the type asked for"
      | .value v =>
        if v.type.isRecord then
          if let some f ← invokerFor? g v.type t then
            use f
            return { type := target, code := .first (← materialized g v).code (.symbol (← getFunction f).symbol) }
          match ← conversionTo? g v t explicit with
          | some (f, _) =>
            let r ← callConversion g f v
            g.convert (.value r) t explicit
          | none => fail "cannot convert an object to a number"
        else
          if v.type.isVoid then fail "void value not ignored as it ought to be"
          match ← standardDistance g v t with
          | some d =>
            if d == [2, 700] then warn "int-conversion"
            if d == [2, 500] then warn "incompatible-pointer-types"
            asNumber g v t
          | none => fail "invalid conversion"

end ModuleForge.Host.Native.Compile
