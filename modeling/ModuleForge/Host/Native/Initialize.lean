import ModuleForge.Host.Native.Overload

/-!
# Setting up objects

The steps with which an object of a type comes into being at an address: from values in parentheses,
from a list in braces, from another object, or from nothing.
-/
namespace ModuleForge.Host.Native.Compile

/-- The ways to set up an object: from values in parentheses, from a list, from one value behind an
equals sign, and without any value. -/
def byValues : Nat := 0
def byList : Nat := 1
def byCopy : Nat := 2
def byNothing : Nat := 5

/-- Does something to each element of an array, from the first one on. -/
def forElementsUp (address : Core) (count size : Nat) (m : Core → Compile Core) : Compile Core := do
  if count = 0 then return .nothing
  let (before, start) ← simple address
  let i ← newPlace 8 8
  let again ← newLabel
  let done ← newLabel
  let index := Core.load .u64 (.frame i)
  let body ← m (.binary .add .u64 start (.binary .mul .u64 index (.long size)))
  return .steps [.value before, .value (.store .u64 (.frame i) (.long 0)), .label again,
    .unless (.binary .lt .u64 index (.long count)) done, .value body,
    .value (.store .u64 (.frame i) (.binary .add .u64 index (.long 1))), .jump again, .label done] .nothing

/-- Calls a constructor for an address. -/
def constructorCall (g : Grammar) (id : Nat) (address : Core) (values : List Operand) : Compile Core := do
  use id
  let f ← getFunction id
  if let some owner := f.owner then checkAccess g owner f.access f.name
  let code ← arguments g f values
  return .call (.symbol f.symbol) ((.u64, address) :: code) .u64 f.traits.variadic

/-- The constructors of a class: functions and templates. -/
def constructorsOf (g : Grammar) (id : Nat) : Compile (List Nat × List Nat) := do
  g.complete id
  let r ← getRecord id
  let templates := ((← scope r.scope).names["constructor"]?.getD []).filterMap fun
    | .template t => some t
    | _ => none
  return (r.constructors, templates)

/-- Calls the best constructor for values. -/
def constructBy (g : Grammar) (id : Nat) (address : Core) (values : List Operand) (onlyImplicit : Bool) :
    Compile Core := do
  let r ← getRecord id
  let (fs, ts) ← constructorsOf g id
  let fs ← if onlyImplicit then fs.filterM fun f => do return !(← getFunction f).isExplicit else pure fs
  match ← select g fs ts none none values true with
  | none => fail ("no matching function for call to '" ++ r.name ++ "::" ++ r.name ++ "'")
  | some f =>
    let what ← special? f
    let trivial ← match what with
      | some .copy => isTrivial g .copy (.record id)
      | some .move => isTrivial g .move (.record id)
      | some .create => isTrivial g .create (.record id)
      | _ => pure false
    if trivial then
      match what, values with
      | some .create, _ =>
        use f
        return .nothing
      | _, [o] => do
        let f' ← getFunction f
        if f'.given = .deleted then fail ("use of deleted function '" ++ f'.name ++ "'")
        if let some owner := f'.owner then checkAccess g owner f'.access f'.name
        match f'.parameters with
        | p :: _ =>
          let v ← convert g o p.type false
          return .copy address v.code r.size
        | [] => constructorCall g f address values
      | _, _ => constructorCall g f address values
    else constructorCall g f address values

/-- Whether arrays of a type hold characters. -/
def isCharacter (t : Ty) : Bool := match t.kind? with
  | some .char | some .schar | some .uchar | some .char8 | some .char16 | some .char32 | some .wchar => true
  | some .int | some .uint => true
  | _ => false

/-- The length of a written text with its end, if a value is one for an array of such elements. -/
def textLength? (g : Grammar) (v : Value) (element : Ty) : Compile (Option Nat) := do
  match v.type.plain, v.isLiteral with
  | .array e n, true =>
    if !isCharacter e || !isCharacter element then return none
    return if (← sizeOf g e) = (← sizeOf g element) && (e.kind?.map (·.size)) == (element.kind?.map (·.size))
      then some n else none
  | _, _ => return none

/-- Copies a written text into an array. -/
def fillText (g : Grammar) (v : Value) (element : Ty) (count length : Nat) (address : Core) : Compile Core := do
  let size ← sizeOf g element
  if count < length && ((← isCpp) || count + 1 < length) then
    if ← isCpp then fail "initializer-string for array is too long"
  let (before, a) ← simple address
  let copied := min count length
  let rest := if copied < count then Core.clear (a.offset (copied * size)) ((count - copied) * size) else .nothing
  return Core.andThen before (.first (.copy a v.code (copied * size)) rest)

/-- Items of a list that are still to be used. -/
abbrev Items := List (List Designator × Operand)

/-- The field with a name, through members without a name. -/
def fieldNamed (g : Grammar) : Nat → Nat → String → Compile (Option (Nat × Bool))
  | 0, _, _ => return none
  | depth + 1, id, name => do
    let r ← getRecord id
    match r.fields.findIdx? (·.name == name) with
    | some i => return some (i, true)
    | none =>
      let mut found : Option (Nat × Bool) := none
      for (f, i) in r.fields.toList.zip (List.range r.fields.size) do
        if found.isNone && f.name.startsWith "." then
          if let some inner := f.type.record? then
            if let some _ ← fieldNamed g depth inner name then found := some (i, false)
      return found

/-- Sets up one part of a list from an item, or from as many items as it needs if it is a list
itself without braces of its own. The result says which items are left. -/
abbrev Filler := Ty → Core → Items → Compile (Core × Items)

/-- Whether an item is for a part as a whole. -/
def isWhole (g : Grammar) (t : Ty) (o : Operand) : Compile Bool := do
  match o with
  | .braces _ => return true
  | .functions .. => return true
  | .value v =>
    match t.plain with
    | .array e _ | .openArray e => return (← textLength? g v e).isSome
    | .record _ => return (← distance g o t.plain true).isSome
    | _ => return true

/-- Sets up one part from the next item. -/
def fillPart (g : Grammar) (fill : Filler) (t : Ty) (address : Core) (items : Items) : Compile (Core × Items) := do
  match items with
  | [] => return (.nothing, [])
  | (ds, o) :: rest =>
    match ds with
    | [] =>
      if t.isReference || t.isScalar || (← isWhole g t o) then return (← g.construct t address byCopy [o], rest)
      fill t address items
    | ds =>
      -- what is left of a designator is for a part within
      let (code, _) ← fill t address [(ds, o)]
      return (code, rest)

/-- Sets up what is left of a class: members without an item start in their own way. -/
def fillMember (g : Grammar) (r : Record) (f : Field) (address : Core) : Compile Core := do
  match f.start with
  | some ts =>
    let place ← newPlace 8 8
    let here := Core.load .u64 (.frame place)
    let before := (← get).making.this
    let this := Core.store .u64 (.frame place) address
    let inner ← newScope .block r.scope
    let id := match (← scope r.scope).kind with
      | .record id => id
      | _ => 0
    changeMaking fun m => { m with this := some (place, .record id) }
    let o ← inside inner (reading ts (do
      if ← acceptSign "=" then
        if ← isSign "\x7b" then g.operand else g.assignment
      else g.operand))
    let code ← g.construct f.type (here.offset f.offset) byCopy [o]
    changeMaking fun m => { m with this := before }
    return .first this code
  | none =>
    if f.type.isReference then fail "member is an uninitialized reference"
    g.construct f.type (address.offset f.offset) byList [.braces []]

/-- Sets up the members of a class in order; `at_` is the next one. -/
def fillFields (g : Grammar) (fill : Filler) (r : Record) (address : Core) :
    Nat → Nat → List Nat → Items → Core → Compile (Core × Items × List Nat)
  | 0, _, seen, items, code => return (code, items, seen)
  | fuel + 1, at_, seen, items, code => do
    match items with
    | [] => return (code, [], seen)
    | (.field name :: more, o) :: rest =>
      let id := match (← scope r.scope).kind with
        | .record id => id
        | _ => 0
      match ← fieldNamed g 8 id name with
      | none => fail ("no member named '" ++ name ++ "'")
      | some (i, direct) =>
        if (← isCpp) && i < at_ then fail "designator order does not match declaration order"
        match r.fields[i]? with
        | none => return (code, items, seen)
        | some f =>
          let item : List Designator × Operand := (if direct then more else .field name :: more, o)
          let (c, _) ← fillPart g fill f.type (address.offset f.offset) [item]
          fillFields g fill r address fuel (i + 1) (i :: seen) rest (Core.andThen code c)
    | (.index .. :: _, _) :: _ => fail "array index in non-array initializer"
    | ([], _) :: _ =>
      match r.fields[at_]? with
      | none => return (code, items, seen)
      | some f =>
        if r.tag = .union_ && 0 < at_ then return (code, items, seen)
        if f.name == "" then
          -- bits without a name take no value
          fillFields g fill r address fuel (at_ + 1) seen items code
        else if f.bits.isSome then
          match items with
          | (_, o) :: rest =>
            let v ← convert g o f.type false
            let c ← stored { Value.place f.type (address.offset f.offset) with bits := f.bits } v.code
            fillFields g fill r address fuel (at_ + 1) (at_ :: seen) rest (Core.andThen code c)
          | [] => return (code, [], seen)
        else
          let (c, rest) ← fillPart g fill f.type (address.offset f.offset) items
          fillFields g fill r address fuel (at_ + 1) (at_ :: seen) rest (Core.andThen code c)

/-- Sets up the elements of an array in order. -/
def fillElements (g : Grammar) (fill : Filler) (e : Ty) (size count : Nat) (address : Core) :
    Nat → Nat → Items → Core → Compile (Core × Items)
  | 0, _, items, code => return (code, items)
  | fuel + 1, at_, items, code => do
    match items with
    | [] => return (code, [])
    | (.index n upTo :: more, o) :: rest =>
      if count ≤ upTo then fail "array index in initializer exceeds array bounds"
      let mut code := code
      for i in [n:upTo + 1] do
        let (c, _) ← fillPart g fill e (address.offset (i * size)) [(more, o)]
        code := Core.andThen code c
      fillElements g fill e size count address fuel (upTo + 1) rest code
    | (.field _ :: _, _) :: _ => fail "field name not in record or union initializer"
    | ([], _) :: _ =>
      if count ≤ at_ then return (code, items)
      let (c, rest) ← fillPart g fill e (address.offset (at_ * size)) items
      fillElements g fill e size count address fuel (at_ + 1) rest (Core.andThen code c)

/-- Sets up a class or an array from items. -/
def fillWithin (g : Grammar) : Nat → Filler
  | 0, _, _, _ => fail "initializer is nested too deeply"
  | depth + 1, t, address, items => do
    let fill := fillWithin g depth
    let (before, a) ← simple address
    match t.plain with
    | .array e n =>
      let size ← sizeOf g e
      let (code, rest) ← fillElements g fill e size n a (items.length + n + 1) 0 items .nothing
      -- elements that are objects are set up even without an item
      let count := items.length
      let late ← if (← isTrivial g .create e) || n ≤ count then pure Core.nothing
        else forElementsUp (a.offset (count * size)) (n - count) size fun x => g.construct e x byList [.braces []]
      return (Core.andThen before (Core.andThen code late), rest)
    | .record id =>
      g.complete id
      let r ← getRecord id
      -- the parts that belong to bases come first
      let mut code : Core := .nothing
      let mut left := items
      for b in r.bases do
        let (c, rest) ← match left with
          | [] => pure (← g.construct (.record b.record) (a.offset b.offset) byList [.braces []], [])
          | some_ => fillPart g fill (.record b.record) (a.offset b.offset) some_
        code := Core.andThen code c
        left := rest
      let (c, rest, seen) ← fillFields g fill r a (left.length + r.fields.size + 1) 0 [] left code
      let mut made := c
      if r.tag ≠ .union_ || seen.isEmpty then
        for (f, i) in r.fields.toList.zip (List.range r.fields.size) do
          if !seen.contains i && f.name ≠ "" then
            let trivial ← isTrivial g .create f.type
            if !trivial || f.start.isSome || f.type.isReference then
              if r.tag ≠ .union_ || f.start.isSome then made := Core.andThen made (← fillMember g r f a)
      return (Core.andThen before made, rest)
    | t =>
      let (c, rest) ← fillPart g (fun _ _ _ => fail "initializer is not understood") t a items
      return (Core.andThen before c, rest)

/-- Sets up a class or an array from a list. -/
def fillAll (g : Grammar) (t : Ty) (address : Core) (items : Items) : Compile Core := do
  let (before, a) ← simple address
  let size ← sizeOf g t
  let (code, rest) ← fillWithin g 16 t a items
  if !rest.isEmpty then
    if ← isCpp then fail "too many initializers" else warn "excess-initializers"
  return Core.andThen before (.first (.clear a size) code)

/-- A list as an object of the class of lists. -/
def listObject (g : Grammar) (e : Ty) (r : Record) (address : Core) (items : Items) : Compile Core := do
  let size ← sizeOf g e
  let (total, alignment) ← layout g (.array e items.length)
  let place ← newPlace (max total 1) alignment
  let mut code : Core := .nothing
  for ((_, o), i) in items.zip (List.range items.length) do
    let c ← g.construct e.plain ((Core.frame place).offset (i * size)) byCopy [o]
    code := Core.andThen code c
  let after ← addTemporary g (.array e.plain items.length) (.frame place)
  let second := (r.fields[1]?.map (·.offset)).getD 8
  let (before, a) ← simple address
  return Core.andThen before (Core.andThen code (Core.andThen after
    (.first (.store .u64 a (.frame place)) (.store .u64 (a.offset second) (.long items.length)))))

/-- Whether a constructor takes a list as a whole. -/
def takesList (id : Nat) : Compile Bool := do
  match (← getFunction id).parameters with
  | p :: rest =>
    if !(rest.all (·.standard.isSome)) then return false
    match p.type.referred.record? with
    | some c => return (← getRecord c).name == "initializer_list"
    | none => return false
  | [] => return false

/-- Sets up an object of a class. -/
def constructRecord (g : Grammar) (id : Nat) (address : Core) (style : Nat) (values : List Operand) :
    Compile Core := do
  g.complete id
  let r ← getRecord id
  if !r.isComplete then fail ("variable has incomplete type '" ++ r.name ++ "'")
  let isPart := (← get).making.base == some id
  for f in r.virtuals do
    if !isPart && (← getFunction f).given = .pure then fail ("cannot declare an object of abstract type '" ++ r.name ++ "'")
  let create : Compile Core := do
    let own ← specials id
    match own.filter (·.1 = .create) with
    | [] => if r.constructors.isEmpty then return .nothing else constructBy g id address [] false
    | _ => constructBy g id address [] false
  let isGiven : Compile Bool := do
    let own : List (Special × Nat) ← specials id
    (own.filter (·.1 = .create)).allM fun (_, f) => do return (← getFunction f).given ≠ .written
  let zeroFirst : Compile Core := do
    let (before, a) ← simple address
    let clear ← if ← isGiven then pure (Core.clear a r.size) else pure .nothing
    let own ← specials id
    let code ← match own.filter (·.1 = .create) with
      | [] => if r.constructors.isEmpty then pure Core.nothing else constructBy g id a [] false
      | _ => constructBy g id a [] false
    return Core.andThen before (Core.andThen clear code)
  match values with
  | [] => if style = byNothing then create else zeroFirst
  | [.braces items] =>
    match r.template with
    | some (_, [.type e]) =>
      if r.name == "initializer_list" then return (← listObject g e r address items)
    | _ => pure ()
    let (fs, ts) ← constructorsOf g id
    let lists ← fs.filterM takesList
    if r.isAggregate then
      match items with
      | [([], .value v)] =>
        let sameClass : Bool ← match v.type.record? with
          | some d => if d = id then pure true else derives g d id
          | none => pure false
        if sameClass then g.construct (.record id) address byCopy [.value v]
        else fillAll g (.record id) address items
      | _ => fillAll g (.record id) address items
    else
      let hasCreate := !((← specials id).filter (·.1 = .create)).isEmpty
      if items.isEmpty && hasCreate then zeroFirst
      else
        let asList ← if lists.isEmpty then pure none
          else attempt (select g lists [] none none [.braces items] false)
        match asList with
        | some (some f) => constructorCall g f address [.braces items]
        | _ =>
          let _ := ts
          let values := items.map (·.2)
          let code ← constructBy g id address values false
          if style = byCopy then
            match ← select g fs ts none none values true with
            | some f => if (← getFunction f).isExplicit then fail "converting to a class from a list would use an explicit constructor"
            | none => pure ()
          return code
  | [o] =>
    match o with
    | .value v =>
      let same : Bool ← match v.type.record? with
        | some d => pure (d == id)
        | none => pure false
      if same then
        match v.category, v.make with
        | .fresh, some make =>
          let _ := make
          return make address
        | _, _ =>
          if r.constructors.isEmpty then
            let v ← materialized g v
            return .copy address v.code r.size
          constructBy g id address values false
      else if style = byCopy then
        match ← conversionTo? g v (.record id) false with
        | some (f, _) =>
          let c ← callConversion g f v
          g.construct (.record id) address byCopy [.value c]
        | none => constructBy g id address values true
      else
        let (fs, ts) ← constructorsOf g id
        match ← attempt (select g fs ts none none values true) with
        | some (some _) => constructBy g id address values false
        | _ => match ← conversionTo? g v (.record id) true with
          | some (f, _) =>
            let c ← callConversion g f v
            g.construct (.record id) address byCopy [.value c]
          | none => constructBy g id address values false
    | _ => constructBy g id address values (style = byCopy)
  | _ =>
    let (fs, ts) ← constructorsOf g id
    match ← attempt (select g fs ts none none values true) with
    | some none =>
      if r.isAggregate && 2020 ≤ (← get).reading.standard then fillAll g (.record id) address (values.map ([], ·))
      else constructBy g id address values false
    | _ => constructBy g id address values false

/-- Sets up an object of a type. -/
def construct (g : Grammar) (t : Ty) (address : Core) (style : Nat) (values : List Operand) : Compile Core := do
  match t with
  | .reference .. =>
    match values with
    | [o] =>
      let o := match o with
        | .braces [([], inner)] => inner
        | o => o
      let v ← convert g o t false
      return .store .u64 address v.code
    | _ => fail "a reference has to be initialized by one value"
  | t =>
    match t.plain with
    | .record id => constructRecord g id address style values
    | .array e n =>
      match values with
      | [] =>
        if style = byNothing then
          if ← isTrivial g .create e then return .nothing
          let size ← sizeOf g e
          forElementsUp address n size fun a => g.construct e a byNothing []
        else fillAll g t address []
      | [.braces [([], .value v)]] =>
        match ← textLength? g v e with
        | some length => fillText g v e n length address
        | none => fillAll g t address [([], .value v)]
      | [.braces items] =>
        if items.isEmpty && !(← isTrivial g .create e) then
          let size ← sizeOf g e
          forElementsUp address n size fun a => g.construct e a byList [.braces []]
        else fillAll g t address items
      | [.value v] =>
        match ← textLength? g v e with
        | some length => fillText g v e n length address
        | none =>
          if v.type.plain == t.plain || onlyAddsConst 16 v.type t || onlyAddsConst 16 t v.type then
            let size ← sizeOf g e
            let (before, source) ← simple v.code
            if ← isTrivial g (if v.category = .place then .copy else .move) e then
              return Core.andThen before (.copy address source (n * size))
            let (first, target) ← simple address
            let i ← newPlace 8 8
            let code ← forElementsUp (.long 0) n size fun at_ => do
              let from_ : Value := { type := e, category := v.category, code := .binary .add .u64 source (.load .u64 (.frame i)) }
              let inner ← g.construct e (.binary .add .u64 target (.load .u64 (.frame i))) byCopy [.value from_]
              return .first (.store .u64 (.frame i) at_) inner
            return Core.andThen before (Core.andThen first code)
          else fail "array must be initialized with a brace-enclosed initializer"
      | _ => fail "array must be initialized with a brace-enclosed initializer"
    | .void => fail "variable declared void"
    | .function .. => fail "a function cannot be initialized"
    | .openArray _ | .sizedArray .. =>
      if values.isEmpty then return .nothing else fail "variable-sized object may not be initialized"
    | target =>
      let s ← scalar target
      match values with
      | [] =>
        if style = byNothing then return .nothing
        let zero ← convert g (.braces []) target false
        return .store s address zero.code
      | [o] =>
        let v ← convert g o target (style ≤ 1)
        return .store s address v.code
      | _ => fail "initializer has too many values"

end ModuleForge.Host.Native.Compile
