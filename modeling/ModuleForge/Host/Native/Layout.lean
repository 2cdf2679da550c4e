import ModuleForge.Host.Native.Reader

/-!
# Layout

How types lie in memory, and which objects are no more than their bytes.
-/
namespace ModuleForge.Host.Native.Compile

/-- How deep types may lie within each other. -/
def typeDepth : Nat := 64

/-- The form of the numbers that the values of a type are. -/
def scalar? (t : Ty) : Compile (Option Scalar) := do
  let ofKind : NumberKind → Scalar
    | .bool | .uchar | .char8 => .u8
    | .char | .schar => .i8
    | .short => .i16
    | .ushort | .char16 => .u16
    | .int | .wchar => .i32
    | .uint | .char32 => .u32
    | .long | .llong => .i64
    | .ulong | .ullong => .u64
    | .float => .f32
    | .double | .ldouble => .f64
  match t.plain with
  | .number k => return some (ofKind k)
  | .enum id => return some (ofKind (← getEnum id).underlying)
  | .pointer _ | .null | .reference .. => return some .u64
  | .member .. => return some .i64
  | _ => return none

def scalar (t : Ty) : Compile Scalar := do
  match ← scalar? t with
  | some s => return s
  | none => fail "value has no scalar type"

/-- The size and the alignment of a type. -/
def layoutWithin (g : Grammar) : Nat → Ty → Compile (Nat × Nat)
  | 0, _ => fail "type is nested too deeply"
  | depth + 1, t => do
    match t with
    | .void => return (1, 1)
    | .function .. => return (1, 1)
    | .number k => return (k.size, k.size)
    | .enum id =>
      let e ← getEnum id
      if !e.isComplete then fail "invalid use of incomplete type"
      return (e.underlying.size, e.underlying.size)
    | .null | .pointer _ | .reference .. | .member .. | .sizedArray .. => return (8, 8)
    | .const t => layoutWithin g depth t
    | .array t n =>
      let (size, alignment) ← layoutWithin g depth t
      return (size * n, alignment)
    | .openArray t => return (0, (← layoutWithin g depth t).2)
    | .record id =>
      if !(← getRecord id).isComplete then g.complete id
      let r ← getRecord id
      if !r.isComplete then fail ("invalid use of incomplete type '" ++ r.name ++ "'")
      return (r.size, r.alignment)
    | .auto | .unknown | .hole .. | .applied .. | .appliedHole .. => fail "the type is not known"

def layout (g : Grammar) (t : Ty) : Compile (Nat × Nat) := layoutWithin g typeDepth t

def sizeOf (g : Grammar) (t : Ty) : Compile Nat := return (← layout g t).1

/-- Whether the size of a type is known. -/
def isComplete (g : Grammar) (t : Ty) : Compile Bool := do
  -- what is wrong within a class is told, and not that it is incomplete
  let rec known : Nat → Ty → Compile Unit
    | 0, _ => return
    | depth + 1, t => match t.plain with
      | .record id => g.complete id
      | .array e _ => known depth e
      | _ => return
  known 16 t
  could (layout g t)

/-- A place in the frame for a value of a type. -/
def placeFor (g : Grammar) (t : Ty) : Compile Nat := do
  let (size, alignment) ← layout g t
  newPlace size alignment

/-! ## Classes -/

/-- How far the part of an object that belongs to a base lies behind the start, by the way to it. -/
def baseOffsetWithin (g : Grammar) : Nat → Nat → Nat → Compile (List (Nat × Access))
  | 0, _, _ => return []
  | depth + 1, derived, base => do
    if derived = base then return [(0, .everyone)]
    g.complete derived
    let r ← getRecord derived
    let found ← r.bases.toList.mapM fun b => do
      let inner ← baseOffsetWithin g depth b.record base
      return inner.map fun (n, a) => (b.offset + n, if b.access = .everyone then a else b.access)
    return found.flatten

/-- The distance of a base in a class, if there is just one. -/
def baseOffset? (g : Grammar) (derived base : Nat) : Compile (Option Nat) := do
  match ← baseOffsetWithin g typeDepth derived base with
  | (n, _) :: _ => return some n
  | [] => return none

/-- How many steps lie between a class and one of its bases. -/
def generations? (g : Grammar) : Nat → Nat → Nat → Compile (Option Nat)
  | 0, _, _ => return none
  | depth + 1, derived, base => do
    if derived = base then return some 0
    g.complete derived
    let r ← getRecord derived
    let found ← r.bases.toList.mapM fun b => generations? g depth b.record base
    return (found.filterMap id).min?.map (· + 1)

/-- Whether a class is another one or has it as a base. -/
def derives (g : Grammar) (derived base : Nat) : Compile Bool :=
  return (← baseOffset? g derived base).isSome

/-- What a class does with its objects as a matter of course. -/
inductive Special where
  | create | copy | move | assignCopy | assignMove | destroy
  deriving DecidableEq

/-- Which of them a function is. -/
def special? (id : Nat) : Compile (Option Special) := do
  let f ← getFunction id
  let some owner := f.owner | return none
  if f.template.isSome then return none
  let ofSame (t : Ty) : Option Bool := match t with
    | .reference u passing => if u.plain == .record owner then some passing else none
    | _ => none
  let restGiven := (f.parameters.drop 1).all (·.standard.isSome)
  match f.role with
  | .destructor => return some .destroy
  | .constructor => match f.parameters with
    | [] => return some .create
    | p :: _ =>
      if !restGiven then return none
      match ofSame p.type with
      | some true => return some .move
      | some false => return some .copy
      | none => return if p.standard.isSome then some .create else none
  | _ =>
    if f.name ≠ "operator=" then return none
    match f.parameters with
    | [p] => match ofSame p.type with
      | some true => return some .assignMove
      | some false => return some .assignCopy
      | none => return if p.type == .record owner then some .assignCopy else none
    | _ => return none

/-- The functions of a class that are special. -/
def specials (id : Nat) : Compile (List (Special × Nat)) := do
  let r ← getRecord id
  let scope ← scope r.scope
  let assigns := (scope.names["operator="]?.getD []).filterMap fun
    | .function f => some f
    | _ => none
  let all := r.constructors ++ r.destructor.toList ++ assigns
  let found ← all.mapM fun f => return (← special? f).map (·, f)
  return found.filterMap fun x => x

/-- Whether something special means no more than copying bytes, or nothing at all. -/
def isTrivialWithin (g : Grammar) : Nat → Special → Ty → Compile Bool
  | 0, _, _ => return false
  | depth + 1, what, t => do
    match t.plain with
    | .array e _ | .openArray e => isTrivialWithin g depth what e
    | .reference .. => return what ≠ .create && what ≠ .assignCopy && what ≠ .assignMove
    | .record id =>
      if !(← isCpp) then return true
      g.complete id
      let r ← getRecord id
      let own : List (Special × Nat) ← specials id
      let chosen : List (Special × Nat) := match own.filter (·.1 = what), what with
        | [], .move => own.filter (·.1 = .copy)
        | [], .assignMove => own.filter (·.1 = .assignCopy)
        | fs, _ => fs
      let fs : List Function ← chosen.mapM fun (_, f) => getFunction f
      if fs.isEmpty then return what = .create && r.isAggregate && r.constructors.isEmpty
      if fs.any (·.given ≠ .byDefault) then return false
      if fs.any (·.isVirtual) then return false
      if r.hasTable && what ≠ .destroy then return false
      if what = .create && r.fields.any (·.start.isSome) then return false
      let ofBases ← r.bases.toList.allM fun b => isTrivialWithin g depth what (.record b.record)
      if !ofBases then return false
      r.fields.toList.allM fun f => isTrivialWithin g depth what f.type
    | _ => return true

def isTrivial (g : Grammar) (what : Special) (t : Ty) : Compile Bool := isTrivialWithin g typeDepth what t

end ModuleForge.Host.Native.Compile
