import ModuleForge.Power

/-!
# Types

The types of a program in C or C++, and what can be told of them without knowing its classes.
-/
namespace ModuleForge.Host.Native

/-- The languages. -/
inductive Language where
  | c
  | cpp
  deriving DecidableEq, Inhabited

namespace Language

def name : Language → String
  | c => "c"
  | cpp => "c++"

def ofName? (s : String) : Option Language := [c, cpp].find? (·.name == s)

end Language

/-- The types of numbers. -/
inductive NumberKind where
  | bool | char | schar | uchar | short | ushort | int | uint | long | ulong | llong | ullong
  | wchar | char8 | char16 | char32 | float | double | ldouble
  deriving DecidableEq, Inhabited

namespace NumberKind

def size : NumberKind → Nat
  | bool | char | schar | uchar | char8 => 1
  | short | ushort | char16 => 2
  | int | uint | wchar | char32 | float => 4
  | long | ulong | llong | ullong | double => 8
  | ldouble => 16

def isReal : NumberKind → Bool
  | float | double | ldouble => true
  | _ => false

def isSigned : NumberKind → Bool
  | char | schar | short | int | long | llong | wchar | float | double | ldouble => true
  | _ => false

/-- The letter that stands for the type in a symbol. -/
def letter : NumberKind → String
  | bool => "b" | char => "c" | schar => "a" | uchar => "h" | short => "s" | ushort => "t"
  | int => "i" | uint => "j" | long => "l" | ulong => "m" | llong => "x" | ullong => "y"
  | wchar => "w" | char8 => "Du" | char16 => "Ds" | char32 => "Di"
  | float => "f" | double => "d" | ldouble => "e"

/-- The order of types in arithmetic. -/
def rank : NumberKind → Nat
  | bool => 0
  | char | schar | uchar | char8 => 1
  | short | ushort | char16 => 2
  | int | uint | wchar | char32 => 3
  | long | ulong => 4
  | llong | ullong => 5
  | float => 6
  | double => 7
  | ldouble => 8

def asUnsigned : NumberKind → NumberKind
  | char | schar => uchar
  | short => ushort
  | int | wchar => uint
  | long => ulong
  | llong => ullong
  | k => k

def asSigned : NumberKind → NumberKind
  | char | uchar | char8 => schar
  | ushort | char16 => short
  | uint | wchar | char32 => int
  | ulong => long
  | ullong => llong
  | k => k

/-- The type in which a number takes part in arithmetic. -/
def promoted (k : NumberKind) : NumberKind :=
  match k with
  | char32 => uint
  | wchar => int
  | k => if k.rank < 3 then int else k

/-- The type in which two numbers meet. -/
def common (a b : NumberKind) : NumberKind :=
  if a.isReal || b.isReal then if a.rank < b.rank then b else a
  else
    let a := a.promoted
    let b := b.promoted
    if a.rank = b.rank then if a.isSigned then b else a
    else
      let (small, great) := if a.rank < b.rank then (a, b) else (b, a)
      if great.isSigned && !small.isSigned && small.size = great.size then great.asUnsigned else great

/-- Whether a whole number is a value of the type. -/
def holds (k : NumberKind) (n : Int) : Bool :=
  if k = .bool then n = 0 || n = 1
  else if k.isSigned then -(2 ^ (8 * k.size - 1)) ≤ n && n < 2 ^ (8 * k.size - 1)
  else 0 ≤ n && n < 2 ^ (8 * k.size)

/-- The value of the type that a whole number becomes. -/
def wrap (k : NumberKind) (n : Int) : Int :=
  if k = .bool then if n = 0 then 0 else 1
  else if k.isSigned then Int.bmod n (2 ^ (8 * k.size)) else n % 2 ^ (8 * k.size)

end NumberKind

/-- What stands behind the parameters of a function. -/
structure FunctionTraits where
  variadic : Bool := false
  isConst : Bool := false
  /-- Whether the object must be a place (1) or a passing value (2). -/
  reference : Nat := 0
  neverThrows : Bool := false
  /-- Whether nothing is said about the parameters. -/
  isOpen : Bool := false
  deriving DecidableEq, Inhabited

mutual

inductive Ty where
  | void
  | null
  /-- A type that follows from a value. -/
  | auto
  /-- A type that is not known before the arguments of a template are. -/
  | unknown
  | number (kind : NumberKind)
  | enum (id : Nat)
  | record (id : Nat)
  | pointer (target : Ty)
  /-- A reference; `passing` if only to values that are about to go. -/
  | reference (target : Ty) (passing : Bool)
  | array (of : Ty) (count : Nat)
  | openArray (of : Ty)
  /-- An array whose size in bytes is kept in a place of the frame. -/
  | sizedArray (of : Ty) (place : Nat)
  | function (result : Ty) (parameters : List Ty) (traits : FunctionTraits)
  | member (owner : Ty) (target : Ty)
  | const (t : Ty)
  /-- A parameter of a template that is to be found; it may stand for any number of types. -/
  | hole (index : Nat) (isPack : Bool)
  /-- A template with arguments among which there are holes. -/
  | applied (template : Nat) (arguments : List TypeArgument)
  /-- A parameter of a template that is a template, with arguments. -/
  | appliedHole (index : Nat) (arguments : List TypeArgument)

/-- An argument of a template. -/
inductive TypeArgument where
  | type (t : Ty)
  | value (n : Int) (t : Ty)
  /-- The address of a function or a variable. -/
  | symbol (name : String) (t : Ty)
  | template (id : Nat)
  | pack (items : List TypeArgument)
  | hole (index : Nat) (isPack : Bool)
  | unknown

end

instance : Inhabited Ty := ⟨.void⟩
instance : Inhabited TypeArgument := ⟨.unknown⟩

namespace Ty

mutual

/-- Whether two types are the same. -/
def same : Ty → Ty → Bool
  | void, void | null, null | auto, auto | unknown, unknown => true
  | number a, number b => a == b
  | enum a, enum b | record a, record b => a == b
  | pointer a, pointer b => same a b
  | reference a p, reference b q => p == q && same a b
  | array a m, array b n => m == n && same a b
  | openArray a, openArray b => same a b
  | sizedArray a m, sizedArray b n => m == n && same a b
  | function a as s, function b bs t => s.variadic == t.variadic && s.isConst == t.isConst
      && s.reference == t.reference && same a b && sameAll as bs
  | member a x, member b y => same a b && same x y
  | const a, const b => same a b
  | hole i p, hole j q => i == j && p == q
  | applied i as, applied j bs | appliedHole i as, appliedHole j bs => i == j && sameArguments as bs
  | _, _ => false

def sameAll : List Ty → List Ty → Bool
  | [], [] => true
  | a :: as, b :: bs => same a b && sameAll as bs
  | _, _ => false

def sameArgument : TypeArgument → TypeArgument → Bool
  | .type a, .type b => same a b
  | .value m a, .value n b => m == n && same a b
  | .symbol m _, .symbol n _ => m == n
  | .template a, .template b => a == b
  | .pack as, .pack bs => sameArguments as bs
  | .hole i _, .hole j _ => i == j
  | .unknown, .unknown => true
  | _, _ => false

def sameArguments : List TypeArgument → List TypeArgument → Bool
  | [], [] => true
  | a :: as, b :: bs => sameArgument a b && sameArguments as bs
  | _, _ => false

end

instance : BEq Ty := ⟨same⟩
instance : BEq TypeArgument := ⟨sameArgument⟩

mutual

/-- Whether a type has parts that are not known yet. -/
def hasHoles : Ty → Bool
  | hole .. | unknown | applied .. | appliedHole .. => true
  | pointer t | reference t _ | array t _ | openArray t | sizedArray t _ | const t => hasHoles t
  | function r ps _ => hasHoles r || anyHoles ps
  | member a b => hasHoles a || hasHoles b
  | _ => false

def anyHoles : List Ty → Bool
  | [] => false
  | t :: ts => hasHoles t || anyHoles ts

end

/-- The type of the values that a place of the type holds: without a constant around it. -/
def plain : Ty → Ty
  | const t => t
  | t => t

def isConst : Ty → Bool
  | const _ => true
  | array t _ | openArray t | sizedArray t _ => t.isConst
  | _ => false

/-- The type as a constant; the elements of a constant array are constants. -/
def asConst : Ty → Ty
  | const t => const t
  | array t n => array t.asConst n
  | openArray t => openArray t.asConst
  | reference t p => reference t p
  | function r ps s => function r ps s
  | t => const t

/-- The type behind a reference. -/
def referred : Ty → Ty
  | reference t _ => t
  | t => t

def isReference : Ty → Bool
  | reference .. => true
  | _ => false

def int : Ty := number .int
def bool : Ty := number .bool
def ulong : Ty := number .ulong
def long : Ty := number .long
def char : Ty := number .char

def kind? (t : Ty) : Option NumberKind := match t.plain with
  | number k => some k
  | _ => none

def isArithmetic (t : Ty) : Bool := t.kind?.isSome

def isInteger (t : Ty) : Bool := t.kind?.any (!·.isReal)

def isReal (t : Ty) : Bool := t.kind?.any (·.isReal)

def isPointer (t : Ty) : Bool := match t.plain with
  | pointer _ => true
  | _ => false

/-- The type that a pointer points to. -/
def pointed? (t : Ty) : Option Ty := match t.plain with
  | pointer p => some p
  | _ => none

def isFunction : Ty → Bool
  | function .. => true
  | _ => false

def isVoid (t : Ty) : Bool := match t.plain with
  | void => true
  | _ => false

def isEnum (t : Ty) : Bool := match t.plain with
  | enum _ => true
  | _ => false

def record? (t : Ty) : Option Nat := match t.plain with
  | record i => some i
  | _ => none

def isRecord (t : Ty) : Bool := t.record?.isSome

/-- The type of the elements of an array. -/
def element? (t : Ty) : Option Ty := match t.plain with
  | array e _ | openArray e | sizedArray e _ => some e
  | _ => none

def isArray (t : Ty) : Bool := t.element?.isSome

/-- Whether values are passed as numbers. -/
def isScalar (t : Ty) : Bool := match t.plain with
  | number _ | enum _ | pointer _ | null | member .. => true
  | _ => false

def isAuto : Ty → Bool
  | auto => true
  | const t | pointer t | reference t _ => t.isAuto
  | _ => false

/-- Puts a type in the place of the one that follows from a value. -/
def fill (with_ : Ty) : Ty → Ty
  | auto => with_
  | const t => (fill with_ t).asConst
  | pointer t => pointer (fill with_ t)
  | reference t passing => match fill with_ t with
    | reference u p => reference u (p && passing)
    | u => reference u passing
  | t => t

/-- A reference to a type; to a reference, it is one to what that refers to. -/
def refer (t : Ty) (passing : Bool) : Ty := match t with
  | reference u p => reference u (p && passing)
  | t => reference t passing

/-- The type that an array or a function has as a value. -/
def decayed (t : Ty) : Ty := match t with
  | array e _ | openArray e | sizedArray e _ => pointer e
  | const (array e _) | const (openArray e) => pointer e.asConst
  | function r ps s => pointer (function r ps s)
  | t => t

/-- The type of a parameter that is declared with a type. -/
def asParameter (t : Ty) : Ty := t.decayed

end Ty
end ModuleForge.Host.Native
