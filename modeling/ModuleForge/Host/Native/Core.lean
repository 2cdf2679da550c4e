import ModuleForge.Host.Native.Type

/-!
# Steps

What a function does, in small steps on numbers and addresses: values of numbers are computed,
memory is read and written, and control goes from label to label. All that a program says about
types has been worked out.
-/
namespace ModuleForge.Host.Native

/-- The forms of numbers in memory and registers. -/
inductive Scalar where
  | i8 | u8 | i16 | u16 | i32 | u32 | i64 | u64 | f32 | f64
  deriving DecidableEq, Inhabited

namespace Scalar

def size : Scalar → Nat
  | i8 | u8 => 1
  | i16 | u16 => 2
  | i32 | u32 | f32 => 4
  | i64 | u64 | f64 => 8

def isReal : Scalar → Bool
  | f32 | f64 => true
  | _ => false

def isSigned : Scalar → Bool
  | i8 | i16 | i32 | i64 => true
  | _ => false

/-- The whole number that the lower bits of a number stand for. -/
def wrap (s : Scalar) (n : Int) : Int :=
  if s.isSigned then Int.bmod n (2 ^ (8 * s.size)) else n % 2 ^ (8 * s.size)

end Scalar

/-- Operators on two numbers of one form. -/
inductive Operator where
  | add | sub | mul | div | rem | shl | shr | and | or | xor
  | lt | le | gt | ge | eq | ne
  deriving DecidableEq, Inhabited

namespace Operator

/-- Whether the result is 1 or 0. -/
def compares : Operator → Bool
  | lt | le | gt | ge | eq | ne => true
  | _ => false

def ofSign? : String → Option Operator
  | "+" => some add | "-" => some sub | "*" => some mul | "/" => some div | "%" => some rem
  | "<<" => some shl | ">>" => some shr | "&" => some and | "|" => some or | "^" => some xor
  | "<" => some lt | "<=" => some le | ">" => some gt | ">=" => some ge | "==" => some eq | "!=" => some ne
  | _ => none

end Operator

/-- Operators on one number. -/
inductive Unary where
  | negate
  | complement
  /-- How many bits are set. -/
  | ones
  /-- How many zeros there are below the lowest bit that is set. -/
  | trailing
  /-- How many zeros there are above the highest bit that is set. -/
  | leading
  /-- The bytes the other way round. -/
  | swap
  | root
  | absolute
  deriving DecidableEq, Inhabited

mutual

/-- A value that is computed. -/
inductive Core where
  /-- There is no value. -/
  | nothing
  | number (s : Scalar) (n : Int)
  /-- A number with a fraction, by its bits. -/
  | real (s : Scalar) (bits : UInt64)
  /-- The address of a place in the frame of the function. -/
  | frame (place : Nat)
  | symbol (name : String)
  | load (s : Scalar) (address : Core)
  /-- Writes a number, which is the value. -/
  | store (s : Scalar) (address value : Core)
  | unary (op : Unary) (s : Scalar) (a : Core)
  | binary (op : Operator) (s : Scalar) (a b : Core)
  | convert (source target : Scalar) (a : Core)
  | call (f : Core) (arguments : List (Scalar × Core)) (result : Scalar) (variadic : Bool)
  /-- Computes both; the second is the value. -/
  | first (a b : Core)
  /-- One of two values, by a number of four bytes. -/
  | choose (condition yes no : Core)
  /-- Copies bytes; the value is the address they are copied to. -/
  | copy (target source : Core) (size : Nat)
  | clear (target : Core) (size : Nat)
  /-- The address of a label. -/
  | label (n : Nat)
  | framePointer
  /-- Takes so many bytes from the stack; the value is their address. -/
  | reserve (size : Core)
  /-- Does steps before a value. -/
  | steps (before : List Step) (value : Core)

inductive Step where
  | value (a : Core)
  | label (n : Nat)
  | jump (n : Nat)
  /-- Goes to a label if a value is 0. -/
  | unless (condition : Core) (n : Nat)
  /-- Leaves the function, with a value. -/
  | leave (s : Scalar) (value : Core)
  /-- Control comes here from another function: the stack is set up again. -/
  | landing
  /-- Goes to an address, in the frame of another function. -/
  | leap (frame address : Core)

end

instance : Inhabited Core := ⟨.nothing⟩
instance : Inhabited Step := ⟨.landing⟩

namespace Core

def long (n : Int) : Core := number .u64 n

/-- The address that lies some bytes behind another. -/
def offset (a : Core) (n : Nat) : Core :=
  if n = 0 then a
  else match a with
    | binary .add .u64 b (number .u64 m) => binary .add .u64 b (long (m + n))
    | a => binary .add .u64 a (long n)

/-- Whether a value can be computed several times to no effect. -/
def isSimple : Core → Bool
  | nothing | number .. | real .. | frame _ | symbol _ | framePointer => true
  | binary .add .u64 a (number ..) => isSimple a
  | load _ (frame _) => true
  | _ => false

/-- Whether a number of eight bytes is not 0. -/
def isSet (a : Core) : Core := binary .ne .u64 a (long 0)

def andThen (a b : Core) : Core := match a with
  | nothing => b
  | a => first a b

end Core

/-- How a symbol is seen from other units. -/
inductive Sight where
  | hidden
  | shown
  /-- Shown, and may be there several times. -/
  | shared
  /-- May be there several times, and is only seen within its module. -/
  | sharedHidden
  deriving DecidableEq, Inhabited

/-- A function in steps. -/
structure CoreFunction where
  /-- The size and the alignment of the places in its frame. -/
  places : Array (Nat × Nat)
  /-- The places of its parameters, with their forms. -/
  parameters : List (Scalar × Nat)
  /-- The place that keeps the registers with arguments, if any number of them may be passed. -/
  kept : Option Nat := none
  body : List Step
  deriving Inhabited

/-- A variable: its bytes to start with, and the addresses that are put in. -/
structure CoreData where
  size : Nat
  alignment : Nat
  /-- The bytes that are not all 0 at the end. -/
  bytes : List UInt8 := []
  /-- Places in the bytes with the symbols and distances that make up the addresses. -/
  addresses : List (Nat × String × Nat) := []
  /-- Whether it never changes. -/
  isConstant : Bool := false
  deriving Inhabited

/-- What a unit contributes to a module. -/
structure CoreUnit where
  functions : List (String × Sight × CoreFunction) := []
  data : List (String × Sight × CoreData) := []
  /-- Other names of functions. -/
  aliases : List (String × Sight × String) := []
  /-- Functions to be run when the module is loaded, and when it is put away. -/
  first : List String := []
  last : List String := []
  /-- Names that are used, and need not be there. -/
  maybe : List String := []
  deriving Inhabited

end ModuleForge.Host.Native
