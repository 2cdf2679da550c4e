import ModuleForge.Host.Native.Core
import ModuleForge.Host.Native.Token
import Std.Data.HashMap

/-!
# Compiling

What is known while a program is read: the names in their scopes, the types, functions, variables
and templates behind them, the function whose steps are being written down, and what has been
finished. Functions and templates keep the tokens of their bodies until they are needed.
-/
namespace ModuleForge.Host.Native

/-- How a program is to be read. -/
structure Reading where
  language : Language := .cpp
  /-- The year of the language's standard. -/
  standard : Nat := 2017
  /-- Whether symbols are only seen within the module unless something else is said. -/
  hides : Bool := false
  /-- What is warned about, and whether a warning is an error. -/
  warnings : List String := []
  fatal : List String := []
  deriving Inhabited

/-- What kind of type a tag names. -/
inductive Tag where
  | structure_ | class_ | union_ | enum_
  deriving DecidableEq, Inhabited

/-- Who may use a member. -/
inductive Access where
  | everyone | heirs | itself
  deriving DecidableEq, Inhabited

/-- What stands before a declaration. -/
structure Specifiers where
  isStatic : Bool := false
  isExtern : Bool := false
  isInline : Bool := false
  isConstant : Bool := false
  isVirtual : Bool := false
  isExplicit : Bool := false
  isFriend : Bool := false
  isMutable : Bool := false
  isTypedef : Bool := false
  isWeak : Bool := false
  isHidden : Bool := false
  isShown : Bool := false
  isUnused : Bool := false
  isPacked : Bool := false
  neverReturns : Bool := false
  runsFirst : Bool := false
  runsLast : Bool := false
  alignment : Nat := 0
  /-- The symbol of a function or a variable, if it is spelled out, and the function that it is
  another name of. -/
  symbol : Option String := none
  sameAs : Option String := none
  deriving Inhabited

/-! ## Names -/

/-- What a name stands for. -/
inductive Binding where
  | variable (id : Nat)
  | function (id : Nat)
  | template (id : Nat)
  | type (t : Ty)
  | namespace_ (scope : Nat)
  | constant (n : Int) (t : Ty)
  | field (record index : Nat)
  /-- An argument of a template: one that is to be found, or a pack. -/
  | argument (a : TypeArgument)
  /-- Parameters of a function that make up a pack. -/
  | pack (parts : List Nat)
  deriving Inhabited

inductive ScopeKind where
  | namespace_ (name : String) (isInline : Bool)
  | record (id : Nat)
  | enum (id : Nat)
  | block
  | template
  deriving DecidableEq, Inhabited

structure Scope where
  parent : Option Nat := none
  kind : ScopeKind := .block
  names : Std.HashMap String (List Binding) := {}
  /-- Namespaces whose names can be used too. -/
  used : List Nat := []
  deriving Inhabited

/-! ## Things with names -/

/-- Where a variable lies. -/
inductive Location where
  /-- In the frame of a function, by the number of the function and the place. -/
  | frame (making place : Nat)
  | symbol (name : String)
  deriving DecidableEq, Inhabited

structure Variable where
  name : String
  type : Ty
  location : Location
  /-- Its value, if it is known while the program is read. -/
  constant : Option Int := none
  /-- The scope it belongs to. -/
  scope : Nat := 0
  isDefined : Bool := true
  isInline : Bool := false
  isUsed : Bool := false
  access : Access := .everyone
  /-- How it starts, for a member of a class that is shared by all objects. -/
  start : List Lexeme := []
  deriving Inhabited

structure Field where
  name : String
  type : Ty
  offset : Nat := 0
  /-- For a field of some bits: the first one, and how many there are. -/
  bits : Option (Nat × Nat) := none
  access : Access := .everyone
  isMutable : Bool := false
  /-- How it starts unless something else is said. -/
  start : Option (List Lexeme) := none
  deriving Inhabited

structure Base where
  record : Nat
  offset : Nat := 0
  access : Access := .everyone
  deriving Inhabited

/-- A class. -/
structure Record where
  name : String
  tag : Tag := .structure_
  /-- The scope of its members, and the one it was declared in. -/
  scope : Nat
  parent : Nat
  /-- The template it was made from, with the arguments. -/
  template : Option (Nat × List TypeArgument) := none
  isComplete : Bool := false
  size : Nat := 1
  alignment : Nat := 1
  /-- How many bytes its members take up, for what is put behind them. -/
  used : Nat := 0
  fields : Array Field := #[]
  bases : Array Base := #[]
  constructors : List Nat := []
  destructor : Option Nat := none
  /-- The functions that are chosen when the program runs, by their slots. -/
  virtuals : Array Nat := #[]
  hasTable : Bool := false
  /-- Whether it is put together of its members, without constructors. -/
  isAggregate : Bool := true
  isFinal : Bool := false
  /-- Whether it stands for a function that is written in place, and the place of its own fields. -/
  isClosure : Bool := false
  /-- Whether its members are being read. -/
  isStarted : Bool := false
  friends : List String := []
  /-- Whether it was defined by the program itself. -/
  isOwn : Bool := true
  deriving Inhabited

structure Enum where
  name : String
  parent : Nat
  scope : Nat
  isScoped : Bool := false
  underlying : NumberKind := .uint
  isComplete : Bool := true
  deriving Inhabited

inductive Role where
  | ordinary | constructor | destructor | conversion
  deriving DecidableEq, Inhabited

structure Parameter where
  name : Option String := none
  type : Ty
  /-- What is passed if nothing is. -/
  standard : Option (List Lexeme) := none
  /-- Whether it stands for any number of parameters. -/
  isPack : Bool := false
  deriving Inhabited

inductive Stage where
  | declared | waiting | made
  deriving DecidableEq, Inhabited

/-- What is made for a function that the program does not write down itself. -/
inductive Given where
  | written
  | byDefault
  | deleted
  | pure
  deriving DecidableEq, Inhabited

structure Function where
  name : String
  symbol : String
  result : Ty
  parameters : List Parameter
  traits : FunctionTraits := {}
  /-- The scope it was declared in. -/
  scope : Nat
  /-- The scope in which its body looks up names. -/
  inner : Nat
  owner : Option Nat := none
  role : Role := .ordinary
  given : Given := .written
  isStatic : Bool := false
  isVirtual : Bool := false
  isExplicit : Bool := false
  isConstant : Bool := false
  isInline : Bool := false
  sight : Sight := .shown
  access : Access := .everyone
  /-- The tokens of its body. -/
  body : Option (List Lexeme) := none
  stage : Stage := .declared
  /-- The template it was made from. -/
  template : Option (Nat × List TypeArgument) := none
  /-- Whether it is a constructor that was taken over from a base. -/
  isInherited : Bool := false
  /-- Its slot in the table of its class. -/
  slot : Option Nat := none
  neverReturns : Bool := false
  /-- Names of packs of parameters without members. -/
  emptyPacks : List String := []
  isOwn : Bool := true
  isUsed : Bool := false
  deriving Inhabited

/-- A parameter of a template. -/
structure TemplateParameter where
  name : Option String
  isPack : Bool := false
  /-- The tokens of the type of a value; none for a type. -/
  valueType : Option (List Lexeme) := none
  isTemplate : Bool := false
  standard : Option (List Lexeme) := none
  deriving Inhabited

inductive TemplateKind where
  | record | function | alias_ | variable
  deriving DecidableEq, Inhabited

/-- One way to write down what a template stands for. -/
structure Variant where
  parameters : Array TemplateParameter
  /-- The arguments it is for, if it is not for all. -/
  pattern : Option (List TypeArgument) := none
  scope : Nat
  tokens : List Lexeme
  deriving Inhabited

structure Template where
  name : String
  kind : TemplateKind
  main : Variant
  variants : List Variant := []
  /-- What was made of it, by the arguments. -/
  instances : List (List TypeArgument × Binding) := []
  /-- Definitions of members outside of the class: the parameters, the scope, and the tokens. -/
  members : List (Array TemplateParameter × Nat × List Lexeme) := []
  /-- The class whose member it is. -/
  owner : Option Nat := none
  access : Access := .everyone
  plainNames : Bool := false
  /-- The types of a function in terms of the parameters, once they have been read. -/
  shape : Option (Ty × List Parameter × FunctionTraits) := none
  isStatic : Bool := false
  isOwn : Bool := true
  deriving Inhabited

/-! ## Values -/

/-- Whether a value is a place that stays, one that is about to go, or no place at all. -/
inductive Category where
  | place | passing | fresh
  deriving DecidableEq, Inhabited

structure Value where
  type : Ty
  category : Category := .fresh
  /-- The address of a place, or else the number. -/
  code : Core
  /-- For a new object of a class: what makes it at an address. -/
  make : Option (Core → Core) := none
  bits : Option (Nat × Nat) := none
  constant : Option Int := none
  /-- Whether it was written as a number or a text. -/
  isLiteral : Bool := false
  /-- Whether a function in it is called as it stands, without looking at the object's table. -/
  isExact : Bool := false

instance : Inhabited Value := ⟨{ type := .void, code := .nothing }⟩

/-- Which part of an object a value is for. -/
inductive Designator where
  | field (name : String)
  | index (n upTo : Nat)
  deriving DecidableEq

inductive Operand where
  | value (v : Value)
  /-- A name that stands for several functions and templates of functions, with arguments for
  templates and the object they are called on. -/
  | functions (fs : List Nat) (templates : List Nat) (arguments : Option (List TypeArgument))
      (object : Option Value)
  | braces (items : List (List Designator × Operand))

instance : Inhabited Operand := ⟨.value default⟩

/-! ## The function that is being made -/

/-- What is done when control leaves a scope. -/
structure Cleanup where
  code : Core
  /-- The place of the handler that does it when the function is left by an exception. -/
  handler : Option Nat := none
  /-- The place that tells whether it has to be done. -/
  flag : Option Nat := none
  deriving Inhabited

/-- The alternatives of a `switch`. -/
structure Cases where
  type : Ty
  values : List (Int × Int × Nat) := []
  otherwise : Option Nat := none

/-- A name in a function that can be jumped to. -/
structure Mark where
  name : String
  label : Nat
  isPlaced : Bool := false
  /-- How many cleanups there are where it is. -/
  depth : Nat := 0
  /-- Jumps to it from places before it, with the cleanups there. -/
  sources : List (Nat × List Cleanup) := []
  deriving Inhabited

structure Making where
  id : Nat := 0
  function : Option Nat := none
  places : Array (Nat × Nat) := #[]
  steps : Array Step := #[]
  labels : Nat := 0
  cleanups : List Cleanup := []
  /-- The objects that go at the end of the expression. -/
  temporaries : List Cleanup := []
  /-- Whether what is read may be left out when the program runs. -/
  conditional : Bool := false
  result : Ty := .void
  /-- The place that holds the address for a result that is an object. -/
  resultPlace : Option Nat := none
  /-- The place that holds the address of the object, and the object's type. -/
  this : Option (Nat × Ty) := none
  leave : Option (Nat × Nat) := none
  again : Option (Nat × Nat) := none
  cases : Option Cases := none
  marks : List Mark := []
  /-- Whether only the types in what is read count. -/
  onlyTypes : Bool := false
  /-- Whether a value was returned. -/
  returned : Bool := false
  /-- Whether control reaches the current step. -/
  reached : Bool := true
  /-- The variables that were declared, for warnings. -/
  declared : List Nat := []
  /-- The place that keeps the registers with arguments, for a function that takes any number of
  them, and how many numbers, numbers with fractions, and arguments in memory have names. -/
  restPlace : Option Nat := none
  wholesNamed : Nat := 0
  realsNamed : Nat := 0
  memoryNamed : Nat := 0
  /-- The base that is being set up: it may be of a class that has no objects of its own. -/
  base : Option Nat := none
  /-- Steps that are put behind all others. -/
  late : List Step := []
  /-- The parameters that are objects of their own. -/
  objects : List Nat := []
  /-- The name of the variable that all returns name, and the variable, if it lies where the result
  does. -/
  returnedName : Option String := none
  returnedVariable : Option Nat := none
  deriving Inhabited

/-! ## The whole -/

structure Compiling where
  reading : Reading := {}
  tokens : List Lexeme := []
  scopes : Array Scope := #[{ kind := .namespace_ "" false }]
  here : Nat := 0
  variableTable : Array Variable := #[]
  functions : Array Function := #[]
  records : Array Record := #[]
  enums : Array Enum := #[]
  templates : Array Template := #[]
  /-- Functions that are finished, by their symbols. -/
  finished : Std.HashMap String CoreFunction := {}
  finishedOrder : List String := []
  data : Std.HashMap String (Sight × CoreData) := {}
  dataOrder : List String := []
  aliases : List (String × Sight × String) := []
  functionOfSymbol : Std.HashMap String Nat := {}
  /-- Functions whose bodies are still to be read. -/
  waiting : List Nat := []
  making : Making := {}
  first : List String := []
  last : List String := []
  /-- Which member of the packs is meant. -/
  packIndex : Option Nat := none
  /-- Names of the packs without members in the parameters that were read last. -/
  emptyPacks : List String := []
  /-- Whether names are those that others use too. -/
  plainNames : Bool := false
  counter : Nat := 0
  texts : Std.HashMap String String := {}
  access : Access := .everyone
  /-- Whether the text is the program's own. -/
  isOwn : Bool := false
  warnings : List String := []
  /-- How deep templates and functions are being made within each other. -/
  depth : Nat := 0
  /-- Whether the next declaration is one of a member. -/
  atMember : Bool := false
  /-- The class that the next definition of a class is for. -/
  target : Option Nat := none
  /-- Functions whose bodies are read once the class around them is known. -/
  later : List Nat := []
  /-- Functions that are kept whether they are used or not. -/
  roots : List String := []
  deriving Inhabited

abbrev Compile := StateT Compiling (Except String)

/-- A name with its type, as a declaration gives it. -/
structure Declared where
  type : Ty
  name : String := ""
  /-- The scope that stands before the name. -/
  owner : Option Nat := none
  /-- The parameters, for a function. -/
  parameters : Option (List Parameter) := none
  role : Role := .ordinary
  specifiers : Specifiers := {}
  /-- The arguments behind the name, for a template. -/
  arguments : Option (List TypeArgument) := none
  isQualified : Bool := false
  isPack : Bool := false
  deriving Inhabited

/-- The parts of the reader that call each other, however deep a program is. -/
structure Grammar where
  expression : Compile Operand
  assignment : Compile Operand
  /-- An operand with the operators and casts before it. -/
  operand : Compile Operand
  statement : Compile Unit
  declaration : Compile Unit
  /-- What stands before the names of a declaration. -/
  specifiers : Compile (Specifiers × Ty)
  declarator : Ty → Compile Declared
  typeName : Compile Ty
  /-- Reads the body of a function. -/
  makeFunction : Nat → Compile Unit
  /-- Makes the class, function or variable of a template with arguments. -/
  instantiate : Nat → List TypeArgument → Compile Binding
  /-- Knows the members of a class. -/
  complete : Nat → Compile Unit
  /-- Steps that make an object of a type at an address: the number tells whether arguments are in
  parentheses (0), the one argument is a list in braces (1), or it stands behind an equals sign
  (2). -/
  construct : Ty → Core → Nat → List Operand → Compile Core
  /-- A value as a value of a type; whether conversions that are asked for in so many words
  count. -/
  convert : Operand → Ty → Bool → Compile Value
  /-- How far a value is from a type; the last argument tells whether conversions that classes
  define count. -/
  distance : Operand → Ty → Bool → Compile (Option (List Nat))
  /-- The best of some functions and templates for arguments; the last argument tells whether
  conversions that classes define count. -/
  select : List Nat → List Nat → Option (List TypeArgument) → Option Value → List Operand → Bool →
    Compile (Option Nat)
  callFunctions : List Nat → List Nat → Option (List TypeArgument) → Option Value → List Operand → String →
    Compile Operand
  classBody : Nat → Compile Unit

instance : Inhabited Grammar where
  default :=
    let no {α : Type} : Compile α := throw "program is nested too deeply"
    { expression := no, assignment := no, operand := no, statement := no, declaration := no
      specifiers := no, declarator := fun _ => no, typeName := no, makeFunction := fun _ => no
      instantiate := fun _ _ => no, complete := fun _ => no, construct := fun _ _ _ _ => no
      select := fun _ _ _ _ _ _ => no
      convert := fun _ _ _ => no, distance := fun _ _ _ => no
      callFunctions := fun _ _ _ _ _ _ => no, classBody := fun _ => no }

end ModuleForge.Host.Native
