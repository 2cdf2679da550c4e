import ModuleForge.Host.Native.Lookup
import ModuleForge.Host.Native.Symbol

/-!
# Types as they are written

Reads what stands before the names of a declaration, and the names with the signs around them that
make pointers, arrays and functions of a type.
-/
namespace ModuleForge.Host.Native.Compile

/-! ## Attributes -/

/-- What an attribute says about a declaration. -/
def applyAttribute (specs : Specifiers) (name : String) (inner : List Lexeme) : Compile Specifiers := do
  let name := if name.startsWith "__" && name.endsWith "__" then
    String.ofList ((name.toList.drop 2).dropLast.dropLast) else name
  match name with
  | "weak" => return { specs with isWeak := true }
  | "visibility" => match Lexeme.tokens inner with
    | [.text "" kind] =>
      return if kind == "hidden" || kind == "internal" then { specs with isHidden := true }
        else { specs with isShown := true }
    | _ => fail "visibility attribute takes a string"
  | "unused" | "maybe_unused" | "used" => return { specs with isUnused := true }
  | "packed" => return { specs with isPacked := true }
  | "noreturn" => return { specs with neverReturns := true }
  | "constructor" => return { specs with runsFirst := true }
  | "destructor" => return { specs with runsLast := true }
  | "alias" => match Lexeme.tokens inner with
    | [.text "" target] => return { specs with sameAs := some target }
    | _ => fail "alias attribute takes a string"
  | "aligned" => match Lexeme.tokens inner with
    | [.number n] => return { specs with alignment := max specs.alignment ((n.toNat?).getD 16) }
    | _ => return { specs with alignment := max specs.alignment 16 }
  | _ => return specs

/-- Reads the attributes of a list. -/
def attributeList (g : Grammar) : Nat → Specifiers → Compile Specifiers
  | 0, specs => return specs
  | fuel + 1, specs => do
    match ← peek with
    | .word w =>
      advance
      let w ← if ← acceptSign "::" then
          match ← peek with
          | .word v => advance; pure v
          | _ => fail "expected an attribute"
        else pure w
      let inner ← if ← acceptSign "(" then takeInside else pure []
      let _ ← acceptSign "..."
      let specs ← applyAttribute specs w inner
      let _ ← acceptSign ","
      attributeList g fuel specs
    | .sign "," => advance; attributeList g fuel specs
    | _ => return specs

/-- Reads the attributes that stand here. -/
def attributes (g : Grammar) : Nat → Specifiers → Compile Specifiers
  | 0, specs => return specs
  | fuel + 1, specs => do
    if ← acceptWords ["__attribute__", "__attribute"] then
      expectSign "("
      expectSign "("
      let specs ← attributeList g 64 specs
      expectSign ")"
      expectSign ")"
      attributes g fuel specs
    else if (← isSign "[") && (← ahead 1) == .sign "[" then
      advance; advance
      if ← acceptWord "using" then
        let _ ← expectName
        expectSign ":"
      let specs ← attributeList g 64 specs
      expectSign "]"
      expectSign "]"
      attributes g fuel specs
    else if (← isWord "alignas") || (← isWord "_Alignas") then
      advance
      expectSign "("
      let inner ← takeInside
      let n ← match ← attempt (reading inner g.typeName) with
        | some t => pure (← layout g t).2
        | none => do
          let (n, _) ← constantOf g (← reading inner g.assignment)
          pure n.toNat
      if n ≠ 0 && n.log2 ≠ (n - 1).log2 + 1 && n ≠ 1 then fail "requested alignment is not a power of 2"
      attributes g fuel { specs with alignment := max specs.alignment n }
    else if ← acceptWords ["__extension__", "_Noreturn"] then attributes g fuel specs
    else return specs

/-- Reads and forgets attributes. -/
def skipAttributes (g : Grammar) : Compile Unit := do let _ ← attributes g 16 {}

/-! ## Numbers -/

/-- The words of a number's type that were read. -/
structure NumberWords where
  base : Option String := none
  isSigned : Bool := false
  isUnsigned : Bool := false
  isShort : Bool := false
  longs : Nat := 0

def NumberWords.isEmpty (w : NumberWords) : Bool :=
  w.base.isNone && !w.isSigned && !w.isUnsigned && !w.isShort && w.longs = 0

/-- The type that the words name together, if they do. -/
def NumberWords.kind? (w : NumberWords) : Option NumberKind :=
  if (w.isSigned && w.isUnsigned) || (w.isShort && 0 < w.longs) || 2 < w.longs then none
  else
    let bare := !w.isSigned && !w.isUnsigned && !w.isShort && w.longs = 0
    match w.base with
    | none | some "int" =>
      let k : NumberKind := if w.isShort then .short else if w.longs = 1 then .long
        else if w.longs = 2 then .llong else .int
      some (if w.isUnsigned then k.asUnsigned else k)
    | some "char" =>
      if w.isShort || 0 < w.longs then none
      else some (if w.isUnsigned then .uchar else if w.isSigned then .schar else .char)
    | some "double" =>
      if w.isSigned || w.isUnsigned || w.isShort || 1 < w.longs then none
      else some (if w.longs = 1 then .ldouble else .double)
    | some "float" => if bare then some .float else none
    | some "bool" => if bare then some .bool else none
    | some "wchar_t" => if bare then some .wchar else none
    | some "char8_t" => if bare then some .char8 else none
    | some "char16_t" => if bare then some .char16 else none
    | some "char32_t" => if bare then some .char32 else none
    | some _ => none

/-- Takes up a word of a number's type. -/
def NumberWords.add? (w : NumberWords) (word : String) : Option NumberWords :=
  let base (b : String) : Option NumberWords := if w.base.isSome then none else some { w with base := some b }
  match word with
  | "signed" | "__signed__" => some { w with isSigned := true }
  | "unsigned" => some { w with isUnsigned := true }
  | "short" => if w.isShort then none else some { w with isShort := true }
  | "long" => some { w with longs := w.longs + 1 }
  | "_Bool" => base "bool"
  | "int" | "char" | "double" | "float" | "bool" | "wchar_t" | "char8_t" | "char16_t" | "char32_t" => base word
  | _ => none

def numberWords (reading : Reading) : List String :=
  ["signed", "__signed__", "unsigned", "short", "long", "int", "char", "double", "float"] ++
    match reading.language with
    | .c => ["_Bool"]
    | .cpp => ["bool", "wchar_t"] ++ (if 2011 ≤ reading.standard then ["char16_t", "char32_t"] else [])
        ++ (if 2020 ≤ reading.standard then ["char8_t"] else [])

/-! ## Tags -/

def tagOf? : String → Option Tag
  | "struct" => some .structure_
  | "class" => some .class_
  | "union" => some .union_
  | _ => none

/-- The innermost scope around this one that is no class and no scope of a template. -/
def outerScope : Nat → Nat → Compile Nat
  | 0, id => return id
  | fuel + 1, id => do
    let s ← scope id
    match s.kind, s.parent with
    | .record _, some p | .template, some p => outerScope fuel p
    | _, _ => return id

/-- The scope that a declaration here belongs to: not one of a template. -/
def declaringScope : Compile Nat := do
  let s ← get
  let rec go : Nat → Nat → Compile Nat
    | 0, id => return id
    | fuel + 1, id => do
      let c ← scope id
      match c.kind, c.parent with
      | .template, some p => go fuel p
      | _, _ => return id
  go scopeDepth s.here

/-- Binds the name of a class or an enumeration. -/
def bindTag (id : Nat) (name : String) (t : Ty) : Compile Unit := do
  bindIn id (tagName name) (.type t)
  if ← isCpp then
    let others := (← scope id).names[name]?.getD []
    -- the name of a function or a variable hides that of a class
    if !(others.any fun b => !isType b) then
      modify fun s => { s with scopes := s.scopes.modify id fun c =>
        { c with names := c.names.insert name (.type t :: others) } }
    else modify fun s => { s with scopes := s.scopes.modify id fun c =>
        { c with names := c.names.insert name (others ++ [.type t]) } }

/-- A new class without members. -/
def newRecord (name : String) (tag : Tag) (parent : Nat) : Compile Nat := do
  let inner ← newScope (.record 0) parent
  let id ← addRecord { name, tag, scope := inner, parent }
  modify fun s => { s with scopes := s.scopes.modify inner fun c => { c with kind := .record id } }
  return id

/-- The name of something without a name. -/
def namelessName : Compile String := return "." ++ toString (← fresh)

/-- Reads a class behind its tag. -/
def classType (g : Grammar) (tag : Tag) : Compile Ty := do
  let specs ← attributes g 16 {}
  let q ← qualifier g
  let name? ← peekName?
  if name?.isSome then advance
  let arguments ← if name?.isSome && (← isSign "<") && (← isCpp) then
      advance
      pure (some (← templateArguments g))
    else pure none
  let nextIsFinal ← isWord "final"
  let behind ← ahead 1
  let hasBody := (← isSign "\x7b") || ((← isSign ":") && name?.isSome)
    || (nextIsFinal && (behind == .sign "\x7b" || behind == .sign ":"))
  -- without classes as scopes, what is declared in one belongs to the scope around it
  let here ← if ← isCpp then pure (← get).here else outerScope scopeDepth (← get).here
  let home ← match q.bind (·.scope) with
    | some id => pure id
    | none => pure here
  if hasBody then
    let isFinal ← acceptWord "final"
    let id ← match (← get).target with
      | some id =>
        modify fun s => { s with target := none }
        pure id
      | none =>
        if arguments.isSome then fail "explicit specialization is not allowed here"
        match name? with
        | none => newRecord (← namelessName) tag here
        | some name =>
          let own := (← scope home).names[tagName name]?.getD []
          match typeOf? own with
          | some (.record id) =>
            if (← getRecord id).isComplete then fail ("redefinition of '" ++ name ++ "'")
            pure id
          | some _ => fail ("'" ++ name ++ "' was declared as another kind of type")
          | none =>
            if q.isSome then fail ("'" ++ name ++ "' is not declared in that scope")
            let id ← newRecord name tag home
            bindTag home name (.record id)
            pure id
    changeRecord id fun r => { r with tag, isFinal, alignment := max r.alignment specs.alignment }
    let before := (← get).atMember
    modify fun s => { s with atMember := false }
    g.classBody id
    modify fun s => { s with atMember := before }
    let late ← attributes g 16 {}
    let size ← pure (← getRecord id).size
    let alignment := max (max late.alignment specs.alignment) (← getRecord id).alignment
    let isPacked := late.isPacked || specs.isPacked
    if isPacked then
      -- the members follow each other without gaps
      let r ← getRecord id
      let mut at_ := 0
      let mut fields : Array Field := #[]
      for f in r.fields do
        let n ← sizeOf g f.type
        fields := fields.push { f with offset := if r.tag = .union_ then 0 else at_ }
        at_ := if r.tag = .union_ then max at_ n else at_ + n
      let alignment := max 1 (max late.alignment specs.alignment)
      let total := (at_ + alignment - 1) / alignment * alignment
      changeRecord id fun r => { r with fields, size := total, alignment }
    else if alignment ≠ (← getRecord id).alignment then
      changeRecord id fun r => { r with alignment, size := (size + alignment - 1) / alignment * alignment }
    return .record id
  else match name? with
    | none => fail "expected a name or a body behind the tag of a class"
    | some name =>
      match arguments with
      | some as =>
        match ← templateOf? (← find g q name) with
        | some id => match ← applyTemplate g id as with
          | .type t => return t
          | _ => fail ("'" ++ name ++ "' is not a class template")
        | none => fail ("'" ++ name ++ "' is not a class template")
      | none =>
        let isAlone ← isSign ";"
        let found ← if isAlone && q.isNone then pure ((← scope here).names[tagName name]?.getD [])
          else match q with
          | none => firstFound g (tagName name) (← outwards scopeDepth here)
          | some q => find g (some q) (tagName name)
        match typeOf? found with
        | some (.record id) =>
          if ((← getRecord id).tag == .union_) != (tag == .union_) then
            fail ("'" ++ name ++ "' was declared with another tag")
          return .record id
        | some (.enum _) => fail ("'" ++ name ++ "' was declared as another kind of type")
        | some t => return t
        | none =>
          -- the name of a class may also be known without a tag
          match typeOf? (← find g q name) with
          | some (.record id) => if !isAlone || q.isSome then return .record id
          | some (.hole i p) => return .hole i p
          | some .unknown => return .unknown
          | _ => pure ()
          if q.isSome then fail ("'" ++ name ++ "' is not declared in that scope")
          let home ← if isAlone then pure here else outerScope scopeDepth here
          let id ← newRecord name tag home
          bindTag home name (.record id)
          return .record id

/-- The type that holds all values of an enumeration. -/
def enumKind (isCpp : Bool) (values : List Int) : NumberKind :=
  let fits (k : NumberKind) : Bool := values.all k.holds
  let _ := isCpp
  if fits .uint then .uint
  else if fits .int then .int
  else if fits .ulong then .ulong
  else .long

/-- Reads the items of an enumeration, each with the value after the last one unless it has its
own. -/
def enumItems (g : Grammar) (id home : Nat) (fixed : Bool) : Nat → Int → List Int → Compile (List Int)
  | 0, _, values => return values
  | fuel + 1, next, values => do
    if ← isSign "\x7d" then return values
    let name ← expectName
    skipAttributes g
    let n ← if ← acceptSign "=" then
        let (n, _) ← constantOf g (← g.assignment)
        pure n
      else pure next
    let e ← getEnum id
    if fixed && !e.underlying.holds n then fail "enumerator value is outside the range of the underlying type"
    let target := if e.isScoped then e.scope else home
    let own := (← scope target).names[name]?.getD []
    if own.any (fun b => !isType b) then fail ("redeclaration of '" ++ name ++ "'")
    let t : Ty := if ← isCpp then .enum id else .int
    bindIn target name (.constant n t)
    if !e.isScoped then bindIn e.scope name (.constant n t)
    if ← acceptSign "," then enumItems g id home fixed fuel (n + 1) (n :: values)
    else return n :: values

/-- Reads an enumeration behind its tag. -/
def enumType (g : Grammar) : Compile Ty := do
  let isScoped ← acceptWords ["class", "struct"]
  skipAttributes g
  let q ← qualifier g
  let name? ← peekName?
  if name?.isSome then advance
  let here ← if ← isCpp then pure (← get).here else outerScope scopeDepth (← get).here
  let home := (q.bind (·.scope)).getD here
  let underlying ← if (← isSign ":") && (← isCpp) then
      advance
      let (_, t) ← g.specifiers
      match t.plain with
      | .number k => if k.isReal then fail "underlying type must be an integral type" else pure (some k)
      | .enum e => pure (some (← getEnum e).underlying)
      | _ => fail "underlying type must be an integral type"
    else pure none
  let declare (isComplete : Bool) : Compile Nat := do
    let name ← match name? with
      | some name => pure name
      | none => namelessName
    let inner ← newScope (.enum 0) home
    let id ← addEnum { name, parent := home, scope := inner, isScoped, isComplete
                       underlying := underlying.getD (if isScoped then .int else .uint) }
    modify fun s => { s with scopes := s.scopes.modify inner fun c => { c with kind := .enum id } }
    bindTag home name (.enum id)
    return id
  let known ← match name? with
    | none => pure none
    | some name => pure (typeOf? ((← scope home).names[tagName name]?.getD []))
  if ← acceptSign "\x7b" then
    let id ← match known with
      | some (.enum id) =>
        if (← getEnum id).isComplete && !(← scope (← getEnum id).scope).names.isEmpty then fail "multiple definition of enumeration"
        pure id
      | some _ => fail "redefinition of an enumeration"
      | none => declare true
    let fixed := underlying.isSome || isScoped
    if fixed && underlying.isNone then
      modify fun s => { s with enums := s.enums.modify id fun e => { e with underlying := .int } }
    let values ← enumItems g id home fixed 100000 0 []
    expectSign "\x7d"
    skipAttributes g
    modify fun s => { s with enums := s.enums.modify id fun e => { e with
      isComplete := true
      underlying := if fixed then e.underlying else enumKind true values } }
    return .enum id
  else match name? with
    | none => fail "expected a name or a body behind 'enum'"
    | some name =>
      match known with
      | some (.enum id) => return .enum id
      | _ =>
        if underlying.isSome || isScoped then return .enum (← declare true)
        match typeOf? (← firstFound g (tagName name) (← outwards scopeDepth here)) with
        | some (.enum id) => return .enum id
        | _ =>
          if ← isCpp then fail ("use of enum '" ++ name ++ "' without previous declaration")
          return .enum (← declare false)

/-! ## Specifiers -/

/-- What was read before a name. -/
structure Before where
  specs : Specifiers := {}
  words : NumberWords := {}
  type : Option Ty := none
  isConst : Bool := false
  isAny : Bool := false

/-- The word of a specifier that is no type. -/
def specifierWord (s : Specifiers) (isCpp : Bool) (standard : Nat) (w : String) : Option Specifiers :=
  match w with
  | "static" => some { s with isStatic := true }
  | "extern" => some { s with isExtern := true }
  | "inline" | "__inline" | "__inline__" => some { s with isInline := true }
  | "typedef" => some { s with isTypedef := true }
  | "register" | "__extension__" | "volatile" | "__volatile__" | "__volatile" | "__thread" | "_Thread_local" | "__restrict"
  | "__restrict__" => some s
  | "restrict" => if isCpp then none else some s
  | "_Noreturn" => if isCpp then none else some { s with neverReturns := true }
  | _ =>
    if !isCpp then none
    else match w with
      | "virtual" => some { s with isVirtual := true }
      | "explicit" => some { s with isExplicit := true }
      | "friend" => some { s with isFriend := true }
      | "mutable" => some { s with isMutable := true }
      | "constexpr" => if 2011 ≤ standard then some { s with isConstant := true } else none
      | "consteval" => if 2020 ≤ standard then some { s with isConstant := true } else none
      | "constinit" => if 2020 ≤ standard then some s else none
      | "thread_local" => if 2011 ≤ standard then some s else none
      | _ => none

/-- Whether a name at the start of a declaration is that of the constructor, or stands before such a
name. -/
def namesConstructor (g : Grammar) : Compile Bool := do
  if !(← isCpp) then return false
  let s ← get
  let own : Compile Bool := do
    match (← scope (← declaringScope)).kind, ← peek with
    | .record id, .word w =>
      let r ← getRecord id
      if !s.atMember || r.name ≠ w then return false
      return (← ahead 1) == .sign "("
    | _, _ => return false
  if ← own then return true
  -- behind the name of a class
  let found ← probe (do
    match ← qualifier g with
    | some { type := some (.record id), .. } =>
      let r ← getRecord id
      match ← peek with
      | .sign "~" => return true
      | .word "operator" => return true
      | .word w => return w == r.name && (← ahead 1) == .sign "("
      | _ => return false
    | _ => return false)
  return found.getD false

/-- A name as a type, if it is one. -/
def namedType? (g : Grammar) : Compile (Option Ty) := do
  let start ← get
  let q ← qualifier g
  let _ ← acceptWord "template"
  match ← peekName? with
  | none => set start; return none
  | some w =>
    if q.any (·.isUnknown) then
      advance
      if ← acceptSign "<" then skipArguments
      return some .unknown
    let bs ← find g q w
    if (← ahead 1) == .sign "<" && (← isCpp) then
      let templates := bs.filter isTemplate
      let isHole := bs.findSome? fun
        | .argument (.hole i p) => some (i, p)
        | _ => none
      match isHole, ← templateOf? bs with
      | some (i, _), _ =>
        advance; advance
        return some (.appliedHole i (← templateArguments g))
      | none, some id =>
        if (← getTemplate id).kind = .function || (← getTemplate id).kind = .variable then
          set start; return none
        let _ := templates
        advance; advance
        match ← applyTemplate g id (← templateArguments g) with
        | .type t => return some t
        | _ => set start; return none
      | none, none => set start; return none
    else match typeOf? bs with
      | some t => advance; return some t
      | none =>
        -- the arguments of a template may follow from how an object starts
        match bs with
        | [.template id] =>
          let t ← getTemplate id
          if t.kind = .record && (← isCpp) && 2017 ≤ (← get).reading.standard then
            advance
            return some (.applied id [])
          else set start; return none
        | _ => set start; return none

/-- Goes on reading what stands before names. -/
def specifiersWithin (g : Grammar) : Nat → Before → Compile Before
  | 0, b => return b
  | fuel + 1, b => do
    let s ← get
    let isCpp := s.reading.language = .cpp
    match ← peek with
    | .sign "[" =>
      if (← ahead 1) == .sign "[" then
        specifiersWithin g fuel { b with specs := ← attributes g 16 b.specs }
      else return b
    | .sign "::" =>
      if b.type.isSome || !b.words.isEmpty || (← namesConstructor g) then return b
      match ← namedType? g with
      | some t => specifiersWithin g fuel { b with type := some t, isAny := true }
      | none => return b
    | .word w =>
      let setType (t : Ty) : Compile Before := do
        if b.type.isSome || !b.words.isEmpty then fail "two or more data types in declaration"
        specifiersWithin g fuel { b with type := some t, isAny := true }
      if w == "const" || w == "__const" then
        advance
        specifiersWithin g fuel { b with isConst := true, isAny := true }
      else if w == "__attribute__" || w == "alignas" || w == "_Alignas" || w == "__attribute" then
        specifiersWithin g fuel { b with specs := ← attributes g 16 b.specs }
      else if let some specs := specifierWord b.specs isCpp s.reading.standard w then
        advance
        if w == "explicit" && (← isSign "(") then
          advance
          let inner ← takeInside
          let (n, _) ← constantOf g (← reading inner g.assignment)
          specifiersWithin g fuel { b with specs := { specs with isExplicit := n ≠ 0 }, isAny := true }
        else specifiersWithin g fuel { b with specs, isAny := true }
      else if (numberWords s.reading).contains w then
        if b.type.isSome then fail "two or more data types in declaration"
        match b.words.add? w with
        | none => fail "two or more data types in declaration"
        | some words =>
          advance
          specifiersWithin g fuel { b with words, isAny := true }
      else if w == "void" then advance; setType .void
      else if w == "auto" || w == "__auto_type" then
        advance
        if isCpp && 2011 ≤ s.reading.standard then setType .auto
        else if w == "__auto_type" then setType .auto
        else specifiersWithin g fuel { b with isAny := true }
      else if let some tag := tagOf? w then
        if w == "class" && !isCpp then return b
        advance
        setType (← classType g tag)
      else if w == "enum" then advance; setType (← enumType g)
      else if w == "typename" && isCpp then
        advance
        match ← namedType? g with
        | some t => setType t
        | none => fail "expected a type behind 'typename'"
      else if (w == "decltype" && isCpp && 2011 ≤ s.reading.standard) || w == "typeof" || w == "__typeof__" || w == "__typeof" then
        advance
        expectSign "("
        let inner ← takeInside
        match Lexeme.tokens inner with
        | [.word "auto"] => setType .auto
        | _ =>
          let asType ← if w == "decltype" then pure none else attempt (reading inner g.typeName)
          match asType with
          | some t => setType t
          | none =>
            if ← mentionsHole g inner then setType .unknown
            else
              -- behind the parenthesis there may be a scope
              let isName := match Lexeme.tokens inner with
                | [.word _] => true
                | ts => (match ts.getLast? with
                    | some (.word _) => true
                    | _ => false) && ts.all fun
                    | .word _ | .sign "." | .sign "->" | .sign "::" => true
                    | _ => false
              let o ← typesOnly (reading inner g.expression)
              let t : Ty ← match o with
                | .value v =>
                  let t := v.type
                  if w ≠ "decltype" then pure t.plain
                  else if isName then
                    match Lexeme.tokens inner with
                    | [.word x] => match ← lookup g x with
                      | .variable id :: _ => pure (← getVariable id).type
                      | .field r i :: _ => pure ((← getRecord r).fields[i]?.map (·.type)).get!
                      | _ => pure t
                    | _ => pure t
                  else match v.category with
                    | .place => pure (t.refer false)
                    | .passing => pure (t.refer true)
                    | .fresh => pure t.plain
                | .functions [f] [] _ none =>
                  let f ← getFunction f
                  pure (.function f.result (f.parameters.map (·.type)) f.traits)
                | _ => fail "the type of the expression is not known"
              match ← peek with
              | .sign "::" =>
                advance
                match ← scopeOf? g [.type t] with
                | some q =>
                  let name ← expectName
                  match typeOf? (← find g (some q) name) with
                  | some t => setType t
                  | none => fail ("'" ++ name ++ "' does not name a type")
                | none => fail "not a class"
              | _ => setType t
      else if w == "__underlying_type" then
        advance
        expectSign "("
        let t ← g.typeName
        expectSign ")"
        match t.plain with
        | .enum id => setType (.number (← getEnum id).underlying)
        | t => if t.hasHoles then setType .unknown else fail "not an enumeration type"
      else if isKeyword s.reading w then return b
      else if b.type.isSome || !b.words.isEmpty then return b
      else if (w == "__int128" || w == "__int128_t") then advance; setType (.number .llong)
      else if ← namesConstructor g then return b
      else
        modify fun s => { s with atMember := false }
        match ← namedType? g with
        | some t => setType t
        | none => return b
    | _ => return b

/-- Reads what stands before the names of a declaration; the type is unknown if there is none. -/
def specifiers (g : Grammar) : Compile (Specifiers × Ty) := do
  let b ← specifiersWithin g 64 {}
  modify fun s => { s with atMember := false }
  let t ← match b.type with
    | some t => pure t
    | none =>
      if !b.words.isEmpty then
        match b.words.kind? with
        | some k => pure (.number k)
        | none => fail "the words for the type do not go together"
      else if b.isAny && !(← isCpp) then
        -- a number is meant where no type is given
        let isDeclarator := match ← peek with
          | .word _ => true
          | .sign "*" => true
          | _ => false
        pure (if isDeclarator then .int else .unknown)
      else pure .unknown
  return (b.specs, if b.isConst then t.asConst else t)

/-- Whether a declaration or a type starts here. -/
def startsType (g : Grammar) : Compile Bool := do
  match ← peek with
  | .word w =>
    let s ← get
    if isKeyword s.reading w then
      return (numberWords s.reading).contains w || (tagOf? w).isSome
        || ["const", "void", "auto", "enum", "typename", "decltype", "typeof", "__typeof__", "volatile", "static",
          "extern", "inline", "typedef", "register", "constexpr", "consteval", "constinit", "thread_local", "_Thread_local", "mutable", "virtual",
          "explicit", "friend", "alignas", "_Alignas", "_Noreturn", "__attribute__", "__extension__"].contains w
    else if ["__const", "__inline", "__inline__", "__thread", "__typeof", "__int128", "__auto_type",
        "__underlying_type", "__volatile__", "__signed__", "__attribute"].contains w then return true
    else return (← probe (do
      match ← namedType? g with
      | some _ => return ()
      | none => fail "no type")).isSome
  | .sign "::" => return (← probe (do
      match ← namedType? g with
      | some _ => return ()
      | none => fail "no type")).isSome
  | .sign "[" => return (← ahead 1) == .sign "["
  | _ => return false

/-! ## Declarators -/

/-- A template that stands for arrays whose size is to be found. -/
def arrayPattern : Nat := 1000000

/-- What stands behind the parameters of a function. -/
def functionTraits (g : Grammar) : Nat → FunctionTraits → Compile FunctionTraits
  | 0, t => return t
  | fuel + 1, t => do
    if ← acceptWord "const" then functionTraits g fuel { t with isConst := true }
    else if ← acceptWord "volatile" then functionTraits g fuel t
    else if ← acceptSign "&" then functionTraits g fuel { t with reference := 1 }
    else if ← acceptSign "&&" then functionTraits g fuel { t with reference := 2 }
    else if ← acceptWord "noexcept" then
      if ← acceptSign "(" then
        let inner ← takeInside
        let isFalse : Bool := match Lexeme.tokens inner with
          | [.word "false"] => true
          | _ => false
        functionTraits g fuel { t with neverThrows := !isFalse }
      else functionTraits g fuel { t with neverThrows := true }
    else if (← isWord "throw") && (← ahead 1) == .sign "(" then
      advance; advance
      let inner ← takeInside
      functionTraits g fuel { t with neverThrows := inner.isEmpty }
    else return t

/-- A parameter, whose tokens are all there are. -/
def parameter (g : Grammar) : Compile Parameter := do
  let written := (← get).tokens
  let (specs, base) ← g.specifiers
  if base == .unknown && !(← isSign "...") then
    let left := (← get).tokens.length
    if left ≤ 1 && !(left < written.length && (← mentionsHole g written)) then fail "expected a type for a parameter"
  let d ← g.declarator base
  skipAttributes g
  if specs.isStatic || specs.isExtern || specs.isTypedef then fail "storage class specified for parameter"
  let standard ← if ← acceptSign "=" then
      let ts := (← get).tokens
      setTokens []
      if ts.isEmpty then fail "expected a default argument"
      pure (some ts)
    else pure none
  match (← get).tokens with
  | [] => pure ()
  | t :: _ => fail ("expected ',' or '...' before '" ++ t.token.write ++ "'")
  if d.type.isVoid then fail "parameter has type void"
  return { name := if d.name == "" then none else some d.name, type := d.type.asParameter, standard, isPack := d.isPack }

/-- The parameters of a function, behind the opening parenthesis. -/
def parameterList (g : Grammar) : Compile (List Parameter × FunctionTraits) := do
  let inner ← takeInside
  match Lexeme.tokens inner with
  | [] => return ([], { isOpen := !(← isCpp) })
  | [.word "void"] => return ([], {})
  | _ =>
    let slices := splitCommas (← isCpp) (inner.length + 1) inner
    if !(← isCpp) then
      -- names alone, whose types come behind
      let names ← slices.filterMapM fun ts => match Lexeme.tokens ts with
        | [.word w] => do
          let isType := isKeyword (← get).reading w || (typeOf? (← lookup g w)).isSome
          return if isType then none else some w
        | _ => return none
      if names.length = slices.length then
        return (names.map fun w => { name := some w, type := .int }, { isOpen := true })
    let isDots (ts : List Lexeme) : Bool := ts.length = 1 && ts.all (·.isSign "...")
    let last := slices.getLastD []
    let endsWithDots := 1 < last.length && last.getLast?.any (·.isSign "...")
    let (slices, variadic) :=
      if isDots last then (slices.dropLast, true)
      else (slices, false)
    let read ← slices.mapM fun ts => do
      let front := (Lexeme.upTo (·.isSign "=") false 0 0 [] ts).1
      let hasDots := front.any (·.isSign "...")
      -- the dots may lie within the arguments of a template or among the parameters of a function
      let whole ← if hasDots then attempt (reading ts (parameter g)) else pure none
      match whole.filter fun p => !p.isPack with
      | some p => return ([p], [])
      | none =>
        if hasDots then
          match ← packLength? g front with
          | some _ =>
            let ps ← forPack g front (reading ts (parameter g))
            -- no member of the pack is left out, so that the pack is known by its name
            return (ps.map fun p => { p with isPack := true },
              if ps.isEmpty then (Lexeme.words front).head?.toList else [])
          | none => return ([← reading ts (parameter g)], [])
        else if endsWithDots && ts.length = 0 then return ([], [])
        else return ([← reading ts (parameter g)], [])
    modify fun s => { s with emptyPacks := (read.map (·.2)).flatten }
    return ((read.map (·.1)).flatten, { variadic })

/-- Names the parameters in a scope, for their types only. -/
def bindParameters (ps : List Parameter) : Compile Unit := do
  let mut packs : List (String × List Nat) := []
  for p in ps do
    if let some name := p.name then
      let id ← addVariable { name, type := p.type, location := .symbol "", isUsed := true, scope := (← get).here }
      if p.isPack then
        let before := (packs.lookup name).getD []
        packs := (name, before ++ [id]) :: packs.filter (·.1 ≠ name)
      else bind name (.variable id)
  for (name, ids) in packs do
    bind name (.pack ids)

/-- Whether a parameter for each type of a pack starts here, and not a value for each value of
one. -/
def startsTypePack (g : Grammar) : Compile Bool := do
  let first := (Lexeme.upTo (fun t => t.isSign "," || t.isSign ")") true 0 0 [] (← get).tokens).1
  if !(first.any (·.isSign "...")) then return false
  let names := Lexeme.words first
  let isValues ← names.anyM fun w => do
    return (← find g none w).any fun
      | .pack _ => true
      | _ => false
  return !isValues

/-- Whether what stands in parentheses here are the parameters of a function. -/
def startsParameters (g : Grammar) : Compile Bool := do
  match ← ahead 1 with
  | .sign ")" => return true
  | .sign "..." => return true
  | _ =>
    if !(← isCpp) then return true
    let found ← probe (do
      advance
      if !(← startsType g) && !(← startsTypePack g) then fail "no parameters"
      let _ ← parameterList g)
    return found.isSome

/-- What follows the name of a declaration: sizes of arrays and parameters of functions. -/
def suffix (g : Grammar) (isNamed : Bool) : Nat → Ty → Compile (Ty × Option (List Parameter) × Specifiers)
  | 0, t => return (t, none, {})
  | fuel + 1, t => do
    if (← isSign "[") && (← ahead 1) != .sign "[" then
      advance
      let inner ← takeInside
      let inner := inner.filter fun t => t.token != .word "static" && t.token != .word "restrict" && t.token != .word "const"
      let (element, _, _) ← suffix g false fuel t
      if element.isVoid then fail "declaration of array of voids"
      if element.isFunction then fail "declaration of array of functions"
      if element.isReference then fail "declaration of array of references"
      match inner with
      | [] => return (.openArray element, none, {})
      | _ =>
        let isStar := inner.length = 1 && inner.all (·.isSign "*")
        if isStar then return (.openArray element, none, {})
        let isDependent ← mentionsHole g inner
        if isDependent then
          let a ← oneArgument g inner
          return (.applied arrayPattern [.type element, a], none, {})
        let o ← reading inner g.assignment
        match ← attempt (constantOf g o) with
        | some (n, kind) =>
          if n < 0 then fail "size of array is negative"
          if !(kind.isInteger || kind.isEnum) then fail "size of array has non-integer type"
          return (.array element n.toNat, none, {})
        | none =>
          let v ← g.convert o .ulong false
          let inFunction := (← get).making.function.isSome
          if !inFunction then fail "size of array is not an integral constant-expression"
          let size ← sizeOf g element
          let place ← newPlace 8 8
          emitValue (.store .u64 (.frame place) (.binary .mul .u64 v.code (.long size)))
          return (.sizedArray element place, none, {})
    else if ← isSign "(" then
      if isNamed && !(← startsParameters g) then return (t, none, {})
      advance
      let (ps, traits) ← parameterList g
      let inner ← newScope .block (← get).here
      inside inner do
        bindParameters ps
        let traits ← functionTraits g 8 traits
        let specs ← attributes g 16 {}
        let result ← if (← isSign "->") && (← isCpp) then
            advance
            if !t.isAuto then fail "function with trailing return type not declared with 'auto' type specifier"
            g.typeName
          else pure t
        let rec late : Nat → Specifiers → Compile Specifiers
          | 0, specs => return specs
          | n + 1, specs => do
            if (← isWord "override") || (← isWord "final") then
              advance
              late n { specs with isVirtual := true }
            else return specs
        let specs ← if ← isCpp then late 4 specs else pure specs
        let specs ← attributes g 16 specs
        if result.isArray then fail "function returns an array"
        if result.isFunction then fail "function returns a function"
        return (.function result (ps.map fun p => p.type.plain) traits, some ps, specs)
    else return (t, none, {})

/-- The signs before a name that make pointers and references. -/
def pointers (g : Grammar) : Nat → Ty → Compile Ty
  | 0, t => return t
  | fuel + 1, t => do
    if ← acceptSign "*" then
      if t.isReference then fail "cannot declare pointer to reference"
      pointers g fuel (.pointer t)
    else if (← isCpp) && (← acceptSign "&") then
      if t.isVoid then fail "cannot declare reference to 'void'"
      pointers g fuel (t.refer false)
    else if (← isCpp) && (← acceptSign "&&") then pointers g fuel (t.refer true)
    else if ← acceptWords ["const", "__const"] then pointers g fuel t.asConst
    else if ← acceptWords ["volatile", "restrict", "__restrict", "__restrict__", "__volatile__"] then pointers g fuel t
    else if (← isWord "__attribute__") then
      skipAttributes g
      pointers g fuel t
    else if ← isCpp then
      -- a pointer to a member has the name of the class before the star
      let isMember ← probe (do
        let q ← qualifier g
        match q, ← ahead 1, ← ahead 2 with
        | _, .sign "::", .sign "*" => return ()
        | _, _, _ => fail "no member")
      match isMember with
      | some () =>
        let q ← qualifier g
        let w ← expectName
        match typeOf? (← find g q w) with
        | some owner =>
          expectSign "::"
          expectSign "*"
          pointers g fuel (.member owner t)
        | none => fail ("'" ++ w ++ "' is not a class")
      | none => return t
    else return t

/-- Whether a parenthesis holds the name of a declaration, with signs around it. -/
def startsGroup (g : Grammar) : Compile Bool := do
  match ← ahead 1 with
  | .sign "*" | .sign "&" | .sign "&&" | .sign "^" => return true
  | .sign "(" => return true
  | .word "__attribute__" => return true
  | .word w =>
    let s ← get
    if isKeyword s.reading w then return false
    -- a pointer to a member
    if (← ahead 2) == .sign "::" then
      return (← probe (do
        advance
        let _ ← qualifier g
        match ← ahead 1, ← ahead 2 with
        | .sign "::", .sign "*" => return ()
        | _, _ => fail "no member")).isSome
    let found ← lookup g w
    let isArgument := found.any fun
      | .argument _ => true
      | _ => false
    return !isArgument && (typeOf? found).isNone
  | _ => return false

/-- A scope with the names of a class and those of the parameters of templates that are known
here. -/
def withParameters (id : Nat) : Compile Nat := do
  let scopes ← (← outwards scopeDepth (← get).here).mapM scope
  let templates := scopes.takeWhile fun s => match s.kind with
    | .template => true
    | _ => false
  if templates.all fun s => s.names.isEmpty then return id
  let inner ← newScope .template id
  for s in templates.reverse do
    for (name, bindings) in s.names.toList do
      for b in bindings do bindIn inner name b
  return inner

/-- The name of a declaration with the signs around it. -/
def declarator (g : Grammar) (base : Ty) : Compile Declared := do
  let t ← pointers g 32 base
  let isPack ← acceptSign "..."
  skipAttributes g
  if (← isSign "(") && (← startsGroup g) then
    advance
    let inner ← takeInside
    let (t, ps, specs) ← suffix g false 32 t
    let d ← reading inner (g.declarator t)
    return { d with
      parameters := if d.parameters.isNone && d.type.isFunction then ps else d.parameters
      specifiers := specs, isPack := d.isPack || isPack }
  let q ← if (← isWord "operator") || (← peekName?).isSome || (← isSign "::") then qualifier g else pure none
  let finish (name : String) (role : Role) (t : Ty) : Compile Declared := do
    let arguments ← if (← isSign "<") && q.isSome || (← isSign "<") then
        match ← templateOf? (← find g q name) with
        | some _ =>
          advance
          pure (some (← templateArguments g))
        | none => pure none
      else pure none
    let home := (q.bind (·.scope))
    let readSuffix := suffix g true 32 t
    let (t, ps, specs) ← match home with
      | some id => do
        -- names behind that of a member are looked for in its class
        inside (← withParameters id) readSuffix
      | none => readSuffix
    let specs ← attributes g 16 specs
    let symbol ← if ← acceptWords ["asm", "__asm__", "__asm"] then
        expectSign "("
        let inner ← takeInside
        match Lexeme.tokens inner with
        | [.text "" s] => pure (some s)
        | _ => fail "expected a symbol"
      else pure none
    let specs ← attributes g 16 specs
    return { type := t, name, owner := home, parameters := ps, role, specifiers := { specs with symbol }
             arguments, isQualified := q.isSome, isPack }
  match ← peek with
  | .word "operator" =>
    if !(← isCpp) then return { type := t }
    advance
    let (name, target) ← operatorName g
    match target with
    | some result => finish name .conversion result
    | none => finish name .ordinary t
  | .sign "~" =>
    match ← ahead 1 with
    | .word w =>
      advance; advance
      if ← isSign "<" then
        advance
        let _ ← templateArguments g
      finish ("~" ++ w) .destructor .void
    | _ => fail "expected a name behind '~'"
  | .word w =>
    if isKeyword (← get).reading w then
      let (t, ps, specs) ← suffix g false 32 t
      return { type := t, parameters := ps, specifiers := specs, isPack }
    advance
    let isConstructor ← match q, base with
      | some { type := some (.record id), .. }, .unknown => pure ((← getRecord id).name == w)
      | none, .unknown => match (← scope (← declaringScope)).kind with
        | .record id => pure ((← getRecord id).name == w)
        | _ => pure false
      | _, _ => pure false
    finish w (if isConstructor then .constructor else .ordinary) (if isConstructor then .void else t)
  | _ =>
    let (t, ps, specs) ← suffix g false 32 t
    return { type := t, parameters := ps, specifiers := specs, isPack }

/-- A type without a name. -/
def typeName (g : Grammar) : Compile Ty := do
  let (specs, base) ← g.specifiers
  if base == .unknown then
    if !(← mentionsHole g (← get).tokens) then
      let rest := (← get).tokens
      if !rest.isEmpty then fail "expected a type"
  if specs.isStatic || specs.isExtern || specs.isTypedef then fail "expected a type"
  let d ← g.declarator base
  if d.name ≠ "" then fail "expected a type without a name"
  return d.type

end ModuleForge.Host.Native.Compile
