import ModuleForge.Host.Native.Kind

/-!
# Numbers and texts

The values of what is written down as a number, a character or a text.
-/
namespace ModuleForge.Host.Native.Compile

/-- The number types that may hold a whole number, by the letters behind it. -/
def wholeKinds (isCpp isDecimal isUnsigned : Bool) (longs : Nat) : List NumberKind :=
  let signed : List NumberKind := match longs with
    | 0 => [.int, .long]
    | 1 => [.long]
    | _ => [.llong]
  let unsigned : List NumberKind := signed.map NumberKind.asUnsigned
  let _ := isCpp
  if isUnsigned then unsigned
  else if isDecimal then signed ++ [.ulong]
  else (signed.zip unsigned).flatMap fun (a, b) => [a, b]

/-- A number without a fraction, with what is left behind it. -/
def wholeParts (cs : List Char) : Option (Nat × Bool × List Char) :=
  let take (base : Nat) (isDecimal : Bool) (ds : List Char) : Option (Nat × Bool × List Char) :=
    let digits := ds.takeWhile fun c => Token.digitValue c < base
    (Token.ofDigits? base digits).map fun n => (n, isDecimal, ds.drop digits.length)
  match cs with
  | '0' :: 'x' :: ds | '0' :: 'X' :: ds => take 16 false ds
  | '0' :: 'b' :: ds | '0' :: 'B' :: ds => take 2 false ds
  | '0' :: d :: ds => if d.isDigit then take 8 false (d :: ds) else take 10 true cs
  | _ => take 10 true cs

/-- The digits of a number with a fraction: all of them, and the power of ten (or of two) they are
multiplied with. -/
def realParts (cs : List Char) : Option (Nat × Int × Bool × List Char) :=
  let isHex := match cs with
    | '0' :: 'x' :: _ | '0' :: 'X' :: _ => true
    | _ => false
  let base := if isHex then 16 else 10
  let cs := if isHex then cs.drop 2 else cs
  let isDigit (c : Char) : Bool := Token.digitValue c < base
  let whole := cs.takeWhile isDigit
  let rest := cs.drop whole.length
  let (fraction, rest) := match rest with
    | '.' :: rest =>
      let f := rest.takeWhile isDigit
      (f, rest.drop f.length)
    | rest => ([], rest)
  let digits := whole ++ fraction
  match Token.ofDigits? base digits with
  | none => none
  | some n =>
    let marks : List Char := if isHex then ['p', 'P'] else ['e', 'E']
    let (power, rest) : Option Int × List Char := match rest with
      | m :: rest' =>
        if marks.contains m then
          let (negative, ds) := match rest' with
            | '-' :: ds => (true, ds)
            | '+' :: ds => (false, ds)
            | ds => (false, ds)
          let ds' := ds.takeWhile Char.isDigit
          match Token.ofDigits? 10 ds' with
          | some k => (some (if negative then -(k : Int) else k), ds.drop ds'.length)
          | none => (none, rest)
        else (some 0, rest)
      | [] => (some 0, [])
    match power with
    | none => none
    | some p => some (n, p - (if isHex then 4 else 1) * fraction.length, isHex, rest)

/-- The number with a fraction that is nearest to digits times a power. -/
def realValue (n : Nat) (power : Int) (isHex : Bool) : Float :=
  if isHex then (Float.ofNat n).scaleB power
  else if power < 0 then Float.ofScientific n true power.natAbs else Float.ofScientific n false power.toNat

/-- A number as it is written; letters behind it that mean nothing here are given back. -/
def numberValue (written : String) : Compile (Value × String) := do
  let isCpp ← isCpp
  let cs := written.toList.filter (· ≠ '\'')
  let isHex := match cs with
    | '0' :: 'x' :: _ | '0' :: 'X' :: _ => true
    | _ => false
  let isReal := cs.contains '.' || (if isHex then cs.any fun c => c == 'p' || c == 'P'
    else match wholeParts cs with
      | some (_, true, 'e' :: d :: _) | some (_, true, 'E' :: d :: _) => d.isDigit || d == '-' || d == '+'
      | some (_, false, _) => cs.any fun c => c == 'e' || c == 'E'
      | _ => false)
  if isReal then
    match realParts cs with
    | none => fail "invalid floating constant"
    | some (n, power, isHex, rest) =>
      let x := realValue n power isHex
      let real (k : NumberKind) (s : Scalar) : Value :=
        { type := .number k, code := .real s (s.ofFloat x).toNat.toUInt64, isLiteral := true }
      match String.ofList rest with
      | "" => return (real .double .f64, "")
      | "f" | "F" => return (real .float .f32, "")
      | "l" | "L" => return (real .ldouble .f64, "")
      | suffix => return (real .ldouble .f64, suffix)
  else match wholeParts cs with
    | none => fail ("invalid number '" ++ written ++ "'")
    | some (n, isDecimal, rest) =>
      let suffix := (String.ofList rest).toLower
      let shape : Option (Bool × Nat) := match suffix with
        | "" => some (false, 0)
        | "u" => some (true, 0)
        | "l" => some (false, 1)
        | "ul" | "lu" => some (true, 1)
        | "ll" => some (false, 2)
        | "ull" | "llu" => some (true, 2)
        | "z" => some (false, 1)
        | "uz" | "zu" => some (true, 1)
        | _ => none
      match shape with
      | none =>
        if rest.head?.any Char.isDigit then fail "invalid digit in octal constant"
        return ({ Value.ofInt (.number .ullong) .u64 n with isLiteral := true }, String.ofList rest)
      | some (isUnsigned, longs) =>
        let kinds := wholeKinds isCpp isDecimal isUnsigned longs
        match kinds.find? fun k => k.holds n with
        | none =>
          if (2 : Nat) ^ 64 ≤ n then fail "integer constant is too large for its type"
          return ({ Value.ofInt (.number .ulong) .u64 n with isLiteral := true }, "")
        | some k =>
          let s ← scalar (.number k)
          return ({ Value.ofInt (.number k) s n with isLiteral := true }, "")

/-- A character as it is written. -/
def characterValue (mark content : String) : Compile Value := do
  let isCpp ← isCpp
  match Token.elements? content with
  | none => fail "invalid escape sequence"
  | some elements =>
    let size := Token.unitSize mark
    let units := Token.units size elements
    let literal (t : Ty) (s : Scalar) (n : Int) : Value := { Value.ofInt t s (s.wrap n) with isLiteral := true, constant := some (s.wrap n) }
    match mark, units with
    | _, [] => fail "empty character constant"
    | "", [n] => return if isCpp then literal .char .i8 n else literal .int .i32 (Scalar.i8.wrap n)
    | "", ns =>
      -- several characters make up one number
      return literal .int .i32 (ns.foldl (fun (acc : Int) (n : Nat) => acc * 256 + (n : Int)) (0 : Int))
    | "u8", [n] => return literal (.number .uchar) .u8 n
    | "u", [n] => return literal (.number (if isCpp then .char16 else .ushort)) .u16 n
    | "U", [n] => return literal (.number (if isCpp then .char32 else .uint)) .u32 n
    | "L", n :: _ => return literal (.number (if isCpp then .wchar else .int)) .i32 n
    | _, _ => fail "character constant too long for its type"

/-- A text as it is written, in pieces that follow each other. -/
def textValue (pieces : List (String × String)) : Compile Value := do
  let isCpp ← isCpp
  let mark := ((pieces.map (·.1)).find? (· ≠ "")).getD ""
  let size := Token.unitSize mark
  let units ← pieces.mapM fun (_, content) => match Token.elements? content with
    | some es => return Token.units size es
    | none => fail "invalid escape sequence"
  let units := units.flatten
  let symbol ← textSymbol size units
  let standard := (← get).reading.standard
  let kind : NumberKind := match mark with
    | "u" => if isCpp then .char16 else .ushort
    | "U" => if isCpp then .char32 else .uint
    | "L" => if isCpp then .wchar else .int
    | "u8" => if isCpp && 2020 ≤ standard then .char8 else .char
    | _ => .char
  let e : Ty := if isCpp then .const (.number kind) else .number kind
  return { Value.place (.array e (units.length + 1)) (.symbol symbol) with isLiteral := true }

end ModuleForge.Host.Native.Compile
