import Std.Data.HashMap
import ModuleForge.Host.Utility.Awk.Program

/-!
# Values of programs over records

A value is a number or a text. What comes from outside is text that counts as a number wherever it
looks like one. A number is shown by its digits if it is whole, and otherwise as a format asks for
it.

A table finds values by keys, which are texts; a key that is a whole number is also found by that
number, and gets its text only when a text is looked for. The keys come up in the order of the slots
in which their texts stand; within a slot the key that was looked for last comes first.
-/
namespace ModuleForge.Host.Utility.Awk

inductive Value where
  | unset
  | number (x : Float)
  | text (s : ByteString)
  /-- Text from outside. -/
  | input (s : ByteString)
  deriving Inhabited

namespace Value

def ofNat (n : Nat) : Value := .number (Float.ofNat n)

def ofBool (b : Bool) : Value := .number (if b then 1 else 0)

/-! ## Numbers from texts -/

/-- The number at the beginning of a text; 0 if there is none. -/
def leading (s : ByteString) : Float :=
  match Decimal.readFloat ((Format.chars s).dropWhile Decimal.isBlank) with
  | some (x, _) => x
  | none => 0

/-- The number that a text is, apart from blanks around it. -/
def whole? (s : ByteString) : Option Float :=
  let cs := ((Format.chars s).dropWhile Decimal.isBlank).reverse.dropWhile Decimal.isBlank |>.reverse
  let opens (c : Char) : Bool := c.isDigit || c == '+' || c == '-' || c == '.'
  let closes (c : Char) : Bool := c.isDigit || c == '.'
  if cs.head?.any opens && cs.getLast?.any closes then match Decimal.readFloat cs with
    | some (x, []) => some x
    | _ => none
  else none

def toFloat : Value → Float
  | .unset => 0
  | .number x => x
  | .text s | .input s => leading s

/-! ## Texts from numbers -/

/-- The whole number that a number is, as far as whole numbers are shown by their digits. -/
def integer? (x : Float) : Option Int :=
  if x.floor == x && -9223372036854775808 ≤ x && x ≤ 18446744073709551616 then
    match Decimal.Size.ofFloat x with
    | .finite m =>
      let (num, den) := m.quotient
      let n := min (num / den) 18446744073709551615
      some (if Decimal.negative x then -n else n)
    | _ => none
  else none

/-- The digits of whole numbers, and a format with one conversion for the others. -/
def shown (format : ByteString) (x : Float) : ByteString :=
  match integer? x with
  | some n => ByteString.ofText (toString n)
  | none =>
    if x.isNaN then ByteString.ofText "-nan"
    else
      let cs := Format.chars format
      let front := cs.takeWhile (· != '%')
      let (layout, rest, _) := Format.layout Format.plainDialect (cs.drop (front.length + 1)) []
      match rest with
      | c :: rest => Format.bytes (front ++ layout.float c x ++ rest)
      | [] => Format.bytes (({} : Decimal.Layout).float 'g' x)

def toText (format : ByteString) : Value → ByteString
  | .unset => []
  | .number x => shown format x
  | .text s | .input s => s

/-! ## Truth and order -/

/-- Whether a value holds as a condition. -/
def isTrue : Value → Bool
  | .unset => false
  | .number x => x != 0
  | .text s => !s.isEmpty
  | .input s => match whole? s with
    | some x => x != 0
    | none => !s.isEmpty

/-- The number that a value counts as in comparisons. -/
def number? : Value → Option Float
  | .unset => some 0
  | .number x => some x
  | .text _ => none
  | .input s => whole? s

/-- Values are compared as numbers if both are such, and otherwise as texts. -/
def order (format : ByteString) (a b : Value) : Ordering :=
  match a.number?, b.number? with
  | some x, some y => if x < y then .lt else if y < x then .gt else .eq
  | _, _ => compare (a.toText format) (b.toText format)

def isBetween (format : ByteString) (how : Comparison) (a b : Value) : Bool :=
  let o := order format a b
  match how with
  | .less => o == .lt
  | .lessOrEqual => o != .gt
  | .equal => o == .eq
  | .notEqual => o != .eq
  | .greater => o == .gt
  | .greaterOrEqual => o != .lt

end Value

/-! ## Arithmetic -/

/-- What is left of a number when it is divided as often as possible, with the sign of the
number. -/
def leftover (x y : Float) : Float :=
  if x.isNaN || y.isNaN || x.isInf || y == 0 then 0 / 0
  else if y.isInf then x
  else
    let rational (z : Float) : Nat × Nat := match Decimal.Size.ofFloat z with
      | .finite m => m.quotient
      | _ => (0, 1)
    let (a, b) := rational x
    let (c, d) := rational y
    let rest := (a * d) % (c * b)
    -- the rest is a whole number of the finer of the two units, and so it is exact
    let unit := b * d
    let size := (Float.ofNat (rest / Nat.gcd rest unit)) / Float.ofNat (unit / Nat.gcd rest unit)
    if x < 0 then -size else size

def Arithmetic.apply (operation : Arithmetic) (x y : Float) : Float :=
  match operation with
  | .add => x + y
  | .subtract => x - y
  | .multiply => x * y
  | .divide => x / y
  | .remainder => leftover x y
  | .power => x ^ y

/-! ## Tables -/

/-- A key of a table. -/
inductive Key where
  | number (n : Int)
  | text (s : ByteString)

/-- What is kept for a key. -/
structure Entry where
  text : Option (ByteString × Nat) := none
  number : Option Int := none
  value : Value := .unset
  deriving Inhabited

structure Table where
  entries : Std.HashMap Nat Entry := ∅
  /-- The number of the next entry. -/
  fresh : Nat := 0
  /-- For each slot the entries with a text, and those with a number. -/
  texts : Array (List Nat) := Array.replicate 64 []
  numbers : Array (List Nat) := Array.replicate 64 []
  /-- Whether all entries have their texts. -/
  isNamed : Bool := false
  deriving Inhabited

namespace Table

def size (t : Table) : Nat := t.entries.size

/-- The mark of a text, which tells its slot. -/
def mark (s : ByteString) : Nat :=
  (s.foldl (fun (h : UInt32) b => (h ^^^ b.toUInt32) * 16777619) 2166136261).toNat

/-- The slot of a whole number. -/
def slotOf (t : Table) (n : Int) : Nat := (n % (t.texts.size : Int)).toNat

/-- How many entries a slot has on average before there are more slots. -/
def crowd : Nat := 12

/-- The text of a whole number. -/
def digits (n : Int) : ByteString := ByteString.ofText (toString n)

/-- Gives every entry its text. -/
def named (t : Table) : Table :=
  if t.isNamed then t
  else
    let t := t.numbers.foldl (fun t slot => slot.foldl (fun t i =>
      match t.entries[i]? with
      | some ({ text := none, number := some n, value } : Entry) =>
        let s := digits n
        let h := mark s
        { t with
          entries := t.entries.insert i { text := some (s, h), number := some n, value }
          texts := t.texts.modify (h % t.texts.size) (i :: ·) }
      | _ => t) t) t
    { t with isNamed := true }

/-- The same entries in twice as many slots. -/
def widened (t : Table) : Table :=
  let count := 2 * t.texts.size
  let spread (slots : Array (List Nat)) (slot : Entry → Option Nat) : Array (List Nat) :=
    let all := slots.foldl (fun new entries => entries.foldl (fun new i =>
      match t.entries[i]?.bind slot with
      | some k => new.modify k (i :: ·)
      | none => new) new) (Array.replicate count [])
    all.map List.reverse
  { t with
    texts := spread t.texts fun e => e.text.map (·.2 % count)
    numbers := spread t.numbers fun e => e.number.map fun n => (n % (count : Int)).toNat }

/-- A new entry. -/
def added (t : Table) (e : Entry) : Table :=
  let t := { t with entries := t.entries.insert t.fresh e, fresh := t.fresh + 1 }
  if t.size > crowd * t.texts.size then t.widened else t

/-- The entry with a text, which then comes first in its slot; with `create` it is made. -/
def byText (t : Table) (s : ByteString) (create : Bool) : Option Nat × Table :=
  let t := t.named
  let h := mark s
  let slot := t.texts[h % t.texts.size]!
  match slot.find? fun i => (t.entries[i]?.bind (·.text)).any (·.1 == s) with
  | some i =>
    (some i, if slot.head? == some i then t else
      { t with texts := t.texts.set! (h % t.texts.size) (i :: slot.erase i) })
  | none =>
    if !create then (none, t)
    else
      let i := t.fresh
      let t := t.added { text := some (s, h) }
      (some i, { t with texts := t.texts.modify (h % t.texts.size) (i :: ·) })

/-- The same with a number. -/
def byNumber (t : Table) (n : Int) (create : Bool) : Option Nat × Table :=
  let k := t.slotOf n
  let slot := t.numbers[k]!
  match slot.find? fun i => (t.entries[i]?.bind (·.number)) == some n with
  | some i =>
    (some i, if slot.head? == some i then t else { t with numbers := t.numbers.set! k (i :: slot.erase i) })
  | none =>
    let (found, t) : Option Nat × Table :=
      if t.isNamed then t.byText (digits n) create
      else if create then (some t.fresh, t.added { number := some n })
      else (none, t)
    match found with
    | none => (none, t)
    | some i =>
      (some i, { t with
        entries := t.entries.modify i fun e => { e with number := some n }
        numbers := t.numbers.modify (t.slotOf n) (i :: ·) })

def find (t : Table) (key : Key) (create : Bool) : Option Nat × Table :=
  if t.size = 0 && !create then (none, t)
  else match key with
    | .number n => t.byNumber n create
    | .text s => t.byText s create

/-! ## What programs ask for -/

/-- The value of a key, which is made if it is new. -/
def get (t : Table) (key : Key) : Value × Table :=
  match t.find key true with
  | (some i, t) => ((t.entries[i]?.map (·.value)).getD .unset, t)
  | (none, t) => (.unset, t)

def set (t : Table) (key : Key) (v : Value) : Table :=
  match t.find key true with
  | (some i, t) => { t with entries := t.entries.modify i fun e => { e with value := v } }
  | (none, t) => t

def has (t : Table) (key : Key) : Bool × Table :=
  let (found, t) := t.find key false
  (found.isSome, t)

def erase (t : Table) (key : Key) : Table :=
  match t.find key false with
  | (none, t) => t
  | (some i, t) =>
    let e := (t.entries[i]?).getD {}
    let without (slots : Array (List Nat)) (slot : Option Nat) : Array (List Nat) := match slot with
      | some k => slots.modify k (·.erase i)
      | none => slots
    let t : Table := { t with
      entries := t.entries.erase i
      texts := without t.texts (e.text.map (·.2 % t.texts.size))
      numbers := without t.numbers (e.number.map t.slotOf) }
    if t.size = 0 then {} else t

/-- The keys in their order. -/
def keys (t : Table) : List ByteString × Table :=
  let t := t.named
  (t.texts.toList.flatten.filterMap fun i => (t.entries[i]?.bind (·.text)).map (·.1), t)

/-- The table of some values under the numbers from 1 on. -/
def ofList (vs : List Value) : Table :=
  (vs.foldl (fun (t, n) v => (set t (.number n) v, n + 1)) (({} : Table), (1 : Int))).1

end Table
end ModuleForge.Host.Utility.Awk
