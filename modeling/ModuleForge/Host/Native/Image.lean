import ModuleForge.Host.Module
import ModuleForge.Host.Native.Code

/-!
# Making module files

Puts the code and the variables of several units into one module file. What a unit takes from
elsewhere, or what others may replace, goes through a slot that holds its address; the loader fills
the slots, and those of functions may stay empty.
-/
namespace ModuleForge.Host.Native

/-! ## Definitions -/

inductive Content where
  | code (pieces : List Piece)
  | data (d : CoreData)

namespace Content

def size : Content → Nat
  | code ps => (ps.map Piece.size).foldl (· + ·) 0
  | data d => d.size

def alignment : Content → Nat
  -- the address of a function is even
  | code _ => 2
  | data d => max 1 d.alignment

/-- Whether nothing but zeros is there to start with. -/
def isEmpty : Content → Bool
  | code _ => false
  | data d => d.bytes.isEmpty && d.addresses.isEmpty

end Content

/-- What a unit, by its number, has under a name. -/
structure Definition where
  unit : Nat
  name : String
  sight : Sight
  content : Content

/-- A set of names. -/
abbrev NameSet := Std.HashMap String Unit

def NameSet.ofList (names : List String) : NameSet := Std.HashMap.ofList (names.map (·, ()))

/-- Names without those that come again. -/
def distinctNames (names : List String) : List String :=
  (names.foldl (fun (acc, (seen : NameSet)) n =>
    if seen.contains n then (acc, seen) else (n :: acc, seen.insert n ())) ([], ∅)).1.reverse

namespace Definition

def all (units : List (Nat × CodeUnit)) : List Definition :=
  units.flatMap fun (i, u) =>
    u.functions.map (fun (n, s, ps) => ⟨i, n, s, .code ps⟩) ++ u.data.map fun (n, s, d) => ⟨i, n, s, .data d⟩

/-- The names that several units show at once. -/
def clashes (ds : List Definition) : List String :=
  let names := (ds.filter (·.sight = .shown)).map (·.name)
  let counts : Std.HashMap String Nat := names.foldl (fun acc n => acc.insert n ((acc[n]?).getD 0 + 1)) ∅
  (distinctNames names).filter fun n => 1 < (counts[n]?).getD 0

/-- Definitions without those that may be there several times and are there already. -/
def distinct (ds : List Definition) : List Definition :=
  let strong := NameSet.ofList ((ds.filter (·.sight = .shown)).map (·.name))
  (ds.foldl (fun (acc, (seen : NameSet)) d => match d.sight with
    | .hidden | .shown => (d :: acc, seen)
    | .shared | .sharedHidden =>
      if seen.contains d.name || strong.contains d.name then (acc, seen)
      else (d :: acc, seen.insert d.name ())) ([], ∅)).1.reverse

end Definition

/-! ## Places -/

def alignedTo (alignment n : Nat) : Nat := (n + alignment - 1) / alignment * alignment

/-- Definitions one after the other: where each lies, and where they end. -/
def placed (start : Nat) (ds : List Definition) : List (Definition × Nat) × Nat :=
  let (out, size) := ds.foldl (fun (acc, place) d =>
    let place := alignedTo d.content.alignment place
    ((d, place) :: acc, place + d.content.size)) ([], start)
  (out.reverse, size)

/-- Where names lie: those of a unit, those that are seen in the whole module only, and those that
are shown. -/
structure Places where
  ofUnit : Std.HashMap (Nat × String) Nat := ∅
  within : Std.HashMap String Nat := ∅
  shown : Std.HashMap String Nat := ∅

namespace Places

def add (p : Places) (unit : Nat) (name : String) (sight : Sight) (place : Nat) : Places := match sight with
  | .hidden => { p with ofUnit := p.ofUnit.insert (unit, name) place }
  | .sharedHidden => { p with within := p.within.insert name place }
  | .shown | .shared => { p with shown := p.shown.insert name place }

/-- The place of what nobody outside the module can replace. -/
def fixed? (p : Places) (unit : Nat) (name : String) : Option Nat :=
  match p.ofUnit[(unit, name)]? with
  | some place => some place
  | none => p.within[name]?

def find? (p : Places) (unit : Nat) (name : String) : Option Nat :=
  p.fixed? unit name <|> p.shown[name]?

end Places

/-- Where the labels of a piece of code come to lie. -/
def labelPlaces (start : Nat) (ps : List Piece) : Std.HashMap Nat Nat :=
  (ps.foldl (fun (acc, place) p => match p with
    | .label n => (acc.insert n place, place)
    | p => (acc, place + p.size)) (∅, start)).1

/-- The bytes of code at a place; `find` tells where symbols and slots lie. -/
def place (find : Aim → Nat) (start : Nat) (ps : List Piece) : List UInt8 :=
  let labels := labelPlaces start ps
  (ps.foldl (fun (acc, place) p =>
    let here := match p with
      | .bytes bs => bs
      | .relative opcode aim =>
        let target := match aim with
          | .label n => (labels[n]?).getD 0
          | aim => find aim
        opcode ++ Code.four ((target : Int) - (place + p.size : Nat))
      | .belowFrame opcode | .frameSize opcode => opcode ++ Code.four 0
      | .label _ => []
    (here.reverse ++ acc, place + p.size)) ([], start)).1.reverse

/-! ## Slots -/

/-- The place that holds the address of a name; a unit that has the name to itself has no need of
it. -/
structure Slot where
  name : String
  isLate : Bool
  deriving DecidableEq, Hashable

/-- The slots that definitions use, each once. -/
def Slot.all (ds : List Definition) : List Slot :=
  (ds.foldl (fun (acc, (seen : Std.HashMap Slot Unit)) d => match d.content with
    | .data _ => (acc, seen)
    | .code ps => ps.foldl (fun (acc, seen) p => match p with
      | .relative _ (.slot name isLate) =>
        let slot : Slot := { name, isLate }
        if seen.contains slot then (acc, seen) else (slot :: acc, seen.insert slot ())
      | _ => (acc, seen)) (acc, seen)) ([], ∅)).1.reverse

/-! ## The file -/

/-- Bytes made longer with zeros. -/
def padded (size : Nat) (bs : List UInt8) : List UInt8 := bs ++ List.replicate (size - bs.length) 0

def two (n : Nat) : List UInt8 := numberBytes n 2
def four (n : Nat) : List UInt8 := numberBytes n 4
def eight (n : Nat) : List UInt8 := numberBytes n 8

def header : List UInt8 :=
  [0x7F, 0x45, 0x4C, 0x46, 2, 1, 1, 0] ++ eight 0 ++ two 3 ++ two 62 ++ four 1 ++ eight 0 ++ eight 64
    ++ eight 0 ++ four 0 ++ two 64 ++ two 56 ++ two 2 ++ two 0 ++ two 0 ++ two 0

def segment (kind flags start fileSize memorySize alignment : Nat) : List UInt8 :=
  four kind ++ four flags ++ eight start ++ eight start ++ eight start ++ eight fileSize ++ eight memorySize
    ++ eight alignment

/-- A table that finds a symbol by going through all of them. -/
def hashTable (count : Nat) : List UInt8 :=
  four 1 ++ four count ++ four (if 1 < count then 1 else 0)
    ++ (List.range count).flatMap fun i => four (if 0 < i && i + 1 < count then i + 1 else 0)

def relocation (place kind symbol addend : Nat) : List UInt8 :=
  eight place ++ four kind ++ four symbol ++ eight addend

/-- The module file of some units, which needs other modules at run time. -/
def moduleFile (units : List CodeUnit) (needed : List String) : Except (List String) ByteArray := do
  let units := (List.range units.length).zip units
  let all := Definition.all units
  let clashing := Definition.clashes all
  if !clashing.isEmpty then throw clashing
  let kept := Definition.distinct all
  let isCode (d : Definition) : Bool := match d.content with
    | .code _ => true
    | .data _ => false
  let code := kept.filter isCode
  let (empty, full) := (kept.filter (!isCode ·)).partition (·.content.isEmpty)
  let slots := Slot.all kept
  -- the names that are shown, and those that are wanted
  let aliases := units.flatMap fun (i, u) => u.aliases.map fun (n, s, target) => (i, n, s, target)
  let weak := NameSet.ofList (units.flatMap fun (_, u) => u.maybe)
  let defined := kept.filterMap fun d => if d.sight.isFixed then none else some (d.name, decide (d.sight = .shared))
  let shownAliases := aliases.filterMap fun (_, n, s, _) => if s.isFixed then none else some (n, decide (s = .shared))
  let shownNames := distinctNames ((defined ++ shownAliases).map (·.1))
  let isShared : NameSet := NameSet.ofList (((defined ++ shownAliases).filter (·.2)).map (·.1))
  let shown := NameSet.ofList shownNames
  let within := NameSet.ofList ((kept.filter (·.sight = .sharedHidden)).map (·.name)
    ++ (aliases.filter fun (_, _, s, _) => s = .sharedHidden).map fun (_, n, _, _) => n)
  let ofUnit : Std.HashMap (Nat × String) Unit := Std.HashMap.ofList (
    (kept.filter (·.sight = .hidden)).map (fun d => ((d.unit, d.name), ()))
    ++ (aliases.filter fun (_, _, s, _) => s = .hidden).map fun (i, n, _, _) => ((i, n), ()))
  let addresses := full.flatMap fun d => match d.content with
    | .data c => c.addresses.map fun (at_, n, distance) => (d, at_, n, distance)
    | .code _ => []
  let isFixed (unit : Nat) (n : String) : Bool := ofUnit.contains (unit, n) || within.contains n
  let wanted := distinctNames ((slots.map (·.name)).filter (fun n => !within.contains n)
    ++ addresses.filterMap fun (d, _, n, _) => if isFixed d.unit n then none else some n)
    |>.filter fun n => !shown.contains n
  let names := shownNames ++ wanted
  let count := names.length + 1
  let indexes : Std.HashMap String Nat := Std.HashMap.ofList (names.zip (List.range' 1 names.length))
  let indexOf (n : String) : Nat := (indexes[n]?).getD 0
  -- the texts, and where each starts
  let texts := names ++ needed
  let (starts, textSize) := texts.foldl (fun ((acc : Std.HashMap String Nat), place) n =>
    (acc.insert n place, place + n.utf8ByteSize + 1)) (∅, 1)
  let textOf (n : String) : Nat := (starts[n]?).getD 0
  let textSize := alignedTo 8 textSize
  -- where the parts lie
  let first := units.flatMap fun (i, u) => u.first.map fun n => (i, n)
  let last := units.flatMap fun (i, u) => u.last.map fun n => (i, n)
  let (late, early) := slots.partition fun s => s.isLate && !within.contains s.name
  let hashAt := 64 + 2 * 56
  let symbolsAt := hashAt + alignedTo 8 (4 * (3 + count))
  let textsAt := symbolsAt + 24 * count
  let relocationsAt := textsAt + textSize
  let relocationsSize := 24 * (early.length + addresses.length + first.length + last.length)
  let lateAt := relocationsAt + relocationsSize
  let codeAt := alignedTo 2 (lateAt + 24 * late.length)
  let (codePlaces, codeEnd) := placed codeAt code
  let dataAt := alignedTo 64 codeEnd
  let (dataPlaces, dataEnd) := placed dataAt full
  let slotsAt := alignedTo 8 dataEnd
  let slotPlaces : Std.HashMap Slot Nat :=
    Std.HashMap.ofList (slots.zip ((List.range slots.length).map fun k => slotsAt + 8 * k))
  let firstAt := slotsAt + 8 * slots.length
  let lastAt := firstAt + 8 * first.length
  let tableAt := lastAt + 8 * last.length
  let tableSize := 16 * (needed.length + 17)
  let fileSize := tableAt + tableSize
  let (emptyPlaces, memorySize) := placed (alignedTo 64 fileSize) empty
  let places := (codePlaces ++ dataPlaces ++ emptyPlaces).foldl (fun (p : Places) (d, place) =>
    p.add d.unit d.name d.sight place) {}
  let places := aliases.foldl (fun (p : Places) (i, n, s, target) => match p.find? i target with
    | some place => p.add i n s place
    | none => p) places
  let slotOf (name : String) (isLate : Bool) : Nat := (slotPlaces[({ name, isLate } : Slot)]?).getD 0
  -- the parts
  let codeBytes := codePlaces.flatMap fun (d, at_) => match d.content with
    | .code ps =>
      let find : Aim → Nat
        | .symbol n distance => (places.find? d.unit n).getD 0 + distance
        | .slot n isLate => slotOf n isLate
        | .label _ => 0
      padded (alignedTo 2 (Content.code ps).size) (place find at_ ps)
    | .data _ => []
  let dataBytes := (dataPlaces.foldl (fun (acc, end_) (d, at_) => match d.content with
    | .data c => (acc ++ (List.replicate (at_ - end_) 0 ++ padded c.size c.bytes).toArray, at_ + c.size)
    | .code _ => (acc, end_)) ((#[] : Array UInt8), dataAt)).1
  let symbol (n : String) (info section_ value : Nat) : List UInt8 :=
    four (textOf n) ++ [UInt8.ofNat info, 0] ++ two section_ ++ eight value ++ eight 0
  let symbols := List.replicate 24 0
    ++ shownNames.flatMap (fun n => symbol n (if isShared.contains n then 32 else 16) 1 ((places.shown[n]?).getD 0))
    ++ wanted.flatMap fun n => symbol n (if weak.contains n then 32 else 16) 0 0
  let dataAddresses := dataPlaces.flatMap fun (d, at_) => match d.content with
    | .data c => c.addresses.flatMap fun (offset, n, distance) => match places.fixed? d.unit n with
      | some target => relocation (at_ + offset) 8 0 (target + distance)
      | none => relocation (at_ + offset) 1 (indexOf n) distance
    | .code _ => []
  let functionsAt (start : Nat) (list : List (Nat × String)) : List UInt8 :=
    ((List.range list.length).zip list).flatMap fun (k, i, n) =>
      relocation (start + 8 * k) 8 0 ((places.find? i n).getD 0)
  let earlyBytes := early.flatMap (fun s => match places.within[s.name]? with
      | some target => relocation (slotOf s.name s.isLate) 8 0 target
      | none => relocation (slotOf s.name s.isLate) 6 (indexOf s.name) 0)
    ++ dataAddresses ++ functionsAt firstAt first ++ functionsAt lastAt last
  let lateBytes := late.flatMap fun s => relocation (slotOf s.name true) 7 (indexOf s.name) 0
  let table := (needed.map fun n => (1, textOf n)) ++ [
    (4, hashAt), (5, textsAt), (6, symbolsAt), (10, textSize), (11, 24), (7, relocationsAt),
    (8, relocationsSize), (9, 24), (23, lateAt), (2, 24 * late.length), (20, 7),
    (25, firstAt), (27, 8 * first.length), (26, lastAt), (28, 8 * last.length), (0, 0), (0, 0)]
  let parts : List (List UInt8) := [
    header, segment 1 7 0 fileSize (max fileSize memorySize) Module.pageSize,
    segment 2 6 tableAt tableSize tableSize 8,
    padded (symbolsAt - hashAt) (hashTable count), symbols,
    padded textSize (0 :: texts.flatMap fun n => ByteString.ofText n ++ [0]),
    earlyBytes, lateBytes, padded (dataAt - codeAt) codeBytes]
  let bytes := parts.foldl (fun (acc : Array UInt8) part => acc ++ part.toArray) #[]
  let bytes := bytes ++ dataBytes
  let bytes := bytes ++ Array.replicate (tableAt - bytes.size) 0
  return ⟨bytes ++ (table.flatMap fun (tag, value) => eight tag ++ eight value).toArray⟩

end ModuleForge.Host.Native
