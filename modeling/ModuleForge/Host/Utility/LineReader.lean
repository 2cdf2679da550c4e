import ModuleForge.Host.Utility.Call

/-!
# Reading line by line

A `LineReader` hands out the lines of some descriptors one after the other, reading no further than
it must to tell whether a line is the last one.
-/
namespace ModuleForge.Host.Utility

/-- A line, and whether its end was there. -/
structure Line where
  text : List UInt8
  closed : Bool := true

/-- Two lines as one, which ends as the second does. -/
def Line.append (a b : Line) : Line := ⟨a.text ++ 10 :: b.text, b.closed⟩

structure LineReader where
  /-- The descriptors that are still to be read. -/
  sources : List Nat
  /-- Lines that were read and not yet handed out. -/
  ready : List Line := []
  /-- The beginning of a line whose end has not been read. -/
  part : List UInt8 := []

namespace LineReader

/-- Takes up what was read. -/
def accept (r : LineReader) (data : List UInt8) : LineReader :=
  let closed := data.getLast? == some 10
  let lines := match Call.linesOf data with
    | [] => []
    | l :: ls => (r.part ++ l) :: ls
  let (complete, part) := if closed then (lines, []) else (lines.dropLast, lines.getLastD [])
  { r with ready := r.ready ++ complete.map fun l => ⟨l, true⟩, part }

/-- Takes up the end of a source. -/
def endSource (r : LineReader) : LineReader :=
  let ready := if r.part.isEmpty then r.ready else r.ready ++ [⟨r.part, false⟩]
  { sources := r.sources.drop 1, ready }

/-- Reads until two lines are ready or there is nothing more. -/
def fill : Nat → LineReader → Task LineReader
  | 0, r => return r
  | fuel + 1, r => do
    if 2 ≤ r.ready.length then return r
    match r.sources with
    | [] => return r
    | fd :: _ =>
      match ← Task.read fd 32768 with
      | .ok data =>
        fill fuel (if data.isEmpty then r.endSource else r.accept data.data.toList)
      | .error _ => fill fuel r.endSource

/-- The next line; `isLast` of the reader that is left tells whether it was the last one. -/
def next (r : LineReader) : Task (Option Line × LineReader) := do
  let r ← fill Task.patience r
  match r.ready with
  | l :: rest => return (some l, { r with ready := rest })
  | [] => return (none, r)

/-- Whether no line follows. -/
def isLast (r : LineReader) : Bool := r.ready.isEmpty && r.sources.isEmpty

/-- Hands lines to a step as long as there are some and it wants more. -/
def foldWithin {σ : Type} (step : σ → Line → Task (σ × Bool)) : Nat → LineReader → σ → Task σ
  | 0, _, state => return state
  | fuel + 1, r, state => do
    match ← r.next with
    | (none, _) => return state
    | (some l, r) =>
      let (state, goOn) ← step state l
      if goOn then foldWithin step fuel r state else return state

def fold {σ : Type} (r : LineReader) (step : σ → Line → Task (σ × Bool)) (state : σ) : Task σ :=
  foldWithin step Task.patience r state

end LineReader
end ModuleForge.Host.Utility
