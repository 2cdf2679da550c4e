import ModuleForge.Failure
import ModuleForge.Surroundings

/-!
# Libraries

A `Library` is a module that was asked to be loaded, whether that worked or not. It is loaded from a
successful opening to the first `unload`. Looking up a name leaves behind the text of the failure,
if there is one (`lastError`); a success does not clear it.
-/
namespace ModuleForge

/-- A module and what became of loading it; `η` is the handle by which a loader knows it. Models
`Library`. -/
structure Library (η : Type) where
  path : Path
  handle : Option η := none
  loadError : Option LoadError := none
  lastError : Option String := none

/-- The text that a loader is given for a name. It ends at a NUL: one at the end of the name is
taken for that, and any other is refused. -/
def terminated (name : ByteString) : Except String ByteString :=
  match name.getLast? with
  | some 0 =>
    if name.dropLast.contains 0 then
      .error "could not create a C string from bytes with trailing null"
    else .ok name.dropLast
  | _ => if name.contains 0 then .error "could not create a C string from bytes" else .ok name

/-- What a look-up says of a symbol at the address 0. -/
def nullAddress : String := "symbol resolved to a null address"

namespace Library

def isLoaded (l : Library η) : Bool := l.handle.isSome

/-- The library as logs of values show it. -/
def debug (l : Library η) : String :=
  Text.record "Library" [
    ("path", l.path.debug), ("loaded", toString l.isLoaded),
    ("load_error", Text.optional (l.loadError.map LoadError.debug))]

variable {σ η : Type} [Logging σ] [Loading σ η]

/-- Loads a module. Models `Library.open`. -/
def load (path : Path) : StateM σ (Library η) := do
  let answer ← match terminated path.bytes with
    | .ok bytes => Loading.openModule ⟨bytes⟩
    | .error reason => pure (.error reason)
  match answer with
  | .ok handle =>
    log ⟨.info, Part.library, "module loaded", [("path", path.display)]⟩
    return { path, handle := some handle }
  | .error reason =>
    log ⟨.warn, Part.library, "failed to load module", [("path", path.display), ("error", reason)]⟩
    return { path, loadError := some ⟨path, reason⟩, lastError := some reason }

/-- The failure of a look-up, with the library that remembers it. Models `Library.fail`. -/
private def fail (l : Library η) (e : SymbolError) :
    StateM σ (Except SymbolError Nat × Library η) := do
  log ⟨.debug, Part.library, "symbol resolution failed", [("error", e.message)]⟩
  return (.error e, { l with lastError := some e.message })

/-- Looks up the address of a name, which may be 0, for a use that the caller vouches for. Models
`resolve_function`, and `lookup` that it consists of. -/
def resolveFunction (l : Library η) (name : String) :
    StateM σ (Except SymbolError Nat × Library η) := do
  match l.handle with
  | none => l.fail (.notLoaded name)
  | some handle =>
    let answer ← match terminated (ByteString.ofText name) with
      | .ok bytes => Loading.lookUp handle bytes
      | .error reason => pure (.error reason)
    match answer with
    | .ok address =>
      log ⟨.debug, Part.library, "symbol resolved", [("name", name), ("path", l.path.display)]⟩
      return (.ok address, l)
    | .error reason => l.fail (.notFound name reason)

/-- Looks up the address of a name, which is not 0. Models `Library.resolve`. -/
def resolve (l : Library η) (name : String) : StateM σ (Except SymbolError Nat × Library η) := do
  match ← l.resolveFunction name with
  | (.ok 0, l) => l.fail (.notFound name nullAddress)
  | found => return found

/-- Unloads the module: whether it was loaded, even if closing it fails. Models `Library.unload`. -/
def unload (l : Library η) : StateM σ (Bool × Library η) := do
  match l.handle with
  | none => return (false, l)
  | some handle =>
    let l := { l with handle := none }
    match ← Loading.close handle with
    | .ok () =>
      log ⟨.info, Part.library, "module unloaded", [("path", l.path.display)]⟩
      return (true, l)
    | .error reason =>
      log ⟨.warn, Part.library, "failed to close module",
        [("path", l.path.display), ("error", reason)]⟩
      return (true, { l with lastError := some reason })

/-- Lets go of a library, closing its module if it is loaded. Models what becomes of a `Library`
that goes out of scope. -/
def drop (l : Library η) : StateM σ Unit := do
  if let some handle := l.handle then
    let _ ← Loading.close handle

end Library
end ModuleForge
