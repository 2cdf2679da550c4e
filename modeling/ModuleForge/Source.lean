import ModuleForge.Digest
import ModuleForge.Path

/-!
# Sources

A source is a text with an identity. Two sources made from one text are different, and copies of a
source are the same. The artifact that a source compiles to is named by the digest of its text
(`objectName`), so one text always yields one name.
-/
namespace ModuleForge

structure Source where
  identity : Nat
  content : String
  deriving DecidableEq, Repr

namespace Source

/-- Whether two sources are copies of one. Models `Source.same_as`. -/
def same (s t : Source) : Bool := s.identity == t.identity

def data (s : Source) : ByteArray := s.content.toUTF8

def digest (s : Source) : Digest := Digest.ofData s.data

/-- The name of the object file that the source compiles to, unless it is given one. Models
`derived_object_name`. -/
def objectName (s : Source) : Path := Path.ofText (s.digest.short ++ ".o")

/-- The source as logs of values show it. -/
def debug (s : Source) : String :=
  Text.record "Source" [("hash", Text.quote s.digest.short),
    ("len", toString s.content.utf8ByteSize)]

end Source

/-- An object file that a compiler has made, and what the compiler had to say. -/
structure Object where
  path : Path
  diagnostics : String := ""
  deriving DecidableEq, Repr

/-- The object as logs of values show it. -/
def Object.debug (o : Object) : String :=
  Text.record "Object" [("path", o.path.debug), ("diagnostics", Text.quote o.diagnostics)]

end ModuleForge
