import ModuleForge.Host.Shell.Builtin
import ModuleForge.Host.Shell.Pattern

/-!
# Parts of expanded words

What parameters stand for, how values become parts of words, and where home directories take the
place of tildes.
-/
namespace ModuleForge.Host.Shell

open Step

/-- The bytes of a value as parts of a word. -/
def atoms (quoted : Bool) (value : ByteString) : List Atom :=
  let bytes := value.map fun b => Atom.byte b (!quoted) (!quoted)
  if quoted then .present :: bytes else bytes

/-- Unquoted text from inside an expansion is split like the expansion itself. -/
def splitting (quoted : Bool) (as : List Atom) : List Atom :=
  if quoted then as else as.map fun
    | .byte b special splits => .byte b special (special || splits)
    | a => a

/-- The parameters as parts of a word, each in a field of its own. -/
def parameterAtoms (quoted : Bool) (ps : List ByteString) : List Atom :=
  (List.intersperse [.cut] (ps.map (atoms quoted))).flatten

/-- The value of a parameter other than `@` and `*`. -/
def parameter? (name : ByteString) (s : State) : Option ByteString :=
  match natural? name with
  | some 0 => some s.name
  | some n => s.parameters[n - 1]?
  | none =>
    let number (n : Nat) : Option ByteString := some (ByteString.ofText (toString n))
    match Text.lossy name with
    | "#" => number s.parameters.length
    | "?" => number s.status
    | "$" => number s.processId
    | "!" => s.lastChild.bind number
    | "-" => some (shownSwitches s)
    | _ => valueOf? name s

/-- A value without the part that a pattern describes at one side. -/
def removePart (side : Side) (longest : Bool) (pattern : Field) (value : ByteString) : ByteString :=
  let lengths := List.range (value.length + 1)
  let lengths := if longest then lengths.reverse else lengths
  let fits (n : Nat) : Bool := match side with
    | .front => pattern.describes (value.take n)
    | .back => pattern.describes (value.drop (value.length - n))
  match lengths.find? fits, side with
  | none, _ => value
  | some n, .front => value.drop n
  | some n, .back => value.take (value.length - n)

def withoutLastLines (bs : ByteString) : ByteString :=
  (bs.reverse.dropWhile (· = 10)).reverse

/-- The home directory in place of a tilde at the beginning of some text, with what follows it;
`ends` tells that nothing else belongs to the name of a user. -/
def homeward (s : State) (ends : Bool) (bytes : ByteString) : List Piece :=
  match bytes with
  | 126 :: rest =>
    let user := rest.takeWhile (· ≠ Path.separator)
    let isWhole := user.length < rest.length || ends
    let home := if user.isEmpty then valueOf? "HOME" s
      else if user = ByteString.ofText "root" then some (ByteString.ofText "/root") else none
    match home with
    | some dir =>
      if isWhole then [.text dir true, .text (rest.drop user.length) false] else [.text bytes false]
    | none => [.text bytes false]
  | _ => [.text bytes false]

/-- A word with the home directory in place of a tilde at its beginning. -/
def fromHome (s : State) : List Piece → List Piece
  | .text bytes false :: ps => homeward s ps.isEmpty bytes ++ ps
  | ps => ps

/-- A value with home directories in place of tildes at its beginning and behind colons. -/
def valueFromHome (s : State) : Nat → Bool → List Piece → List Piece
  | 0, _, ps => ps
  | fuel + 1, atStart, .text bytes false :: ps =>
    let first := bytes.takeWhile (· ≠ 58)
    let shown (ends : Bool) : List Piece := if atStart then homeward s ends first else [.text first false]
    match bytes.drop first.length with
    | [] => shown ps.isEmpty ++ valueFromHome s fuel false ps
    | colon :: rest =>
      shown true ++ .text [colon] false :: valueFromHome s fuel true (.text rest false :: ps)
  | fuel + 1, _, p :: ps => p :: valueFromHome s fuel false ps
  | _ + 1, _, [] => []

/-- A bound on the parts of a value between colons. -/
def valueParts (word : List Piece) : Nat :=
  (word.map fun
    | .text bytes _ => bytes.length + 2
    | _ => 1).foldl (· + ·) 0 + 1

/-- A word that is written as an assignment, cut behind the sign. -/
def assignmentWord? : List Piece → Option (ByteString × List Piece)
  | .text bytes false :: ps =>
    match assignment? bytes with
    | some (name, rest) =>
      if isName name then some (name ++ [61], if rest.isEmpty then ps else .text rest false :: ps) else none
    | none => none
  | _ => none

end ModuleForge.Host.Shell
