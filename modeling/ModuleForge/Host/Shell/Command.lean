import ModuleForge.Text.Bytes

/-!
# Commands of the shell

The commands of a script, and the words in them. A word is a row of pieces: text, and expansions
that are replaced by what they stand for when the command runs. Each piece knows whether it was
quoted.
-/
namespace ModuleForge.Host.Shell

/-- The builtins whose mistakes end the shell. -/
def special : List String :=
  [":", ".", "break", "continue", "eval", "exec", "exit", "export", "local", "readonly", "return",
   "set", "shift", "times", "trap", "unset"]

/-- The side from which a pattern takes away part of a value. -/
inductive Side where
  | front
  | back
  deriving DecidableEq, Repr

mutual

inductive Piece where
  | text (bytes : ByteString) (quoted : Bool)
  | parameter (name : ByteString) (use : Use) (quoted : Bool)
  | output (body : Command) (quoted : Bool)
  | arithmetic (expression : List Piece) (quoted : Bool)

/-- What is made of the value of a parameter. `orEmpty` tells whether an empty value counts as
missing. -/
inductive Use where
  | plain
  | length
  | fallback (word : List Piece) (orEmpty : Bool)
  | assign (word : List Piece) (orEmpty : Bool)
  | require (word : List Piece) (orEmpty : Bool)
  | replace (word : List Piece) (orEmpty : Bool)
  | remove (side : Side) (longest : Bool) (pattern : List Piece)
  /-- Nothing that can be made of a value. -/
  | unknown

/-- What a descriptor is made to stand for. -/
inductive Target where
  | input (file : List Piece)
  /-- A file for new contents; unless it is forced, the shell may have been told not to lose old
  ones. -/
  | output (file : List Piece) (forced : Bool)
  | append (file : List Piece)
  | update (file : List Piece)
  /-- A copy of another descriptor, or none for `-`. -/
  | copy (descriptor : List Piece)
  | text (content : List Piece)

inductive Redirection where
  | mk (fd : Nat) (target : Target)

inductive Command where
  | nothing
  | simple (line : Nat) (assignments : List (ByteString × List Piece)) (words : List (List Piece))
      (redirections : List Redirection)
  | pipeline (parts : List Command)
  | negated (c : Command)
  | both (a b : Command)
  | either (a b : Command)
  | sequence (a b : Command)
  | background (c : Command)
  | redirected (c : Command) (redirections : List Redirection)
  | subshell (c : Command)
  | choice (condition yes no : Command)
  | loop (until? : Bool) (condition body : Command)
  /-- Without words the loop goes over the parameters. -/
  | each (name : ByteString) (words : Option (List (List Piece))) (body : Command)
  | select (word : List Piece) (branches : List (List (List Piece) × Command))
  | define (name : ByteString) (body : Command)
  /-- A command at whose beginning the line is taken down. -/
  | placed (line : Nat) (c : Command)

end

instance : Inhabited Piece := ⟨.text [] false⟩
instance : Inhabited Command := ⟨.nothing⟩

end ModuleForge.Host.Shell
