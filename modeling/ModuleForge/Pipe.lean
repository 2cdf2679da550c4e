/-!
# Pipes

A pipe holds the bytes under way between its two ends, at most `capacity` of them. A write takes
what there is room for and waits while there is none; a read takes what there is and waits while
there is nothing. Whether the other end is still held by anyone decides what happens instead of
waiting: a pipe that nobody can read is broken, one that nobody can write is at its end.
-/
namespace ModuleForge

structure Pipe where
  capacity : Nat := 65536
  held : ByteArray := ByteArray.empty

namespace Pipe

/-- How many bytes fit. -/
def room (p : Pipe) : Nat := p.capacity - p.held.size

/-- What a write comes to. -/
inductive Written where
  | broken
  | waits
  | accepted (count : Nat) (pipe : Pipe)

/-- Writes the leading part of `data` that fits; `readers` tells whether anyone can read. -/
def write (p : Pipe) (readers : Bool) (data : ByteArray) : Written :=
  if data.isEmpty then .accepted 0 p
  else if !readers then .broken
  else if p.room = 0 then .waits
  else
    let count := min p.room data.size
    .accepted count { p with held := p.held ++ data.extract 0 count }

/-- What a read comes to; nothing is read at the end. -/
inductive Taken where
  | waits
  | taken (data : ByteArray) (pipe : Pipe)

/-- Reads at most `max` bytes; `writers` tells whether anyone can write. -/
def read (p : Pipe) (writers : Bool) (max : Nat) : Taken :=
  if p.held.isEmpty then if writers then .waits else .taken ByteArray.empty p
  else .taken (p.held.extract 0 max) { p with held := p.held.extract max p.held.size }

end Pipe
end ModuleForge
