import ModuleForge.Host.Library.Printing

/-!
# Functions on the program itself

The functions of the C library that give out memory, tell about the process and its surroundings,
end it, call back what the program hands to them, and keep what belongs to threads.
-/
namespace ModuleForge.Host.Library

open Program

/-! ## Memory -/

/-- Memory that is filled with zeros. -/
def allocateZeros (size : Nat) : Run Nat := do
  let place ← allocate size
  if place ≠ 0 then writeBytes place ⟨Array.replicate size 0⟩
  return place

/-- A block of another size with the same beginning. -/
def reallocate (place size : Nat) : Run Nat := do
  if place = 0 then return ← allocate size
  if size = 0 then
    release place
    return 0
  let old ← allocatedSize place
  if size ≤ old then return place
  let new ← allocate size
  if new ≠ 0 then
    writeBytes new (← readBytes place old)
    release place
  return new

/-- Memory whose address is a multiple of a number. -/
def allocateAligned (alignment size : Nat) : Run Nat := do
  if alignment ≤ 16 then return ← allocate size
  let place ← allocate (size + alignment + 16)
  let start := (place + alignment - 1) / alignment * alignment
  if start = place then return place
  -- the rest is a block of its own
  write (start - 8) 8 (blockSize size + 1)
  return start

def orNoMemory (place : Nat) : Run Answer := do
  if place = 0 then setError ⟨12⟩
  return .whole place

def blocks : Family :=
  shared ["malloc", "__libc_malloc"] (fun _ => do orNoMemory (← allocate (← argument 0)))
  ++ shared ["calloc"] (fun _ => do orNoMemory (← allocateZeros ((← argument 0) * (← argument 1))))
  ++ shared ["realloc"] (fun _ => do
      let place ← argument 0
      return .whole (← reallocate place (← argument 1)))
  ++ shared ["reallocarray"] (fun _ => do
      let place ← argument 0
      return .whole (← reallocate place ((← argument 1) * (← argument 2))))
  ++ shared ["free", "__libc_free"] (fun _ => do
      release (← argument 0)
      return .none)
  ++ shared ["aligned_alloc", "memalign"] (fun _ => do
      let alignment ← argument 0
      return .whole (← allocateAligned alignment (← argument 1)))
  ++ [("posix_memalign", fun _ => do
      let alignment ← argument 1
      write (← argument 0) 8 (← allocateAligned alignment (← argument 2))
      return .whole 0),
    ("malloc_usable_size", fun _ => do
      let place ← argument 0
      if place = 0 then return .whole 0
      return .whole (← allocatedSize place))]

/-! ## Surroundings -/

def valueFor (name : ByteString) : Run (Option ByteString) :=
  return (← get).outside.environment.lookup name

def setVariable (name value : ByteString) : Run Unit :=
  modify fun s => { s with outside := { s.outside with
    environment := s.outside.environment.filter (·.1 ≠ name) ++ [(name, value)] } }

def dropVariable (name : ByteString) : Run Unit :=
  modify fun s => { s with outside := { s.outside with
    environment := s.outside.environment.filter (·.1 ≠ name) } }

/-- A name that a variable cannot have. -/
def badName (name : ByteString) : Bool := name.isEmpty || name.contains 61

def valueOf : Run Answer := do
  match ← valueFor (← readText (← argument 0)) with
  | some value => newText value
  | none => return .whole 0

def putVariable : Run Answer := do
  let name ← readText (← argument 0)
  if badName name then return ← failed .invalid
  let replace ← argument 2
  if replace = 0 && (← valueFor name).isSome then return .whole 0
  setVariable name (← readText (← argument 1))
  return .whole 0

/-- Sets a variable from a text `name=value`; without the sign it is taken away. -/
def putAssignment : Run Answer := do
  let text ← readText (← argument 0)
  let name := text.takeWhile (· ≠ 61)
  if name.length = text.length then dropVariable name
  else setVariable name (text.drop (name.length + 1))
  return .whole 0

/-- Lets time pass. -/
def spend (nanos : Nat) : Run Unit :=
  modify fun s => { s with outside := { s.outside with clock := s.outside.clock + nanos } }

/-- Writes a time in two parts. -/
def putTime (place parts : Nat) : Run Unit := do
  let now := (← get).outside.clock
  if place ≠ 0 then
    write place 8 (now / 1000000000)
    write (place + 8) 8 (now % 1000000000 / (1000000000 / parts))

def surroundings : Family := List.flatten [
  shared ["getenv", "secure_getenv"] (fun _ => valueOf),
  [("setenv", fun _ => putVariable), ("putenv", fun _ => putAssignment),
    ("unsetenv", fun _ => do
      let name ← readText (← argument 0)
      if badName name then return ← failed .invalid
      dropVariable name
      return .whole 0),
    ("clearenv", fun _ => do
      modify fun s => { s with outside := { s.outside with environment := [] } }
      return .whole 0)],
  shared ["getpid", "__getpid", "gettid"] (fun _ => return .whole (← get).outside.processId),
  shared ["getppid"] (fun _ => return .whole 1),
  shared ["getuid", "geteuid", "getgid", "getegid"] (fun _ => return .whole 0),
  [("time", fun _ => do
      let seconds := (← get).outside.clock / 1000000000
      let place ← argument 0
      if place ≠ 0 then write place 8 seconds
      return .whole seconds),
    ("clock", fun _ => return .whole ((← get).outside.clock / 1000)),
    ("gettimeofday", fun _ => do
      putTime (← argument 0) 1000000
      return .whole 0)],
  shared ["clock_gettime", "__clock_gettime"] (fun _ => do
      putTime (← argument 1) 1000000000
      return .whole 0),
  [("sleep", fun _ => do
      spend (Processor.cut 4 (← argument 0) * 1000000000)
      return .whole 0),
    ("usleep", fun _ => do
      spend (Processor.cut 4 (← argument 0) * 1000)
      return .whole 0),
    ("nanosleep", fun _ => do
      let place ← argument 0
      spend ((← read place 8) * 1000000000 + (← read (place + 8) 8))
      return .whole 0),
    ("sched_yield", fun _ => return .whole 0),
    ("getpagesize", fun _ => return .whole 4096),
    ("gnu_get_libc_version", fun _ => newText (ByteString.ofText "2.36")),
    ("gnu_get_libc_release", fun _ => newText (ByteString.ofText "stable")),
    ("setlocale", fun _ => newText (ByteString.ofText "C")),
    ("sysconf", fun _ => do
      match ← argument 0 with
      | 30 => return .whole 4096
      | 2 => return .whole 100
      | 83 | 84 => return .whole 1
      | _ => failed .invalid)],
  shared ["strerror"] (fun _ => do
      let e : Errno := ⟨← intArgument 0⟩
      newText (ByteString.ofText e.message)),
  shared ["__errno_location"] (fun _ => return .whole errorPlace)]

/-! ## The end -/

/-- Calls what wants to be called at the end, the last first; what is meant for one module only, or
all. -/
def farewell (invoke : Invoke) (owner? : Option Nat) : Nat → Run Unit
  | 0 => return ()
  | fuel + 1 => do
    let all := (← get).farewells
    match all.findIdx? fun f => owner?.all (· == f.owner) with
    | none => return ()
    | some i =>
      modify fun s => { s with farewells := all.eraseIdx i }
      if let some f := all[i]? then
        let _ ← invoke f.function [f.argument]
      farewell invoke owner? fuel

/-- How many functions may want to be called. -/
def maxFarewells : Nat := 10000

/-- Ends the program as it wishes. -/
def leave (invoke : Invoke) (code : Nat) : Run Answer := do
  farewell invoke none maxFarewells
  flushAll
  throw (.exit (code % 256))

/-- Sends the program a signal. -/
def raise (signal : Nat) : Run Answer := do
  if signal = 0 || Signal.harmless.contains signal then return .whole 0
  if Signal.last < signal then failed .invalid else stop signal

def endings : Family :=
  [("exit", fun invoke => do leave invoke (← argument 0)),
   ("abort", fun _ => stop Signal.abort),
   ("raise", fun _ => do raise (Processor.cut 4 (← argument 0))),
   ("kill", fun _ => do
      let target ← intArgument 0
      if target ≠ (← get).outside.processId && target ≠ 0 then return ← failed .noProcess
      raise (Processor.cut 4 (← argument 1))),
   ("__cxa_atexit", fun _ => do
      let f : Farewell :=
        { function := ← argument 0, argument := ← argument 1, owner := ← argument 2 }
      modify fun s => { s with farewells := f :: s.farewells }
      return .whole 0),
   ("__cxa_finalize", fun invoke => do
      let owner ← argument 0
      farewell invoke (if owner = 0 then none else some owner) maxFarewells
      return .none),
   ("__assert_fail", fun _ => do
      let text ← readText (← argument 0)
      let file ← readText (← argument 1)
      let line ← argument 2
      let place ← argument 3
      let function ← if place = 0 then pure [] else readText place
      let where_ := if function.isEmpty then "" else Text.lossy function ++ ": "
      abortWith s!"dynbuild: {Text.lossy file}:{line}: {where_}Assertion `{Text.lossy text}' failed.\n"),
   ("__stack_chk_fail", fun _ =>
      abortWith "*** stack smashing detected ***: terminated\n"),
   ("__chk_fail", fun _ => abortWith "*** buffer overflow detected ***: terminated\n")]
  ++ shared ["_exit", "_Exit"] (fun _ => do throw (.exit ((← argument 0) % 256)))

/-! ## Calling back -/

/-- Merges two rows that are in order; the first comes first where both are equal. -/
def mergeBy (least : ByteArray → ByteArray → Run Bool) :
    Nat → List ByteArray → List ByteArray → Run (List ByteArray)
  | 0, as, bs => return as ++ bs
  | _ + 1, [], bs => return bs
  | _ + 1, as, [] => return as
  | fuel + 1, a :: as, b :: bs => do
    if ← least a b then return a :: (← mergeBy least fuel as (b :: bs))
    else return b :: (← mergeBy least fuel (a :: as) bs)

/-- Puts a row in order. -/
def sortBy (least : ByteArray → ByteArray → Run Bool) : Nat → List ByteArray → Run (List ByteArray)
  | 0, xs => return xs
  | fuel + 1, xs => do
    if xs.length < 2 then return xs
    let half := xs.length / 2
    let low ← sortBy least fuel (xs.take half)
    let high ← sortBy least fuel (xs.drop half)
    mergeBy least (xs.length + 1) low high

/-- Puts the elements of an array in order, which a function compares, maybe with something more. -/
def sortArray (invoke : Invoke) (more : List Nat) : Run Answer := do
  let start ← argument 0
  let count ← argument 1
  let size ← argument 2
  let compare ← argument 3
  let first ← allocate (max 1 size)
  let second ← allocate (max 1 size)
  let least (a b : ByteArray) : Run Bool := do
    writeBytes first a
    writeBytes second b
    return Processor.signed 4 (Processor.cut 4 (← invoke compare ([first, second] ++ more))) ≤ 0
  let mut elements : List ByteArray := []
  for i in List.range count do
    elements := (← readBytes (start + size * i) size) :: elements
  let sorted ← sortBy least count elements.reverse
  let _ ← sorted.foldlM (fun place e => do
    writeBytes place e
    return place + size) start
  release first
  release second
  return .none

/-- Looks for an element between two indices. -/
def searchBetween (invoke : Invoke) (key start size compare : Nat) : Nat → Nat → Nat → Run Nat
  | 0, _, _ => return 0
  | fuel + 1, low, high => do
    if high ≤ low then return 0
    let middle := (low + high) / 2
    let place := start + size * middle
    let order := Processor.signed 4 (Processor.cut 4 (← invoke compare [key, place]))
    if order < 0 then searchBetween invoke key start size compare fuel low middle
    else if 0 < order then searchBetween invoke key start size compare fuel (middle + 1) high
    else return place

/-- Where the registers stand that a jump out of functions brings back. -/
def keptRegisters : List Nat := [3, 5, 12, 13, 14, 15]

/-- Remembers where the program is. -/
def rememberPlace : Run Answer := do
  let place ← argument 0
  let registers := (← get).processor.registers
  for (r, i) in keptRegisters.zipIdx do
    write (place + 8 * i) 8 (registers.getD r 0)
  let top := registers.getD Processor.stackPointer 0
  write (place + 48) 8 (top + 8)
  write (place + 56) 8 (← read top 8)
  return .whole 0

/-- Goes back to where the program was once. -/
def comeBack : Run Answer := do
  let place ← argument 0
  let value := Processor.cut 4 (← argument 1)
  let mut registers := (← get).processor.registers
  for (r, i) in keptRegisters.zipIdx do
    registers := registers.setIfInBounds r (← read (place + 8 * i) 8)
  registers := registers.setIfInBounds Processor.stackPointer (← read (place + 48) 8)
  registers := registers.setIfInBounds Processor.accumulator (if value = 0 then 1 else value)
  let next ← read (place + 56) 8
  modify fun s => { s with processor := { s.processor with registers, next } }
  return .elsewhere

def callbacks : Family :=
  [("qsort", fun invoke => sortArray invoke []),
   ("qsort_r", fun invoke => do sortArray invoke [← argument 4]),
   ("bsearch", fun invoke => do
      let count ← argument 2
      let key ← argument 0
      let start ← argument 1
      let size ← argument 3
      return .whole (← searchBetween invoke key start size (← argument 4) (count + 1) 0 count))]
  ++ shared ["setjmp", "_setjmp", "__sigsetjmp"] (fun _ => rememberPlace)
  ++ shared ["longjmp", "_longjmp", "siglongjmp", "__longjmp_chk"] (fun _ => comeBack)

/-! ## Threads -/

/-- Where the addresses of the blocks stand that modules have in a thread. -/
def blockTable (module : Nat) : Nat := systemData + 0x8000 + 8 * module

/-- How many modules may have a block. -/
def maxBlocks : Nat := 512

/-- Where the results of finished threads stand, and the values that threads keep under keys. -/
def threadTable (i : Nat) : Nat := systemData + 0xA000 + 8 * (i % 256)

def keyTable (i : Nat) : Nat := systemData + 0xB000 + 8 * (i % 256)

/-- Runs a thread to its end at once. -/
def runThread (invoke : Invoke) : Run Answer := do
  let place ← argument 0
  let function ← argument 2
  let result ← invoke function [← argument 3]
  let number := (← read (threadTable 0) 8) + 1
  write (threadTable 0) 8 number
  write (threadTable number) 8 result
  write place 8 number
  return .whole 0

def joinThread : Run Answer := do
  let number ← argument 0
  let place ← argument 1
  if place ≠ 0 then write place 8 (← read (threadTable number) 8)
  return .whole 0

def threads : Family :=
  [("__tls_get_addr", fun _ => do
      let place ← argument 0
      let start ← read (blockTable (← read place 8)) 8
      return .whole (Processor.cut 8 (start + (← read (place + 8) 8)))),
   ("pthread_create", fun invoke => runThread invoke),
   ("pthread_join", fun _ => joinThread),
   ("pthread_self", fun _ => return .whole threadPlace),
   ("pthread_equal", fun _ => do
      return .whole (if (← argument 0) = (← argument 1) then 1 else 0)),
   ("pthread_once", fun invoke => do
      let place ← argument 0
      let function ← argument 1
      if (← read place 4) = 0 then
        write place 4 2
        let _ ← invoke function []
      return .whole 0),
   ("pthread_key_create", fun _ => do
      let key := (← read (keyTable 0) 8) + 1
      write (keyTable 0) 8 key
      write (← argument 0) 4 key
      return .whole 0),
   ("pthread_getspecific", fun _ => do
      return .whole (← read (keyTable (← argument 0)) 8)),
   ("pthread_setspecific", fun _ => do
      let place := keyTable (← argument 0)
      write place 8 (← argument 1)
      return .whole 0)]
  ++ shared ["pthread_mutex_init", "pthread_mutex_lock", "pthread_mutex_trylock",
      "pthread_mutex_unlock", "pthread_mutex_destroy", "pthread_attr_init", "pthread_attr_destroy",
      "pthread_detach", "pthread_cond_init", "pthread_cond_signal", "pthread_cond_broadcast",
      "pthread_cond_destroy", "pthread_rwlock_rdlock", "pthread_rwlock_wrlock",
      "pthread_rwlock_unlock", "pthread_key_delete", "pthread_spin_lock", "pthread_spin_unlock"]
      (fun _ => return .whole 0)

/-! ## The library of C++ -/

/-- Ends a program that found no way to go on. -/
def terminate (reason : String) : Run Answer := abortWith s!"terminate called {reason}\n"

def uncaught (type what : String) : Run Answer :=
  terminate s!"after throwing an instance of '{type}'\n  what():  {what}"

/-- Memory for a new object. -/
def newObject : Run Answer := do
  let place ← allocate (← argument 0)
  if place = 0 then uncaught "std::bad_alloc" "std::bad_alloc" else return .whole place

/-- A failure that the library reports with the text of the caller. -/
def reporting (type : String) : Run Answer := do
  uncaught type (Text.lossy (← readText (← argument 0)))

def objects : Family :=
  shared ["_Znwm", "_Znam"] (fun _ => newObject)
  ++ shared ["_ZdlPv", "_ZdaPv", "_ZdlPvm", "_ZdaPvm"] (fun _ => do
      release (← argument 0)
      return .none)
  ++ [("__cxa_guard_acquire", fun _ => do
      return .whole (if (← read (← argument 0) 1) = 0 then 1 else 0)),
    ("__cxa_guard_release", fun _ => do
      write (← argument 0) 1 1
      return .none),
    ("__cxa_guard_abort", fun _ => return .none),
    ("__cxa_pure_virtual", fun _ => do
      complain "pure virtual method called\n"
      terminate "without an active exception"),
    ("_ZSt9terminatev", fun _ => terminate "without an active exception"),
    ("_ZSt20__throw_length_errorPKc", fun _ => reporting "std::length_error"),
    ("_ZSt19__throw_logic_errorPKc", fun _ => reporting "std::logic_error"),
    ("_ZSt20__throw_out_of_rangePKc", fun _ => reporting "std::out_of_range"),
    ("_ZSt24__throw_invalid_argumentPKc", fun _ => reporting "std::invalid_argument"),
    ("_ZSt17__throw_bad_allocv", fun _ => uncaught "std::bad_alloc" "std::bad_alloc"),
    ("_ZSt28__throw_bad_array_new_lengthv", fun _ =>
      uncaught "std::bad_array_new_length" "std::bad_array_new_length"),
    ("_ZSt16__throw_bad_castv", fun _ => uncaught "std::bad_cast" "std::bad_cast"),
    ("_ZSt25__throw_bad_function_callv", fun _ =>
      uncaught "std::bad_function_call" "bad_function_call")]

end ModuleForge.Host.Library
