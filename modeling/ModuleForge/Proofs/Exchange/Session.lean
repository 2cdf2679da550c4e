import Mathlib.Logic.Function.Basic
import ModuleForge.Process
import ModuleForge.Proofs.Exchange.Parts

/-!
# A parent, its child and the pipes between them

The system that an exchange is part of. On one side is the parent, whose four parts (`Exchange`)
each move whenever they are ready, with no order among them; on the other are the child and the
processes that it starts, which share the ends of the three pipes. What these ask for next is not
fixed by anything: any of them may go on with any request after any answer, so every program and
every set of programs is among the possible ones. A request that cannot be answered yet is a process
that waits.

* `Step` is one move: of a part of the parent, of a process, or from outside (the limit passes, a
  pipe has a fault, a process is killed).
* `Reachable` are the states that moves lead to, for any capacities of the pipes and any first
  request.

Reads and writes of the parent take any positive amount of what is possible, and waiting for a child
that has died does not fail. What was written, read and
done so far is kept in the state for the statements only (`written`, `taken`, `sawEnd`, `faults`,
`cleaned`): no move depends on it.
-/
namespace ModuleForge.Exchange

/-- The pipes between a parent and its child. -/
inductive Channel where
  | input
  | output (s : Stream)
  deriving DecidableEq, Repr

/-- What a process asks for. -/
inductive Request where
  | read (most : Nat)
  | write (s : Stream) (data : ByteArray)
  | close (c : Channel)
  /-- Whatever touches no pipe. -/
  | compute
  /-- Starts a process with the same ends, which asks for `first`. -/
  | fork (first : Request)
  | leaveGroup
  | exit (word : BitVec 32)

/-- The child, or a process that it has started. -/
inductive Member where
  | alive (ends : List Channel) (grouped : Bool) (request : Request)
  | dead (word : BitVec 32)

namespace Member

def holds (c : Channel) : Member → Bool
  | alive ends _ _ => ends.contains c
  | dead _ => false

/-- Whether the process lives in the group that the child leads. -/
def inGroup : Member → Bool
  | alive _ grouped _ => grouped
  | dead _ => false

/-- The process killed by signal 9. -/
def kill : Member → Member
  | alive .. => dead (WaitStatus.signalWord 9 false)
  | dead word => dead word

/-- A process after the answer to its request, when it asks for `next`. -/
def after (ends : List Channel) (grouped : Bool) (next : Request) : Request → Member
  | .close c => alive (ends.filter (· ≠ c)) grouped next
  | .leaveGroup => alive ends false next
  | .exit word => dead word
  | _ => alive ends grouped next

/-- The process that a request starts. -/
def offspring (ends : List Channel) (grouped : Bool) : Request → List Member
  | .fork first => [alive ends grouped first]
  | _ => []

end Member

/-- Where the parent is in its run. -/
inductive Phase where
  | exchanging
  /-- The limit has passed; `reaped` tells whether the child had been waited for by then. -/
  | cleaning (todo : List Cleanup) (reaped : Bool)
  | returned (outcome : Outcome)

/-- The state of the parent, the pipes and the processes. -/
structure Session where
  exchange : Exchange
  pipe : Channel → Pipe
  /-- The child, and after it the processes that it and they have started. -/
  members : List Member
  phase : Phase := .exchanging
  /-- All that was ever written to an output. -/
  written : Stream → ByteArray := fun _ => ByteArray.empty
  /-- All that was ever read of the input. -/
  taken : ByteArray := ByteArray.empty
  /-- Whether a process has read the input to its end. -/
  sawEnd : Bool := false
  /-- The faults of pipes. -/
  faults : List IoError := []
  /-- What was done to clean up. -/
  cleaned : List Cleanup := []

namespace Session

/-- The child has just been started. -/
def start (i : Invocation) (capacity : Channel → Nat) (first : Request) : Session where
  exchange := Exchange.start i.input
  pipe c := { capacity := capacity c }
  members := [.alive [.input, .output .out, .output .err] true first]

def child? (w : Session) : Option Member := w.members[0]?

/-- Whether a process holds its end of a pipe. -/
def childHolds (w : Session) (c : Channel) : Bool := w.members.any (·.holds c)

/-- Whether the parent holds its end of a pipe: each part lets go of its own when it is finished,
and the end of the exchange of all. -/
def parentHolds (w : Session) (c : Channel) : Bool :=
  match w.phase, c with
  | .exchanging, .input => !w.exchange.feed.isClosed
  | .exchanging, .output s => !(w.exchange.drain s).isEnded
  | _, _ => false

/-- What the answer to a request does to the pipes; nothing while the process has to wait. Whoever
does not hold the end that it asks for is refused. -/
def serve (w : Session) (ends : List Channel) : Request → Option Session
  | .read most =>
    if ends.contains .input then
      match (w.pipe .input).read (w.parentHolds .input) most with
      | .waits => none
      | .taken data p => some { w with
          pipe := Function.update w.pipe .input p
          taken := w.taken ++ data
          sawEnd := w.sawEnd || (w.pipe .input).held.isEmpty }
    else some w
  | .write s data =>
    if ends.contains (.output s) then
      match (w.pipe (.output s)).write (w.parentHolds (.output s)) data with
      | .broken => some w
      | .waits => none
      | .accepted count p => some { w with
          pipe := Function.update w.pipe (.output s) p
          written := Function.update w.written s (w.written s ++ data.extract 0 count) }
    else some w
  | _ => some w

/-- One act of cleaning up; nothing while it has to wait. -/
def perform (w : Session) : Cleanup → Option Session
  | .killGroup =>
    some { w with members := w.members.map fun m => if m.inGroup then m.kill else m }
  | .killChild => some { w with members := w.members.modify 0 Member.kill }
  | .reap =>
    match w.child? with
    | some (.dead word) => some { w with exchange := w.exchange.reaped (WaitStatus.ofWord word) }
    | _ => none

end Session

/-- The outcome of an exchange that is finished. -/
def outcome : Except IoError Output → Outcome
  | .ok output => .finished output
  | .error fault => .failed fault

/-- Who moves: the parent, a process, which then asks for `next`, or neither. -/
inductive Label where
  | parent
  | member (k : Nat) (next : Request)
  | outside

open Session in
/-- One move in the run of an invocation. -/
inductive Step (i : Invocation) (w : Session) : Label → Session → Prop where
  | feed {most : Nat} {x : Exchange} {p : Pipe} (running : w.phase = .exchanging) (some_ : 0 < most)
      (h : w.exchange.feedInto? (w.pipe .input) (w.childHolds .input) most = some (x, p)) :
      Step i w .parent { w with exchange := x, pipe := Function.update w.pipe .input p }
  | drain {s : Stream} {most : Nat} {x : Exchange} {p : Pipe} (running : w.phase = .exchanging)
      (some_ : 0 < most)
      (h : w.exchange.drainFrom? s (w.pipe (.output s)) (w.childHolds (.output s)) most
        = some (x, p)) :
      Step i w .parent { w with exchange := x, pipe := Function.update w.pipe (.output s) p }
  | reap {word : BitVec 32} (running : w.phase = .exchanging) (waiting : w.exchange.status = none)
      (h : w.child? = some (.dead word)) :
      Step i w .parent { w with exchange := w.exchange.reaped (WaitStatus.ofWord word) }
  | finish {r : Except IoError Output} (running : w.phase = .exchanging)
      (h : w.exchange.result? = some r) :
      Step i w .parent { w with phase := .returned (outcome r) }
  /-- The limit passes before the exchange is finished. -/
  | expire (running : w.phase = .exchanging) (limited : i.limit.isSome = true)
      (h : w.exchange.result? = none) :
      Step i w .outside
        { w with phase := .cleaning w.exchange.cleanup w.exchange.status.isSome }
  | clean {a : Cleanup} {todo : List Cleanup} {reaped : Bool} {v : Session}
      (cleaning : w.phase = .cleaning (a :: todo) reaped) (h : w.perform a = some v) :
      Step i w .parent { v with phase := .cleaning todo reaped, cleaned := w.cleaned ++ [a] }
  | giveUp {reaped : Bool} (cleaning : w.phase = .cleaning [] reaped) :
      Step i w .parent { w with phase := .returned (.timedOut reaped) }
  | feedFault {e : Errno} (running : w.phase = .exchanging)
      (writing : w.exchange.feed.isClosed = false) (h : e ≠ .brokenPipe) :
      Step i w .outside { w with
        exchange := { w.exchange with feed := w.exchange.feed.failed e }
        faults := w.faults ++ [.system e] }
  | drainFault {s : Stream} {e : Errno} (running : w.phase = .exchanging)
      (reading : (w.exchange.drain s).isEnded = false) :
      Step i w .outside { w with
        exchange := w.exchange.setDrain s ((w.exchange.drain s).failed e)
        faults := w.faults ++ [.system e] }
  | member {k : Nat} {ends : List Channel} {grouped : Bool} {request next : Request} {v : Session}
      (living : w.members[k]? = some (.alive ends grouped request))
      (h : w.serve ends request = some v) :
      Step i w (.member k next) { v with
        members := w.members.set k (.after ends grouped next request)
          ++ Member.offspring ends grouped request }
  /-- A process is killed by a signal from anywhere. -/
  | strike {k : Nat} {ends : List Channel} {grouped : Bool} {request : Request} {word : BitVec 32}
      (living : w.members[k]? = some (.alive ends grouped request)) :
      Step i w .outside { w with members := w.members.set k (.dead word) }

/-- The states in the run of an invocation, with pipes of any positive capacities. -/
inductive Reachable (i : Invocation) : Session → Prop where
  | start (capacity : Channel → Nat) (h : ∀ c, 0 < capacity c) (first : Request) :
      Reachable i (.start i capacity first)
  | step {w v : Session} {l : Label} (hr : Reachable i w) (h : Step i w l v) : Reachable i v

variable {i : Invocation} {w v : Session} {l : Label}

/-! ## What moves leave as it is -/

/-- Answering a request changes nothing, or takes from the input, or adds to an output. -/
theorem Session.serve_cases {ends : List Channel} {request : Request}
    (h : w.serve ends request = some v) :
    v = w ∨
    (∃ most data p, Channel.input ∈ ends ∧
      (w.pipe .input).read (w.parentHolds .input) most = .taken data p ∧
      v = { w with pipe := Function.update w.pipe .input p, taken := w.taken ++ data,
                   sawEnd := w.sawEnd || (w.pipe .input).held.isEmpty }) ∨
    ∃ s data count p, Channel.output s ∈ ends ∧
      (w.pipe (.output s)).write (w.parentHolds (.output s)) data = .accepted count p ∧
      v = { w with pipe := Function.update w.pipe (.output s) p,
                   written := Function.update w.written s (w.written s
    ++ data.extract 0 count) } := by
  cases request with
  | read most =>
    simp only [serve, List.contains_iff_mem] at h
    split at h
    · rename_i hend
      split at h
      · cases h
      · rename_i data p hr
        cases h
        exact .inr (.inl ⟨most, data, p, hend, hr, rfl⟩)
    · cases h; exact .inl rfl
  | write s data =>
    simp only [serve, List.contains_iff_mem] at h
    split at h
    · rename_i hend
      split at h
      · cases h; exact .inl rfl
      · cases h
      · rename_i count p hw
        cases h
        exact .inr (.inr ⟨s, data, count, p, hend, hw, rfl⟩)
    · cases h; exact .inl rfl
  | close c => cases h; exact .inl rfl
  | compute => cases h; exact .inl rfl
  | fork first => cases h; exact .inl rfl
  | leaveGroup => cases h; exact .inl rfl
  | exit word => cases h; exact .inl rfl

/-- Answering a request touches neither the parent nor the processes. -/
theorem Session.serve_frame {ends : List Channel} {request : Request}
    (h : w.serve ends request = some v) :
    v.exchange = w.exchange ∧ v.phase = w.phase ∧ v.faults = w.faults ∧ v.cleaned = w.cleaned := by
  rcases serve_cases h with rfl | ⟨_, _, _, _, _, rfl⟩ | ⟨_, _, _, _, _, _, rfl⟩ <;>
    exact ⟨rfl, rfl, rfl, rfl⟩

/-- Cleaning up touches no pipe and none of the parts that feed and drain. -/
theorem Session.perform_frame {a : Cleanup} (h : w.perform a = some v) :
    v.exchange.feed = w.exchange.feed ∧ (∀ s, v.exchange.drain s = w.exchange.drain s) ∧
      v.pipe = w.pipe ∧ v.written = w.written ∧ v.taken = w.taken ∧ v.sawEnd = w.sawEnd ∧
      v.faults = w.faults := by
  cases a with
  | killGroup => cases h; simp
  | killChild => cases h; simp
  | reap =>
    simp only [perform] at h
    split at h
    · cases h
      exact ⟨rfl, drain_reaped _ _, rfl, rfl, rfl, rfl, rfl⟩
    · cases h

/-- Cleaning up kills processes and does nothing else to them. -/
theorem Session.perform_members {a : Cleanup} (h : w.perform a = some v) :
    v.members.length = w.members.length ∧
      ∀ (j : Nat) (m : Member), v.members[j]? = some m →
        ∃ n : Member, w.members[j]? = some n ∧ (m = n ∨ m = n.kill) := by
  cases a with
  | killGroup =>
    cases h
    refine ⟨by simp, fun j m hm => ?_⟩
    rw [List.getElem?_map, Option.map_eq_some_iff] at hm
    obtain ⟨n, hn, rfl⟩ := hm
    refine ⟨n, hn, ?_⟩
    split
    · exact .inr rfl
    · exact .inl rfl
  | killChild =>
    cases h
    refine ⟨by simp, fun j m hm => ?_⟩
    rw [List.getElem?_modify, Option.map_eq_map, Option.map_eq_some_iff] at hm
    obtain ⟨n, hn, rfl⟩ := hm
    refine ⟨n, hn, ?_⟩
    split
    · exact .inr rfl
    · exact .inl rfl
  | reap =>
    simp only [perform] at h
    split at h
    · cases h; exact ⟨rfl, fun j m hm => ⟨m, hm, .inl rfl⟩⟩
    · cases h

/-! ## The processes -/

theorem Member.holds_kill (m : Member) (c : Channel) : m.kill.holds c = false := by
  cases m <;> rfl

/-- A process that goes on, and one that it starts, hold nothing that it did not hold. -/
theorem Member.holds_after {ends : List Channel} {grouped : Bool} {request next : Request}
    {c : Channel} {m : Member}
    (hm : m = .after ends grouped next request ∨ m ∈ Member.offspring ends grouped request)
    (h : m.holds c = true) : c ∈ ends := by
  rcases hm with rfl | hm
  · cases request <;> simp_all [after, holds]
  · cases request <;> simp_all [offspring, holds]

/-- Every process after a move was there before, or goes on from one that was, and holds no more. -/
theorem Step.childHolds_mono (h : Step i w l v) {c : Channel} (hv : v.childHolds c = true) :
    w.childHolds c = true := by
  simp only [Session.childHolds, List.any_eq_true] at hv ⊢
  obtain ⟨m, hm, hc⟩ := hv
  cases h with
  | clean _ h =>
    obtain ⟨j, hj⟩ := List.mem_iff_getElem?.mp hm
    obtain ⟨n, hn, rfl | rfl⟩ := (Session.perform_members h).2 j m hj
    · exact ⟨m, List.mem_of_getElem? hn, hc⟩
    · rw [Member.holds_kill] at hc; cases hc
  | @member k ends grouped request next u living h =>
    simp only [List.mem_append] at hm
    have hold := List.mem_of_getElem? living
    rcases hm with hm | hm
    · rcases List.mem_or_eq_of_mem_set hm with hm | hm
      · exact ⟨m, hm, hc⟩
      · have hend := Member.holds_after (.inl hm) hc
        exact ⟨_, hold, by simpa [Member.holds] using hend⟩
    · have hend := @Member.holds_after ends grouped request next c m (.inr hm) hc
      exact ⟨_, hold, by simpa [Member.holds] using hend⟩
  | strike living =>
    rcases List.mem_or_eq_of_mem_set hm with hm | rfl
    · exact ⟨m, hm, hc⟩
    · cases hc
  | _ => exact ⟨m, hm, hc⟩

/-- An end that no process holds is never held again. -/
theorem Step.childHolds_gone (h : Step i w l v) {c : Channel} (hw : w.childHolds c = false) :
    v.childHolds c = false := by
  rw [← Bool.not_eq_true] at hw ⊢
  exact fun hv => hw (h.childHolds_mono hv)

theorem Session.childHolds_of_mem {k : Nat} {ends : List Channel} {grouped : Bool}
    {request : Request} {c : Channel} (living : w.members[k]? = some (.alive ends grouped request))
    (hc : c ∈ ends) : w.childHolds c = true :=
  List.any_eq_true.mpr ⟨_, List.mem_of_getElem? living, by simpa [Member.holds] using hc⟩

/-- Whoever is dead stays so. -/
theorem Step.dead_stays (h : Step i w l v) {j : Nat} {word : BitVec 32}
    (hd : w.members[j]? = some (.dead word)) : v.members[j]? = some (.dead word) := by
  cases h with
  | clean _ h =>
    obtain ⟨hlen, hsame⟩ := Session.perform_members h
    have hlt : j < w.members.length := (List.getElem?_eq_some_iff.mp hd).1
    have hj := List.getElem?_eq_getElem (Nat.lt_of_lt_of_eq hlt hlen.symm)
    obtain ⟨n, hn, hm⟩ := hsame j _ hj
    rw [hd] at hn; cases hn
    rcases hm with hm | hm <;> exact hj.trans (congrArg some hm)
  | @member k ends grouped request next u living h =>
    have hk : j ≠ k := by rintro rfl; rw [living] at hd; cases hd
    have hlt : j < w.members.length := (List.getElem?_eq_some_iff.mp hd).1
    simp only
    rw [List.getElem?_append_left (by simpa using hlt), List.getElem?_set_ne hk.symm, hd]
  | @strike k ends grouped request u living =>
    have hk : j ≠ k := by rintro rfl; rw [living] at hd; cases hd
    simp only
    rw [List.getElem?_set_ne hk.symm, hd]
  | _ => exact hd

/-- No process is forgotten. -/
theorem Step.members_length (h : Step i w l v) : w.members.length ≤ v.members.length := by
  cases h with
  | clean _ h => exact Nat.le_of_eq (Session.perform_members h).1.symm
  | member living h => simp
  | strike living => simp
  | _ => exact Nat.le_refl _

/-- There is always the child, alive or dead. -/
theorem Reachable.child (h : Reachable i w) : ∃ m, w.child? = some m := by
  have hlen : 0 < w.members.length := by
    induction h with
    | start capacity h first => simp [Session.start]
    | step _ h ih => exact Nat.lt_of_lt_of_le ih h.members_length
  exact ⟨_, List.getElem?_eq_getElem hlen⟩

end ModuleForge.Exchange
