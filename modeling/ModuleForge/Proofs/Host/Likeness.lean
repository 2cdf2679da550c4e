import Mathlib.Data.List.Nodup
import ModuleForge.Host.Spawn
import ModuleForge.Proofs.Exchange.Moves

/-!
# The machine as a session

An exchange on the machine, seen as the system of a parent and its child. A session shows the
machine (`Shows`) if the pipes of the exchange hold the same in both, and every process that has an
end of one of them or is in the group of the child is played by a member: one that is dead if the
process is dead or gone, and otherwise has the same ends. Members ask for nothing in particular;
what a process asks for is chosen when the machine answers it.

`Frame` says what may change apart from the processes without the session taking notice. Whether
anyone can still read a pipe or write to it is the same on both sides (`Shows.someHas_theirs`,
`Shows.someHas_ours`).
-/
namespace ModuleForge.Host

/-! ## Ends of pipes -/

/-- An end of a pipe: the pipe's number, and whether it is the end to write to. -/
abbrev PipeEnd := Nat × Bool

def Channel.end? : Channel → Option PipeEnd
  | .readEnd n => some (n, false)
  | .writeEnd n => some (n, true)
  | _ => none

namespace Machine

/-- The end of a pipe that a channel is. -/
def endAt (m : Machine) (k : Nat) : Option PipeEnd := (m.channels[k]?).bind Channel.end?

/-- Whether a process holds an end of a pipe. -/
def has (m : Machine) (e : PipeEnd) (p : Process) : Bool :=
  p.descriptors.any fun d => m.endAt d.channel == some e

/-- Whether anyone holds an end of a pipe. -/
def someHas (m : Machine) (e : PipeEnd) : Bool :=
  m.held.any (m.endAt · == some e) || m.processes.any (m.has e)

theorem holds_eq (m : Machine) {property : Channel → Bool} {e : PipeEnd}
    (h : ∀ ch, property ch = (ch.end? == some e)) : m.holds property = m.someHas e := by
  have hgood (k : Nat) : (m.channels[k]?).any property = (m.endAt k == some e) := by
    unfold endAt
    cases m.channels[k]? with
    | none => rfl
    | some ch => exact h ch
  simp only [holds, hgood]
  rfl

theorem hasReaders_eq (m : Machine) (n : Nat) : m.hasReaders n = m.someHas (n, false) :=
  m.holds_eq fun ch => by cases ch <;> simp [Channel.end?]

theorem hasWriters_eq (m : Machine) (n : Nat) : m.hasWriters n = m.someHas (n, true) :=
  m.holds_eq fun ch => by cases ch <;> simp [Channel.end?]

theorem pipeOf_eq {m : Machine} {k : Nat} {e : PipeEnd} (h : m.endAt k = some e) :
    m.pipeOf k = e.1 := by
  unfold endAt at h
  unfold pipeOf
  cases hk : m.channels[k]? with
  | none => rw [hk] at h; cases h
  | some ch =>
    rw [hk] at h
    cases ch with
    | readEnd n => cases h; rfl
    | writeEnd n => cases h; rfl
    | file => cases h
    | device => cases h

theorem endAt_of_le {m : Machine} {k : Nat} (h : m.channels.size ≤ k) : m.endAt k = none := by
  simp [endAt, h]

theorem endAt_eq {m : Machine} {k : Nat} {ch : Channel} (h : m.channels[k]? = some ch) :
    m.endAt k = ch.end? := by
  rw [endAt, h]
  rfl

end Machine

/-! ## Changes apart from the processes -/

/-- The pipes of an exchange, by their numbers. -/
abbrev Pipes := Exchange.Channel → Nat

/-- What changes at most when a request does nothing to the pipes of an exchange: there may be new
channels, and new pipes behind them. -/
structure Frame (pipe : Pipes) (m m' : Machine) : Prop where
  self : m'.self = m.self
  lastPid : m'.lastPid = m.lastPid
  held : m'.held = m.held
  channels : m.channels.size ≤ m'.channels.size
  endAt : ∀ k < m.channels.size, m'.endAt k = m.endAt k
  fresh : ∀ k e, m.channels.size ≤ k → m'.endAt k = some e →
    m.pipes.size ≤ e.1 ∧ e.1 < m'.pipes.size
  pipes : m.pipes.size ≤ m'.pipes.size
  pipeAt : ∀ ch, m'.pipeAt (pipe ch) = m.pipeAt (pipe ch)

namespace Machine

theorem addPipe_channels (m : Machine) :
    m.addPipe.2.2.channels.size = m.channels.size + 2 := by
  simp [addPipe, addChannel]

theorem addPipe_pipes (m : Machine) : m.addPipe.2.2.pipes.size = m.pipes.size + 1 := by
  simp [addPipe, addChannel]

theorem addPipe_writer (m : Machine) : m.addPipe.2.1 = m.channels.size + 1 := by
  simp [addPipe, addChannel]

/-- A new pipe has two new ends. -/
theorem endAt_addPipe (m : Machine) (k : Nat) : m.addPipe.2.2.endAt k =
    if k = m.channels.size then some (m.pipes.size, false)
    else if k = m.channels.size + 1 then some (m.pipes.size, true) else m.endAt k := by
  simp only [endAt, addPipe, addChannel, Array.getElem?_push, Array.size_push]
  by_cases hreader : k = m.channels.size
  · rw [if_neg (by omega), if_pos hreader, if_pos hreader]
    rfl
  · by_cases hwriter : k = m.channels.size + 1
    · rw [if_pos hwriter, if_neg hreader, if_pos hwriter]
      rfl
    · rw [if_neg hwriter, if_neg hreader, if_neg hreader, if_neg hwriter]

end Machine

namespace Frame

variable {pipe : Pipes} {m m' m'' : Machine}

/-- Nothing about channels and pipes is changed. -/
theorem of_eq (self : m'.self = m.self) (lastPid : m'.lastPid = m.lastPid)
    (held : m'.held = m.held) (channels : m'.channels = m.channels) (pipes : m'.pipes = m.pipes) :
    Frame pipe m m' where
  self := self
  lastPid := lastPid
  held := held
  channels := Nat.le_of_eq (congrArg Array.size channels.symm)
  endAt k _ := by rw [Machine.endAt, channels, Machine.endAt]
  fresh k e h he := by rw [Machine.endAt_of_le (by rwa [channels])] at he; cases he
  pipes := Nat.le_of_eq (congrArg Array.size pipes.symm)
  pipeAt ch := by rw [Machine.pipeAt, pipes, Machine.pipeAt]

theorem refl (m : Machine) : Frame pipe m m := of_eq rfl rfl rfl rfl rfl

theorem trans (h : Frame pipe m m') (h' : Frame pipe m' m'') : Frame pipe m m'' where
  self := h'.self.trans h.self
  lastPid := h'.lastPid.trans h.lastPid
  held := h'.held.trans h.held
  channels := Nat.le_trans h.channels h'.channels
  endAt k hk := (h'.endAt k (Nat.lt_of_lt_of_le hk h.channels)).trans (h.endAt k hk)
  fresh k e hk he := by
    by_cases hlt : k < m'.channels.size
    · rw [h'.endAt k hlt] at he
      obtain ⟨hlow, hhigh⟩ := h.fresh k e hk he
      exact ⟨hlow, Nat.lt_of_lt_of_le hhigh h'.pipes⟩
    · obtain ⟨hlow, hhigh⟩ := h'.fresh k e (Nat.le_of_not_lt hlt) he
      exact ⟨Nat.le_trans h.pipes hlow, hhigh⟩
  pipes := Nat.le_trans h.pipes h'.pipes
  pipeAt ch := (h'.pipeAt ch).trans (h.pipeAt ch)

/-- What a process holds stays the same. -/
theorem has_eq (h : Frame pipe m m') {p : Process}
    (hopen : ∀ d ∈ p.descriptors, d.channel < m.channels.size) (e : PipeEnd) :
    m'.has e p = m.has e p := by
  rw [Bool.eq_iff_iff, Machine.has, Machine.has, List.any_eq_true, List.any_eq_true]
  exact exists_congr fun d => and_congr_right fun hd => by rw [h.endAt d.channel (hopen d hd)]

theorem tree (m : Machine) (t : FileTree) : Frame pipe m { m with tree := t } :=
  of_eq rfl rfl rfl rfl rfl

theorem addChannel (m : Machine) {ch : Channel} (plain : ch.end? = none) :
    Frame pipe m (m.addChannel ch).2 where
  self := rfl
  lastPid := rfl
  held := rfl
  channels := by simp [Machine.addChannel]
  endAt k hk := by
    unfold Machine.endAt
    rw [Machine.addChannel, Array.getElem?_push, if_neg (Nat.ne_of_lt hk)]
  fresh k e hk he := by
    unfold Machine.endAt at he
    rw [Machine.addChannel, Array.getElem?_push] at he
    split at he
    · rw [Option.bind_some, plain] at he; cases he
    · rw [Array.getElem?_eq_none hk] at he; cases he
  pipes := Nat.le_refl _
  pipeAt _ := rfl

theorem setChannel (m : Machine) {k : Nat} {ch : Channel} (h : m.endAt k = ch.end?) :
    Frame pipe m (m.setChannel k ch) where
  self := rfl
  lastPid := rfl
  held := rfl
  channels := by simp [Machine.setChannel]
  endAt j hj := by
    unfold Machine.endAt at h ⊢
    rw [Machine.setChannel, Array.getElem?_setIfInBounds]
    split
    · rename_i hkj
      subst hkj
      rw [if_pos hj, Option.bind_some, h]
    · rfl
  fresh j e hj he := by
    rw [Machine.endAt_of_le (by simpa [Machine.setChannel] using hj)] at he
    cases he
  pipes := Nat.le_refl _
  pipeAt _ := rfl

theorem setPipe (m : Machine) {n : Nat} (p : Pipe) (h : ∀ ch, pipe ch ≠ n) :
    Frame pipe m (m.setPipe n p) where
  self := rfl
  lastPid := rfl
  held := rfl
  channels := Nat.le_refl _
  endAt _ _ := rfl
  fresh k e hk he := by
    rw [Machine.endAt_of_le (m := m.setPipe n p) hk] at he
    cases he
  pipes := by simp [Machine.setPipe]
  pipeAt ch := by
    unfold Machine.pipeAt
    rw [Machine.setPipe, Array.getElem?_setIfInBounds_ne (h ch).symm]

theorem addPipe (m : Machine) (h : ∀ ch, pipe ch < m.pipes.size) :
    Frame pipe m m.addPipe.2.2 where
  self := rfl
  lastPid := rfl
  held := rfl
  channels := by rw [m.addPipe_channels]; omega
  endAt k hk := by
    rw [m.endAt_addPipe, if_neg (Nat.ne_of_lt hk), if_neg (by omega)]
  fresh k e hk he := by
    rw [m.endAt_addPipe, Machine.endAt_of_le hk] at he
    rw [m.addPipe_pipes]
    split at he
    · cases he; simp
    · split at he
      · cases he; simp
      · cases he
  pipes := by rw [m.addPipe_pipes]; omega
  pipeAt ch := by
    unfold Machine.pipeAt
    simp only [Machine.addPipe, Machine.addChannel]
    rw [Array.getElem?_push, if_neg (Nat.ne_of_lt (h ch))]

end Frame

/-! ## The machine as a session -/

/-- The channel of the parent at its end of a pipe. -/
def Machine.Child.channel (c : Machine.Child) : Exchange.Channel → Nat
  | .input => c.input
  | .output .out => c.output
  | .output .err => c.errors

/-- Whether the child writes to a pipe. -/
def toParent : Exchange.Channel → Bool
  | .input => false
  | .output _ => true

/-- The end of a pipe that is the child's. -/
def theirs (pipe : Pipes) (ch : Exchange.Channel) : PipeEnd := (pipe ch, toParent ch)

/-- The end of a pipe that is the parent's. -/
def ours (pipe : Pipes) (ch : Exchange.Channel) : PipeEnd := (pipe ch, !toParent ch)

/-- All pipes of an exchange. -/
def allChannels : List Exchange.Channel := [.input, .output .out, .output .err]

/-- The part that a process plays in an exchange with `c`. What it asks for next is chosen as it
goes on. -/
def role (c : Machine.Child) (pipe : Pipes) (m : Machine) (p : Process) : Exchange.Member :=
  match p.word? with
  | some word => .dead word
  | none =>
    .alive (allChannels.filter fun ch => m.has (theirs pipe ch) p) (p.group == c.pid) .compute

/-- The part of the process with a number; a process that is no more is dead. -/
structure Plays (c : Machine.Child) (pipe : Pipes) (m : Machine) (pid : Nat) (x : Exchange.Member) :
    Prop where
  role : ∀ p ∈ m.processes, p.pid = pid → x = role c pipe m p
  gone : (∀ p ∈ m.processes, p.pid ≠ pid) → ∃ word, x = .dead word

/-- What holds of each process of a machine. -/
structure Process.Sound (m : Machine) (p : Process) : Prop where
  above : m.self < p.pid
  known : p.pid ≤ m.lastPid
  group : p.group ≤ m.lastPid
  valid : ∀ d ∈ p.descriptors, d.channel < m.channels.size
  ended : p.word?.isSome = true → p.descriptors = []

/-- Numbers of processes are given once, and descriptors and channels stand for something. -/
structure Machine.Sound (m : Machine) : Prop where
  self : m.self ≠ 1
  selfKnown : m.self ≤ m.lastPid
  once : (m.processes.map (·.pid)).Nodup
  piped : ∀ k e, m.endAt k = some e → e.1 < m.pipes.size
  each : ∀ p ∈ m.processes, p.Sound m

/-- What holds of each process beside an exchange: none has an end of the parent, and the child
leads its group. -/
structure Process.Beside (c : Machine.Child) (pipe : Pipes) (m : Machine) (p : Process) : Prop where
  apart : ∀ ch, m.has (ours pipe ch) p = false
  leader : p.pid = c.pid → p.group = c.pid ∧ p.parent = m.self

/-- The parent has its ends, and the pipes are three. -/
structure Wired (c : Machine.Child) (pipe : Pipes) (m : Machine) : Prop where
  apart : Function.Injective pipe
  bound : ∀ ch, pipe ch < m.pipes.size
  ours : ∀ ch, m.endAt (c.channel ch) = some (ours pipe ch)
  held : ∀ k ∈ m.held, ∃ ch, k = c.channel ch
  beside : ∀ p ∈ m.processes, p.Beside c pipe m

/-- A session that shows what becomes of an exchange on a machine: the pipes hold the same, and each
member plays the part of a process. The processes that are not among `ids` have no end of the pipes
and are not in the group of the child. -/
structure Shows (c : Machine.Child) (pipe : Pipes) (ids : List Nat) (m : Machine)
    (w : Exchange.Session) : Prop where
  sound : m.Sound
  wired : Wired c pipe m
  pipes : ∀ ch, w.pipe ch = m.pipeAt (pipe ch)
  distinct : ids.Nodup
  known : ∀ pid ∈ ids, pid ≤ m.lastPid
  first : ids[0]? = some c.pid
  length : w.members.length = ids.length
  plays : ∀ (k pid : Nat) (x : Exchange.Member), ids[k]? = some pid → w.members[k]? = some x →
    Plays c pipe m pid x
  cover : ∀ p ∈ m.processes, p.group = c.pid ∨ (∃ ch, m.has (theirs pipe ch) p = true) → p.pid ∈ ids
  gone : w.exchange.status.isSome = true → ∀ p ∈ m.processes, p.pid ≠ c.pid

variable {c : Machine.Child} {pipe : Pipes} {ids : List Nat} {m : Machine}
  {w : Exchange.Session}

theorem Machine.Sound.eq_of_pid (h : m.Sound) {p q : Process} (hp : p ∈ m.processes)
    (hq : q ∈ m.processes) (hpid : p.pid = q.pid) : p = q :=
  List.inj_on_of_nodup_map h.once hp hq hpid

/-- Whoever is not dead plays a process that lives. -/
theorem Plays.cases {r : Nat} {x : Exchange.Member} (h : Plays c pipe m r x) :
    (∃ word, x = .dead word) ∨ ∃ p ∈ m.processes, p.pid = r ∧ p.word? = none ∧
      x = .alive (allChannels.filter fun ch => m.has (theirs pipe ch) p) (p.group == c.pid)
        .compute := by
  by_cases hthere : ∃ p ∈ m.processes, p.pid = r
  · obtain ⟨p, hp, hpid⟩ := hthere
    have hrole := h.role p hp hpid
    cases hword : p.word? with
    | some word =>
      rw [Host.role, hword] at hrole
      exact .inl ⟨word, hrole⟩
    | none =>
      rw [Host.role, hword] at hrole
      exact .inr ⟨p, hp, hpid, hword, hrole⟩
  · exact .inl (h.gone fun p hp hpid => hthere ⟨p, hp, hpid⟩)

/-- Only the pipes, the members and whether the child has been waited for matter. -/
theorem Shows.of_eq (h : Shows c pipe ids m w) {v : Exchange.Session} (pipes : v.pipe = w.pipe)
    (members : v.members = w.members) (status : v.exchange.status = w.exchange.status) :
    Shows c pipe ids m v := by
  obtain ⟨hsound, hwired, hpipes, hdistinct, hknown, hfirst, hlength, hplays, hcover, hgone⟩ := h
  exact ⟨hsound, hwired, by rwa [pipes], hdistinct, hknown, hfirst, by rwa [members],
    by rwa [members], hcover, by rwa [status]⟩

theorem Shows.exists_id (h : Shows c pipe ids m w) {x : Exchange.Member} (hx : x ∈ w.members) :
    ∃ pid, Plays c pipe m pid x := by
  obtain ⟨k, hk⟩ := List.mem_iff_getElem?.mp hx
  have hlt : k < ids.length := by
    rw [← h.length]
    exact (List.getElem?_eq_some_iff.mp hk).1
  exact ⟨ids[k], h.plays k ids[k] x (List.getElem?_eq_getElem hlt) hk⟩

theorem Shows.exists_member (h : Shows c pipe ids m w) {pid : Nat} (hmem : pid ∈ ids) :
    ∃ (k : Nat) (x : Exchange.Member), ids[k]? = some pid ∧ w.members[k]? = some x ∧
      Plays c pipe m pid x := by
  obtain ⟨k, hk⟩ := List.mem_iff_getElem?.mp hmem
  have hlt : k < w.members.length := by
    rw [h.length]
    exact (List.getElem?_eq_some_iff.mp hk).1
  exact ⟨k, w.members[k], hk, List.getElem?_eq_getElem hlt,
    h.plays k pid _ hk (List.getElem?_eq_getElem hlt)⟩

theorem Shows.child (h : Shows c pipe ids m w) :
    ∃ x, w.child? = some x ∧ Plays c pipe m c.pid x := by
  have hlt : 0 < w.members.length := by
    rw [h.length]
    exact (List.getElem?_eq_some_iff.mp h.first).1
  exact ⟨w.members[0], List.getElem?_eq_getElem hlt,
    h.plays 0 c.pid _ h.first (List.getElem?_eq_getElem hlt)⟩

theorem Shows.pipeOf (h : Shows c pipe ids m w) (ch : Exchange.Channel) :
    m.pipeOf (c.channel ch) = pipe ch := Machine.pipeOf_eq (h.wired.ours ch)

theorem Shows.channel_injective (h : Shows c pipe ids m w) : Function.Injective c.channel := by
  intro ch ch' heq
  have hours := h.wired.ours ch
  rw [heq, h.wired.ours ch'] at hours
  exact h.wired.apart (Prod.mk.inj (Option.some.inj hours)).1.symm

/-! ## Who holds what -/

theorem Process.Sound.alive {p : Process} (h : p.Sound m) {e : PipeEnd} (has : m.has e p = true) :
    p.word? = none := by
  rw [← Option.not_isSome_iff_eq_none]
  intro dead
  rw [Machine.has, h.ended dead] at has
  cases has

/-- A process with its end of a pipe is played by a member that has it. -/
theorem Shows.member (h : Shows c pipe ids m w) {p : Process} (hp : p ∈ m.processes)
    {ch : Exchange.Channel} (has : m.has (theirs pipe ch) p = true) :
    ∃ (k : Nat) (ends : List Exchange.Channel) (grouped : Bool), ch ∈ ends ∧
      w.members[k]? = some (.alive ends grouped .compute) := by
  obtain ⟨k, x, -, hx, hplays⟩ := h.exists_member (h.cover p hp (.inr ⟨ch, has⟩))
  rw [hplays.role p hp rfl, role, (h.sound.each p hp).alive has] at hx
  refine ⟨k, _, _, List.mem_filter.mpr ⟨?_, has⟩, hx⟩
  rcases ch with _ | _ | _ <;> simp [allChannels]

theorem Shows.someHas_theirs (h : Shows c pipe ids m w) (ch : Exchange.Channel) :
    m.someHas (theirs pipe ch) = w.childHolds ch := by
  have hheld : (m.held.any (m.endAt · == some (theirs pipe ch))) = false := by
    rw [List.any_eq_false]
    intro k hk
    obtain ⟨ch', rfl⟩ := h.wired.held k hk
    rw [h.wired.ours, beq_iff_eq]
    intro heq
    obtain ⟨hpipe, hside⟩ := Prod.mk.inj (Option.some.inj heq)
    obtain rfl := h.wired.apart hpipe
    cases ch' <;> cases hside
  rw [Machine.someHas, hheld, Bool.false_or, Exchange.Session.childHolds, Bool.eq_iff_iff,
    List.any_eq_true, List.any_eq_true]
  constructor
  · rintro ⟨p, hp, hhas⟩
    obtain ⟨k, ends, grouped, hend, hk⟩ := h.member hp hhas
    exact ⟨_, List.mem_of_getElem? hk, List.contains_iff_mem.mpr hend⟩
  · rintro ⟨x, hx, hholds⟩
    obtain ⟨pid, hplays⟩ := h.exists_id hx
    rcases hplays.cases with ⟨word, rfl⟩ | ⟨p, hp, -, -, rfl⟩
    · cases hholds
    · rw [Exchange.Member.holds, List.contains_iff_mem, List.mem_filter] at hholds
      exact ⟨p, hp, hholds.2⟩

/-- The parent holds its ends on the machine as in the session. -/
def Holds (c : Machine.Child) (m : Machine) (w : Exchange.Session) : Prop :=
  ∀ ch, c.channel ch ∈ m.held ↔ w.parentHolds ch = true

theorem Shows.someHas_ours (h : Shows c pipe ids m w) (holds : Holds c m w)
    (ch : Exchange.Channel) : m.someHas (ours pipe ch) = w.parentHolds ch := by
  have hnone : m.processes.any (m.has (ours pipe ch)) = false := by
    rw [List.any_eq_false]
    intro p hp
    rw [(h.wired.beside p hp).apart ch]
    exact Bool.false_ne_true
  rw [Machine.someHas, hnone, Bool.or_false, Bool.eq_iff_iff, ← holds ch, List.any_eq_true]
  constructor
  · rintro ⟨k, hk, heq⟩
    obtain ⟨ch', rfl⟩ := h.wired.held k hk
    rw [h.wired.ours, beq_iff_eq] at heq
    obtain ⟨hpipe, -⟩ := Prod.mk.inj (Option.some.inj heq)
    rwa [← h.wired.apart hpipe]
  · intro hheld
    exact ⟨c.channel ch, hheld, by rw [h.wired.ours, beq_self_eq_true]⟩

end ModuleForge.Host
