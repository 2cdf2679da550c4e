import ModuleForge.Host.Standard
import ModuleForge.Proofs.Exchange.Cleanup
import ModuleForge.Proofs.Exchange.Progress
import ModuleForge.Proofs.Host.Requests

/-!
# Driving an exchange

`Machine.drive` does by turns what the parent can do at once and one step of the machine. Each of
these is a run of moves of the system of a parent and its child (`Shows.attend`, `Shows.step`), and
so is the cleaning up after the limit (`Shows.cleanUp`), hence everything up to the end that is
reported (`Shows.drive`). A child that has just been started is shown by a session that begins
(`start_shows`). So an exchange on a sound machine is a run of that system (`exchange_refines`), and
what holds of all its runs holds of the machine. A machine stays sound (`exchange_sound`).
-/
namespace ModuleForge.Host

variable {i : Invocation} {c : Machine.Child} {pipe : Pipes} {ids : List Nat} {m m' : Machine}
  {w : Exchange.Session}

/-! ## The parent -/

theorem feedInto?_status {x y : Exchange} {p q : Pipe} {readers : Bool} {most : Nat}
    (h : x.feedInto? p readers most = some (y, q)) : y.status = x.status := by
  obtain ⟨_, -, ⟨rfl, -⟩ | ⟨_, _, -, rfl, -⟩⟩ := Exchange.feedInto?_cases h <;> rfl

theorem drainFrom?_status {x y : Exchange} {s : ModuleForge.Stream} {p q : Pipe} {writers : Bool}
    {most : Nat} (hm : 0 < most) (h : x.drainFrom? s p writers most = some (y, q)) :
    y.status = x.status := by
  obtain ⟨_, -, ⟨rfl, -⟩ | ⟨_, rfl, -⟩⟩ := Exchange.drainFrom?_cases hm h <;>
    exact Exchange.status_setDrain ..

/-- A read of all that a pipe holds is one of a positive amount. -/
theorem read_all (p : Pipe) (writers : Bool) :
    p.read writers p.held.size = p.read writers (max 1 p.held.size) := by
  unfold Pipe.read
  split
  · rfl
  · rename_i hheld
    have hpos : 1 ≤ p.held.size := by
      rw [Bytes.isEmpty_iff, ← ByteArray.size_eq_zero_iff] at hheld
      omega
    rw [Nat.max_eq_right hpos]

theorem drainFrom?_all (x : Exchange) (s : ModuleForge.Stream) (p : Pipe) (writers : Bool) :
    x.drainFrom? s p writers p.held.size = x.drainFrom? s p writers (max 1 p.held.size) := by
  unfold Exchange.drainFrom?
  rw [read_all]

/-- The parent moves, and comes to `x` with a machine that is shown. -/
def Turns (i : Invocation) (c : Machine.Child) (pipe : Pipes) (ids : List Nat)
    (w : Exchange.Session) (x : Exchange) (m' : Machine) : Prop :=
  ∃ v, Exchange.Moves i w v ∧ v.phase = .exchanging ∧ v.exchange = x ∧ Shows c pipe ids m' v

/-- The parent feeds what it can. -/
theorem Shows.feed (h : Shows c pipe ids m w) (hr : Exchange.Reachable i w)
    (running : w.phase = .exchanging) {x : Exchange}
    (fed : Machine.feed c w.exchange m = (x, m')) : Turns i c pipe ids w x m' := by
  have hpipe : m.pipeOf c.input = pipe .input := h.pipeOf .input
  simp only [Machine.feed, hpipe, ← h.pipes .input] at fed
  cases hfeed : w.exchange.feedInto? (w.pipe .input) (m.hasReaders (pipe .input))
      (w.pipe .input).capacity with
  | none =>
    rw [hfeed] at fed
    cases fed
    exact ⟨w, .refl, running, rfl, h.piped .input _ (Function.update_eq_self _ _).symm rfl rfl⟩
  | some moved =>
    rw [hfeed] at fed
    cases fed
    have hstatus := feedInto?_status hfeed
    have hreaders : m.hasReaders (pipe .input) = w.childHolds .input :=
      (m.hasReaders_eq _).trans (h.someHas_theirs .input)
    rw [hreaders] at hfeed
    exact ⟨_, (Exchange.Step.feed running (hr.capacity_pos _) hfeed).moves, running, rfl,
      h.piped .input _ rfl rfl hstatus⟩

/-- The parent drains what it can. -/
theorem Shows.drain (h : Shows c pipe ids m w) (running : w.phase = .exchanging)
    {s : ModuleForge.Stream} {x : Exchange} (drained : Machine.drain c s w.exchange m = (x, m')) :
    Turns i c pipe ids w x m' := by
  have hpipe : m.pipeOf (c.reader s) = pipe (.output s) := by
    cases s
    · exact h.pipeOf (.output .out)
    · exact h.pipeOf (.output .err)
  simp only [Machine.drain, hpipe, ← h.pipes (.output s), drainFrom?_all] at drained
  cases hdrain : w.exchange.drainFrom? s (w.pipe (.output s)) (m.hasWriters (pipe (.output s)))
      (max 1 (w.pipe (.output s)).held.size) with
  | none =>
    rw [hdrain] at drained
    cases drained
    exact ⟨w, .refl, running, rfl, h.piped (.output s) _ (Function.update_eq_self _ _).symm rfl rfl⟩
  | some moved =>
    rw [hdrain] at drained
    cases drained
    have hmost : 0 < max 1 (w.pipe (.output s)).held.size := by omega
    have hstatus := drainFrom?_status hmost hdrain
    have hwriters : m.hasWriters (pipe (.output s)) = w.childHolds (.output s) :=
      (m.hasWriters_eq _).trans (h.someHas_theirs (.output s))
    rw [hwriters] at hdrain
    exact ⟨_, (Exchange.Step.drain running hmost hdrain).moves, running, rfl,
      h.piped (.output s) _ rfl rfl hstatus⟩

theorem Machine.Sound.holding (h : m.Sound) (held : List Nat) :
    Machine.Sound { m with held } where
  self := h.self
  selfKnown := h.selfKnown
  once := h.once
  piped := h.piped
  each p hp :=
    have hp' := h.each p hp
    ⟨hp'.above, hp'.known, hp'.group, hp'.valid, hp'.ended⟩

/-- The parent lets go of some of its ends, or of all. -/
theorem Shows.holding (h : Shows c pipe ids m w) {held : List Nat}
    (own : ∀ k ∈ held, ∃ ch, k = c.channel ch) : Shows c pipe ids { m with held } w where
  sound := h.sound.holding held
  wired := ⟨h.wired.apart, h.wired.bound, h.wired.ours, own, fun p hp =>
    have hp' := h.wired.beside p hp
    ⟨hp'.apart, hp'.leader⟩⟩
  pipes := h.pipes
  distinct := h.distinct
  known := h.known
  first := h.first
  length := h.length
  plays k r x hk hx :=
    have hplays := h.plays k r x hk hx
    ⟨hplays.role, hplays.gone⟩
  cover := h.cover
  gone := h.gone

/-- The parent has waited for the child, which is dead. -/
theorem Shows.reaped (h : Shows c pipe ids m w) {word : BitVec 32}
    (dead : w.child? = some (.dead word)) (status : WaitStatus) :
    Shows c pipe ids { m with processes := m.processes.filter (·.pid != c.pid) }
      { w with exchange := w.exchange.reaped status } := by
  refine h.dropped (fun k x hk hx => ⟨word, ?_⟩) rfl rfl fun _ => .inr rfl
  obtain rfl : 0 = k := (List.getElem?_inj (List.getElem?_eq_some_iff.mp h.first).1
    h.distinct).mp (h.first.trans hk.symm)
  exact Option.some.inj (hx.symm.trans dead)

/-- The parent lets go of the ends whose parts are finished. -/
theorem Shows.letGo (h : Shows c pipe ids m w) (running : w.phase = .exchanging) :
    Shows c pipe ids (Machine.letGo c w.exchange m) w ∧
      Holds c (Machine.letGo c w.exchange m) w := by
  have hmem (k : Nat) : k ∈ (Machine.letGo c w.exchange m).held ↔
      ∃ ch, k = c.channel ch ∧ w.parentHolds ch = true := by
    simp only [Machine.letGo, List.mem_append, List.mem_ite_nil_left, List.mem_singleton,
      Exchange.Session.parentHolds, running]
    constructor
    · rintro ((⟨hopen, rfl⟩ | ⟨hopen, rfl⟩) | ⟨hopen, rfl⟩)
      · exact ⟨.input, rfl, by simpa using hopen⟩
      · exact ⟨.output .out, rfl, by simpa [Exchange.drain] using hopen⟩
      · exact ⟨.output .err, rfl, by simpa [Exchange.drain] using hopen⟩
    · rintro ⟨_ | _ | _, rfl, hopen⟩
      · exact .inl (.inl ⟨by simpa using hopen, rfl⟩)
      · exact .inl (.inr ⟨by simpa [Exchange.drain] using hopen, rfl⟩)
      · exact .inr ⟨by simpa [Exchange.drain] using hopen, rfl⟩
  refine ⟨h.holding fun k hk => ?_, fun ch => (hmem _).trans ⟨?_, fun hch => ⟨ch, rfl, hch⟩⟩⟩
  · obtain ⟨ch, heq, -⟩ := (hmem k).mp hk
    exact ⟨ch, heq⟩
  · rintro ⟨ch', heq, hch⟩
    rwa [h.channel_injective heq]

/-- The parent waits for the child if it is dead. -/
theorem Shows.reap (h : Shows c pipe ids m w) (holds : Holds c m w)
    (running : w.phase = .exchanging) {x : Exchange}
    (reaped : Machine.reap c w.exchange m = (x, m')) :
    ∃ v, Exchange.Moves i w v ∧ v.phase = .exchanging ∧ v.exchange = x ∧
      Shows c pipe ids m' v ∧ Holds c m' v := by
  unfold Machine.reap at reaped
  split at reaped
  · rename_i word hword
    cases reaped
    obtain ⟨p, hp, dead⟩ := Option.bind_eq_some_iff.mp hword
    obtain ⟨hmem, hpid⟩ := mem_process? hp
    obtain ⟨child, hchild, hplays⟩ := h.child
    rw [hplays.role p hmem hpid, role, dead] at hchild
    have waiting : w.exchange.status = none := by
      rw [← Option.not_isSome_iff_eq_none]
      exact fun hstatus => h.gone hstatus p hmem hpid
    refine ⟨_, (Exchange.Step.reap running waiting hchild).moves, running, rfl,
      h.reaped hchild _, fun ch => (holds ch).trans ?_⟩
    simp only [Exchange.Session.parentHolds, running, Exchange.drain_reaped]
    rfl
  · cases reaped
    exact ⟨w, .refl, running, rfl, h, holds⟩

/-- What the parent does at once, one after the other, are moves of its parts; after that it holds
the ends that its parts have not let go of. -/
theorem Shows.attend (h : Shows c pipe ids m w) (hr : Exchange.Reachable i w)
    (running : w.phase = .exchanging) {x : Exchange}
    (attended : Machine.attend c w.exchange m = (x, m')) :
    ∃ v, Exchange.Moves i w v ∧ v.phase = .exchanging ∧ v.exchange = x ∧
      Shows c pipe ids m' v ∧ Holds c m' v := by
  unfold Machine.attend at attended
  cases hfed : Machine.feed c w.exchange m with | mk x₁ m₁
  rw [hfed] at attended
  obtain ⟨v₁, hv₁, running₁, rfl, hshows₁⟩ := h.feed hr running hfed
  dsimp only at attended
  cases hout : Machine.drain c .out v₁.exchange m₁ with | mk x₂ m₂
  rw [hout] at attended
  obtain ⟨v₂, hv₂, running₂, rfl, hshows₂⟩ := hshows₁.drain (i := i) running₁ hout
  dsimp only at attended
  cases herr : Machine.drain c .err v₂.exchange m₂ with | mk x₃ m₃
  rw [herr] at attended
  obtain ⟨v₃, hv₃, running₃, rfl, hshows₃⟩ := hshows₂.drain (i := i) running₂ herr
  obtain ⟨hheld, holds⟩ := hshows₃.letGo running₃
  obtain ⟨v₄, hv₄, hend⟩ := hheld.reap (i := i) holds running₃ attended
  exact ⟨v₄, ((hv₁.trans hv₂).trans hv₃).trans hv₄, hend⟩

/-! ## Cleaning up -/

/-- A signal that kills leaves whoever gets it dead, and brings nobody to life. -/
theorem signal_kill_alive {p q : Process} (alive : p.word? = none)
    (hq : q ∈ (m.signal Signal.kill p).processes) (alive' : q.word? = none) :
    q.pid ≠ p.pid ∧ ∃ r ∈ m.processes, r.word? = none ∧ r.pid = q.pid ∧ r.group = q.group := by
  rw [signal_alive m Signal.kill alive] at hq
  have hcontinued : p.continued Signal.kill = p := if_neg (by simp [Signal.kill, Signal.goOn])
  rw [hcontinued] at hq
  obtain ⟨r, hr, hcases⟩ := terminate_cases (m := m.setProcess p) hq
  have hset : r.pid ≠ p.pid → r ∈ m.processes := fun hne =>
    (mem_setProcess hr).elim (fun ⟨heq, _⟩ => absurd (congrArg Process.pid heq) hne) (·.1)
  rcases hcases with ⟨-, rfl⟩ | ⟨hne, -, rfl⟩ | ⟨hne, rfl⟩
  · cases alive'
  · exact ⟨hne, r, hset hne, alive', rfl, rfl⟩
  · exact ⟨hne, q, hset hne, alive', rfl, rfl⟩

/-- When everybody alive in a group is among those who get a signal that kills, nobody in the group
is left alive. -/
theorem signals_kill_alive {group : Nat} {chosen : List Process} {q : Process}
    (all : ∀ q ∈ m.processes, q.word? = none → q.group = group →
      ∃ p ∈ chosen, p.word? = none ∧ p.pid = q.pid)
    (hq : q ∈ (chosen.foldl (fun m p => m.signal Signal.kill p) m).processes)
    (alive : q.word? = none) : q.group ≠ group := by
  induction chosen generalizing m with
  | nil =>
    intro hgroup
    obtain ⟨p, hp, -⟩ := all q hq alive hgroup
    cases hp
  | cons p rest ih =>
    refine ih (fun q' hq' alive' hgroup => ?_) hq
    cases hword : p.word? with
    | some word =>
      dsimp only at hq'
      rw [signal_dead m _ (by rw [hword]; rfl)] at hq'
      obtain ⟨p', hp', hlives, hpid⟩ := all q' hq' alive' hgroup
      rcases List.mem_cons.mp hp' with rfl | hp'
      · rw [hword] at hlives
        cases hlives
      · exact ⟨p', hp', hlives, hpid⟩
    | none =>
      obtain ⟨hne, r, hr, hlives, hpid, hsame⟩ := signal_kill_alive hword hq' alive'
      obtain ⟨p', hp', hlives', hpid'⟩ := all r hr hlives (hsame.trans hgroup)
      rcases List.mem_cons.mp hp' with rfl | hp'
      · exact absurd (hpid.symm.trans hpid'.symm) hne
      · exact ⟨p', hp', hlives', hpid'.trans hpid⟩

/-- Nobody in the group is left alive. -/
theorem killGroup_alive (m : Machine) (group : Nat) {q : Process}
    (hq : q ∈ (m.killGroup group).processes) (alive : q.word? = none) : q.group ≠ group :=
  signals_kill_alive (fun q hq alive hgroup =>
    ⟨q, List.mem_filter.mpr ⟨hq, beq_iff_eq.mpr hgroup⟩, alive, rfl⟩) hq alive

/-- When nobody in the group of the child lives, no member of it does. -/
theorem Shows.group_dead (h : Shows c pipe ids m w)
    (dead : ∀ q ∈ m.processes, q.word? = none → q.group ≠ c.pid) {x : Exchange.Member}
    (hx : x ∈ w.members) : x.inGroup = false := by
  obtain ⟨pid, hplays⟩ := h.exists_id hx
  rcases hplays.cases with ⟨word, rfl⟩ | ⟨p, hp, -, alive, rfl⟩
  · rfl
  · exact beq_eq_false_iff_ne.mpr (dead p hp alive)

/-- When nobody in the group of the child lives, the child is dead. -/
theorem Shows.child_dead (h : Shows c pipe ids m w)
    (dead : ∀ q ∈ m.processes, q.word? = none → q.group ≠ c.pid) :
    ∃ word, w.child? = some (.dead word) := by
  obtain ⟨x, hx, hplays⟩ := h.child
  rcases hplays.cases with ⟨word, rfl⟩ | ⟨p, hp, hpid, alive, -⟩
  · exact ⟨word, hx⟩
  · exact absurd ((h.wired.beside p hp).leader hpid).1 (dead p hp alive)

/-- Nor is there anybody to kill. -/
theorem Shows.kill_dead (h : Shows c pipe ids m w)
    (dead : ∀ q ∈ m.processes, q.word? = none → q.group ≠ c.pid) : m.kill c.pid = m := by
  unfold Machine.kill
  split
  · rename_i p hp
    obtain ⟨hp, hpid⟩ := mem_process? hp
    refine signal_dead m _ (Option.isSome_iff_ne_none.mpr fun alive => ?_)
    exact dead p hp alive ((h.wired.beside p hp).leader hpid).1
  · rfl

/-- Killing the group of the child strikes those who play in it. -/
theorem Shows.killGroup (h : Shows c pipe ids m w) : Leads i c pipe w (m.killGroup c.pid) :=
  h.signals Signal.kill ((List.filter_sublist.map _).nodup h.sound.once)
    fun p hp _ => ⟨p, List.mem_of_mem_filter hp, .refl m p⟩

/-- What is done when the limit passes are moves of the parent; who is killed is struck before. -/
theorem Shows.cleanUp (h : Shows c pipe ids m w) (running : w.phase = .exchanging)
    (limited : i.limit.isSome = true) (unfinished : w.exchange.result? = none) :
    ∃ ids' v, Exchange.Moves i w v ∧
      v.phase = .returned (.timedOut w.exchange.status.isSome) ∧
      Shows c pipe ids' (Machine.cleanUp c w.exchange m) v := by
  have hexpire := (Exchange.Step.expire running limited unfinished).moves
  have hnone : Shows c pipe ids { m with held := [] } w := h.holding nofun
  have hexpired : Shows c pipe ids { m with held := [] }
      { w with phase := .cleaning w.exchange.cleanup w.exchange.status.isSome } :=
    hnone.of_eq rfl rfl rfl
  unfold Machine.cleanUp
  cases hstatus : w.exchange.status with
  | some status =>
    have hcleanup : w.exchange.cleanup = [] := by simp [Exchange.cleanup, hstatus]
    rw [hstatus, hcleanup] at hexpire hexpired
    rw [hcleanup]
    exact ⟨ids, _, hexpire.trans (Exchange.Step.giveUp rfl).moves, rfl, hexpired.of_eq rfl rfl rfl⟩
  | none =>
    have hcleanup : w.exchange.cleanup = [.killGroup, .killChild, .reap] := by
      simp [Exchange.cleanup, hstatus]
    rw [hstatus, hcleanup] at hexpire hexpired
    rw [hcleanup]
    obtain ⟨ids', v, hv, hshows, -, hphase⟩ := hexpired.killGroup (i := i)
    have hdead : ∀ q ∈ (Machine.killGroup { m with held := [] } c.pid).processes,
        q.word? = none → q.group ≠ c.pid := fun q hq => killGroup_alive _ c.pid hq
    simp only [List.foldl_cons, List.foldl_nil]
    generalize Machine.killGroup { m with held := [] } c.pid = killed at hshows hdead ⊢
    obtain ⟨word, hchild⟩ := hshows.child_dead hdead
    have hcleaned := Exchange.Moves.cleansUp (i := i) hphase
      (fun x hx => hshows.group_dead hdead hx) hchild
    refine ⟨ids', _, (hexpire.trans hv).trans hcleaned, rfl, ?_⟩
    rw [hshows.kill_dead hdead]
    exact (hshows.reaped hchild _).of_eq rfl rfl rfl

/-! ## Driving -/

/-- Whose turn it is can be answered. -/
theorem Machine.next?_mem {p : Process} (h : m.next? = some p) :
    p ∈ m.processes ∧ m.canStep p = true := by
  refine List.foldlRecOn (motive := fun best => ∀ b, best = some b →
    b ∈ m.processes ∧ m.canStep b = true) m.processes _ (by simp)
    (fun best hbest q hq b hb => ?_) p h
  split at hb
  · exact hbest b hb
  · rename_i hcan
    have hq' : q ∈ m.processes ∧ m.canStep q = true := ⟨hq, by simpa using hcan⟩
    split at hb
    · cases hb; exact hq'
    · split at hb
      · cases hb; exact hq'
      · cases hb; exact hbest _ rfl

theorem Machine.word?_of_canStep {p : Process} (h : m.canStep p = true) :
    p.word? = none := by
  unfold canStep at h
  split at h
  · cases h
  · rename_i hlife
    have hrunning : p.life = .running := by simpa using hlife
    rw [Process.word?, hrunning]

/-- A session has a run of moves to one that shows the machine and has returned with the outcome,
unless the exchange is given up as one that does not end. -/
def Comes (i : Invocation) (c : Machine.Child) (pipe : Pipes) (w : Exchange.Session)
    (outcome : Outcome) (m' : Machine) : Prop :=
  ∃ ids v, Exchange.Moves i w v ∧ Shows c pipe ids m' v ∧
    (v.phase = .returned outcome ∨ outcome = Machine.endless)

theorem Comes.after {v : Exchange.Session} {outcome : Outcome} (hv : Exchange.Moves i w v)
    (h : Comes i c pipe v outcome m') : Comes i c pipe w outcome m' := by
  obtain ⟨ids, u, hu, hend⟩ := h
  exact ⟨ids, u, hv.trans hu, hend⟩

theorem Shows.finishes (h : Shows c pipe ids m w) (running : w.phase = .exchanging)
    {r : Except IoError Output} (result : w.exchange.result? = some r) :
    Comes i c pipe w (Exchange.outcome r) m :=
  ⟨ids, _, (Exchange.Step.finish running result).moves, h.of_eq rfl rfl rfl, .inl rfl⟩

theorem Shows.expires (h : Shows c pipe ids m w) (running : w.phase = .exchanging)
    (limited : i.limit.isSome = true) (unfinished : w.exchange.result? = none) (time : Nat) :
    Comes i c pipe w (.timedOut w.exchange.status.isSome)
      (Machine.cleanUp c w.exchange { m with clock := max m.clock time }) := by
  have hframe : Frame pipe m { m with clock := max m.clock time } := .of_eq rfl rfl rfl rfl rfl
  obtain ⟨ids₁, v, hv, hshows, hexchange, hphase⟩ := h.framed (i := i) hframe rfl
  rw [← hexchange] at unfinished ⊢
  obtain ⟨ids₂, u, hu, hreturned, hcleaned⟩ :=
    hshows.cleanUp (hphase.trans running) limited unfinished
  exact ⟨ids₂, u, hv.trans hu, hcleaned, .inl hreturned⟩

/-- Driving an exchange is a run of moves to the end that it reports. -/
theorem Shows.drive (tools : Tools) {deadline : Option Nat}
    (limited : deadline.isSome = true → i.limit.isSome = true) (fuel : Nat)
    (h : Shows c pipe ids m w) (hr : Exchange.Reachable i w) (running : w.phase = .exchanging)
    {outcome : Outcome}
    (driven : Machine.drive tools c deadline w.exchange m fuel = (outcome, m')) :
    Comes i c pipe w outcome m' := by
  induction fuel generalizing ids m w with
  | zero =>
    cases driven
    exact ⟨ids, w, .refl, h, .inr rfl⟩
  | succ fuel ih =>
    rw [Machine.drive] at driven
    cases hfirst : Machine.attend c w.exchange m with | mk x₁ m₁
    obtain ⟨v₁, hv₁, running₁, rfl, hshows₁, -⟩ := h.attend hr running hfirst
    rw [hfirst] at driven
    dsimp only at driven
    cases hsecond : Machine.attend c v₁.exchange m₁ with | mk x₂ m₂
    obtain ⟨v, hv₂, running₂, rfl, hshows, holds⟩ :=
      hshows₁.attend (hr.moves hv₁) running₁ hsecond
    rw [hsecond] at driven
    dsimp only at driven
    have hv := hv₁.trans hv₂
    refine .after hv ?_
    -- The machine makes one step, and the exchange goes on.
    have hstep {p : Process} (hp : m₂.next? = some p)
        (hrest : Machine.drive tools c deadline v.exchange (m₂.step tools p) fuel
          = (outcome, m')) : Comes i c pipe v outcome m' := by
      obtain ⟨hmem, hcan⟩ := Machine.next?_mem hp
      obtain ⟨ids₃, u, hu, hshows₃, hexchange, hphase⟩ :=
        hshows.step (i := i) holds tools hmem (Machine.word?_of_canStep hcan)
      rw [← hexchange] at hrest
      exact .after hu (ih hshows₃ (hr.moves (hv.trans hu)) (hphase.trans running₂) hrest)
    split at driven
    · rename_i output hresult
      cases driven
      exact hshows.finishes running₂ hresult
    · rename_i fault hresult
      cases driven
      exact hshows.finishes running₂ hresult
    · rename_i unfinished
      split at driven
      · rename_i p d hp
        split at driven
        · cases driven
          exact hshows.expires running₂ (limited rfl) unfinished d
        · exact hstep hp driven
      · rename_i p hp
        exact hstep hp driven
      · rename_i d hp
        cases driven
        exact hshows.expires running₂ (limited rfl) unfinished d
      · cases driven
        exact ⟨ids, v, .refl, hshows, .inr rfl⟩

/-! ## The start -/

/-- The pipes of an exchange that starts on a machine with `n` pipes. -/
def pipesFrom (n : Nat) : Pipes
  | .input => n
  | .output .out => n + 1
  | .output .err => n + 2

theorem pipesFrom_injective (n : Nat) : Function.Injective (pipesFrom n) := by
  rintro (_ | _ | _) (_ | _ | _) h <;> simp_all [pipesFrom]

theorem Machine.Sound.addPipe (h : m.Sound) : m.addPipe.2.2.Sound where
  self := h.self
  selfKnown := h.selfKnown
  once := h.once
  piped k e he := by
    rw [m.endAt_addPipe] at he
    rw [m.addPipe_pipes]
    split at he
    · cases he; exact Nat.lt_succ_self _
    · split at he
      · cases he; exact Nat.lt_succ_self _
      · exact Nat.lt_succ_of_lt (h.piped k e he)
  each p hp := by
    have hp' := h.each p hp
    refine ⟨hp'.above, hp'.known, hp'.group, fun d hd => ?_, hp'.ended⟩
    rw [m.addPipe_channels]
    exact Nat.lt_succ_of_lt (Nat.lt_succ_of_lt (hp'.valid d hd))

/-- The machine with the three pipes of an exchange that is about to start. -/
def withPipes (m : Machine) : Machine := m.addPipe.2.2.addPipe.2.2.addPipe.2.2

theorem endAt_withPipes (m : Machine) (k : Nat) : (withPipes m).endAt k =
    if k = m.channels.size then some (m.pipes.size, false)
    else if k = m.channels.size + 1 then some (m.pipes.size, true)
    else if k = m.channels.size + 2 then some (m.pipes.size + 1, false)
    else if k = m.channels.size + 3 then some (m.pipes.size + 1, true)
    else if k = m.channels.size + 4 then some (m.pipes.size + 2, false)
    else if k = m.channels.size + 5 then some (m.pipes.size + 2, true) else m.endAt k := by
  simp only [withPipes, Machine.endAt_addPipe, Machine.addPipe_channels, Machine.addPipe_pipes]
  grind

/-- The child as it starts: a process with its ends of the three pipes, in a group of its own. -/
structure Process.Starts (m : Machine) (p : Process) : Prop where
  pid : p.pid = m.lastPid + 1
  parent : p.parent = m.self
  group : p.group = m.lastPid + 1
  word? : p.word? = none
  channels : p.descriptors.map (·.channel) =
    [m.channels.size, m.channels.size + 3, m.channels.size + 5]

theorem start_cases {tools : Tools} (started : m.start tools i = .ok (c, m')) :
    ∃ p : Process, p.Starts m ∧
      c = ⟨m.lastPid + 1, m.channels.size + 1, m.channels.size + 2, m.channels.size + 4⟩ ∧
      m' = (withPipes m).born p := by
  unfold Machine.start at started
  obtain ⟨⟨image, dir, environment⟩, -, started⟩ := ok_bind_iff.mp started
  cases started
  refine ⟨_, ⟨rfl, rfl, rfl, rfl, ?_⟩, ?_, rfl⟩
  · simp
  · simp

theorem withPipes_channels (m : Machine) :
    (withPipes m).channels.size = m.channels.size + 6 := by
  simp only [withPipes, Machine.addPipe_channels]

theorem withPipes_pipes (m : Machine) : (withPipes m).pipes.size = m.pipes.size + 3 := by
  simp only [withPipes, Machine.addPipe_pipes]

theorem pipeAt_withPipes (m : Machine) (ch : Exchange.Channel) :
    (withPipes m).pipeAt (pipesFrom m.pipes.size ch) = {} := by
  rcases ch with _ | _ | _ <;>
    simp [withPipes, Machine.addPipe, Machine.addChannel, Machine.pipeAt, pipesFrom,
      Array.getElem?_push, Array.getElem_push]

/-- The child has its ends of the pipes and nothing else of them. -/
theorem Process.Starts.has {p : Process} (h : p.Starts m) (ch : Exchange.Channel) :
    (withPipes m).has (theirs (pipesFrom m.pipes.size) ch) p = true ∧
      (withPipes m).has (ours (pipesFrom m.pipes.size) ch) p = false := by
  have hhas (e : PipeEnd) : (withPipes m).has e p =
      [(m.pipes.size, false), (m.pipes.size + 1, true), (m.pipes.size + 2, true)].contains e := by
    have hany : (withPipes m).has e p =
        (p.descriptors.map (·.channel)).any fun k => (withPipes m).endAt k == some e := by
      rw [List.any_map]
      rfl
    have hin : (withPipes m).endAt m.channels.size = some (m.pipes.size, false) := by
      simp [endAt_withPipes]
    have hout : (withPipes m).endAt (m.channels.size + 3) = some (m.pipes.size + 1, true) := by
      simp [endAt_withPipes]
    have herr : (withPipes m).endAt (m.channels.size + 5) = some (m.pipes.size + 2, true) := by
      simp [endAt_withPipes]
    rw [hany, h.channels, Bool.eq_iff_iff]
    simp only [List.any_cons, List.any_nil, hin, hout, herr, Bool.or_false, Bool.or_eq_true,
      beq_iff_eq, Option.some.injEq, List.contains_iff_mem, List.mem_cons, List.not_mem_nil,
      or_false, @eq_comm _ e]
  rw [hhas, hhas]
  rcases ch with _ | _ | _ <;> simp [theirs, ours, pipesFrom, toParent]

/-- A process that there was has no end of a new pipe. -/
theorem has_withPipes (h : m.Sound) {p : Process} (hp : p ∈ m.processes) {e : PipeEnd}
    (hhas : (withPipes m).has e p = true) : e.1 < m.pipes.size := by
  obtain ⟨d, hd, hend⟩ := List.any_eq_true.mp hhas
  have hvalid := (h.each p hp).valid d hd
  rw [beq_iff_eq, endAt_withPipes, if_neg (by omega), if_neg (by omega), if_neg (by omega),
    if_neg (by omega), if_neg (by omega), if_neg (by omega)] at hend
  exact h.piped _ e hend

theorem Process.Starts.role {p : Process} (h : p.Starts m) (child : c.pid = m.lastPid + 1) :
    role c (pipesFrom m.pipes.size) (withPipes m) p = .alive allChannels true .compute := by
  have hends : (allChannels.filter fun ch =>
      (withPipes m).has (theirs (pipesFrom m.pipes.size) ch) p) = allChannels :=
    List.filter_eq_self.mpr fun ch _ => (h.has ch).1
  rw [Host.role, h.word?, hends, h.group, child, beq_self_eq_true]

theorem Process.Starts.valid {p : Process} (h : p.Starts m) :
    ∀ d ∈ p.descriptors, d.channel < (withPipes m).channels.size := by
  intro d hd
  have hd' := h.channels ▸ List.mem_map_of_mem (f := Descriptor.channel) hd
  rw [withPipes_channels]
  simp only [List.mem_cons, List.not_mem_nil, or_false] at hd'
  omega

/-- Who was there before has no end of a new pipe. -/
theorem has_withPipes_old (h : m.Sound) {q : Process} (hq : q ∈ m.processes)
    (ch : Exchange.Channel) (side : Bool) :
    (withPipes m).has (pipesFrom m.pipes.size ch, side) q = false := by
  rw [Bool.eq_false_iff]
  intro hhas
  have hnew : m.pipes.size ≤ pipesFrom m.pipes.size ch := by
    rcases ch with _ | _ | _ <;> simp [pipesFrom]
  exact absurd (has_withPipes h hq hhas) (Nat.not_lt_of_le hnew)

/-- A child that has just been started is shown by the session that has just begun. -/
theorem start_shows {tools : Tools} (h : m.Sound) (started : m.start tools i = .ok (c, m')) :
    Shows c (pipesFrom m.pipes.size) [c.pid] { m' with held := [c.input, c.output, c.errors] }
      (.start i (fun _ => ({} : Pipe).capacity) .compute) ∧ c.pid = m.lastPid + 1 := by
  obtain ⟨p, hp, hc, rfl⟩ := start_cases started
  have hchild : c.pid = m.lastPid + 1 := by rw [hc]
  have hpiped : Machine.Sound { withPipes m with held := [c.input, c.output, c.errors] } :=
    h.addPipe.addPipe.addPipe.holding _
  have hwired : Wired c (pipesFrom m.pipes.size)
      { withPipes m with held := [c.input, c.output, c.errors] } := {
    apart := pipesFrom_injective _
    bound := fun ch => by
      change pipesFrom m.pipes.size ch < (withPipes m).pipes.size
      rw [withPipes_pipes]
      rcases ch with _ | _ | _ <;> simp [pipesFrom]
    ours := fun ch => by
      change (withPipes m).endAt (c.channel ch) = _
      rw [endAt_withPipes, hc]
      rcases ch with _ | _ | _ <;> simp [Machine.Child.channel, ours, pipesFrom, toParent]
    held := by
      simp only [List.mem_cons, List.not_mem_nil, or_false]
      rintro k (rfl | rfl | rfl)
      · exact ⟨.input, rfl⟩
      · exact ⟨.output .out, rfl⟩
      · exact ⟨.output .err, rfl⟩
    beside := fun q hq => ⟨fun ch => has_withPipes_old h hq ch _,
      fun hpid => absurd (hpid.trans hchild) (h.below hq)⟩ }
  refine ⟨{
    sound := hpiped.born hp.pid (Nat.le_of_eq hp.group) hp.valid hp.word?
    wired := hwired.born
      ⟨fun ch => (hp.has ch).2, fun _ => ⟨hp.group.trans hchild.symm, hp.parent⟩⟩
    pipes := fun ch => (pipeAt_withPipes m ch).symm
    distinct := List.nodup_singleton _
    known := fun r hr => Nat.le_of_eq ((List.mem_singleton.mp hr).trans hchild)
    first := rfl
    length := rfl
    plays := fun k r x hk hx => ?_
    cover := fun q hq hin => ?_
    gone := fun hstatus => by cases hstatus }, hchild⟩
  · cases k with
    | succ k => cases hk
    | zero =>
      cases hk
      cases hx
      have hplays : Plays c (pipesFrom m.pipes.size) _ (m.lastPid + 1) _ := hpiped.plays hp.pid
      rw [hchild]
      exact hp.role hchild ▸ hplays
  · rcases mem_born.mp hq with hq | rfl
    · rcases hin with hgroup | ⟨ch, hch⟩
      · exact absurd (hgroup.trans hchild) (Nat.ne_of_lt (Nat.lt_succ_of_le (h.each q hq).group))
      · exact absurd ((has_withPipes_old h hq ch _).symm.trans hch) Bool.false_ne_true
    · exact List.mem_singleton.mpr (hp.pid.trans hchild.symm)

/-! ## The whole exchange -/

/-- An exchange on a sound machine is shown by a session that the system can come to, which has
returned with the same outcome unless the exchange is given up as one that does not end. -/
theorem exchange_shown {tools : Tools} (h : m.Sound) {outcome : Outcome}
    (ended : m.exchange tools i = (outcome, m')) :
    ((∃ fault, outcome = .notStarted fault) ∧ m' = m) ∨
      ∃ c pipe ids w, Exchange.Reachable i w ∧ Shows c pipe ids m' w ∧ c.pid = m.lastPid + 1 ∧
        (w.phase = .returned outcome ∨ outcome = Machine.endless) := by
  unfold Machine.exchange at ended
  split at ended
  · cases ended
    exact .inl ⟨⟨_, rfl⟩, rfl⟩
  · rename_i c m₁ hstart
    obtain ⟨hshows, hchild⟩ := start_shows h hstart
    have hreachable : Exchange.Reachable i (.start i (fun _ => ({} : Pipe).capacity) .compute) :=
      .start _ (fun _ => by decide) _
    obtain ⟨ids, v, hv, hshows', hend⟩ :=
      hshows.drive tools (by simp) Task.patience hreachable rfl ended
    exact .inr ⟨c, _, ids, v, hreachable.moves hv, hshows', hchild, hend⟩

/-- A machine stays sound. -/
theorem exchange_sound {tools : Tools} (h : m.Sound) {outcome : Outcome}
    (ended : m.exchange tools i = (outcome, m')) : m'.Sound := by
  rcases exchange_shown h ended with ⟨-, rfl⟩ | ⟨_, _, _, _, -, hshows, -⟩
  · exact h
  · exact hshows.sound

/-- **The machine refines the system of a parent and its child.** An exchange on a sound machine
ends as a run of the system can end, and no process is left with the number of the child. The
exceptions are a program that cannot be started and an exchange that is given up as one that does
not end. -/
theorem exchange_refines {tools : Tools} (h : m.Sound) {outcome : Outcome}
    (ended : m.exchange tools i = (outcome, m')) (started : ∀ fault, outcome ≠ .notStarted fault)
    (ends : outcome ≠ Machine.endless) :
    ∃ w, Exchange.Reachable i w ∧ w.phase = .returned outcome ∧
      ∀ p ∈ m'.processes, p.pid ≠ m.lastPid + 1 := by
  rcases exchange_shown h ended with ⟨⟨fault, hfault⟩, -⟩ | ⟨c, _, _, w, hw, hshows, hchild, hend⟩
  · exact absurd hfault (started fault)
  · have hphase := hend.resolve_right ends
    refine ⟨w, hw, hphase, fun p hp hpid => ?_⟩
    exact hshows.gone (hw.accounted.reaped hphase) p hp (hpid.trans hchild.symm)

/-- The standard machine is sound. -/
theorem standard_sound (dir : String) : (Machine.standard dir).Sound where
  self := show 1000 ≠ 1 by decide
  selfKnown := Nat.le_refl _
  once := List.nodup_nil
  piped := nofun
  each := nofun

end ModuleForge.Host
