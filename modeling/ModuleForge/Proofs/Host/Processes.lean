import ModuleForge.Proofs.Host.Likeness

/-!
# Processes that change

What becomes of a machine when a process goes on, gets a signal, dies or starts another one. A
session that shows the machine follows by moves of its own while the parent stands still (`Leads`).
`Shows.altered` and `Shows.change` are about one process that changes in any way while the others
stay (`Spares`); the rest are cases of it.
-/
namespace ModuleForge.Host

variable {i : Invocation} {c : Machine.Child} {pipe : Pipes} {ids : List Nat} {m m' : Machine}
  {w : Exchange.Session}

/-- A session comes to show another machine while the parent stands still. -/
def Leads (i : Invocation) (c : Machine.Child) (pipe : Pipes) (w : Exchange.Session)
    (m' : Machine) : Prop :=
  ∃ ids v, Exchange.Moves i w v ∧ Shows c pipe ids m' v ∧ v.exchange = w.exchange ∧
    v.phase = w.phase

theorem Shows.leads (h : Shows c pipe ids m w) : Leads i c pipe w m :=
  ⟨ids, w, .refl, h, rfl, rfl⟩

theorem Leads.trans (h : Leads i c pipe w m)
    (hnext : ∀ ids v, Shows c pipe ids m v → v.exchange = w.exchange → v.phase = w.phase →
      Leads i c pipe v m') : Leads i c pipe w m' := by
  obtain ⟨ids, v, hv, hshows, hexchange, hphase⟩ := h
  obtain ⟨ids', u, hu, hshows', hexchange', hphase'⟩ := hnext ids v hshows hexchange hphase
  exact ⟨ids', u, Relation.ReflTransGen.trans hv hu, hshows', hexchange'.trans hexchange,
    hphase'.trans hphase⟩

/-! ## Changes to one process -/

/-- A process that goes on as it was in all that concerns an exchange. -/
structure Process.Stays (m : Machine) (q q' : Process) : Prop where
  pid : q'.pid = q.pid
  group : q'.group = q.group
  descriptors : q'.descriptors = q.descriptors
  word? : q'.word? = q.word?
  parent : q'.parent = m.self ↔ q.parent = m.self

theorem Process.Stays.refl (m : Machine) (q : Process) : q.Stays m q :=
  ⟨rfl, rfl, rfl, rfl, .rfl⟩

theorem Process.Stays.trans {q q' q'' : Process} (h : q.Stays m q') (h' : q'.Stays m q'') :
    q.Stays m q'' :=
  ⟨h'.pid.trans h.pid, h'.group.trans h.group, h'.descriptors.trans h.descriptors,
    h'.word?.trans h.word?, h'.parent.trans h.parent⟩

theorem Process.Stays.symm {q q' : Process} (h : q.Stays m q') : q'.Stays m q :=
  ⟨h.pid.symm, h.group.symm, h.descriptors.symm, h.word?.symm, h.parent.symm⟩

/-- What becomes of the other processes when the one with the number `pid` changes: they stay,
except that those that are dead may be gone. -/
structure Spares (pid : Nat) (m m' : Machine) : Prop where
  once : (m'.processes.map (·.pid)).Nodup
  stays : ∀ q' ∈ m'.processes, q'.pid ≠ pid → ∃ q ∈ m.processes, q.Stays m q'
  kept : ∀ q ∈ m.processes, q.pid ≠ pid → q.word? = none → ∃ q' ∈ m'.processes, q.Stays m q'

theorem Process.Stays.has (frame : Frame pipe m m') {q q' : Process} (h : q.Stays m q')
    (hq : q.Sound m) (e : PipeEnd) : m'.has e q' = m.has e q := by
  rw [← frame.has_eq hq.valid, Machine.has, h.descriptors, Machine.has]

theorem Process.Stays.sound (frame : Frame pipe m m') {q q' : Process} (h : q.Stays m q')
    (hq : q.Sound m) : q'.Sound m' where
  above := by rw [frame.self, h.pid]; exact hq.above
  known := by rw [frame.lastPid, h.pid]; exact hq.known
  group := by rw [frame.lastPid, h.group]; exact hq.group
  valid := by
    rw [h.descriptors]
    exact fun d hd => Nat.lt_of_lt_of_le (hq.valid d hd) frame.channels
  ended := by rw [h.word?, h.descriptors]; exact hq.ended

theorem Process.Stays.beside (frame : Frame pipe m m') {q q' : Process} (h : q.Stays m q')
    (hq : q.Sound m) (hb : q.Beside c pipe m) : q'.Beside c pipe m' where
  apart ch := by rw [h.has frame hq]; exact hb.apart ch
  leader hpid := by
    obtain ⟨hgroup, hparent⟩ := hb.leader (h.pid ▸ hpid)
    refine ⟨h.group.trans hgroup, ?_⟩
    rw [frame.self]
    exact h.parent.mpr hparent

theorem Process.Stays.role (frame : Frame pipe m m') {q q' : Process} (h : q.Stays m q')
    (hq : q.Sound m) : role c pipe m' q' = role c pipe m q := by
  simp only [Host.role, h.word?, h.group, h.has frame hq]

theorem Plays.spared {pid r : Nat} {x : Exchange.Member} (h : Plays c pipe m r x) (hs : m.Sound)
    (frame : Frame pipe m m') (spares : Spares pid m m') (hr : r ≠ pid) :
    Plays c pipe m' r x where
  role q' hq' hpid := by
    obtain ⟨q, hq, hstays⟩ := spares.stays q' hq' (hpid ▸ hr)
    rw [hstays.role frame (hs.each q hq)]
    exact h.role q hq (hstays.pid.symm.trans hpid)
  gone hnone := by
    by_cases hold : ∃ q ∈ m.processes, q.pid = r
    · obtain ⟨q, hq, rfl⟩ := hold
      cases hword : q.word? with
      | none =>
        obtain ⟨q', hq', hstays⟩ := spares.kept q hq hr hword
        exact absurd hstays.pid (hnone q' hq')
      | some word =>
        refine ⟨word, (h.role q hq rfl).trans ?_⟩
        rw [Host.role, hword]
    · exact h.gone fun q hq hpid => hold ⟨q, hq, hpid⟩

/-- What a process that changes must still fulfil. -/
structure Process.Fits (c : Machine.Child) (pipe : Pipes) (ids : List Nat) (m : Machine)
    (p : Process) : Prop where
  sound : p.Sound m
  beside : p.Beside c pipe m
  cover : p.group = c.pid ∨ (∃ ch, m.has (theirs pipe ch) p = true) → p.pid ∈ ids

/-- When one process changes, a session in which only the member that plays it differs shows it. -/
theorem Shows.altered {pid : Nat} {v : Exchange.Session} (h : Shows c pipe ids m w)
    (frame : Frame pipe m m') (spares : Spares pid m m')
    (fits : ∀ q ∈ m'.processes, q.pid = pid → q.Fits c pipe ids m') (pipes : v.pipe = w.pipe)
    (length : v.members.length = w.members.length)
    (others : ∀ (k r : Nat), ids[k]? = some r → r ≠ pid → v.members[k]? = w.members[k]?)
    (itself : ∀ (k : Nat) (x : Exchange.Member), ids[k]? = some pid → v.members[k]? = some x →
      Plays c pipe m' pid x)
    (gone : v.exchange.status.isSome = true → ∀ q ∈ m'.processes, q.pid ≠ c.pid) :
    Shows c pipe ids m' v where
  sound := {
    self := by rw [frame.self]; exact h.sound.self
    selfKnown := by rw [frame.self, frame.lastPid]; exact h.sound.selfKnown
    once := spares.once
    piped := fun k e he => by
      by_cases hk : k < m.channels.size
      · rw [frame.endAt k hk] at he
        exact Nat.lt_of_lt_of_le (h.sound.piped k e he) frame.pipes
      · exact (frame.fresh k e (Nat.le_of_not_lt hk) he).2
    each := fun q' hq' => by
      by_cases hpid : q'.pid = pid
      · exact (fits q' hq' hpid).sound
      · obtain ⟨q, hq, hstays⟩ := spares.stays q' hq' hpid
        exact hstays.sound frame (h.sound.each q hq) }
  wired := {
    apart := h.wired.apart
    bound := fun ch => Nat.lt_of_lt_of_le (h.wired.bound ch) frame.pipes
    ours := fun ch => by
      have hours := h.wired.ours ch
      rw [frame.endAt]
      · exact hours
      · by_contra hle
        rw [Machine.endAt_of_le (Nat.le_of_not_lt hle)] at hours
        cases hours
    held := by rw [frame.held]; exact h.wired.held
    beside := fun q' hq' => by
      by_cases hpid : q'.pid = pid
      · exact (fits q' hq' hpid).beside
      · obtain ⟨q, hq, hstays⟩ := spares.stays q' hq' hpid
        exact hstays.beside frame (h.sound.each q hq) (h.wired.beside q hq) }
  pipes ch := by rw [pipes, h.pipes, frame.pipeAt]
  distinct := h.distinct
  known r hr := by rw [frame.lastPid]; exact h.known r hr
  first := h.first
  length := length.trans h.length
  plays k r x hk hx := by
    by_cases hr : r = pid
    · subst hr
      exact itself k x hk hx
    · rw [others k r hk hr] at hx
      exact (h.plays k r x hk hx).spared h.sound frame spares hr
  cover q' hq' hin := by
    by_cases hpid : q'.pid = pid
    · exact (fits q' hq' hpid).cover hin
    · obtain ⟨q, hq, hstays⟩ := spares.stays q' hq' hpid
      rw [hstays.pid]
      simp only [hstays.group, hstays.has frame (h.sound.each q hq)] at hin
      exact h.cover q hq hin
  gone := gone

/-- When one process changes, the session follows if the member that plays it can. -/
theorem Shows.change {pid : Nat} (h : Shows c pipe ids m w) (frame : Frame pipe m m')
    (spares : Spares pid m m') (fits : ∀ q ∈ m'.processes, q.pid = pid → q.Fits c pipe ids m')
    (old : (∃ q ∈ m'.processes, q.pid = pid) → ∃ p ∈ m.processes, p.pid = pid)
    (follows : ∀ (k : Nat) (x : Exchange.Member), ids[k]? = some pid → w.members[k]? = some x →
      Plays c pipe m pid x →
      ∃ y, Exchange.Moves i w { w with members := w.members.set k y } ∧
        Plays c pipe m' pid y) : Leads i c pipe w m' := by
  have hgone : w.exchange.status.isSome = true → ∀ q' ∈ m'.processes, q'.pid ≠ c.pid :=
    fun hstatus q' hq' hchild => by
      by_cases hpid : q'.pid = pid
      · obtain ⟨p, hp, hp'⟩ := old ⟨q', hq', hpid⟩
        exact h.gone hstatus p hp (hp'.trans (hpid.symm.trans hchild))
      · obtain ⟨q, hq, hstays⟩ := spares.stays q' hq' hpid
        exact h.gone hstatus q hq (hstays.pid.symm.trans hchild)
  by_cases hmem : pid ∈ ids
  · obtain ⟨k, x, hk, hx, hplays⟩ := h.exists_member hmem
    obtain ⟨y, hmoves, hy⟩ := follows k x hk hx hplays
    have hlt : k < w.members.length := (List.getElem?_eq_some_iff.mp hx).1
    refine ⟨ids, _, hmoves, h.altered frame spares fits rfl (by simp) (fun j r hj hr => ?_)
      (fun j z hj hz => ?_) hgone, rfl, rfl⟩
    · refine List.getElem?_set_ne fun hkj => hr ?_
      subst hkj
      exact Option.some.inj (hj.symm.trans hk)
    · obtain rfl : k = j :=
        (List.getElem?_inj (List.getElem?_eq_some_iff.mp hk).1 h.distinct).mp (hk.trans hj.symm)
      simp only [List.getElem?_set, hlt, if_true] at hz
      cases hz
      exact hy
  · refine ⟨ids, w, .refl, h.altered frame spares fits rfl rfl (fun _ _ _ _ => rfl)
      (fun j z hj _ => absurd (List.mem_of_getElem? hj) hmem) hgone, rfl, rfl⟩

/-- What does nothing to the processes and to the pipes of the exchange does not concern the
session. -/
theorem Shows.framed (h : Shows c pipe ids m w) (frame : Frame pipe m m')
    (processes : m'.processes = m.processes) : Leads i c pipe w m' := by
  -- No process has this number, so nothing changes.
  have hnone : ∀ q ∈ m'.processes, q.pid ≠ m.lastPid + 1 := fun q hq => by
    have hknown := (h.sound.each q (processes ▸ hq)).known
    omega
  refine h.change frame ⟨?_, fun q hq _ => ?_, fun q hq _ _ => ?_⟩
    (fun q hq hpid => absurd hpid (hnone q hq)) (fun ⟨q, hq, hpid⟩ => absurd hpid (hnone q hq))
    fun k x hk _ _ => ?_
  · rw [processes]; exact h.sound.once
  · exact ⟨q, processes ▸ hq, .refl m q⟩
  · exact ⟨q, by rwa [processes], .refl m q⟩
  · have hknown := h.known _ (List.mem_of_getElem? hk)
    omega

theorem setProcess_once (once : (m.processes.map (·.pid)).Nodup) {p' : Process} :
    ((m.setProcess p').processes.map (·.pid)).Nodup := by
  have hsame : (m.setProcess p').processes.map (·.pid) = m.processes.map (·.pid) := by
    rw [Machine.setProcess, List.map_map]
    refine List.map_congr_left fun q _ => ?_
    simp only [Function.comp_apply]
    split
    · rename_i hpid; exact hpid.symm
    · rfl
  rwa [hsame]

theorem mem_setProcess {p' q : Process} (h : q ∈ (m.setProcess p').processes) :
    (q = p' ∧ ∃ p ∈ m.processes, p.pid = p'.pid) ∨ (q ∈ m.processes ∧ q.pid ≠ p'.pid) := by
  obtain ⟨p, hp, rfl⟩ := List.mem_map.mp h
  split
  · exact .inl ⟨rfl, p, hp, ‹_›⟩
  · exact .inr ⟨hp, ‹_›⟩

theorem mem_setProcess_self {p p' : Process} (hp : p ∈ m.processes) (pid : p'.pid = p.pid) :
    p' ∈ (m.setProcess p').processes := List.mem_map.mpr ⟨p, hp, if_pos pid.symm⟩

theorem spares_setProcess (once : (m.processes.map (·.pid)).Nodup) (p' : Process) :
    Spares p'.pid m (m.setProcess p') where
  once := setProcess_once once
  stays q hq hpid := by
    rcases mem_setProcess hq with ⟨rfl, -⟩ | ⟨hq, -⟩
    · exact absurd rfl hpid
    · exact ⟨q, hq, .refl m q⟩
  kept q hq hpid _ := ⟨q, List.mem_map.mpr ⟨q, hq, if_neg hpid⟩, .refl m q⟩

theorem frame_processes (m : Machine) (processes : List Process) :
    Frame pipe m { m with processes } := .of_eq rfl rfl rfl rfl rfl

/-- A process goes on, perhaps with fewer ends and in a group of its own. -/
theorem Shows.revise (h : Shows c pipe ids m w) {p p' : Process} (hp : p ∈ m.processes)
    (alive : p.word? = none) (pid : p'.pid = p.pid) (alive' : p'.word? = none)
    (sound : p'.Sound m) (beside : p'.Beside c pipe m)
    (ends : ∀ ch, m.has (theirs pipe ch) p' = true → m.has (theirs pipe ch) p = true)
    (group : p'.group = p.group ∨ p'.group ≠ c.pid) : Leads i c pipe w (m.setProcess p') := by
  have frame : Frame pipe m (m.setProcess p') := frame_processes m _
  refine h.change frame (spares_setProcess h.sound.once p') (fun q hq hpid => ?_)
    (fun _ => ⟨p, hp, pid.symm⟩) fun k x hk hx hplays => ?_
  · obtain rfl : q = p' := by
      rcases mem_setProcess hq with ⟨rfl, -⟩ | ⟨-, hne⟩
      · rfl
      · exact absurd hpid hne
    have hstays := Process.Stays.refl m q
    refine ⟨hstays.sound frame sound, hstays.beside frame sound beside, fun hin => ?_⟩
    rw [pid]
    refine h.cover p hp (hin.imp (fun hgroup => ?_) fun ⟨ch, hch⟩ => ⟨ch, ends ch hch⟩)
    exact (group.resolve_right (not_not.mpr hgroup)).symm.trans hgroup
  · have hx' : w.members[k]? = some (.alive (allChannels.filter fun ch => m.has (theirs pipe ch) p)
        (p.group == c.pid) .compute) := by
      rw [hx, hplays.role p hp pid.symm, role, alive]
    have hgroup : (p'.group == c.pid) = (p.group == c.pid) ∨ (p'.group == c.pid) = false :=
      group.imp (fun hsame => by rw [hsame]) beq_eq_false_iff_ne.mpr
    have hparts := Exchange.Moves.parts (i := i) hx'
      (allChannels.filter fun ch => !m.has (theirs pipe ch) p') hgroup
    have hends : ((allChannels.filter fun ch => m.has (theirs pipe ch) p).filter
        (· ∉ allChannels.filter fun ch => !m.has (theirs pipe ch) p'))
        = allChannels.filter fun ch => m.has (theirs pipe ch) p' := by
      rw [List.filter_filter]
      refine List.filter_congr fun ch hch => ?_
      have hmore := ends ch
      cases hnew : m.has (theirs pipe ch) p' <;> simp_all
    rw [hends] at hparts
    refine ⟨_, hparts, fun q hq hpid => ?_, fun hnone => absurd rfl (hnone p' ?_)⟩
    · rcases mem_setProcess hq with ⟨rfl, -⟩ | ⟨-, hne⟩
      · rw [role, alive']
        rfl
      · exact absurd hpid hne
    · exact mem_setProcess_self hp pid

/-- A process goes on with the same ends and in the same group. -/
theorem Shows.stay (h : Shows c pipe ids m w) {p p' : Process} (hp : p ∈ m.processes)
    (alive : p.word? = none) (stays : p.Stays m p') : Leads i c pipe w (m.setProcess p') := by
  have hp' := h.sound.each p hp
  have hframe : Frame pipe m m := .refl m
  exact h.revise hp alive stays.pid (stays.word?.trans alive) (stays.sound hframe hp')
    (stays.beside hframe hp' (h.wired.beside p hp))
    (fun ch => by rw [stays.has hframe hp']; exact id) (.inl stays.group)

theorem mem_process? {pid : Nat} {p : Process} (h : m.process? pid = some p) :
    p ∈ m.processes ∧ p.pid = pid :=
  ⟨List.mem_of_find?_eq_some h, by simpa using List.find?_some h⟩

/-! ## Death -/

/-- What `terminate` leaves of the processes: the one with the number `pid` is dead and has let go
of everything, and the others stay. -/
theorem terminate_cases {pid : Nat} {word : BitVec 32} {q' : Process}
    (h : q' ∈ (m.terminate pid word).processes) : ∃ q ∈ m.processes,
      (q.pid = pid ∧ q' = { q with life := .ended word, descriptors := [] }) ∨
      (q.pid ≠ pid ∧ q.parent = pid ∧ q' = { q with parent := 1 }) ∨ (q.pid ≠ pid ∧ q' = q) := by
  obtain ⟨q, hq, rfl⟩ := List.mem_map.mp (List.mem_of_mem_filter h)
  refine ⟨q, hq, ?_⟩
  by_cases hpid : q.pid = pid
  · exact .inl ⟨hpid, if_pos hpid⟩
  · rw [if_neg hpid]
    by_cases hparent : q.parent = pid
    · exact .inr (.inl ⟨hpid, hparent, if_pos hparent⟩)
    · exact .inr (.inr ⟨hpid, if_neg hparent⟩)

theorem terminate_pid (pid : Nat) (word : BitVec 32) (p : Process) :
    (if p.pid = pid then { p with life := .ended word, descriptors := [] }
      else if p.parent = pid then { p with parent := 1 } else p : Process).pid = p.pid := by
  split
  · rfl
  · split <;> rfl

/-- A process of another parent than the machine's is left to the machine. -/
theorem orphan_stays (self : m.self ≠ 1) {q : Process} (h : q.parent ≠ m.self) :
    q.Stays m { q with parent := 1 } :=
  ⟨rfl, rfl, rfl, rfl, ⟨fun h1 => absurd h1.symm self, fun h2 => absurd h2 h⟩⟩

theorem spares_terminate (once : (m.processes.map (·.pid)).Nodup) (self : m.self ≠ 1) {pid : Nat}
    (above : m.self < pid) (word : BitVec 32) : Spares pid m (m.terminate pid word) where
  once := by
    refine List.Nodup.sublist (List.Sublist.map _ List.filter_sublist) ?_
    rw [List.map_map]
    have hsame := List.map_congr_left (l := m.processes) fun p _ => terminate_pid pid word p
    exact hsame ▸ once
  stays q' hq' hpid := by
    obtain ⟨q, hq, ⟨rfl, rfl⟩ | ⟨-, hparent, rfl⟩ | ⟨-, rfl⟩⟩ := terminate_cases hq'
    · exact absurd rfl hpid
    · exact ⟨q, hq, orphan_stays self (by omega)⟩
    · exact ⟨q', hq, .refl m q'⟩
  kept q hq hpid hword := by
    have hkeep {q' : Process} (hstays : q.Stays m q') :
        (q'.parent != 1 || q'.word?.isNone) = true := by
      rw [hstays.word?, hword, Bool.or_eq_true]
      exact .inr rfl
    refine ⟨_, List.mem_filter.mpr ⟨List.mem_map.mpr ⟨q, hq, rfl⟩, hkeep ?_⟩, ?_⟩ <;>
    · rw [if_neg hpid]
      split
      · exact orphan_stays self (by omega)
      · exact .refl m q

/-- A process that dies is struck in the session. -/
theorem Shows.terminate (h : Shows c pipe ids m w) {p : Process} (hp : p ∈ m.processes)
    (alive : p.word? = none) (word : BitVec 32) :
    Leads i c pipe w (m.terminate p.pid word) := by
  have hsound := h.sound.each p hp
  have frame : Frame pipe m (m.terminate p.pid word) := frame_processes m _
  have hended : ∀ q' ∈ (m.terminate p.pid word).processes, q'.pid = p.pid →
      q' = { p with life := .ended word, descriptors := [] } := fun q' hq' hpid => by
    obtain ⟨q, hq, ⟨heq, rfl⟩ | ⟨hne, -, rfl⟩ | ⟨hne, rfl⟩⟩ := terminate_cases hq'
    · rw [h.sound.eq_of_pid hq hp heq]
    · exact absurd hpid hne
    · exact absurd hpid hne
  refine h.change frame (spares_terminate h.sound.once h.sound.self hsound.above word)
    (fun q' hq' hpid => ?_) (fun _ => ⟨p, hp, rfl⟩) fun k x hk hx hplays => ?_
  · rw [hended q' hq' hpid]
    refine ⟨⟨hsound.above, hsound.known, hsound.group, nofun, fun _ => rfl⟩,
      ⟨fun _ => rfl, (h.wired.beside p hp).leader⟩, ?_⟩
    rintro (hgroup | ⟨ch, hch⟩)
    · exact h.cover p hp (.inl hgroup)
    · cases hch
  · rw [hplays.role p hp rfl, role, alive] at hx
    refine ⟨.dead word, Exchange.Moves.strikes hx word, fun q' hq' hpid => ?_,
      fun _ => ⟨word, rfl⟩⟩
    rw [hended q' hq' hpid]
    rfl

/-! ## Signals -/

theorem Spares.refl (once : (m.processes.map (·.pid)).Nodup) (pid : Nat) : Spares pid m m :=
  ⟨once, fun q hq _ => ⟨q, hq, .refl m q⟩, fun q hq _ _ => ⟨q, hq, .refl m q⟩⟩

theorem Spares.trans {pid : Nat} {m'' : Machine} (h : Spares pid m m') (h' : Spares pid m' m'')
    (self : m'.self = m.self) : Spares pid m m'' where
  once := h'.once
  stays q'' hq'' hpid := by
    obtain ⟨q', hq', hstays'⟩ := h'.stays q'' hq'' hpid
    obtain ⟨q, hq, hstays⟩ := h.stays q' hq' (hstays'.pid ▸ hpid)
    refine ⟨q, hq, hstays.trans ?_⟩
    exact ⟨hstays'.pid, hstays'.group, hstays'.descriptors, hstays'.word?, self ▸ hstays'.parent⟩
  kept q hq hpid hword := by
    obtain ⟨q', hq', hstays⟩ := h.kept q hq hpid hword
    obtain ⟨q'', hq'', hstays'⟩ :=
      h'.kept q' hq' (by rwa [hstays.pid]) (hstays.word?.trans hword)
    refine ⟨q'', hq'', hstays.trans ?_⟩
    exact ⟨hstays'.pid, hstays'.group, hstays'.descriptors, hstays'.word?, self ▸ hstays'.parent⟩

/-- A copy of a process that may be older than the machine: while the process lives, only what does
not concern an exchange may have changed. -/
def Process.Stale (m : Machine) (p : Process) : Prop :=
  p.word? = none → ∃ q ∈ m.processes, q.Stays m p

theorem Process.Stale.spared {p : Process} {pid : Nat} (h : p.Stale m) (spares : Spares pid m m')
    (self : m'.self = m.self) (hpid : p.pid ≠ pid) : p.Stale m' := by
  intro alive
  obtain ⟨q, hq, hstays⟩ := h alive
  obtain ⟨q', hq', hstays'⟩ :=
    spares.kept q hq (hstays.pid ▸ hpid) (hstays.word?.symm.trans alive)
  have hboth := hstays'.symm.trans hstays
  exact ⟨q', hq', hboth.pid, hboth.group, hboth.descriptors, hboth.word?, self ▸ hboth.parent⟩

/-- A process that a signal may have made go on. -/
def Process.continued (number : Nat) (p : Process) : Process :=
  if number = Signal.goOn && p.life = .stopped then { p with life := .running } else p

theorem Process.continued_stays (m : Machine) (n : Nat) {p : Process} (alive : p.word? = none) :
    p.Stays m (p.continued n) := by
  unfold continued
  split
  · exact ⟨rfl, rfl, rfl, alive.symm, .rfl⟩
  · exact .refl m p

theorem signal_alive (m : Machine) (n : Nat) {p : Process} (alive : p.word? = none) :
    m.signal n p = match Machine.disposition (p.continued n) n with
      | .ignored => m.setProcess (p.continued n)
      | .caught => (m.setProcess (p.continued n)).setProcess { p.continued n with
          caught := (p.continued n).caught ++ [n]
          time := min (p.continued n).time m.clock }
      | .default =>
        if Signal.harmless.contains n then m.setProcess (p.continued n)
        else if Signal.stopping.contains n then
          (m.setProcess (p.continued n)).setProcess { p.continued n with life := .stopped }
        else (m.setProcess (p.continued n)).terminate (p.continued n).pid
          (WaitStatus.signalWord n false) := by
  unfold Machine.signal
  split
  · rename_i word hlife
    rw [Process.word?, hlife] at alive
    cases alive
  · rfl

/-- What a signal does to a process that lives: it is as it was, stops, or dies. -/
theorem signal_cases (m : Machine) (n : Nat) {p : Process} (alive : p.word? = none) :
    ∃ q, p.Stays m q ∧ (m.signal n p = m.setProcess q ∨
      (∃ r, q.Stays m r ∧ m.signal n p = (m.setProcess q).setProcess r) ∨
      ∃ word, m.signal n p = (m.setProcess q).terminate q.pid word) := by
  have hstays := Process.continued_stays m n alive
  refine ⟨p.continued n, hstays, ?_⟩
  rw [signal_alive m n alive]
  cases Machine.disposition (p.continued n) n with
  | ignored => exact .inl rfl
  | caught =>
    refine .inr (.inl ⟨_, ?_, rfl⟩)
    exact ⟨rfl, rfl, rfl, rfl, .rfl⟩
  | default =>
    by_cases harmless : Signal.harmless.contains n
    · exact .inl (if_pos harmless)
    · simp only [if_neg harmless]
      by_cases stopping : Signal.stopping.contains n
      · have hword : (p.continued n).word? = none := hstays.word?.trans alive
        refine .inr (.inl ⟨_, ?_, if_pos stopping⟩)
        exact ⟨rfl, rfl, rfl, hword.symm, .rfl⟩
      · exact .inr (.inr ⟨_, if_neg stopping⟩)

theorem signal_dead (m : Machine) (n : Nat) {p : Process} (dead : p.word?.isSome = true) :
    m.signal n p = m := by
  unfold Machine.signal
  split
  · rfl
  · rename_i hlife
    unfold Process.word? at dead
    split at dead
    · exact absurd ‹_› (hlife _)
    · cases dead

theorem signal_self (m : Machine) (n : Nat) (p : Process) : (m.signal n p).self = m.self := by
  cases hword : p.word? with
  | some word => rw [signal_dead m n (by rw [hword]; rfl)]
  | none =>
    obtain ⟨q, -, heq | ⟨r, -, heq⟩ | ⟨word, heq⟩⟩ := signal_cases m n hword <;> rw [heq] <;> rfl

/-- A signal to a process, which may be a copy of it. -/
theorem Shows.signal (h : Shows c pipe ids m w) (n : Nat) {p : Process} (stale : p.Stale m) :
    Leads i c pipe w (m.signal n p) := by
  cases hword : p.word? with
  | some word =>
    rw [signal_dead m n (by rw [hword]; rfl)]
    exact h.leads
  | none =>
    obtain ⟨q, hq, hstale⟩ := stale hword
    have alive : q.word? = none := hstale.word?.symm.trans hword
    obtain ⟨r, hr, hcases⟩ := signal_cases m n hword
    have hqr := hstale.trans hr
    have hleads := h.stay (i := i) hq alive hqr
    have hmem := mem_setProcess_self hq hqr.pid
    have halive : r.word? = none := hqr.word?.trans alive
    rcases hcases with heq | ⟨r', hr', heq⟩ | ⟨word, heq⟩ <;> rw [heq]
    · exact hleads
    · exact hleads.trans fun ids v hv _ _ =>
        hv.stay hmem halive ⟨hr'.pid, hr'.group, hr'.descriptors, hr'.word?, hr'.parent⟩
    · exact hleads.trans fun ids v hv _ _ => hv.terminate hmem halive word

theorem spares_signal (hs : m.Sound) (n : Nat) {p : Process} (stale : p.Stale m) :
    Spares p.pid m (m.signal n p) := by
  cases hword : p.word? with
  | some word =>
    rw [signal_dead m n (by rw [hword]; rfl)]
    exact .refl hs.once _
  | none =>
    obtain ⟨q, hq, hstale⟩ := stale hword
    obtain ⟨r, hr, hcases⟩ := signal_cases m n hword
    have hset := spares_setProcess hs.once r
    have habove : m.self < r.pid := by rw [hr.pid, hstale.pid]; exact (hs.each q hq).above
    rw [← hr.pid]
    rcases hcases with heq | ⟨r', hr', heq⟩ | ⟨word, heq⟩ <;> rw [heq]
    · exact hset
    · rw [← hr'.pid] at hset ⊢
      exact hset.trans (spares_setProcess hset.once r') rfl
    · exact hset.trans (spares_terminate hset.once hs.self habove word) rfl

/-- Signals to several processes, as they were before the first. -/
theorem Shows.signals (h : Shows c pipe ids m w) (n : Nat) {chosen : List Process}
    (once : (chosen.map (·.pid)).Nodup) (stale : ∀ p ∈ chosen, p.Stale m) :
    Leads i c pipe w (chosen.foldl (fun m p => m.signal n p) m) := by
  induction chosen generalizing m ids w with
  | nil => exact h.leads
  | cons p rest ih =>
    rw [List.map_cons, List.nodup_cons] at once
    rw [List.foldl_cons]
    have hstale := stale p List.mem_cons_self
    have hspares := spares_signal h.sound n hstale
    have hself := signal_self m n p
    refine (h.signal n hstale).trans fun ids v hv _ _ => ih hv once.2 fun q hq => ?_
    refine (stale q (List.mem_cons_of_mem p hq)).spared hspares hself fun hpid => once.1 ?_
    rw [← hpid]
    exact List.mem_map_of_mem hq

/-- Signals to some of the processes. -/
theorem Shows.send (h : Shows c pipe ids m w) {sender : Process} {target : Int} {n : Nat}
    (sent : m.send sender target n = .ok m') : Leads i c pipe w m' := by
  unfold Machine.send at sent
  by_cases known : Signal.last < n
  · rw [if_pos known] at sent
    cases sent
  · rw [if_neg known] at sent
    dsimp only at sent
    generalize hchosen : m.processes.filter _ = chosen at sent
    have hsub : chosen.Sublist m.processes := hchosen ▸ List.filter_sublist
    by_cases none : chosen.isEmpty
    · rw [if_pos none] at sent
      cases sent
    · rw [if_neg none] at sent
      by_cases ask : n = 0
      · rw [if_pos ask] at sent
        cases sent
        exact h.leads
      · rw [if_neg ask] at sent
        cases sent
        exact h.signals n ((hsub.map _).nodup h.sound.once) fun p hp _ =>
          ⟨p, hsub.subset hp, .refl m p⟩

/-! ## Birth -/

/-- A machine with one more process. -/
def Machine.born (m : Machine) (p : Process) : Machine :=
  { m with lastPid := m.lastPid + 1, processes := m.processes ++ [p] }

variable {p : Process}

theorem mem_born {q : Process} : q ∈ (m.born p).processes ↔ q ∈ m.processes ∨ q = p := by
  simp [Machine.born]

/-- The next number is new. -/
theorem Machine.Sound.below (h : m.Sound) {q : Process} (hq : q ∈ m.processes) :
    q.pid ≠ m.lastPid + 1 := Nat.ne_of_lt (Nat.lt_succ_of_le (h.each q hq).known)

theorem Machine.Sound.born (h : m.Sound) (pid : p.pid = m.lastPid + 1)
    (group : p.group ≤ m.lastPid + 1) (valid : ∀ d ∈ p.descriptors, d.channel < m.channels.size)
    (alive : p.word? = none) : (m.born p).Sound where
  self := h.self
  selfKnown := Nat.le_succ_of_le h.selfKnown
  once := by
    rw [Machine.born, List.map_append, List.nodup_append]
    refine ⟨h.once, List.nodup_singleton _, fun a ha b hb => ?_⟩
    obtain ⟨q, hq, rfl⟩ := List.mem_map.mp ha
    obtain rfl := List.mem_singleton.mp hb
    change q.pid ≠ p.pid
    rw [pid]
    exact h.below hq
  piped := h.piped
  each q hq := by
    rcases mem_born.mp hq with hq | rfl
    · have hq' := h.each q hq
      exact ⟨hq'.above, Nat.le_succ_of_le hq'.known, Nat.le_succ_of_le hq'.group, hq'.valid,
        hq'.ended⟩
    · exact ⟨by rw [pid]; exact Nat.lt_succ_of_le h.selfKnown, Nat.le_of_eq pid, group, valid,
        by rw [alive]; nofun⟩

theorem Wired.born (h : Wired c pipe m) (beside : p.Beside c pipe m) :
    Wired c pipe (m.born p) where
  apart := h.apart
  bound := h.bound
  ours := h.ours
  held := h.held
  beside q hq := by
    rcases mem_born.mp hq with hq | rfl
    · exact ⟨(h.beside q hq).apart, (h.beside q hq).leader⟩
    · exact ⟨beside.apart, beside.leader⟩

/-- Whoever plays another process still does. -/
theorem Plays.born (pid : p.pid = m.lastPid + 1) {r : Nat} {x : Exchange.Member}
    (h : Plays c pipe m r x) (old : r ≤ m.lastPid) : Plays c pipe (m.born p) r x where
  role q hq hpid := by
    rcases mem_born.mp hq with hq | rfl
    · exact h.role q hq hpid
    · omega
  gone hnone := h.gone fun q hq => hnone q (mem_born.mpr (.inl hq))

/-- The new process can be played. -/
theorem Machine.Sound.plays (h : m.Sound) (pid : p.pid = m.lastPid + 1) :
    Plays c pipe (m.born p) (m.lastPid + 1) (role c pipe m p) where
  role q hq hpid := by
    rcases mem_born.mp hq with hq | rfl
    · exact absurd hpid (h.below hq)
    · rfl
  gone hnone := absurd pid (hnone p (mem_born.mpr (.inr rfl)))

/-- A process starts a copy of itself, which the session follows if it plays the process. -/
theorem Shows.fork (h : Shows c pipe ids m w) {parent : Process} (hp : parent ∈ m.processes)
    (alive : parent.word? = none) (pid : p.pid = m.lastPid + 1) (group : p.group = parent.group)
    (descriptors : p.descriptors = parent.descriptors) (alive' : p.word? = none) :
    Leads i c pipe w (m.born p) := by
  have hp' := h.sound.each parent hp
  have hchild : c.pid ≤ m.lastPid := h.known _ (List.mem_of_getElem? h.first)
  have hhas (e : PipeEnd) : m.has e p = m.has e parent := by
    rw [Machine.has, descriptors, Machine.has]
  have hrole : role c pipe m p = role c pipe m parent := by
    simp only [role, alive, alive', group, hhas]
  have hsound := h.sound.born pid (by rw [group]; exact Nat.le_succ_of_le hp'.group)
    (by rw [descriptors]; exact hp'.valid) alive'
  have hwired := h.wired.born (p := p)
    ⟨fun ch => (hhas _).trans ((h.wired.beside parent hp).apart ch), fun hpid => by omega⟩
  have hgone : w.exchange.status.isSome = true → ∀ q ∈ (m.born p).processes, q.pid ≠ c.pid := by
    intro hstatus q hq
    rcases mem_born.mp hq with hq | rfl
    · exact h.gone hstatus q hq
    · omega
  by_cases hin : parent.pid ∈ ids
  · obtain ⟨k, x, hk, hx, hplays⟩ := h.exists_member hin
    rw [hplays.role parent hp rfl, ← hrole, role, alive'] at hx
    refine ⟨ids ++ [m.lastPid + 1], _, Exchange.Moves.forks hx, ⟨hsound, hwired, h.pipes,
      ?_, ?_, ?_, by simp [h.length], fun j r z hj hz => ?_, fun q hq hends => ?_, hgone⟩, rfl, rfl⟩
    · rw [List.nodup_append]
      refine ⟨h.distinct, List.nodup_singleton _, fun a ha b hb => ?_⟩
      obtain rfl := List.mem_singleton.mp hb
      exact Nat.ne_of_lt (Nat.lt_succ_of_le (h.known a ha))
    · intro r hr
      rcases List.mem_append.mp hr with hr | hr
      · exact Nat.le_succ_of_le (h.known r hr)
      · exact Nat.le_of_eq (List.mem_singleton.mp hr)
    · rw [List.getElem?_append_left (List.getElem?_eq_some_iff.mp h.first).1]
      exact h.first
    · by_cases hlt : j < ids.length
      · rw [List.getElem?_append_left hlt] at hj
        rw [List.getElem?_append_left (by rw [h.length]; exact hlt)] at hz
        exact (h.plays j r z hj hz).born pid (h.known r (List.mem_of_getElem? hj))
      · rw [List.getElem?_append_right (Nat.le_of_not_lt hlt), List.getElem?_singleton] at hj
        rw [List.getElem?_append_right (by rw [h.length]; exact Nat.le_of_not_lt hlt), h.length,
          List.getElem?_singleton] at hz
        split at hj
        · rename_i hlast
          rw [if_pos hlast] at hz
          cases hj
          cases hz
          have hnew : Plays c pipe (m.born p) (m.lastPid + 1) (role c pipe m p) :=
            h.sound.plays pid
          rwa [role, alive'] at hnew
        · cases hj
    · rcases mem_born.mp hq with hq | rfl
      · exact List.mem_append_left _ (h.cover q hq hends)
      · rw [pid]
        exact List.mem_append_right _ (List.mem_singleton.mpr rfl)
  · refine ⟨ids, w, .refl, ⟨hsound, hwired, h.pipes, h.distinct,
      fun r hr => Nat.le_succ_of_le (h.known r hr), h.first, h.length, fun j r z hj hz => ?_,
      fun q hq hends => ?_, hgone⟩, rfl, rfl⟩
    · exact (h.plays j r z hj hz).born pid (h.known r (List.mem_of_getElem? hj))
    · rcases mem_born.mp hq with hq | rfl
      · exact h.cover q hq hends
      · -- Neither the process nor its copy has anything to do with the exchange.
        refine absurd (h.cover parent hp (hends.imp group.symm.trans ?_)) hin
        exact Exists.imp fun ch hch => (hhas _).symm.trans hch

end ModuleForge.Host
