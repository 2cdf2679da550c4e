import ModuleForge.Proofs.Action
import ModuleForge.Proofs.Host.Processes

/-!
# Steps of the machine

Whatever a process asks for, a session that shows the machine can follow the answer (`Shows.step`).
Reading from a pipe of the exchange and writing to it come to the same in both. For the session,
everything else is a process that goes on (`Process.Goes`), perhaps with fewer ends or in a group of
its own, that dies, starts another one, or sends signals.
-/
namespace ModuleForge.Host

variable {i : Invocation} {c : Machine.Child} {pipe : Pipes} {ids : List Nat} {m m' : Machine}
  {w : Exchange.Session}

/-! ## Going on -/

/-- A process as it goes on after an answer: it may have left its group for one of its own, and
beside the channels that it had it may have new ones. -/
structure Process.Goes (m m' : Machine) (p p' : Process) : Prop where
  pid : p'.pid = p.pid
  parent : p'.parent = p.parent
  word? : p'.word? = p.word?
  group : p'.group = p.group ∨ p'.group = p.pid
  descriptors : ∀ d ∈ p'.descriptors, (∃ o ∈ p.descriptors, o.channel = d.channel) ∨
    m.channels.size ≤ d.channel ∧ d.channel < m'.channels.size

theorem Process.Goes.valid {p p' : Process} (h : p.Goes m m' p') (frame : Frame pipe m m')
    (hp : p.Sound m) : ∀ d ∈ p'.descriptors, d.channel < m'.channels.size := fun d hd => by
  rcases h.descriptors d hd with ⟨o, ho, heq⟩ | ⟨-, hlt⟩
  · rw [← heq]
    exact Nat.lt_of_lt_of_le (hp.valid o ho) frame.channels
  · exact hlt

/-- What is new is no end of a pipe that there was. -/
theorem Process.Goes.has {p p' : Process} (h : p.Goes m m' p') (frame : Frame pipe m m')
    (hp : p.Sound m) {e : PipeEnd} (old : e.1 < m.pipes.size) (hhas : m'.has e p' = true) :
    m.has e p = true := by
  obtain ⟨d, hd, hend⟩ := List.any_eq_true.mp hhas
  rw [beq_iff_eq] at hend
  rcases h.descriptors d hd with ⟨o, ho, heq⟩ | ⟨hnew, -⟩
  · rw [← heq, frame.endAt _ (hp.valid o ho)] at hend
    exact List.any_eq_true.mpr ⟨o, ho, beq_iff_eq.mpr hend⟩
  · exact absurd old (Nat.not_lt_of_le (frame.fresh d.channel e hnew hend).1)

/-- A process goes on after an answer that does nothing to the pipes of the exchange. -/
theorem Shows.proceed (h : Shows c pipe ids m w) (frame : Frame pipe m m')
    (processes : m'.processes = m.processes) {p p' : Process} (hp : p ∈ m.processes)
    (alive : p.word? = none) (goes : p.Goes m m' p') : Leads i c pipe w (m'.setProcess p') := by
  have hp' := h.sound.each p hp
  have hbeside := h.wired.beside p hp
  have alive' : p'.word? = none := goes.word?.trans alive
  have hleader : p.pid = c.pid → p'.group = c.pid := fun hchild =>
    goes.group.elim (·.trans (hbeside.leader hchild).1) (·.trans hchild)
  refine (h.framed frame processes).trans fun ids v hv _ _ => hv.revise (processes ▸ hp) alive
    goes.pid alive' ?_ ?_ (fun ch hch => ?_) ?_
  · exact ⟨by rw [frame.self, goes.pid]; exact hp'.above,
      by rw [frame.lastPid, goes.pid]; exact hp'.known,
      by rw [frame.lastPid]; exact goes.group.elim (· ▸ hp'.group) (· ▸ hp'.known),
      goes.valid frame hp', by rw [alive']; nofun⟩
  · refine ⟨fun ch => ?_, fun hchild => ⟨hleader (goes.pid ▸ hchild), ?_⟩⟩
    · rw [Bool.eq_false_iff]
      intro hours
      have hold := goes.has frame hp' (h.wired.bound ch) hours
      rw [hbeside.apart ch] at hold
      cases hold
    · rw [goes.parent, frame.self]
      exact (hbeside.leader (goes.pid ▸ hchild)).2
  · rw [frame.has_eq hp'.valid]
    exact goes.has frame hp' (h.wired.bound ch) hch
  · rcases goes.group with hgroup | hgroup
    · exact .inl hgroup
    · by_cases hchild : p.pid = c.pid
      · exact .inl ((hleader hchild).trans (hbeside.leader hchild).1.symm)
      · exact .inr fun hin => hchild (hgroup.symm.trans hin)

theorem Process.Goes.same (m : Machine) {p p' : Process} (pid : p'.pid = p.pid)
    (parent : p'.parent = p.parent) (word? : p'.word? = p.word?) (group : p'.group = p.group)
    (descriptors : p'.descriptors ⊆ p.descriptors) : p.Goes m m p' :=
  ⟨pid, parent, word?, .inl group, fun d hd => .inl ⟨d, descriptors hd, rfl⟩⟩

/-- A process has one more descriptor than some that it had. -/
theorem Process.Goes.appended {p p' : Process} {ds : List Descriptor} {d : Descriptor}
    (pid : p'.pid = p.pid) (parent : p'.parent = p.parent) (word? : p'.word? = p.word?)
    (group : p'.group = p.group) (descriptors : p'.descriptors = ds ++ [d])
    (old : ds ⊆ p.descriptors) (last : (∃ o ∈ p.descriptors, o.channel = d.channel) ∨
      m.channels.size ≤ d.channel ∧ d.channel < m'.channels.size) : p.Goes m m' p' := by
  refine ⟨pid, parent, word?, .inl group, fun e he => ?_⟩
  rcases List.mem_append.mp (descriptors ▸ he) with he | he
  · exact .inl ⟨e, old he, rfl⟩
  · obtain rfl := List.mem_singleton.mp he
    exact last

/-- A process goes on as it is. -/
theorem Shows.resume (h : Shows c pipe ids m w) {p : Process} (hp : p ∈ m.processes)
    (alive : p.word? = none) (nanos : Nat) (thread : Thread) :
    Leads i c pipe w (m.resume p nanos thread) :=
  h.stay hp alive ⟨rfl, rfl, rfl, rfl, .rfl⟩

theorem channel?_mem {p : Process} {fd k : Nat} (h : p.channel? fd = some k) :
    ∃ d ∈ p.descriptors, d.channel = k := by
  obtain ⟨d, hd, rfl⟩ := Option.map_eq_some_iff.mp h
  exact ⟨d, List.mem_of_find?_eq_some hd, rfl⟩

/-! ## Data -/

/-- What a pipe of the exchange holds changes. -/
theorem Shows.piped (h : Shows c pipe ids m w) (ch : Exchange.Channel) (p : Pipe)
    {v : Exchange.Session} (pipes : v.pipe = Function.update w.pipe ch p)
    (members : v.members = w.members) (status : v.exchange.status = w.exchange.status) :
    Shows c pipe ids (m.setPipe (pipe ch) p) v where
  sound := {
    self := h.sound.self
    selfKnown := h.sound.selfKnown
    once := h.sound.once
    piped := fun k e he => by
      simp only [Machine.setPipe, Array.size_setIfInBounds]
      exact h.sound.piped k e he
    each := fun q hq =>
      have hq' := h.sound.each q hq
      ⟨hq'.above, hq'.known, hq'.group, hq'.valid, hq'.ended⟩ }
  wired := {
    apart := h.wired.apart
    bound := fun ch => by
      simp only [Machine.setPipe, Array.size_setIfInBounds]
      exact h.wired.bound ch
    ours := h.wired.ours
    held := h.wired.held
    beside := fun q hq =>
      have hq' := h.wired.beside q hq
      ⟨hq'.apart, hq'.leader⟩ }
  pipes ch' := by
    rw [pipes, Machine.pipeAt, Machine.setPipe]
    by_cases heq : ch' = ch
    · subst heq
      rw [Function.update_self, Array.getElem?_setIfInBounds_self_of_lt (h.wired.bound ch')]
      rfl
    · rw [Function.update_of_ne heq,
        Array.getElem?_setIfInBounds_ne fun hsame => heq (h.wired.apart hsame.symm)]
      exact h.pipes ch'
  distinct := h.distinct
  known := h.known
  first := h.first
  length := by rw [members]; exact h.length
  plays k r x hk hx := by
    rw [members] at hx
    have hplays := h.plays k r x hk hx
    exact ⟨hplays.role, hplays.gone⟩
  cover := h.cover
  gone := by rw [status]; exact h.gone

/-- A process reads from a pipe. -/
theorem Shows.read (h : Shows c pipe ids m w) (holds : Holds c m w) {p : Process}
    (hp : p ∈ m.processes) {n most : Nat}
    (has : m.has (n, false) p = true) {data : ByteArray} {q : Pipe}
    (taken : (m.pipeAt n).read (m.hasWriters n) most = .taken data q) :
    Leads i c pipe w (m.setPipe n q) := by
  by_cases ours : ∃ ch, pipe ch = n
  · obtain ⟨ch, rfl⟩ := ours
    cases ch with
    | output s =>
      -- The parent reads from this one.
      have hnot := (h.wired.beside p hp).apart (.output s)
      exact absurd (hnot.symm.trans has) Bool.false_ne_true
    | input =>
      obtain ⟨k, ends, grouped, hend, hk⟩ := h.member hp has
      have hwriters : m.hasWriters (pipe .input) = w.parentHolds .input :=
        (m.hasWriters_eq _).trans (h.someHas_ours holds .input)
      rw [hwriters, ← h.pipes .input] at taken
      have hserve : w.serve ends (.read most) = some { w with
          pipe := Function.update w.pipe .input q
          taken := w.taken ++ data
          sawEnd := w.sawEnd || (w.pipe .input).held.isEmpty } := by
        rw [Exchange.Session.serve, if_pos (List.contains_iff_mem.mpr hend), taken]
      have hmoves := Exchange.Moves.answered (i := i) hk _ hserve
      simp only [Exchange.Member.after, Exchange.Member.offspring, List.append_nil,
        Exchange.set_same hk] at hmoves
      exact ⟨ids, _, hmoves, h.piped .input q rfl rfl rfl, rfl, rfl⟩
  · exact h.framed (.setPipe m q fun ch heq => ours ⟨ch, heq⟩) rfl

/-- A process writes to a pipe. -/
theorem Shows.write (h : Shows c pipe ids m w) (holds : Holds c m w) {p : Process}
    (hp : p ∈ m.processes) {n count : Nat}
    (has : m.has (n, true) p = true) {data : ByteArray} {q : Pipe}
    (accepted : (m.pipeAt n).write (m.hasReaders n) data = .accepted count q) :
    Leads i c pipe w (m.setPipe n q) := by
  by_cases ours : ∃ ch, pipe ch = n
  · obtain ⟨ch, rfl⟩ := ours
    cases ch with
    | input =>
      -- The parent writes to this one.
      have hnot := (h.wired.beside p hp).apart .input
      exact absurd (hnot.symm.trans has) Bool.false_ne_true
    | output s =>
      obtain ⟨k, ends, grouped, hend, hk⟩ := h.member hp has
      have hreaders : m.hasReaders (pipe (.output s)) = w.parentHolds (.output s) :=
        (m.hasReaders_eq _).trans (h.someHas_ours holds (.output s))
      rw [hreaders, ← h.pipes (.output s)] at accepted
      have hserve : w.serve ends (.write s data) = some { w with
          pipe := Function.update w.pipe (.output s) q
          written := Function.update w.written s (w.written s ++ data.extract 0 count) } := by
        rw [Exchange.Session.serve, if_pos (List.contains_iff_mem.mpr hend), accepted]
      have hmoves := Exchange.Moves.answered (i := i) hk _ hserve
      simp only [Exchange.Member.after, Exchange.Member.offspring, List.append_nil,
        Exchange.set_same hk] at hmoves
      exact ⟨ids, _, hmoves, h.piped (.output s) q rfl rfl rfl, rfl, rfl⟩
  · exact h.framed (.setPipe m q fun ch heq => ours ⟨ch, heq⟩) rfl

/-- A process reads from one of its channels. -/
theorem Shows.readFrom (h : Shows c pipe ids m w) (holds : Holds c m w) {p : Process}
    (hp : p ∈ m.processes) {k : Nat} (own : ∃ d ∈ p.descriptors, d.channel = k) (most : Nat) :
    Leads i c pipe w (m.readFrom k most).2 ∧ (m.readFrom k most).2.processes = m.processes := by
  unfold Machine.readFrom
  split
  · rename_i n hk
    split
    · exact ⟨h.leads, rfl⟩
    · rename_i data q taken
      refine ⟨h.read holds hp ?_ taken, rfl⟩
      obtain ⟨d, hd, rfl⟩ := own
      exact List.any_eq_true.mpr ⟨d, hd, by rw [Machine.endAt_eq hk]; exact beq_self_eq_true _⟩
  · rename_i node offset mode hk
    split
    · exact ⟨h.leads, rfl⟩
    · split
      · refine ⟨h.framed (.setChannel m ?_) rfl, rfl⟩
        rw [Machine.endAt_eq hk]
        rfl
      · exact ⟨h.leads, rfl⟩
      · exact ⟨h.leads, rfl⟩
  · exact ⟨h.leads, rfl⟩
  · exact ⟨h.leads, rfl⟩
  · exact ⟨h.leads, rfl⟩
  · exact ⟨h.leads, rfl⟩

/-- A process writes to one of its channels. -/
theorem Shows.writeTo (h : Shows c pipe ids m w) (holds : Holds c m w) {p : Process}
    (hp : p ∈ m.processes) {k : Nat} (own : ∃ d ∈ p.descriptors, d.channel = k) {data : ByteArray}
    {answer : Except Errno Nat} (wrote : m.writeTo k data = some (answer, m')) :
    Leads i c pipe w m' ∧ m'.processes = m.processes := by
  unfold Machine.writeTo at wrote
  split at wrote
  · rename_i n hk
    split at wrote
    · cases wrote
    · cases wrote
      exact ⟨h.leads, rfl⟩
    · rename_i count q accepted
      cases wrote
      refine ⟨h.write holds hp ?_ accepted, rfl⟩
      obtain ⟨d, hd, rfl⟩ := own
      exact List.any_eq_true.mpr ⟨d, hd, by rw [Machine.endAt_eq hk]; exact beq_self_eq_true _⟩
  · rename_i node offset mode hk
    split at wrote
    · cases wrote
      exact ⟨h.leads, rfl⟩
    · split at wrote
      · cases wrote
        refine ⟨h.framed ((Frame.tree m _).trans (.setChannel _ ?_)) rfl, rfl⟩
        change m.endAt k = _
        rw [Machine.endAt_eq hk]
        rfl
      · cases wrote
        exact ⟨h.leads, rfl⟩
  · cases wrote
    exact ⟨h.leads, rfl⟩
  · cases wrote
    exact ⟨h.leads, rfl⟩
  · cases wrote
    exact ⟨h.leads, rfl⟩

/-! ## Other requests -/

/-- A process opens a file: the channel is new, or one that it has. -/
theorem openChannel_cases (pipe : Pipes) {p : Process} {path : ByteString} {mode : OpenMode}
    {k : Nat} (opened : m.openChannel p path mode = .ok (k, m')) :
    Frame pipe m m' ∧ m'.processes = m.processes ∧ ((∃ o ∈ p.descriptors, o.channel = k) ∨
      m.channels.size ≤ k ∧ k < m'.channels.size) := by
  have hadd (t : FileTree) {ch : Channel} (plain : ch.end? = none)
      (heq : Machine.addChannel { m with tree := t } ch = (k, m')) :
      Frame pipe m m' ∧ m'.processes = m.processes ∧ ((∃ o ∈ p.descriptors, o.channel = k) ∨
        m.channels.size ≤ k ∧ k < m'.channels.size) := by
    cases heq
    exact ⟨(Frame.tree m t).trans (.addChannel _ plain), rfl, .inr ⟨Nat.le_refl _, by simp⟩⟩
  unfold Machine.openChannel at opened
  extract_lets after at opened
  have hafter (found : Nat × FileTree) (opened : after found = .ok (k, m')) :
      Frame pipe m m' ∧ m'.processes = m.processes ∧ ((∃ o ∈ p.descriptors, o.channel = k) ∨
        m.channels.size ≤ k ∧ k < m'.channels.size) := by
    obtain ⟨node, t⟩ := found
    dsimp only [after] at opened
    split at opened
    · split at opened
      · cases opened
        exact ⟨.tree m t, rfl, .inl (channel?_mem ‹_›)⟩
      · cases opened
    · exact hadd t rfl (Except.ok.inj opened)
    · split at opened
      · exact hadd _ rfl (Except.ok.inj opened)
      · exact hadd t rfl (Except.ok.inj opened)
    · split at opened
      · exact hadd t rfl (Except.ok.inj opened)
      · cases opened
    · exact hadd t rfl (Except.ok.inj opened)
  split at opened
  · obtain ⟨node, -, opened⟩ := ok_bind_iff.mp opened
    exact hafter (node, m.tree) opened
  · obtain ⟨found, -, opened⟩ := ok_bind_iff.mp opened
    exact hafter found opened

/-- A process becomes another program with what it does not close. -/
theorem execute_cases {tools : Tools} {p : Process} {path : ByteString}
    {arguments : List ByteString} {environment : Variables}
    (executed : m.execute tools p path arguments environment = .ok m') :
    ∃ p', p.Goes m m p' ∧ m' = m.setProcess p' := by
  unfold Machine.execute at executed
  extract_lets after at executed
  have hafter (executed : after () = .ok m') : ∃ p', p.Goes m m p' ∧ m' = m.setProcess p' := by
    obtain ⟨image, -, executed⟩ := ok_bind_iff.mp executed
    dsimp only at executed
    split at executed
    · cases executed
    · cases executed
      refine ⟨_, ?_, rfl⟩
      exact .same m rfl rfl rfl rfl (List.filter_subset_self _)
  split at executed
  · cases executed
  · exact hafter executed

/-- A process that is dead or gone is waited for, by another one or by the parent. -/
theorem Shows.dropped (h : Shows c pipe ids m w) {pid : Nat} {v : Exchange.Session}
    (dead : ∀ (k : Nat) (x : Exchange.Member), ids[k]? = some pid → w.members[k]? = some x →
      ∃ word, x = .dead word)
    (pipes : v.pipe = w.pipe) (members : v.members = w.members)
    (status : v.exchange.status.isSome = true → w.exchange.status.isSome = true ∨ pid = c.pid) :
    Shows c pipe ids { m with processes := m.processes.filter (·.pid != pid) } v := by
  have hmem {q : Process} (hq : q ∈ m.processes.filter (·.pid != pid)) :
      q ∈ m.processes ∧ q.pid ≠ pid := by
    rw [List.mem_filter, bne_iff_ne] at hq
    exact hq
  have hspares : Spares pid m { m with processes := m.processes.filter (·.pid != pid) } := {
    once := (List.filter_sublist.map _).nodup h.sound.once
    stays := fun q hq _ => ⟨q, (hmem hq).1, .refl m q⟩
    kept := fun q hq hpid _ => ⟨q, List.mem_filter.mpr ⟨hq, bne_iff_ne.mpr hpid⟩, .refl m q⟩ }
  refine h.altered (.of_eq rfl rfl rfl rfl rfl) hspares (fun q hq hpid => absurd hpid (hmem hq).2)
    pipes (by rw [members]) (fun _ _ _ _ => by rw [members])
    (fun k x hk hx => ⟨fun q hq hpid => absurd hpid (hmem hq).2, fun _ => ?_⟩)
    fun hstatus q hq hchild => ?_
  · rw [members] at hx
    exact dead k x hk hx
  · rcases status hstatus with hold | rfl
    · exact h.gone hold q (hmem hq).1 hchild
    · exact (hmem hq).2 hchild

/-- A process that is dead is played by a member that is. -/
theorem Shows.dead (h : Shows c pipe ids m w) {p : Process} (hp : p ∈ m.processes)
    {word : BitVec 32} (dead : p.word? = some word) {k : Nat} {x : Exchange.Member}
    (hk : ids[k]? = some p.pid) (hx : w.members[k]? = some x) : x = .dead word := by
  rw [(h.plays k p.pid x hk hx).role p hp rfl, role, dead]

/-! ## Steps -/

/-- One step of the machine: the session follows while the parent stands still. -/
theorem Shows.step (h : Shows c pipe ids m w) (holds : Holds c m w) (tools : Tools) {p : Process}
    (hp : p ∈ m.processes) (alive : p.word? = none) : Leads i c pipe w (m.step tools p) := by
  unfold Machine.step
  generalize hlater : { m with clock := max m.clock p.time } = later
  have hp' : p ∈ later.processes := by rw [← hlater]; exact hp
  have hframe : Frame pipe m later := hlater ▸ .of_eq rfl rfl rfl rfl rfl
  refine (h.framed hframe (by rw [← hlater])).trans fun ids v hv hexchange hphase => ?_
  have hholds : Holds c later v := fun ch => by
    rw [hframe.held, holds ch]
    simp only [Exchange.Session.parentHolds, hexchange, hphase]
  clear hlater hframe
  have hsame {p' : Process} (pid : p'.pid = p.pid) (parent : p'.parent = p.parent)
      (word? : p'.word? = p.word?) (group : p'.group = p.group)
      (descriptors : p'.descriptors ⊆ p.descriptors) : Leads i c pipe v (later.setProcess p') :=
    hv.proceed (.refl later) rfl hp' alive (.same later pid parent word? group descriptors)
  have hgoes (nanos : Nat) (thread : Thread) : Leads i c pipe v (later.resume p nanos thread) :=
    hv.resume hp' alive nanos thread
  -- Most requests change the process that asks and nothing else that a session shows.
  cases hthread : p.thread with
  | exit code => exact hv.terminate hp' alive _
  | spend nanos k => exact hgoes ..
  | sleep nanos k => exact hgoes ..
  | read fd most k =>
    dsimp only
    cases hfd : p.channel? fd with
    | none => exact hgoes ..
    | some channel =>
      obtain ⟨hread, hprocesses⟩ := hv.readFrom (i := i) hholds hp' (channel?_mem hfd) most
      exact hread.trans fun ids u hu _ _ => hu.resume (hprocesses ▸ hp') alive ..
  | write fd data k =>
    dsimp only
    cases hfd : p.channel? fd with
    | none => exact hgoes ..
    | some channel =>
      dsimp only
      cases hwrite : later.writeTo channel data with
      | some wrote =>
        obtain ⟨answer, after⟩ := wrote
        obtain ⟨hwrote, hprocesses⟩ := hv.writeTo (i := i) hholds hp' (channel?_mem hfd) hwrite
        exact hwrote.trans fun ids u hu _ _ => hu.resume (hprocesses ▸ hp') alive ..
      | none =>
        refine (hgoes Machine.requestTime (k (.error .brokenPipe))).trans fun ids u hu _ _ => ?_
        dsimp only
        split
        · rename_i q hq
          exact hu.signal _ fun _ => ⟨q, (mem_process? hq).1, .refl _ q⟩
        · exact hu.leads
  | openFile path mode k =>
    dsimp only
    cases hopened : later.openChannel p path mode with
    | error e => exact hgoes ..
    | ok opened =>
      obtain ⟨channel, after⟩ := opened
      obtain ⟨hframe, hprocesses, hchannel⟩ := openChannel_cases pipe hopened
      exact hv.proceed hframe hprocesses hp' alive
        (.appended rfl rfl rfl rfl rfl (List.Subset.refl _) hchannel)
  | close fd k => exact hsame rfl rfl rfl rfl (List.filter_subset_self _)
  | duplicate fd target k =>
    dsimp only
    cases hfd : p.channel? fd with
    | none => exact hgoes ..
    | some channel =>
      by_cases hsamefd : fd = target
      · simp only [if_pos hsamefd]
        exact hgoes ..
      · simp only [if_neg hsamefd]
        exact hv.proceed (.refl later) rfl hp' alive
          (.appended rfl rfl rfl rfl rfl (List.filter_subset_self _) (.inl (channel?_mem hfd)))
  | position fd k => exact hgoes ..
  | seek fd offset k =>
    dsimp only
    split
    · split
      · rename_i hk
        refine (hv.framed (.setChannel later ?_) rfl).trans fun ids u hu _ _ =>
          hu.resume hp' alive ..
        rw [Machine.endAt_eq hk]
        rfl
      · exact hgoes ..
    · exact hgoes ..
  | duplicateAbove fd least k =>
    dsimp only
    cases hfd : p.channel? fd with
    | none => exact hgoes ..
    | some channel =>
      exact hv.proceed (.refl later) rfl hp' alive
        (.appended rfl rfl rfl rfl rfl (List.Subset.refl _) (.inl (channel?_mem hfd)))
  | pipe k =>
    refine hv.proceed (.addPipe later hv.wired.bound) rfl hp' alive
      ⟨rfl, rfl, rfl, .inl rfl, fun d hd => ?_⟩
    have hsize := later.addPipe_channels
    have hnew {k : Nat} (hk : k = later.channels.size ∨ k = later.channels.size + 1) :
        later.channels.size ≤ k ∧ k < later.addPipe.2.2.channels.size := by omega
    simp only [List.mem_append, List.mem_singleton] at hd
    rcases hd with (hd | rfl) | rfl
    · exact .inl ⟨d, hd, rfl⟩
    · exact .inr (hnew (.inl rfl))
    · exact .inr (hnew (.inr later.addPipe_writer))
  | fork child k =>
    have hforks := hv.fork (i := i)
      (p := { p with
        pid := later.lastPid + 1, parent := p.pid, thread := child
        time := later.clock + Machine.forkTime, caught := [] }) hp' alive rfl rfl rfl alive
    exact hforks.trans fun ids u hu _ _ => hu.resume (mem_born.mpr (.inl hp')) alive ..
  | execute path arguments environment k =>
    dsimp only
    cases hexecuted : later.execute tools p path arguments environment with
    | error e => exact hgoes ..
    | ok after =>
      obtain ⟨p', hp'', rfl⟩ := execute_cases hexecuted
      exact hv.proceed (.refl later) rfl hp' alive hp''
  | wait child blocking k =>
    dsimp only
    split
    · rename_i pid word hdead
      obtain ⟨q, hq, hword⟩ := List.exists_of_findSome?_eq_some hdead
      obtain ⟨word', hword', heq⟩ := Option.map_eq_some_iff.mp hword
      cases heq
      have hdropped := hv.dropped (v := v)
        (fun _ _ hj hx => ⟨_, hv.dead (List.mem_of_mem_filter hq) hword' hj hx⟩) rfl rfl .inl
      refine hdropped.leads.trans fun ids u hu _ _ =>
        hu.resume (List.mem_filter.mpr ⟨hp', bne_iff_ne.mpr fun hpid => ?_⟩) alive ..
      rw [hv.sound.eq_of_pid hp' (List.mem_of_mem_filter hq) hpid, hword'] at alive
      cases alive
    · exact hgoes ..
  | kill target number k =>
    dsimp only
    cases hsent : later.send p target number with
    | error e => exact hgoes ..
    | ok after =>
      refine (hv.send hsent).trans fun ids u hu _ _ => ?_
      dsimp only
      split
      · rename_i q hq
        split
        · exact hu.leads
        · rename_i hword
          exact hu.resume (mem_process? hq).1 (by simpa using hword) ..
      · exact hu.leads
  | dispose signal how k => exact hsame rfl rfl rfl rfl (List.Subset.refl _)
  | takeSignal k =>
    dsimp only
    split
    · exact hgoes ..
    · exact hsame rfl rfl rfl rfl (List.Subset.refl _)
  | leaveGroup k =>
    dsimp only
    split
    · exact hgoes ..
    · exact hv.proceed (.refl later) rfl hp' alive
        ⟨rfl, rfl, rfl, .inr rfl, fun d hd => .inl ⟨d, hd, rfl⟩⟩
  | identity k => exact hgoes ..
  | changeDir path k =>
    dsimp only
    split
    · exact hgoes ..
    · split
      · exact hsame rfl rfl rfl rfl (List.Subset.refl _)
      · exact hgoes ..
  | mask rights k => exact hsame rfl rfl rfl rfl (List.Subset.refl _)
  | look k => exact hgoes ..
  | change f k =>
    dsimp only
    split
    · exact hgoes ..
    · rename_i t _
      exact (hv.framed (.tree later t) rfl).trans fun ids u hu _ _ => hu.resume hp' alive ..

end ModuleForge.Host
