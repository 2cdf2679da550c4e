import ModuleForge.Proofs.Exchange.Session

/-!
# What a run delivers

Whatever the order of moves, the capacities of the pipes and the processes that share their ends:

* of the input, what was read, what the pipe holds and what is left to feed are always the whole
  (`Session.Fed`), and no process sees an end before the whole has been read, unless feeding it was
  given up (`Session.Heard`);
* of an output, what was drained and what the pipe holds are always all that was written
  (`Session.Drained`);
* a status is that of the child (`Session.Waited`), and a result is that of the four parts
  (`Session.Settled`).

`run_delivers_streams` puts them together for what a run returns.
-/
namespace ModuleForge.Exchange

variable {i : Invocation} {w v : Session} {l : Label} {s : Stream} {input : ByteArray}

theorem Step.faults_mono (h : Step i w l v) : w.faults ⊆ v.faults := by
  cases h with
  | feedFault => exact List.subset_append_left _ _
  | drainFault => exact List.subset_append_left _ _
  | clean _ h => exact (Session.perform_frame h).2.2.2.2.2.2 ▸ List.Subset.refl _
  | member _ h => exact (Session.serve_frame h).2.2.1 ▸ List.Subset.refl _
  | _ => exact List.Subset.refl _

/-! ## The input -/

/-- What was read, what the pipe holds and what is left to feed are the whole input, and feeding it
ends only with nothing left, with nobody to read it or with a fault. -/
def Session.Fed (w : Session) (input : ByteArray) : Prop :=
  ∃ rest, w.taken ++ (w.pipe .input).held ++ rest = input ∧
    match w.exchange.feed with
    | .writing left => left = rest
    | .closed (.ok ()) => rest = ByteArray.empty ∨ w.childHolds .input = false
    | .closed (.error fault) => fault ∈ w.faults

/-- What does not feed moves no byte of the input but from the pipe to a reader. -/
theorem Session.Fed.frame (hw : w.Fed input) (hfeed : v.exchange.feed = w.exchange.feed)
    (hread : v.taken ++ (v.pipe .input).held = w.taken ++ (w.pipe .input).held)
    (hends : w.childHolds .input = false → v.childHolds .input = false)
    (hfaults : w.faults ⊆ v.faults) : v.Fed input := by
  obtain ⟨rest, hrest, hleft⟩ := hw
  refine ⟨rest, by rw [hread, hrest], ?_⟩
  rw [hfeed]
  split <;> rename_i hf <;> simp only [hf] at hleft
  · exact hleft
  · exact hleft.imp_right hends
  · exact hfaults hleft

theorem Step.fed (h : Step i w l v) (hw : w.Fed input) : v.Fed input := by
  have hends := h.childHolds_gone (c := .input)
  have hfaults := h.faults_mono
  cases h with
  | feed running _ h =>
    obtain ⟨rest, hrest, hleft⟩ := hw
    obtain ⟨_, hf, ⟨rfl, rfl, hover⟩ | ⟨sent, left, hsent, rfl, hheld, -⟩⟩ := feedInto?_cases h
    · simp only [hf] at hleft
      subst hleft
      exact ⟨_, by simpa using hrest, hover⟩
    · simp only [hf] at hleft
      subst hleft
      refine ⟨left, ?_, rfl⟩
      rw [← hrest, hsent]
      simp [hheld, ByteArray.append_assoc]
  | drain running hm h =>
    obtain ⟨_, -, ⟨rfl, -⟩ | ⟨_, rfl, -⟩⟩ := drainFrom?_cases hm h <;>
      exact hw.frame (feed_setDrain _ _ _) rfl hends hfaults
  | clean _ h =>
    obtain ⟨hfeed, -, hpipe, -, htaken, -⟩ := Session.perform_frame h
    exact hw.frame hfeed (by simp only [hpipe, htaken]) hends hfaults
  | feedFault running writing h =>
    obtain ⟨rest, hrest, -⟩ := hw
    refine ⟨rest, hrest, ?_⟩
    cases hf : w.exchange.feed with
    | closed r => rw [hf] at writing; cases writing
    | writing left => simp [Feed.failed, h]
  | drainFault => exact hw.frame (feed_setDrain _ _ _) rfl hends hfaults
  | member living h =>
    rcases Session.serve_cases h with rfl | ⟨_, data, p, _, hr, rfl⟩ | ⟨_, _, _, _, _, _, rfl⟩
    · exact hw.frame rfl rfl hends hfaults
    · obtain ⟨hheld, -⟩ := Pipe.read_taken hr
      exact hw.frame rfl (by simp [hheld, ByteArray.append_assoc]) hends hfaults
    · exact hw.frame rfl rfl hends hfaults
  | _ => exact hw.frame rfl rfl hends hfaults

theorem Reachable.fed (h : Reachable i w) : w.Fed i.input := by
  induction h with
  | start capacity hc first => exact ⟨i.input, by simp [Session.start], rfl⟩
  | step _ h ih => exact h.fed ih

/-- The end of the input is seen only once the parent has let go of it, and, if it was fed to its
end, only after the whole of it. -/
def Session.Heard (w : Session) (input : ByteArray) : Prop :=
  (w.parentHolds .input = true → w.sawEnd = false) ∧
    (w.exchange.feed = .closed (.ok ()) → w.sawEnd = true → w.taken = input)

/-- A process that reads the end of an input that was fed to its end has read the whole. -/
theorem Session.Fed.taken_eq (hw : w.Fed input) (hfeed : w.exchange.feed = .closed (.ok ()))
    (hend : w.childHolds .input = true) (hempty : (w.pipe .input).held = ByteArray.empty) :
    w.taken = input := by
  obtain ⟨rest, hrest, hleft⟩ := hw
  simp only [hfeed, hend] at hleft
  rcases hleft with rfl | hnone
  · rw [← hrest, hempty, ByteArray.append_empty, ByteArray.append_empty]
  · cases hnone

theorem Session.Heard.frame (hw : w.Heard input)
    (hparent : v.parentHolds .input = true → w.parentHolds .input = true)
    (hfeed : v.exchange.feed = w.exchange.feed) (hend : v.sawEnd = w.sawEnd)
    (htaken : v.taken = w.taken) : v.Heard input := by
  refine ⟨fun hv => hend ▸ hw.1 (hparent hv), ?_⟩
  rw [hfeed, hend, htaken]
  exact hw.2

theorem Step.heard (h : Step i w l v) (hfed : w.Fed input) (hw : w.Heard input) :
    v.Heard input := by
  cases h with
  | feed running _ h =>
    obtain ⟨rest, hf, -⟩ := feedInto?_cases h
    -- the parent still holds its end, so no process has seen the end
    have hnone : w.sawEnd = false :=
      hw.1 (by simp [Session.parentHolds, running, hf, Feed.isClosed])
    exact ⟨fun _ => hnone, fun _ hend => by rw [hnone] at hend; cases hend⟩
  | drain running hm h =>
    obtain ⟨_, -, ⟨rfl, -⟩ | ⟨_, rfl, -⟩⟩ := drainFrom?_cases hm h <;>
      exact hw.frame (by simp [Session.parentHolds, running]) (feed_setDrain _ _ _) rfl rfl
  | clean cleaning h =>
    obtain ⟨hfeed, -, -, -, htaken, hend, -⟩ := Session.perform_frame h
    exact hw.frame (by simp [Session.parentHolds]) hfeed hend htaken
  | feedFault running writing h =>
    have hnone : w.sawEnd = false := hw.1 (by simp [Session.parentHolds, running, writing])
    exact ⟨fun _ => hnone, fun _ hend => by rw [hnone] at hend; cases hend⟩
  | drainFault running reading =>
    exact hw.frame (by simp [Session.parentHolds, running]) (feed_setDrain _ _ _) rfl rfl
  | member living h =>
    rcases Session.serve_cases h with rfl | ⟨_, data, p, hmem, hr, rfl⟩ | ⟨_, _, _, _, _, _, rfl⟩
    · exact hw
    · obtain ⟨hheld, -, hover⟩ := Pipe.read_taken hr
      by_cases hempty : (w.pipe .input).held = ByteArray.empty
      · obtain ⟨hparent, rfl, rfl⟩ := hover hempty
        refine ⟨fun hv => absurd (hparent.symm.trans hv) (by simp), fun hfeed _ => ?_⟩
        have hreads := Session.childHolds_of_mem living hmem
        simp [hfed.taken_eq hfeed hreads hempty]
      · -- the end was not seen before, or nothing would have been left to read
        have hmore : (w.pipe .input).held.isEmpty = false := by
          rw [← Bool.not_eq_true, Bytes.isEmpty_iff]; exact hempty
        refine ⟨fun hv => by simp [hmore, hw.1 hv], fun hfeed hend => ?_⟩
        have htaken := hw.2 hfeed (by simpa [hmore] using hend)
        obtain ⟨rest, hrest, -⟩ := hfed
        rw [htaken, ByteArray.append_assoc] at hrest
        have hnone :=
          (ByteArray.append_right_inj input).mp (hrest.trans ByteArray.append_empty.symm)
        exact absurd (ByteArray.append_eq_empty_iff.mp hnone).1 hempty
    · exact hw
  | finish => exact hw.frame (by simp [Session.parentHolds]) rfl rfl rfl
  | expire => exact hw.frame (by simp [Session.parentHolds]) rfl rfl rfl
  | giveUp => exact hw.frame (by simp [Session.parentHolds]) rfl rfl rfl
  | _ => exact hw.frame id rfl rfl rfl

theorem Reachable.heard (h : Reachable i w) : w.Heard i.input := by
  induction h with
  | start capacity hc first => exact ⟨fun _ => rfl, fun _ h => by cases h⟩
  | step hr h ih => exact h.heard hr.fed ih

/-! ## The outputs -/

/-- What was drained and what the pipe holds are all that was written, and draining ends only with
nobody to write or with a fault. -/
def Session.Drained (w : Session) (s : Stream) : Prop :=
  match w.exchange.drain s with
  | .reading sofar => w.written s = sofar ++ (w.pipe (.output s)).held
  | .ended (.ok data) => w.written s = data ∧ w.childHolds (.output s) = false
  | .ended (.error fault) => fault ∈ w.faults

theorem Session.Drained.frame (hw : w.Drained s)
    (hdrain : v.exchange.drain s = w.exchange.drain s) (hwritten : v.written s = w.written s)
    (hpipe : (v.pipe (.output s)).held = (w.pipe (.output s)).held)
    (hends : w.childHolds (.output s) = false → v.childHolds (.output s) = false)
    (hfaults : w.faults ⊆ v.faults) : v.Drained s := by
  unfold Session.Drained at hw ⊢
  rw [hdrain]
  split <;> rename_i hd <;> simp only [hd] at hw
  · rw [hwritten, hpipe, hw]
  · exact ⟨hwritten.trans hw.1, hends hw.2⟩
  · exact hfaults hw

theorem Step.drained (h : Step i w l v) (s : Stream) (hw : w.Drained s) : v.Drained s := by
  have hends := h.childHolds_gone (c := .output s)
  have hfaults := h.faults_mono
  cases h with
  | feed running _ h =>
    obtain ⟨_, -, ⟨rfl, -⟩ | ⟨_, _, -, rfl, -⟩⟩ := feedInto?_cases h <;>
      exact hw.frame (drain_withFeed _ _ _) rfl rfl hends hfaults
  | @drain t most x p running hm h =>
    by_cases hst : s = t
    · subst hst
      obtain ⟨sofar, hd, ⟨rfl, rfl, hempty, hnone⟩ | ⟨data, rfl, hheld, -⟩⟩ := drainFrom?_cases hm h
      · simp only [Session.Drained, hd, hempty, ByteArray.append_empty] at hw
        simp only [Session.Drained, drain_setDrain]
        exact ⟨hw, hnone⟩
      · simp only [Session.Drained, hd, hheld] at hw
        simpa [Session.Drained, ByteArray.append_assoc] using hw
    · have hpipe : Channel.output s ≠ .output t := fun h => hst (Channel.output.inj h)
      have hheld := congrArg Pipe.held (Function.update_of_ne hpipe p w.pipe)
      obtain ⟨_, -, ⟨rfl, -⟩ | ⟨_, rfl, -⟩⟩ := drainFrom?_cases hm h <;>
        exact hw.frame (drain_setDrain_ne _ _ hst) rfl hheld hends hfaults
  | reap => exact hw.frame (drain_reaped _ _ _) rfl rfl hends hfaults
  | clean _ h =>
    obtain ⟨-, hdrain, hpipe, hwritten, -⟩ := Session.perform_frame h
    exact hw.frame (hdrain s) (congrFun hwritten s) (by simp only [hpipe]) hends hfaults
  | feedFault => exact hw.frame (drain_withFeed _ _ _) rfl rfl hends hfaults
  | @drainFault t e running reading =>
    by_cases hst : s = t
    · subst hst
      cases hd : w.exchange.drain s with
      | ended r => rw [hd] at reading; cases reading
      | reading sofar => simp [Session.Drained, Drain.failed]
    · exact hw.frame (drain_setDrain_ne _ _ hst) rfl rfl hends hfaults
  | member living h =>
    rcases Session.serve_cases h with rfl | ⟨_, _, _, _, _, rfl⟩ | ⟨t, data, n, p, hmem, hwr, rfl⟩
    · exact hw.frame rfl rfl rfl hends hfaults
    · exact hw.frame rfl rfl rfl hends hfaults
    · by_cases hst : s = t
      · subst hst
        have hwrites := Session.childHolds_of_mem living hmem
        obtain ⟨hheld, -⟩ := Pipe.write_accepted hwr
        unfold Session.Drained at hw ⊢
        split <;> rename_i hd <;> simp only [hd] at hw
        · simp [hw, hheld, ByteArray.append_assoc]
        · rw [hw.2] at hwrites; cases hwrites
        · exact hw
      · have hpipe : Channel.output s ≠ .output t := fun h => hst (Channel.output.inj h)
        exact hw.frame rfl (Function.update_of_ne hst _ _)
          (congrArg Pipe.held (Function.update_of_ne hpipe p w.pipe)) hends hfaults
  | _ => exact hw.frame rfl rfl rfl hends hfaults

theorem Reachable.drained (h : Reachable i w) (s : Stream) : w.Drained s := by
  induction h with
  | start capacity hc first => cases s <;> rfl
  | step _ h ih => exact h.drained s ih

/-! ## The end -/

/-- The status is that of the child, and stands only once it is dead. -/
def Session.Waited (w : Session) : Prop :=
  ∀ status, w.exchange.status = some status →
    ∃ word, w.child? = some (.dead word) ∧ status = .ofWord word

/-- Waiting for the child is all that sets the status. -/
theorem Step.status_cases (h : Step i w l v) :
    v.exchange.status = w.exchange.status ∨
      ∃ word, w.child? = some (.dead word) ∧
        v.exchange.status = some (w.exchange.status.getD (.ofWord word)) := by
  cases h with
  | feed _ _ h =>
    obtain ⟨_, -, ⟨rfl, -⟩ | ⟨_, _, -, rfl, -⟩⟩ := feedInto?_cases h <;> exact .inl rfl
  | drain _ hm h =>
    obtain ⟨_, -, ⟨rfl, -⟩ | ⟨_, rfl, -⟩⟩ := drainFrom?_cases hm h <;>
      exact .inl (status_setDrain _ _ _)
  | reap _ _ h => exact .inr ⟨_, h, rfl⟩
  | @clean a _ _ u _ h =>
    cases a with
    | killGroup => cases h; exact .inl rfl
    | killChild => cases h; exact .inl rfl
    | reap =>
      simp only [Session.perform] at h
      split at h
      · cases h; exact .inr ⟨_, ‹_›, rfl⟩
      · cases h
  | drainFault => exact .inl (status_setDrain _ _ _)
  | member _ h => exact .inl (congrArg Exchange.status (Session.serve_frame h).1)
  | _ => exact .inl rfl

theorem Step.waited (h : Step i w l v) (hw : w.Waited) : v.Waited := by
  intro status hv
  rcases h.status_cases with hsame | ⟨word, hd, hset⟩
  · obtain ⟨word, hd, hstatus⟩ := hw status (hsame ▸ hv)
    exact ⟨word, h.dead_stays hd, hstatus⟩
  · refine ⟨word, h.dead_stays hd, ?_⟩
    rw [hset] at hv
    cases hs : w.exchange.status with
    | none => simpa [hs] using hv.symm
    | some old =>
      obtain ⟨word', hd', hold⟩ := hw old hs
      rw [hd] at hd'
      cases hd'
      rw [hs] at hv
      exact (Option.some.inj hv).symm.trans hold

theorem Reachable.waited (h : Reachable i w) : w.Waited := by
  induction h with
  | start capacity hc first => intro status h; cases h
  | step _ h ih => exact h.waited ih

/-- A run gives up only for a limit, and else returns the result of its parts. -/
def Session.Settled (w : Session) (i : Invocation) : Prop :=
  match w.phase with
  | .exchanging => True
  | .cleaning _ _ => i.limit.isSome = true
  | .returned (.timedOut _) => i.limit.isSome = true
  | .returned (.finished output) => w.exchange.result? = some (.ok output)
  | .returned (.failed fault) => w.exchange.result? = some (.error fault)
  | .returned (.notStarted _) => False

theorem Step.settled (h : Step i w l v) (hw : w.Settled i) : v.Settled i := by
  cases h with
  | feed running => simp [Session.Settled, running]
  | drain running => simp [Session.Settled, running]
  | reap running => simp [Session.Settled, running]
  | @finish r running h => cases r <;> exact h
  | expire running limited h => exact limited
  | clean cleaning h =>
    simp only [Session.Settled, cleaning] at hw
    exact hw
  | giveUp cleaning =>
    simp only [Session.Settled, cleaning] at hw
    exact hw
  | feedFault running => simp [Session.Settled, running]
  | drainFault running => simp [Session.Settled, running]
  | member living h =>
    obtain ⟨hexchange, hphase, -⟩ := Session.serve_frame h
    simp only [Session.Settled, hexchange, hphase]
    exact hw
  | strike => exact hw

theorem Reachable.settled (h : Reachable i w) : w.Settled i := by
  induction h with
  | start capacity hc first => trivial
  | step _ h ih => exact h.settled ih

/-! ## The whole -/

/-- The fault of a part is one that a pipe has had. -/
theorem Reachable.fault_mem (h : Reachable i w) {fault : IoError}
    (hr : w.exchange.result? = some (.error fault)) : fault ∈ w.faults := by
  rcases result?_eq_error hr with hf | ⟨s, hd⟩
  · obtain ⟨rest, -, hleft⟩ := h.fed
    simpa only [hf] using hleft
  · have hdrained := h.drained s
    simpa only [Session.Drained, hd] using hdrained

/-- **Stream integrity.** Once a run has returned, in that state and in all that come after:

* if it returned an output, that has all the bytes that were ever written to either stream, each in
  its place, and the status of the child, whichever that is; of the input a leading part was read,
  and the whole of it if any process read to its end;
* if it returned an error, that is a fault of a pipe, or the limit that was set.

A child that lets go of its input is not among the faults (`Step.feedFault`). -/
theorem run_delivers_streams {outcome : Outcome} (h : Reachable i w)
    (returned : w.phase = .returned outcome) :
    match i.answer outcome with
    | .ok output =>
      output.stdout = w.written .out ∧ output.stderr = w.written .err ∧
        (∃ rest, w.taken ++ rest = i.input) ∧ (w.sawEnd = true → w.taken = i.input) ∧
        ∃ word, w.child? = some (.dead word) ∧ output.status = .ofWord word
    | .error e =>
      (∃ fault ∈ w.faults, e = .io i.program.display fault) ∨
        ∃ limit, i.limit = some limit ∧ e = .timeout i.program.display limit := by
  have hsettled := h.settled
  simp only [Session.Settled, returned] at hsettled
  cases outcome with
  | notStarted fault => exact hsettled.elim
  | failed fault => exact .inl ⟨fault, h.fault_mem hsettled, rfl⟩
  | timedOut reaped =>
    obtain ⟨limit, hlimit⟩ := Option.isSome_iff_exists.mp hsettled
    exact .inr ⟨limit, hlimit, by rw [hlimit]; rfl⟩
  | finished output =>
    obtain ⟨hfeed, hout, herr, hstatus⟩ := result?_eq_ok hsettled
    obtain ⟨rest, hrest, -⟩ := h.fed
    have hstdout := h.drained .out
    have hstderr := h.drained .err
    simp only [Session.Drained, drain, hout] at hstdout
    simp only [Session.Drained, drain, herr] at hstderr
    refine ⟨hstdout.1.symm, hstderr.1.symm, ⟨(w.pipe .input).held ++ rest, ?_⟩, h.heard.2 hfeed,
      h.waited _ hstatus⟩
    rw [← ByteArray.append_assoc, hrest]

/-- A run of a child that writes, reads nothing and exits with code 1. -/
theorem unread_input_run : ∃ (i : Invocation) (w : Session) (output : Output),
    Reachable i w ∧ w.phase = .returned (.finished output) ∧ w.taken ≠ i.input ∧
      output.stdout = ⟨#[7]⟩ ∧ output.status = .ofWord 0x100 := by
  let i : Invocation := { program := ⟨[]⟩, input := ⟨#[1, 2]⟩ }
  let start := Session.start i (fun _ => 1) (.write .out ⟨#[7]⟩)
  let wrote : Session := { start with
    pipe := Function.update start.pipe (.output .out) { capacity := 1, held := ⟨#[7]⟩ }
    written := Function.update start.written .out ⟨#[7]⟩ }
  let exiting : Session := { wrote with
    members := [.alive [.input, .output .out, .output .err] true (.exit 0x100)] }
  let died : Session := { wrote with members := [.dead 0x100] }
  let fed : Session := { died with exchange := { feed := .closed (.ok ()) } }
  let drained : Session := { fed with
    exchange := { fed.exchange with out := .reading ⟨#[7]⟩ }
    pipe := Function.update fed.pipe (.output .out) { capacity := 1 } }
  have hwrote : start.serve [.input, .output .out, .output .err] (.write .out ⟨#[7]⟩)
      = some wrote := rfl
  have hfed : died.exchange.feedInto? (died.pipe .input) (died.childHolds .input) 1
      = some (fed.exchange, died.pipe .input) := rfl
  have hdrained : fed.exchange.drainFrom? .out (fed.pipe (.output .out))
      (fed.childHolds (.output .out)) 1 = some (drained.exchange, { capacity := 1 }) := rfl
  have h := Reachable.start (i := i) (fun _ => 1) (fun _ => Nat.one_pos) (.write .out ⟨#[7]⟩)
  have h : Reachable i exiting := h.step (@Step.member i start 0 _ _ _ (.exit 0x100) _ rfl hwrote)
  have h : Reachable i died := h.step (@Step.member i exiting 0 _ _ _ .compute exiting rfl rfl)
  have h := h.step (@Step.feed i died 1 _ _ rfl Nat.one_pos hfed)
  rw [Function.update_eq_self] at h
  have h : Reachable i drained := h.step (@Step.drain i fed .out 1 _ _ rfl Nat.one_pos hdrained)
  have h := h.step (@Step.drain i drained .out 1 _ _ rfl Nat.one_pos rfl)
  have h := h.step (@Step.drain i _ .err 1 _ _ rfl Nat.one_pos rfl)
  have h := h.step (@Step.reap i _ _ rfl rfl rfl)
  have h := h.step (@Step.finish i _ _ rfl rfl)
  exact ⟨i, _, _, h, rfl, by decide, rfl, rfl⟩

/-- A run of a child that reads its input to the end and exits with code 0. -/
theorem read_input_run : ∃ (i : Invocation) (w : Session) (output : Output),
    Reachable i w ∧ w.phase = .returned (.finished output) ∧ i.input = ⟨#[5]⟩ ∧
      w.sawEnd = true := by
  let i : Invocation := { program := ⟨[]⟩, input := ⟨#[5]⟩ }
  let start := Session.start i (fun _ => 1) (.read 1)
  let filled : Pipe := { capacity := 1, held := ⟨#[5]⟩ }
  let fed : Session := { start with
    exchange := { feed := .writing ⟨#[]⟩ }, pipe := Function.update start.pipe .input filled }
  let taken : Session := { fed with
    pipe := Function.update fed.pipe .input { capacity := 1 }, taken := ⟨#[5]⟩ }
  let closed : Session := { taken with exchange := { feed := .closed (.ok ()) } }
  let read : Session := { closed with
    members := [.alive [.input, .output .out, .output .err] true (.exit 0)], sawEnd := true }
  have hfed : start.exchange.feedInto? (start.pipe .input) (start.childHolds .input) 1
      = some (fed.exchange, filled) := by
    show (Exchange.start ⟨#[5]⟩).feedInto? { capacity := 1 } true 1 = _
    rfl
  have htaken : fed.serve [.input, .output .out, .output .err] (.read 1) = some taken := rfl
  have hclosed : taken.exchange.feedInto? (taken.pipe .input) (taken.childHolds .input) 1
      = some (closed.exchange, taken.pipe .input) := rfl
  have hread : closed.serve [.input, .output .out, .output .err] (.read 1) = some { closed with
      pipe := Function.update closed.pipe .input (closed.pipe .input), sawEnd := true } := rfl
  have h := Reachable.start (i := i) (fun _ => 1) (fun _ => Nat.one_pos) (.read 1)
  have h : Reachable i fed := h.step (@Step.feed i start 1 _ _ rfl Nat.one_pos hfed)
  have h : Reachable i taken := h.step (@Step.member i fed 0 _ _ _ (.read 1) _ rfl htaken)
  have h := h.step (@Step.feed i taken 1 _ _ rfl Nat.one_pos hclosed)
  rw [Function.update_eq_self] at h
  have h := h.step (@Step.member i closed 0 _ _ _ (.exit 0) _ rfl hread)
  rw [Function.update_eq_self] at h
  have h := h.step (@Step.member i read 0 _ _ _ .compute read rfl rfl)
  have h := h.step (@Step.drain i _ .out 1 _ _ rfl Nat.one_pos rfl)
  have h := h.step (@Step.drain i _ .err 1 _ _ rfl Nat.one_pos rfl)
  have h := h.step (@Step.reap i _ _ rfl rfl rfl)
  have h := h.step (@Step.finish i _ _ rfl rfl)
  exact ⟨i, _, _, h, rfl, rfl, rfl⟩

/-- What a child writes is delivered whether it reads its input or not; of an input that was read to
its end every byte was read. -/
theorem delivers_read_or_unread :
    (∃ (i : Invocation) (w : Session) (output : Output), Reachable i w ∧
      w.phase = .returned (.finished output) ∧ w.taken ≠ i.input ∧ output.stdout = w.written .out ∧
      output.stdout = ⟨#[7]⟩ ∧ output.status = .ofWord 0x100) ∧
    ∃ (i : Invocation) (w : Session) (output : Output), Reachable i w ∧
      w.phase = .returned (.finished output) ∧ w.sawEnd = true ∧ w.taken = i.input ∧
        i.input = ⟨#[5]⟩ := by
  constructor
  · obtain ⟨i, w, output, h, returned, hunread, hstdout, hstatus⟩ := unread_input_run
    obtain ⟨hout, -⟩ := run_delivers_streams h returned
    exact ⟨i, w, output, h, returned, hunread, hout, hstdout, hstatus⟩
  · obtain ⟨i, w, output, h, returned, hinput, hend⟩ := read_input_run
    obtain ⟨-, -, -, htaken, -⟩ := run_delivers_streams h returned
    exact ⟨i, w, output, h, returned, hend, htaken hend, hinput⟩

end ModuleForge.Exchange
