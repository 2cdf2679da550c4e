import ModuleForge.Proofs.Exchange.Integrity

/-!
# Cleaning up after the limit

What the parent does to a child that has run into its limit, over all runs:

* what was done and what is left to do are always the whole list, which is empty when the child had
  been waited for by the deadline (`Session.Accounted`). So a signal is only ever sent to a child
  that has not been waited for, whose number is still its own, and the group is killed once at most
  (`run_reaps_child`);
* once the group was killed, no process lives in it (`Session.Stricken`). A timeout says as much
  only of a child that lived until the deadline, or at least had not been waited for
  (`timeout_kills_group_iff`): the processes that an earlier one has left behind go on
  (`timeout_spares_group_of_reaped`).
-/
namespace ModuleForge.Exchange

variable {i : Invocation} {w v : Session} {l : Label}

/-! ## What is done, and when -/

/-- All there is to do for a child that has, or has not, been waited for by the deadline. -/
def cleanupOf (reaped : Bool) : List Cleanup :=
  if reaped then [] else [.killGroup, .killChild, .reap]

theorem cleanup_eq (x : Exchange) : x.cleanup = cleanupOf x.status.isSome := rfl

/-- Waiting for the child is the last thing to do. -/
theorem eq_nil_of_cleanupOf {done todo : List Cleanup} {reaped : Bool}
    (h : done ++ .reap :: todo = cleanupOf reaped) : todo = [] := by
  cases reaped with
  | true => simp [cleanupOf] at h
  | false => rcases done with _ | ⟨a, _ | ⟨b, _ | ⟨c, rest⟩⟩⟩ <;> simp_all [cleanupOf]

/-- What was done and what is left are all there is to do; the child has still to be waited for as
long as that is left; and nothing was done in a run that did not give up, each of whose parts is
finished. -/
def Session.Accounted (w : Session) : Prop :=
  match w.phase with
  | .exchanging => w.cleaned = []
  | .cleaning todo reaped =>
    w.cleaned ++ todo = cleanupOf reaped ∧ (w.exchange.status = none ↔ .reap ∈ todo)
  | .returned (.timedOut reaped) => w.cleaned = cleanupOf reaped ∧ w.exchange.status.isSome = true
  | .returned _ =>
    w.cleaned = [] ∧ w.exchange.status.isSome = true ∧ w.exchange.feed.isClosed = true ∧
      ∀ s, (w.exchange.drain s).isEnded = true

/-- A result needs all four parts. -/
theorem finished_of_result {x : Exchange} {r : Except IoError Output} (h : x.result? = some r) :
    x.status.isSome = true ∧ x.feed.isClosed = true ∧ ∀ s, (x.drain s).isEnded = true := by
  unfold result? at h
  split at h
  · rename_i fed out err status hf ho he hs
    refine ⟨by simp [hs], by simp [hf, Feed.isClosed], fun s => ?_⟩
    cases s <;> simp [drain, ho, he, Drain.isEnded]
  · cases h

theorem Session.perform_status {a : Cleanup} (h : w.perform a = some v) :
    v.exchange.status = none ↔ w.exchange.status = none ∧ a ≠ .reap := by
  cases a with
  | killGroup => cases h; simp
  | killChild => cases h; simp
  | reap =>
    simp only [perform] at h
    split at h
    · cases h; simp [reaped]
    · cases h

theorem Step.accounted (h : Step i w l v) (hw : w.Accounted) : v.Accounted := by
  cases h with
  | feed running | drain running | reap running | feedFault running | drainFault running =>
    simp only [Session.Accounted, running] at hw ⊢
    exact hw
  | @finish r running h =>
    simp only [Session.Accounted, running] at hw
    obtain ⟨hstatus, hfeed, hdrain⟩ := finished_of_result h
    cases r <;> exact ⟨hw, hstatus, hfeed, hdrain⟩
  | expire running limited h =>
    simp only [Session.Accounted, running] at hw
    refine ⟨by simp [hw, cleanup_eq], ?_⟩
    cases hs : w.exchange.status <;> simp [cleanup_eq, cleanupOf, hs]
  | @clean a todo reaped u cleaning h =>
    simp only [Session.Accounted, cleaning] at hw
    obtain ⟨hall, hreap⟩ := hw
    refine ⟨by simpa using hall, ?_⟩
    rw [Session.perform_status h, hreap]
    by_cases ha : a = .reap
    · subst ha
      simp [eq_nil_of_cleanupOf hall]
    · simp [ha, Ne.symm ha]
  | giveUp cleaning =>
    simp only [Session.Accounted, cleaning] at hw
    exact ⟨by simpa using hw.1, by simpa [Option.isSome_iff_ne_none] using hw.2⟩
  | member living h =>
    obtain ⟨hexchange, hphase, -, hcleaned⟩ := Session.serve_frame h
    simp only [Session.Accounted, hexchange, hphase, hcleaned]
    exact hw
  | strike => exact hw

theorem Reachable.accounted (h : Reachable i w) : w.Accounted := by
  induction h with
  | start capacity hc first => rfl
  | step _ h ih => exact h.accounted ih

/-! ## The child -/

/-- Only cleaning up adds to what was done. -/
theorem Step.cleaned_cases (h : Step i w l v) :
    v.cleaned = w.cleaned ∨
      ∃ a todo reaped, w.phase = .cleaning (a :: todo) reaped ∧ v.cleaned = w.cleaned ++ [a] := by
  cases h with
  | @clean a todo reaped u cleaning h => exact .inr ⟨a, todo, reaped, cleaning, rfl⟩
  | member _ h => exact .inl (Session.serve_frame h).2.2.2
  | _ => exact .inl rfl

/-- Something is left to do only for a child that has not been waited for. -/
theorem Session.Accounted.unreaped {a : Cleanup} {todo : List Cleanup} {reaped : Bool}
    (hw : w.Accounted) (cleaning : w.phase = .cleaning (a :: todo) reaped) :
    w.exchange.status = none ∧ reaped = false := by
  simp only [Accounted, cleaning] at hw
  obtain ⟨hall, hreap⟩ := hw
  cases reaped with
  | true => simp [cleanupOf] at hall
  | false =>
    refine ⟨hreap.mpr ?_, rfl⟩
    -- what is left ends the list, and waiting is its last entry
    have hsuffix : a :: todo <:+ [.killGroup, .killChild] ++ [.reap] := ⟨w.cleaned, hall⟩
    rcases List.suffix_concat_iff.mp hsuffix with hnil | ⟨rest, hrest, -⟩
    · cases hnil
    · simp [hrest]

/-- Where a run is in which something was done to clean up. -/
theorem Session.Accounted.limited (hw : w.Accounted) (hdone : w.cleaned ≠ []) :
    (∃ todo, w.phase = .cleaning todo false) ∨ w.phase = .returned (.timedOut false) := by
  unfold Accounted at hw
  split at hw
  · exact absurd hw hdone
  · rename_i todo reaped hp
    cases reaped with
    | true =>
      have hnone : w.cleaned = [] := (List.append_eq_nil_iff.mp hw.1).1
      exact absurd hnone hdone
    | false => exact .inl ⟨todo, hp⟩
  · rename_i reaped hp
    cases reaped with
    | true => exact absurd hw.1 hdone
    | false => exact .inr hp
  · exact absurd hw.1 hdone

theorem Session.Accounted.count_killGroup (hw : w.Accounted) :
    w.cleaned.count .killGroup ≤ 1 := by
  have hall : ∃ todo reaped, w.cleaned ++ todo = cleanupOf reaped := by
    unfold Accounted at hw
    split at hw
    · exact ⟨[], true, by simp [hw, cleanupOf]⟩
    · exact ⟨_, _, hw.1⟩
    · rename_i reaped _
      exact ⟨[], reaped, by simp [hw.1]⟩
    · exact ⟨[], true, by simp [hw.1, cleanupOf]⟩
  obtain ⟨todo, reaped, hall⟩ := hall
  have hcount := congrArg (List.count Cleanup.killGroup) hall
  rw [List.count_append] at hcount
  cases reaped <;> simp [cleanupOf] at hcount <;> omega

/-- A run that has returned has waited for its child. -/
theorem Session.Accounted.reaped {outcome : Outcome} (hw : w.Accounted)
    (returned : w.phase = .returned outcome) : w.exchange.status.isSome = true := by
  unfold Accounted at hw
  split at hw <;> simp_all

/-- **The child is waited for, and no signal is sent after that.** In every run:

* what is done to clean up is done to a child that has not been waited for, after the deadline;
* its group is killed once at most, and only in a run that has a limit and has given up;
* once the run has returned, with an output, a fault or a timeout, the child has been waited for,
  and the parent holds no end of a pipe; unless it has given up, each of its parts has finished and
  let go by itself. -/
theorem run_reaps_child (h : Reachable i w) :
    (∀ l v a, Step i w l v → v.cleaned = w.cleaned ++ [a] →
      w.exchange.status = none ∧ ∃ todo, w.phase = .cleaning (a :: todo) false) ∧
    w.cleaned.count .killGroup ≤ 1 ∧
    (.killGroup ∈ w.cleaned → i.limit.isSome = true ∧
      ((∃ todo, w.phase = .cleaning todo false) ∨ w.phase = .returned (.timedOut false))) ∧
    ∀ outcome, w.phase = .returned outcome →
      (∃ word, w.child? = some (.dead word) ∧ w.exchange.status = some (.ofWord word)) ∧
      (∀ c, w.parentHolds c = false) ∧
      ((∀ reaped, outcome ≠ .timedOut reaped) →
        w.exchange.feed.isClosed = true ∧ ∀ s, (w.exchange.drain s).isEnded = true) := by
  have hacc := h.accounted
  refine ⟨fun l v a hstep hadd => ?_, hacc.count_killGroup, fun hkilled => ?_, fun outcome hp => ?_⟩
  · rcases hstep.cleaned_cases with hsame | ⟨b, todo, reaped, cleaning, hb⟩
    · rw [hsame] at hadd; simp at hadd
    · obtain ⟨hnone, rfl⟩ := hacc.unreaped cleaning
      rw [hb] at hadd
      obtain rfl : b = a := by simpa using hadd
      exact ⟨hnone, todo, cleaning⟩
  · have hpast := hacc.limited (List.ne_nil_of_mem hkilled)
    refine ⟨?_, hpast⟩
    have hsettled := h.settled
    rcases hpast with ⟨todo, hp⟩ | hp <;> simpa only [Session.Settled, hp] using hsettled
  · refine ⟨?_, fun c => by simp [Session.parentHolds, hp], fun hresult => ?_⟩
    · obtain ⟨status, hstatus⟩ := Option.isSome_iff_exists.mp (hacc.reaped hp)
      obtain ⟨word, hd, rfl⟩ := h.waited status hstatus
      exact ⟨word, hd, hstatus⟩
    · simp only [Session.Accounted, hp] at hacc
      cases outcome with
      | timedOut reaped => exact absurd rfl (hresult reaped)
      | notStarted fault => exact hacc.2.2
      | failed fault => exact hacc.2.2
      | finished output => exact hacc.2.2

/-- A run of a child that lives on when a limit of no time passes. -/
theorem endless_child_run : ∃ (i : Invocation) (w : Session), Reachable i w ∧
    w.phase = .returned (.timedOut false) ∧ .killGroup ∈ w.cleaned := by
  let i : Invocation := { program := ⟨[]⟩, limit := some .zero }
  have h := Reachable.start (i := i) (fun _ => 1) (fun _ => Nat.one_pos) .compute
  have h := h.step (@Step.expire i _ rfl rfl rfl)
  have h := h.step (@Step.clean i _ .killGroup _ _ _ rfl rfl)
  have h := h.step (@Step.clean i _ .killChild _ _ _ rfl rfl)
  have h := h.step (@Step.clean i _ .reap _ _ _ rfl rfl)
  have h := h.step (@Step.giveUp i _ _ rfl)
  exact ⟨i, _, h, rfl, by decide⟩

/-- A run in which the pipe of an output has a fault. -/
theorem faulty_pipe_run : ∃ (i : Invocation) (w : Session), Reachable i w ∧
    w.phase = .returned (.failed (.system .badDescriptor)) := by
  let i : Invocation := { program := ⟨[]⟩ }
  have h := Reachable.start (i := i) (fun _ => 1) (fun _ => Nat.one_pos) (.exit 0)
  have h := h.step (@Step.member i _ 0 _ _ _ .compute _ rfl rfl)
  have h := h.step (@Step.feed i _ 1 _ _ rfl Nat.one_pos rfl)
  have h := h.step (@Step.drainFault i _ .out .badDescriptor rfl rfl)
  have h := h.step (@Step.drain i _ .err 1 _ _ rfl Nat.one_pos rfl)
  have h := h.step (@Step.reap i _ _ rfl rfl rfl)
  have h := h.step (@Step.finish i _ _ rfl rfl)
  exact ⟨i, _, h, rfl⟩

/-- A child that has been waited for, by a parent that holds nothing of it any more. -/
def Session.Reaped (w : Session) : Prop :=
  (∃ word, w.child? = some (.dead word) ∧ w.exchange.status = some (.ofWord word)) ∧
    ∀ c, w.parentHolds c = false

/-- Each way to return waits for the child: a child that lives on at the limit is killed with its
group first, and where there is an output or a fault all parts have let go by themselves. -/
theorem each_outcome_reaped :
    (∃ (i : Invocation) (w : Session), Reachable i w ∧ w.phase = .returned (.timedOut false) ∧
      .killGroup ∈ w.cleaned ∧ w.cleaned.count .killGroup ≤ 1 ∧ w.Reaped) ∧
    (∃ (i : Invocation) (w : Session) (output : Output), Reachable i w ∧
      w.phase = .returned (.finished output) ∧ w.Reaped ∧
      w.exchange.feed.isClosed = true ∧ ∀ s, (w.exchange.drain s).isEnded = true) ∧
    ∃ (i : Invocation) (w : Session), Reachable i w ∧
      w.phase = .returned (.failed (.system .badDescriptor)) ∧ w.Reaped ∧
      w.exchange.feed.isClosed = true ∧ ∀ s, (w.exchange.drain s).isEnded = true := by
  refine ⟨?_, ?_, ?_⟩
  · obtain ⟨i, w, h, returned, hkilled⟩ := endless_child_run
    obtain ⟨-, hcount, -, hend⟩ := run_reaps_child h
    obtain ⟨hdead, hends, -⟩ := hend _ returned
    exact ⟨i, w, h, returned, hkilled, hcount, hdead, hends⟩
  · obtain ⟨i, w, output, h, returned, -⟩ := read_input_run
    obtain ⟨-, -, -, hend⟩ := run_reaps_child h
    obtain ⟨hdead, hends, hparts⟩ := hend _ returned
    exact ⟨i, w, output, h, returned, ⟨hdead, hends⟩, hparts nofun⟩
  · obtain ⟨i, w, h, returned⟩ := faulty_pipe_run
    obtain ⟨-, -, -, hend⟩ := run_reaps_child h
    obtain ⟨hdead, hends, hparts⟩ := hend _ returned
    exact ⟨i, w, h, returned, ⟨hdead, hends⟩, hparts nofun⟩

/-! ## The group -/

/-- Once the group was killed, no process lives in it. -/
def Session.Stricken (w : Session) : Prop :=
  .killGroup ∈ w.cleaned → ∀ m ∈ w.members, m.inGroup = false

theorem Member.inGroup_kill (m : Member) : m.kill.inGroup = false := by cases m <;> rfl

/-- A process that goes on, and one that it starts, live in the group only if it did. -/
theorem Member.inGroup_after {ends : List Channel} {grouped : Bool} {request next : Request}
    {m : Member}
    (hm : m = .after ends grouped next request ∨ m ∈ Member.offspring ends grouped request)
    (h : m.inGroup = true) : grouped = true := by
  rcases hm with rfl | hm
  · cases request <;> simp_all [after, inGroup]
  · cases request <;> simp_all [offspring, inGroup]

theorem Step.stricken (h : Step i w l v) (hw : w.Stricken) : v.Stricken := by
  intro hkilled m hm
  cases h with
  | @clean a todo reaped u cleaning h =>
    by_cases ha : a = .killGroup
    · subst ha
      cases h
      obtain ⟨n, -, rfl⟩ := List.mem_map.mp hm
      split
      · exact Member.inGroup_kill n
      · rwa [← Bool.not_eq_true]
    · have hold : Cleanup.killGroup ∈ w.cleaned := by
        rcases List.mem_append.mp hkilled with hold | hnew
        · exact hold
        · exact absurd (List.mem_singleton.mp hnew).symm ha
      obtain ⟨j, hj⟩ := List.mem_iff_getElem?.mp hm
      obtain ⟨n, hn, rfl | rfl⟩ := (Session.perform_members h).2 j m hj
      · exact hw hold m (List.mem_of_getElem? hn)
      · exact Member.inGroup_kill n
  | @member k ends grouped request next u living h =>
    have hold := hw ((Session.serve_frame h).2.2.2 ▸ hkilled)
    have hk : grouped = false := hold _ (List.mem_of_getElem? living)
    have hnone (hm : m = .after ends grouped next request ∨
        m ∈ Member.offspring ends grouped request) : m.inGroup = false := by
      rw [← Bool.not_eq_true]
      intro hin
      rw [Member.inGroup_after hm hin] at hk
      cases hk
    rcases List.mem_append.mp hm with hm | hm
    · rcases List.mem_or_eq_of_mem_set hm with hm | hm
      · exact hold m hm
      · exact hnone (.inl hm)
    · exact hnone (.inr hm)
  | strike living =>
    rcases List.mem_or_eq_of_mem_set hm with hm | rfl
    · exact hw hkilled m hm
    · rfl
  | _ => exact hw hkilled m hm

theorem Reachable.stricken (h : Reachable i w) : w.Stricken := by
  induction h with
  | start capacity hc first => intro hkilled; cases hkilled
  | step _ h ih => exact h.stricken ih

/-- **A timeout kills the group of a child that had not been waited for by the deadline**, and then
no process lives in it; of a child that had been waited for it kills nothing. -/
theorem timeout_kills_group_iff {reaped : Bool} (h : Reachable i w)
    (returned : w.phase = .returned (.timedOut reaped)) :
    (.killGroup ∈ w.cleaned ↔ reaped = false) ∧
      (reaped = false → ∀ m ∈ w.members, m.inGroup = false) ∧ (reaped = true → w.cleaned = []) := by
  have hacc := h.accounted
  simp only [Session.Accounted, returned] at hacc
  cases reaped with
  | true => simp [hacc.1, cleanupOf]
  | false =>
    have hkilled : Cleanup.killGroup ∈ w.cleaned := by simp [hacc.1, cleanupOf]
    exact ⟨by simp [hkilled], fun _ => h.stricken hkilled, by simp⟩

/-- A child that has died by the deadline without having been waited for, and one that it has
started. -/
theorem timeout_kills_group_of_zombie : ∃ (i : Invocation) (w : Session), Reachable i w ∧
    w.phase = .returned (.timedOut false) ∧ w.members.length = 2 ∧
      ∀ m ∈ w.members, m.inGroup = false := by
  let i : Invocation := { program := ⟨[]⟩, limit := some .zero }
  have h := Reachable.start (i := i) (fun _ => 1) (fun _ => Nat.one_pos) (.fork .compute)
  have h := h.step (@Step.member i _ 0 _ _ _ (.exit 0) _ rfl rfl)
  have h := h.step (@Step.member i _ 0 _ _ _ .compute _ rfl rfl)
  have h := h.step (@Step.expire i _ rfl rfl rfl)
  have h := h.step (@Step.clean i _ .killGroup _ _ _ rfl rfl)
  have h := h.step (@Step.clean i _ .killChild _ _ _ rfl rfl)
  have h := h.step (@Step.clean i _ .reap _ _ _ rfl rfl)
  have h := h.step (@Step.giveUp i _ _ rfl)
  exact ⟨i, _, h, rfl, rfl, (timeout_kills_group_iff h rfl).2.1 rfl⟩

/-- A process that a child has left behind in its group lives on after a timeout: the child was
waited for at once, and the process keeps the outputs open until the deadline. -/
theorem timeout_spares_group_of_reaped : ∃ (i : Invocation) (w : Session), Reachable i w ∧
    w.phase = .returned (.timedOut true) ∧
      i.answer (.timedOut true) = .error (.timeout i.program.display .zero) ∧ w.cleaned = [] ∧
      ∃ ends request, w.members[1]? = some (.alive ends true request) := by
  let i : Invocation := { program := ⟨[]⟩, limit := some .zero }
  have h := Reachable.start (i := i) (fun _ => 1) (fun _ => Nat.one_pos) (.fork .compute)
  have h := h.step (@Step.member i _ 0 _ _ _ (.exit 0) _ rfl rfl)
  have h := h.step (@Step.member i _ 0 _ _ _ .compute _ rfl rfl)
  have h := h.step (@Step.reap i _ _ rfl rfl rfl)
  have h := h.step (@Step.expire i _ rfl rfl rfl)
  have h := h.step (@Step.giveUp i _ _ rfl)
  exact ⟨i, _, h, rfl, rfl, rfl, _, _, rfl⟩

end ModuleForge.Exchange
