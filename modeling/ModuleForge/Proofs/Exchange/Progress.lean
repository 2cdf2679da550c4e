import ModuleForge.Proofs.Exchange.Session

/-!
# No deadlock

A parent that has not returned can move, or a process can (`no_deadlock`). The parent waits to feed
only while the input pipe is full, and to drain only while an output pipe is empty; so while it
waits for both, no process can be waiting for it. That pipes have room at all is kept by every move
(`Reachable.capacity_pos`), and cleaning up never waits for a child that still lives
(`Reachable.cleaning`).
-/
namespace ModuleForge.Exchange

variable {i : Invocation} {w v : Session} {l : Label}

/-! ## What every state keeps -/

theorem Session.capacity_update {c : Channel} {p : Pipe} (h : p.capacity = (w.pipe c).capacity)
    (hw : ∀ d, 0 < (w.pipe d).capacity) (d : Channel) :
    0 < (Function.update w.pipe c p d).capacity := by
  by_cases hd : d = c
  · subst hd; rw [Function.update_self, h]; exact hw d
  · rw [Function.update_of_ne hd]; exact hw d

theorem Step.capacity_pos (h : Step i w l v) (hw : ∀ c, 0 < (w.pipe c).capacity) :
    ∀ c, 0 < (v.pipe c).capacity := by
  cases h with
  | feed _ _ h =>
    obtain ⟨_, _, ⟨-, rfl, -⟩ | ⟨_, _, -, -, -, hc⟩⟩ := feedInto?_cases h
    · exact Session.capacity_update rfl hw
    · exact Session.capacity_update hc hw
  | drain _ hm h =>
    obtain ⟨_, _, ⟨-, rfl, -⟩ | ⟨_, -, -, hc⟩⟩ := drainFrom?_cases hm h
    · exact Session.capacity_update rfl hw
    · exact Session.capacity_update hc hw
  | clean _ h =>
    obtain ⟨-, -, hp, -⟩ := Session.perform_frame h
    simpa only [hp] using hw
  | member _ h =>
    rcases Session.serve_cases h with rfl | ⟨_, _, _, _, hr, rfl⟩ | ⟨_, _, _, _, _, hwr, rfl⟩
    · exact hw
    · exact Session.capacity_update (Pipe.read_taken hr).2.1 hw
    · exact Session.capacity_update (Pipe.write_accepted hwr).2.1 hw
  | _ => exact hw

theorem Reachable.capacity_pos (h : Reachable i w) : ∀ c, 0 < (w.pipe c).capacity := by
  induction h with
  | start capacity hc first => exact hc
  | step _ h ih => exact h.capacity_pos ih

/-- What is left to do is the end of the whole list, and the child is dead when it is to be waited
for. -/
def Session.Cleaning (w : Session) : Prop :=
  ∀ todo reaped, w.phase = .cleaning todo reaped →
    todo <:+ [.killGroup, .killChild, .reap] ∧
      (todo.head? = some .reap → ∃ word, w.child? = some (.dead word))

theorem Session.perform_killChild (h : w.perform .killChild = some v)
    (hw : ∃ m, w.child? = some m) :
    ∃ word, v.child? = some (.dead word) := by
  cases h
  obtain ⟨m, hm⟩ := hw
  simp only [child?] at hm ⊢
  cases m <;> simp [hm, Member.kill]

theorem Step.cleaning (h : Step i w l v) (hw : w.Cleaning) (hchild : ∃ m, w.child? = some m) :
    v.Cleaning := by
  intro todo reaped hv
  cases h with
  | expire running limited h =>
    cases hv
    unfold cleanup
    split
    · exact ⟨List.nil_suffix, fun h => by cases h⟩
    · exact ⟨List.suffix_refl _, fun h => by cases h⟩
  | @clean a _ _ u cleaning h =>
    cases hv
    obtain ⟨hsuf, -⟩ := hw _ _ cleaning
    refine ⟨(List.suffix_cons a todo).trans hsuf, fun hhead => ?_⟩
    -- only killing the child stands right before waiting for it
    have ha : a = .killChild := by
      cases todo with
      | nil => cases hhead
      | cons b rest =>
        cases hhead
        simp only [List.suffix_cons_iff, List.suffix_nil, List.cons.injEq] at hsuf
        simp_all
    subst ha
    obtain ⟨word, hd⟩ := Session.perform_killChild h hchild
    exact ⟨word, hd⟩
  | @member k ends grouped request next u living h =>
    obtain ⟨-, hphase, -⟩ := Session.serve_frame h
    have hstep := @Step.member i w k ends grouped request next u living h
    obtain ⟨hsuf, hdead⟩ := hw todo reaped (hphase ▸ hv)
    exact ⟨hsuf, fun hhead => (hdead hhead).imp fun word hd => hstep.dead_stays hd⟩
  | @strike k ends grouped request word living =>
    have hstep := @Step.strike i w k ends grouped request word living
    obtain ⟨hsuf, hdead⟩ := hw todo reaped hv
    exact ⟨hsuf, fun hhead => (hdead hhead).imp fun word hd => hstep.dead_stays hd⟩
  | finish => cases hv
  | giveUp => cases hv
  | _ => exact hw todo reaped hv

theorem Reachable.cleaning (h : Reachable i w) : w.Cleaning := by
  induction h with
  | start capacity hc first => intro todo reaped hv; cases hv
  | step hr h ih => exact h.cleaning ih hr.child

/-! ## Who can move -/

/-- Whether process `k` is alive. -/
def Session.Lives (w : Session) (k : Nat) : Prop :=
  ∃ ends grouped request, w.members[k]? = some (.alive ends grouped request)

/-- Whoever holds an end of a pipe lives. -/
theorem Session.lives_of_childHolds {c : Channel} (h : w.childHolds c = true) : ∃ k, w.Lives k := by
  simp only [childHolds, List.any_eq_true] at h
  obtain ⟨m, hm, hc⟩ := h
  obtain ⟨k, hk⟩ := List.mem_iff_getElem?.mp hm
  cases m with
  | alive ends grouped request => exact ⟨k, ends, grouped, request, hk⟩
  | dead word => cases hc

/-- Cleaning up can always go on. -/
theorem Reachable.cleaning_moves (h : Reachable i w) {todo : List Cleanup} {reaped : Bool}
    (hp : w.phase = .cleaning todo reaped) : ∃ v, Step i w .parent v := by
  cases todo with
  | nil => exact ⟨_, .giveUp hp⟩
  | cons a rest =>
    have hperform : ∃ v, w.perform a = some v := by
      cases a with
      | killGroup => exact ⟨_, rfl⟩
      | killChild => exact ⟨_, rfl⟩
      | reap =>
        obtain ⟨word, hd⟩ := (h.cleaning _ _ hp).2 rfl
        exact ⟨{ w with exchange := w.exchange.reaped (.ofWord word) },
          by simp [Session.perform, hd]⟩
    obtain ⟨v, hv⟩ := hperform
    exact ⟨_, .clean hp hv⟩

/-- While the parent can neither feed nor drain, every request can be answered. -/
theorem Session.serve_isSome (hp : w.phase = .exchanging) (hc : ∀ c, 0 < (w.pipe c).capacity)
    (hfeed : w.exchange.feed.isClosed = true ∨ (w.pipe .input).room = 0)
    (hdrain : ∀ s, (w.exchange.drain s).isEnded = true ∨
      (w.pipe (.output s)).held = ByteArray.empty)
    (ends : List Channel) (request : Request) : ∃ v, w.serve ends request = some v := by
  rw [← Option.ne_none_iff_exists']
  intro hnone
  cases request with
  | read most =>
    simp only [serve] at hnone
    split at hnone
    · split at hnone
      · rename_i hwait
        obtain ⟨hparent, hempty⟩ := Pipe.read_waits hwait
        simp only [parentHolds, hp, Bool.not_eq_true'] at hparent
        have hroom := Pipe.room_pos (hc .input) hempty
        rcases hfeed with hclosed | hfull
        · rw [hparent] at hclosed; cases hclosed
        · omega
      · cases hnone
    · cases hnone
  | write s data =>
    simp only [serve] at hnone
    split at hnone
    · split at hnone
      · cases hnone
      · rename_i hwait
        obtain ⟨hparent, hfull⟩ := Pipe.write_waits hwait
        simp only [parentHolds, hp, Bool.not_eq_true'] at hparent
        rcases hdrain s with hended | hempty
        · rw [hparent] at hended; cases hended
        · have := Pipe.room_pos (hc (.output s)) hempty
          omega
      · cases hnone
    · cases hnone
  | close c => cases hnone
  | compute => cases hnone
  | fork first => cases hnone
  | leaveGroup => cases hnone
  | exit word => cases hnone

/-- **No deadlock.** Until the parent returns, it can move, or every process that lives can,
whatever it goes on with, and one does live. That is the child itself, unless the child has been
waited for and the parent awaits the ends that the processes it has left hold. -/
theorem no_deadlock (h : Reachable i w) (running : ∀ o, w.phase ≠ .returned o) :
    (∃ v, Step i w .parent v) ∨
      ((∀ k, w.Lives k → ∀ next, ∃ v, Step i w (.member k next) v) ∧
        (w.Lives 0 ∨ w.exchange.status.isSome = true ∧ ∃ k, w.Lives k)) := by
  cases hp : w.phase with
  | returned o => exact absurd hp (running o)
  | cleaning todo reaped => exact .inl (h.cleaning_moves hp)
  | exchanging =>
    by_cases hparent : ∃ v, Step i w .parent v
    · exact .inl hparent
    right
    have hfeed : w.exchange.feed.isClosed = true ∨
        (w.childHolds .input = true ∧ (w.pipe .input).room = 0) :=
      feedInto?_none (Option.eq_none_iff_forall_ne_some.mpr fun ⟨x, p⟩ hx =>
        hparent ⟨_, .feed hp Nat.one_pos hx⟩)
    have hdrain (s : Stream) : (w.exchange.drain s).isEnded = true ∨
        (w.childHolds (.output s) = true ∧ (w.pipe (.output s)).held = ByteArray.empty) :=
      drainFrom?_none (Option.eq_none_iff_forall_ne_some.mpr fun ⟨x, p⟩ hx =>
        hparent ⟨_, .drain hp Nat.one_pos hx⟩)
    have hresult : w.exchange.result? = none :=
      Option.eq_none_iff_forall_ne_some.mpr fun r hr => hparent ⟨_, .finish hp hr⟩
    refine ⟨fun k ⟨ends, grouped, request, hk⟩ next => ?_, ?_⟩
    · obtain ⟨v, hv⟩ := Session.serve_isSome hp h.capacity_pos (hfeed.imp_right And.right)
        (fun s => (hdrain s).imp_right And.right) ends request
      exact ⟨_, .member hk hv⟩
    · cases hs : w.exchange.status with
      | none =>
        -- a dead child would be waited for
        obtain ⟨m, hm⟩ := h.child
        cases m with
        | alive ends grouped request => exact .inl ⟨ends, grouped, request, hm⟩
        | dead word => exact absurd ⟨_, .reap hp hs hm⟩ hparent
      | some status =>
        right
        refine ⟨rfl, ?_⟩
        rcases result?_eq_none hresult with hopen | ⟨s, hopen⟩ | hnone
        · rcases hfeed with hclosed | ⟨hholds, -⟩
          · rw [hopen] at hclosed; cases hclosed
          · exact Session.lives_of_childHolds hholds
        · rcases hdrain s with hended | ⟨hholds, -⟩
          · rw [hopen] at hended; cases hended
          · exact Session.lives_of_childHolds hholds
        · rw [hs] at hnone; cases hnone

/-- A child that has filled its output waits, so the parent can move. -/
theorem parent_moves_on_full_output : ∃ (i : Invocation) (w : Session), Reachable i w ∧
    (∀ next v, ¬ Step i w (.member 0 next) v) ∧ ∃ v, Step i w .parent v := by
  let i : Invocation := { program := ⟨[]⟩ }
  let writing : Request := .write .out ⟨#[1]⟩
  let w := Session.start i (fun _ => 1) writing
  let full : Session := { w with
    pipe := Function.update w.pipe (.output .out) { capacity := 1, held := ⟨#[1]⟩ }
    written := Function.update w.written .out ⟨#[1]⟩ }
  have hserved : w.serve [.input, .output .out, .output .err] writing = some full := rfl
  have hstart : Reachable i w := .start _ (fun _ => Nat.one_pos) _
  have hfull : Reachable i full := hstart.step (@Step.member i w 0 _ _ _ writing _ rfl hserved)
  have hstuck (next : Request) (v : Session) : ¬ Step i full (.member 0 next) v := fun h => by
    cases h with
    | member living h => cases living; cases h
  refine ⟨i, full, hfull, hstuck, ?_⟩
  rcases no_deadlock hfull (fun o h => by cases h) with hparent | ⟨hmembers, -⟩
  · exact hparent
  · obtain ⟨v, hv⟩ := hmembers 0 ⟨_, _, _, rfl⟩ .compute
    exact absurd hv (hstuck _ _)

end ModuleForge.Exchange
