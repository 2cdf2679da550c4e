import Mathlib.Data.List.Basic
import Mathlib.Logic.Relation
import ModuleForge.Proofs.Exchange.Session

/-!
# Runs of moves

Moves of a parent, its child and the processes that they start, one after the other (`Moves`). A
process that computes may go on with any request, so whatever it does at once is such a run: it is
answered (`Moves.answered`), lets go of ends, leaves its group, or starts another process. So is
cleaning up after a child in whose group nobody lives any more (`Moves.cleansUp`).
-/
namespace ModuleForge.Exchange

variable {i : Invocation} {w v : Session}

/-- Moves, one after the other. -/
def Moves (i : Invocation) : Session → Session → Prop :=
  Relation.ReflTransGen fun w v => ∃ l, Step i w l v

theorem Reachable.moves (h : Reachable i w) (moves : Moves i w v) : Reachable i v := by
  induction moves with
  | refl => exact h
  | tail _ hstep ih =>
    obtain ⟨l, hl⟩ := hstep
    exact ih.step hl

theorem Step.moves {l : Label} (h : Step i w l v) : Moves i w v := .single ⟨l, h⟩

/-- Processes have no part in what the answer to a request does to the pipes. -/
theorem Session.serve_withMembers {ends : List Channel} {request : Request}
    (h : w.serve ends request = some v) (members : List Member) :
    { w with members }.serve ends request = some { v with members } := by
  have hholds (c : Channel) : { w with members }.parentHolds c = w.parentHolds c := rfl
  cases request with
  | read most =>
    simp only [serve, hholds] at h ⊢
    split at h
    · rename_i hend
      rw [if_pos hend]
      split at h
      · cases h
      · cases h; simp_all
    · rename_i hend
      rw [if_neg hend]
      cases h; rfl
  | write s data =>
    simp only [serve, hholds] at h ⊢
    split at h
    · rename_i hend
      rw [if_pos hend]
      split at h
      · cases h; simp_all
      · cases h
      · cases h; simp_all
    · rename_i hend
      rw [if_neg hend]
      cases h; rfl
  | _ => cases h; rfl

variable {k : Nat} {ends : List Channel} {grouped : Bool}

/-- A process that computes may ask for anything next and is answered, and computes again. -/
theorem Moves.answered (living : w.members[k]? = some (.alive ends grouped .compute))
    (request : Request) (h : w.serve ends request = some v) :
    Moves i w { v with
      members := w.members.set k (.after ends grouped .compute request)
        ++ Member.offspring ends grouped request } := by
  have hk : k < w.members.length := (List.getElem?_eq_some_iff.mp living).1
  have hasks : Step i w (.member k request)
      { w with members := w.members.set k (.alive ends grouped request) ++ [] } :=
    .member living rfl
  rw [List.append_nil] at hasks
  refine hasks.moves.trans (Step.moves (l := .member k .compute) ?_)
  have hliving : (w.members.set k (.alive ends grouped request))[k]?
      = some (.alive ends grouped request) := by simp [hk]
  have hserved := Session.serve_withMembers h (w.members.set k (.alive ends grouped request))
  simpa only [List.set_set] using Step.member (i := i) hliving hserved

theorem Moves.strikes {request : Request}
    (living : w.members[k]? = some (.alive ends grouped request)) (word : BitVec 32) :
    Moves i w { w with members := w.members.set k (.dead word) } :=
  (Step.strike living).moves

theorem set_same {α : Type} {l : List α} {x : α} (h : l[k]? = some x) : l.set k x = l := by
  obtain ⟨hk, rfl⟩ := List.getElem?_eq_some_iff.mp h
  exact List.set_getElem_self hk

/-- A process lets go of ends. -/
theorem Moves.closes (living : w.members[k]? = some (.alive ends grouped .compute))
    (dropped : List Channel) : Moves i w { w with
      members := w.members.set k (.alive (ends.filter (· ∉ dropped)) grouped .compute) } := by
  induction dropped generalizing w ends with
  | nil =>
    have hall : ends.filter (· ∉ ([] : List Channel)) = ends := List.filter_eq_self.mpr (by simp)
    rw [hall, set_same living]
    exact .refl
  | cons c rest ih =>
    have hk : k < w.members.length := (List.getElem?_eq_some_iff.mp living).1
    have hclose := Moves.answered (i := i) living (.close c) rfl
    simp only [Member.after, Member.offspring, List.append_nil] at hclose
    have hliving : (w.members.set k (.alive (ends.filter (· ≠ c)) grouped .compute))[k]?
        = some (.alive (ends.filter (· ≠ c)) grouped .compute) := by simp [hk]
    have hrest := ih
      (w := { w with members := w.members.set k (.alive (ends.filter (· ≠ c)) grouped .compute) })
      hliving
    have hboth : (ends.filter (· ≠ c)).filter (· ∉ rest) = ends.filter (· ∉ c :: rest) := by
      rw [List.filter_filter]
      exact List.filter_congr fun a _ => by simp [Bool.and_comm]
    rw [List.set_set, hboth] at hrest
    exact Relation.ReflTransGen.trans hclose hrest

/-- A process leaves its group. -/
theorem Moves.leaves (living : w.members[k]? = some (.alive ends grouped .compute)) :
    Moves i w { w with members := w.members.set k (.alive ends false .compute) } := by
  have hleave := Moves.answered (i := i) living .leaveGroup rfl
  simpa only [Member.after, Member.offspring, List.append_nil] using hleave

/-- A process lets go of ends, and may leave its group. -/
theorem Moves.parts (living : w.members[k]? = some (.alive ends grouped .compute))
    (dropped : List Channel) {after : Bool} (group : after = grouped ∨ after = false) :
    Moves i w { w with
      members := w.members.set k (.alive (ends.filter (· ∉ dropped)) after .compute) } := by
  have hcloses := Moves.closes (i := i) living dropped
  rcases group with rfl | rfl
  · exact hcloses
  · have hk : k < w.members.length := (List.getElem?_eq_some_iff.mp living).1
    have hliving : (w.members.set k (.alive (ends.filter (· ∉ dropped)) grouped .compute))[k]?
        = some (.alive (ends.filter (· ∉ dropped)) grouped .compute) := by simp [hk]
    have hleaves := Moves.leaves (i := i)
      (w := { w with
        members := w.members.set k (.alive (ends.filter (· ∉ dropped)) grouped .compute) }) hliving
    rw [List.set_set] at hleaves
    exact hcloses.trans hleaves

/-- A process starts another one. -/
theorem Moves.forks (living : w.members[k]? = some (.alive ends grouped .compute)) :
    Moves i w { w with members := w.members ++ [.alive ends grouped .compute] } := by
  have hfork := Moves.answered (i := i) living (.fork .compute) rfl
  simpa only [Member.after, Member.offspring, set_same living] using hfork

/-- Killing does nothing to a group in which nobody lives. -/
theorem perform_killGroup (dead : ∀ x ∈ w.members, x.inGroup = false) :
    w.perform .killGroup = some w := by
  have hmap : w.members.map (fun x => if x.inGroup then x.kill else x) = w.members := by
    refine (List.map_congr_left fun x hx => ?_).trans (List.map_id _)
    rw [dead x hx]
    rfl
  rw [Session.perform, hmap]

/-- Killing does nothing to a child that is dead. -/
theorem perform_killChild {word : BitVec 32} (dead : w.child? = some (.dead word)) :
    w.perform .killChild = some w := by
  have hmodify : w.members.modify 0 Member.kill = w.members := by
    rw [List.modify_eq_set_getElem?, show w.members[0]? = _ from dead]
    exact set_same dead
  rw [Session.perform, hmodify]

/-- A child that is dead can be waited for. -/
theorem perform_reap {word : BitVec 32} (dead : w.child? = some (.dead word)) :
    w.perform .reap = some { w with exchange := w.exchange.reaped (WaitStatus.ofWord word) } := by
  rw [Session.perform, dead]

/-- Cleaning up after a child in whose group nobody lives any more. -/
theorem Moves.cleansUp {reaped : Bool} {word : BitVec 32}
    (cleaning : w.phase = .cleaning [.killGroup, .killChild, .reap] reaped)
    (dead : ∀ x ∈ w.members, x.inGroup = false) (child : w.child? = some (.dead word)) :
    Moves i w { w with
      exchange := w.exchange.reaped (WaitStatus.ofWord word)
      phase := .returned (.timedOut reaped)
      cleaned := w.cleaned ++ [.killGroup] ++ [.killChild] ++ [.reap] } := by
  have hgroup := (Step.clean (i := i) cleaning (perform_killGroup dead)).moves
  let killed : Session :=
    { w with phase := .cleaning [.killChild, .reap] reaped, cleaned := w.cleaned ++ [.killGroup] }
  have hkill := (Step.clean (i := i) (w := killed) rfl (perform_killChild child)).moves
  let left : Session :=
    { killed with phase := .cleaning [.reap] reaped, cleaned := killed.cleaned ++ [.killChild] }
  have hreap := (Step.clean (i := i) (w := left) rfl (perform_reap child)).moves
  exact ((hgroup.trans hkill).trans hreap).trans (Step.giveUp rfl).moves

end ModuleForge.Exchange
