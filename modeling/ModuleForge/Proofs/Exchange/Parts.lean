import ModuleForge.Exchange

/-!
# What each part of an exchange does

A write appends a leading part of its data to a pipe and a read takes the front of what is held, so
a pipe neither loses nor invents bytes (`Pipe.write_accepted`, `Pipe.read_taken`). Either waits only
while the other end is held and there is no room, or nothing to read (`Pipe.write_waits`,
`Pipe.read_waits`).

One lemma for each way in which a part can move, and one for each way in which it has to wait.
Feeding moves bytes from what is left of the input to the end of the pipe, draining moves them from
the front of the pipe to what was read so far. There is a result only when all four parts are
finished, and it is an error only when one of them is.
-/
namespace ModuleForge

/-! ## Pipes -/

namespace Bytes

theorem isEmpty_iff (a : ByteArray) : a.isEmpty = true ↔ a = ByteArray.empty := by
  simp [ByteArray.isEmpty]

/-- A cut at any place leaves the two parts of a byte array. -/
theorem extract_append_rest (a : ByteArray) (n : Nat) :
    a.extract 0 n ++ a.extract n a.size = a := by
  rw [ByteArray.extract_append_extract, Nat.min_eq_left (Nat.zero_le n)]
  rcases Nat.le_total n a.size with h | h
  · rw [Nat.max_eq_right h, ByteArray.extract_zero_size]
  · rw [Nat.max_eq_left h, ← Nat.max_eq_left h, ByteArray.extract_zero_max_size]

theorem extract_ne_empty {a : ByteArray} {n : Nat} (hn : 0 < n) (ha : a ≠ ByteArray.empty) :
    a.extract 0 n ≠ ByteArray.empty := by
  have h0 : a.size ≠ 0 := fun h => ha (ByteArray.size_eq_zero_iff.mp h)
  rw [ne_eq, ByteArray.extract_eq_empty_iff]
  omega

end Bytes

namespace Pipe

theorem room_pos {p : Pipe} (hc : 0 < p.capacity) (he : p.held = ByteArray.empty) : 0 < p.room := by
  simp only [room, he, ByteArray.size_empty]; omega

/-- An accepted write adds a leading part of its data to what the pipe holds. -/
theorem write_accepted {p q : Pipe} {readers : Bool} {data : ByteArray} {n : Nat}
    (h : p.write readers data = .accepted n q) :
    q.held = p.held ++ data.extract 0 n ∧ q.capacity = p.capacity ∧ n ≤ data.size := by
  unfold write at h
  split at h
  · cases h; simp
  · split at h
    · cases h
    · split at h
      · cases h
      · cases h; exact ⟨rfl, rfl, Nat.min_le_right _ _⟩

theorem write_broken {p : Pipe} {readers : Bool} {data : ByteArray}
    (h : p.write readers data = .broken) : readers = false := by
  unfold write at h
  split at h
  · cases h
  · split at h
    · rename_i hr; simpa using hr
    · split at h <;> cases h

/-- A write waits only for readers, and only while there is no room. -/
theorem write_waits {p : Pipe} {readers : Bool} {data : ByteArray}
    (h : p.write readers data = .waits) : readers = true ∧ p.room = 0 := by
  unfold write at h
  split at h
  · cases h
  · split at h
    · cases h
    · rename_i hr
      split at h
      · rename_i h0; exact ⟨by simpa using hr, h0⟩
      · cases h

/-- A read takes the front of what the pipe holds, and nothing only at the end. -/
theorem read_taken {p q : Pipe} {writers : Bool} {most : Nat} {data : ByteArray}
    (h : p.read writers most = .taken data q) :
    p.held = data ++ q.held ∧ q.capacity = p.capacity ∧
      (p.held = ByteArray.empty → writers = false ∧ data = ByteArray.empty ∧ q = p) := by
  unfold read at h
  split at h
  · rename_i he
    rw [Bytes.isEmpty_iff] at he
    split at h
    · cases h
    · cases h; simp_all
  · rename_i he
    rw [Bytes.isEmpty_iff] at he
    cases h
    exact ⟨(Bytes.extract_append_rest _ _).symm, rfl, fun h => absurd h he⟩

theorem read_data_ne_empty {p q : Pipe} {writers : Bool} {most : Nat} {data : ByteArray}
    (hm : 0 < most) (h : p.read writers most = .taken data q) (hp : p.held ≠ ByteArray.empty) :
    data ≠ ByteArray.empty := by
  unfold read at h
  rw [if_neg (by rwa [Bytes.isEmpty_iff])] at h
  cases h
  exact Bytes.extract_ne_empty hm hp

/-- A read waits only for writers, and only while the pipe is empty. -/
theorem read_waits {p : Pipe} {writers : Bool} {most : Nat} (h : p.read writers most = .waits) :
    writers = true ∧ p.held = ByteArray.empty := by
  unfold read at h
  split at h
  · rename_i he
    split at h
    · exact ⟨‹_›, (Bytes.isEmpty_iff _).mp he⟩
    · cases h
  · cases h

end Pipe

namespace Exchange

variable {x y : Exchange} {p q : Pipe} {s : Stream} {most : Nat}

/-! ## Feeding -/

/-- Feeding either closes the pipe, with nothing left or nobody to read it, or moves some bytes. -/
theorem feedInto?_cases {readers : Bool} (h : x.feedInto? p readers most = some (y, q)) :
    ∃ rest, x.feed = .writing rest ∧
      ((y = { x with feed := .closed (.ok ()) } ∧ q = p ∧
          (rest = ByteArray.empty ∨ readers = false)) ∨
        ∃ sent left, rest = sent ++ left ∧ y = { x with feed := .writing left } ∧
          q.held = p.held ++ sent ∧ q.capacity = p.capacity) := by
  unfold feedInto? at h
  cases hf : x.feed with
  | closed r => simp [hf] at h
  | writing rest =>
    refine ⟨rest, rfl, ?_⟩
    simp only [hf] at h
    split at h
    · rename_i he
      cases h
      exact .inl ⟨rfl, rfl, .inl ((Bytes.isEmpty_iff _).mp he)⟩
    · split at h
      · rename_i hw
        cases h
        exact .inl ⟨rfl, rfl, .inr (Pipe.write_broken hw)⟩
      · cases h
      · rename_i count p' hw
        cases h
        obtain ⟨hq, hc, hn⟩ := Pipe.write_accepted hw
        rw [ByteArray.size_extract] at hn
        rw [ByteArray.extract_extract, Nat.min_eq_left (by omega)] at hq
        refine .inr ⟨rest.extract 0 count, rest.extract count rest.size, ?_, rfl,
          by simpa using hq, hc⟩
        exact (Bytes.extract_append_rest rest count).symm

/-- Feeding waits only while somebody can read a full pipe. -/
theorem feedInto?_none {readers : Bool} (h : x.feedInto? p readers most = none) :
    x.feed.isClosed = true ∨ (readers = true ∧ p.room = 0) := by
  unfold feedInto? at h
  cases hf : x.feed with
  | closed r => exact .inl rfl
  | writing rest =>
    simp only [hf] at h
    split at h
    · cases h
    · split at h
      · cases h
      · exact .inr (Pipe.write_waits ‹_›)
      · cases h

/-! ## Draining -/

@[simp] theorem drain_setDrain (x : Exchange) (s : Stream) (d : Drain) :
    (x.setDrain s d).drain s = d := by cases s <;> rfl

theorem drain_setDrain_ne {t : Stream} (x : Exchange) (d : Drain) (h : t ≠ s) :
    (x.setDrain s d).drain t = x.drain t := by
  cases s <;> cases t <;> first | rfl | exact absurd rfl h

@[simp] theorem feed_setDrain (x : Exchange) (s : Stream) (d : Drain) :
    (x.setDrain s d).feed = x.feed := by cases s <;> rfl

@[simp] theorem status_setDrain (x : Exchange) (s : Stream) (d : Drain) :
    (x.setDrain s d).status = x.status := by cases s <;> rfl

@[simp] theorem drain_withFeed (x : Exchange) (f : Feed) (s : Stream) :
    drain { x with feed := f } s = x.drain s := by cases s <;> rfl

@[simp] theorem drain_reaped (x : Exchange) (status : WaitStatus) (s : Stream) :
    (x.reaped status).drain s = x.drain s := by cases s <;> rfl

/-- Draining either notes the end of a pipe that is empty and has no writers, or moves some
bytes. -/
theorem drainFrom?_cases {writers : Bool} (hm : 0 < most)
    (h : x.drainFrom? s p writers most = some (y, q)) :
    ∃ sofar, x.drain s = .reading sofar ∧
      ((y = x.setDrain s (.ended (.ok sofar)) ∧ q = p ∧ p.held = ByteArray.empty ∧
        writers = false) ∨
        ∃ data, y = x.setDrain s (.reading (sofar ++ data)) ∧ p.held = data ++ q.held ∧
          q.capacity = p.capacity) := by
  unfold drainFrom? at h
  cases hd : x.drain s with
  | ended r => simp [hd] at h
  | reading sofar =>
    refine ⟨sofar, rfl, ?_⟩
    simp only [hd] at h
    split at h
    · cases h
    · rename_i data p' hr
      cases h
      obtain ⟨hheld, hc, hend⟩ := Pipe.read_taken hr
      by_cases he : p.held = ByteArray.empty
      · obtain ⟨hw, rfl, rfl⟩ := hend he
        exact .inl ⟨rfl, rfl, he, hw⟩
      · have hdata := Pipe.read_data_ne_empty hm hr he
        refine .inr ⟨data, ?_, hheld, hc⟩
        simp only [Drain.took, Bytes.isEmpty_iff, hdata, if_false]

/-- Draining waits only while somebody can write an empty pipe. -/
theorem drainFrom?_none {writers : Bool} (h : x.drainFrom? s p writers most = none) :
    (x.drain s).isEnded = true ∨ (writers = true ∧ p.held = ByteArray.empty) := by
  unfold drainFrom? at h
  cases hd : x.drain s with
  | ended r => exact .inl rfl
  | reading sofar =>
    simp only [hd] at h
    split at h
    · exact .inr (Pipe.read_waits ‹_›)
    · cases h

/-! ## The result -/

/-- The exchange is finished exactly when its four parts are. -/
theorem result?_eq_none (h : x.result? = none) :
    x.feed.isClosed = false ∨ (∃ s, (x.drain s).isEnded = false) ∨ x.status = none := by
  unfold result? at h
  cases hf : x.feed with
  | writing rest => exact .inl rfl
  | closed fed =>
    right
    cases ho : x.out with
    | reading sofar => exact .inl ⟨.out, by simp [drain, ho, Drain.isEnded]⟩
    | ended out =>
      cases he : x.err with
      | reading sofar => exact .inl ⟨.err, by simp [drain, he, Drain.isEnded]⟩
      | ended err =>
        right
        cases hs : x.status with
        | none => rfl
        | some status => simp [hf, ho, he, hs] at h

theorem result?_eq_ok {output : Output} (h : x.result? = some (.ok output)) :
    x.feed = .closed (.ok ()) ∧ x.out = .ended (.ok output.stdout) ∧
      x.err = .ended (.ok output.stderr) ∧ x.status = some output.status := by
  unfold result? at h
  split at h
  · rename_i fed out err status hf ho he hs
    rw [hf, ho, he, hs]
    cases fed <;> cases out <;> cases err <;> cases h
    exact ⟨rfl, rfl, rfl, rfl⟩
  · cases h

/-- A result that is an error is the error of a part. -/
theorem result?_eq_error {e : IoError} (h : x.result? = some (.error e)) :
    x.feed = .closed (.error e) ∨ ∃ s, x.drain s = .ended (.error e) := by
  unfold result? at h
  split at h
  · rename_i fed out err status hf ho he hs
    cases fed with
    | error e' => cases h; exact .inl hf
    | ok _ =>
      right
      cases out with
      | error e' => cases h; exact ⟨.out, ho⟩
      | ok _ =>
        cases err with
        | error e' => cases h; exact ⟨.err, he⟩
        | ok _ => cases h
  · cases h

end Exchange
end ModuleForge
