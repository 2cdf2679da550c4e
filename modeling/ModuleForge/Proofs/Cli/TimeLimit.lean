import ModuleForge.Proofs.Cli.Precedence

/-!
# Limits from the command line

A limit on the command line is counted in whole seconds: a part of a second counts as one, so a run
may take longer than was said by less than a second, and never shorter; only zero sets no limit
(`Duration.KeptBy`). Nothing between the reader of durations and this rounding leaves room for the
second that it adds: a limit in the last of the seconds that 64 bits count has none to be rounded up
to, and that is the only one that is not kept (`limit_kept_iff`).
-/
namespace ModuleForge

namespace Duration

/-- A run that was to take no longer than `d` is limited so: by less than a second more, and not at
all exactly if `d` is zero. -/
def KeptBy (d : Duration) : Option Duration → Prop
  | none => d = zero
  | some l => d ≠ zero ∧ d.toNanos ≤ l.toNanos ∧ l.toNanos < d.toNanos + 1000000000

/-- A part of the last second that 64 bits count. -/
def PastCount (d : Duration) : Prop := d.seconds = 2 ^ 64 - 1 ∧ 0 < d.nanos

theorem ceilSeconds_eq_zero {d : Duration} : d.ceilSeconds = 0 ↔ d = zero := by
  obtain ⟨seconds, nanos, hnanos⟩ := d
  simp only [ceilSeconds, zero, ofSeconds, mk.injEq]
  split <;> omega

/-- The whole seconds that are enough are too many by less than one. -/
theorem ceilSeconds_nanos (d : Duration) : d.toNanos ≤ (ofSeconds d.ceilSeconds).toNanos ∧
    (ofSeconds d.ceilSeconds).toNanos < d.toNanos + 1000000000 := by
  have hnanos := d.nanos_lt
  simp only [ceilSeconds, toNanos, ofSeconds]
  split <;> omega

theorem ceilSeconds_lt_iff {d : Duration} (fits : d.seconds < 2 ^ 64) :
    d.ceilSeconds < 2 ^ 64 ↔ ¬ d.PastCount := by
  simp only [ceilSeconds, PastCount]
  split <;> omega

end Duration

/-- A configuration that counts the seconds of a limit keeps it. -/
theorem Config.limit_keeps {c : Config} {d : Duration} (h : c.timeoutSecs = d.ceilSeconds) :
    d.KeptBy c.limit := by
  unfold Config.limit
  rw [h]
  by_cases hzero : d = .zero
  · rw [if_neg (by rw [Duration.ceilSeconds_eq_zero.mpr hzero]; decide)]
    exact hzero
  · rw [if_pos (Nat.pos_of_ne_zero fun h => hzero (Duration.ceilSeconds_eq_zero.mp h))]
    exact ⟨hzero, d.ceilSeconds_nanos⟩

namespace Cli

variable {σ : Type}

theorem Toolchain.overlay_limit {t : Toolchain} {d : Duration} (carried : t.timeout = some d)
    (c : Config) :
    (∃ c', t.overlay c = .ok c' ∧ c'.timeoutSecs = d.ceilSeconds ∧ d.ceilSeconds < 2 ^ 64) ∨
      t.overlay c = .error .overflow ∧ ¬ d.ceilSeconds < 2 ^ 64 := by
  unfold Toolchain.overlay
  rw [carried]
  by_cases h : d.ceilSeconds < 2 ^ 64
  · simp only [Toolchain.limitSeconds, if_pos h]
    exact .inl ⟨_, rfl, rfl, h⟩
  · simp only [Toolchain.limitSeconds, if_neg h]
    exact .inr ⟨rfl, h⟩

/-- Whatever the file and the environment are, if they give a configuration, the limit of the
command line is kept, unless it is a part of the last second that 64 bits count: then there is no
configuration, and no mistake is reported either. -/
theorem limit_kept_iff [Logging σ] [Files σ] [Environment σ] {t : Toolchain} {d : Duration}
    (carried : t.timeout = some d) (fits : d.seconds < 2 ^ 64) (s : σ) {base below : Config}
    (loaded : (t.loaded s).1 = .ok base)
    (overlaid : (base.withEnvironment : Action σ _ _).exec (t.loaded s).2
      = (.ok below, (t.loaded s).2)) :
    ∃ result, (t.resolve : Action σ _ _).exec s = (result, (t.loaded s).2) ∧
      ((∃ c, result = .ok c ∧ d.KeptBy c.limit) ↔ ¬ d.PastCount) ∧
      (result = .error .overflow ↔ d.PastCount) := by
  have hbelow : base.overlay (Config.setting? (t.loaded s).2) = .ok below :=
    (Prod.mk.inj overlaid).1
  refine ⟨t.overlay below, ?_, ?_⟩
  · rw [resolve_exec, loaded]
    show ((base.overlay _).mapError _ >>= t.overlay, _) = _
    rw [hbelow]
    rfl
  · rw [← Duration.ceilSeconds_lt_iff fits, ← not_iff_not (b := d.PastCount),
      ← Duration.ceilSeconds_lt_iff fits]
    rcases Toolchain.overlay_limit carried below with ⟨c, heq, hsecs, hlt⟩ | ⟨heq, hnot⟩
    · rw [heq]
      exact ⟨iff_of_true ⟨c, rfl, Config.limit_keeps hsecs⟩ hlt, iff_of_true nofun hlt⟩
    · rw [heq]
      exact ⟨iff_of_false nofun hnot, iff_of_false (fun h => h rfl) hnot⟩

/-- Options with the longest limit in whole seconds. -/
def Toolchain.patient : Toolchain where
  timeout := some (.ofSeconds (2 ^ 64 - 1))

/-- The longest limit in whole seconds is kept. -/
theorem longest_limit_kept :
    Toolchain.patient.timeout = some (.ofSeconds (2 ^ 64 - 1)) ∧
    (Duration.ofSeconds (2 ^ 64 - 1)).seconds < 2 ^ 64 ∧
    (Toolchain.patient.loaded ({} : Desk)).1 = .ok {} ∧
    (({} : Config).withEnvironment : Action Desk _ _).exec {} = (.ok {}, {}) ∧
    ∃ result, (Toolchain.patient.resolve : Action Desk _ _).exec {} = (result, {}) ∧
      ∃ c, result = .ok c ∧ (Duration.ofSeconds (2 ^ 64 - 1)).KeptBy c.limit := by
  have fits : (Duration.ofSeconds (2 ^ 64 - 1)).seconds < 2 ^ 64 := by decide
  have loaded : (Toolchain.patient.loaded ({} : Desk)).1 = .ok {} := rfl
  have overlaid : (({} : Config).withEnvironment : Action Desk _ _).exec {} = (.ok {}, {}) := rfl
  obtain ⟨result, hexec, hkept, -⟩ :=
    limit_kept_iff (t := Toolchain.patient) rfl fits ({} : Desk) loaded overlaid
  exact ⟨rfl, fits, loaded, overlaid, result, hexec, hkept.mpr fun h => absurd h.2 (by decide)⟩

/-- The command line accepts a limit a nanosecond longer than the longest, and then there is neither
a configuration nor a mistake in the file or the environment: the count of seconds overflows. -/
theorem longest_limit_overflows : ∃ t : Toolchain,
    Toolchain.parse ["--timeout", "18446744073709551615s 1ns"] = .ok t ∧
    (t.resolve : Action Desk _ _).exec {} = (.error .overflow, {}) := by
  refine ⟨{ timeout := some ⟨2 ^ 64 - 1, 1, by decide⟩ }, ?_, rfl⟩
  decide +kernel

end Cli
end ModuleForge
