import CompletionEngine.Time.Limit

/-!
# Exact and saturated times

All that is said here is said in unbounded arithmetic. A limit of some units is their product, cut
off at the largest word once: where a unit is first turned into seconds, cutting off twice comes to
the same. Splitting a limit into seconds and nanoseconds loses nothing, and a duration survives the
way through a limit exactly if its nanoseconds fit in a word.
-/

namespace CompletionEngine

section Saturation

theorem toNat_ofNat_min (number : Nat) :
    (UInt64.ofNat (min number (UInt64.size - 1))).toNat = min number (UInt64.size - 1) := by
  apply UInt64.toNat_ofNat_of_lt'
  have positive : 0 < UInt64.size := by decide
  omega

theorem toNat_saturatingMul (left right : UInt64) :
    (saturatingMul left right).toNat = min (left.toNat * right.toNat) (UInt64.size - 1) :=
  toNat_ofNat_min _

/-- Cutting off before a multiplication by a positive number changes nothing after it. -/
theorem min_mul_min {number bound factor : Nat} (positive : 0 < factor) :
    min (min number bound * factor) bound = min (number * factor) bound := by
  rcases Nat.le_total number bound with small | large
  · rw [Nat.min_eq_left small]
  · have enough : bound ≤ bound * factor := Nat.le_mul_of_pos_right bound positive
    have more : bound * factor ≤ number * factor := Nat.mul_le_mul_right factor large
    have still : bound ≤ number * factor := Nat.le_trans enough more
    rw [Nat.min_eq_right large, Nat.min_eq_right enough, Nat.min_eq_right still]

end Saturation

/-- How many nanoseconds a unit has. -/
def TimeUnit.length : TimeUnit → Nat
  | nanosecond => 1
  | microsecond => 1000
  | millisecond => 1000000
  | second => 1000000000
  | minute => 60000000000
  | hour => 3600000000000
  | day => 86400000000000

/-- Less than a second of nanoseconds besides the seconds. -/
def Duration.IsProper (duration : Duration) : Prop := duration.nanos.toNat < 1000000000

theorem Duration.isProper_of_carry? {seconds : UInt64} {nanos : UInt32} {duration : Duration}
    (carried : carry? seconds nanos = some duration) : duration.IsProper := by
  simp only [carry?] at carried
  split at carried
  · cases carried
    simp only [IsProper, UInt32.toNat_mod]
    exact Nat.mod_lt _ (by decide)
  · cases carried

namespace TimeLimit

theorem toNat_ofSeconds_saturatingMul (count factor : UInt64) :
    (ofSeconds (saturatingMul count factor)).nanos.toNat =
      min (count.toNat * (factor.toNat * 1000000000)) (UInt64.size - 1) := by
  rw [ofSeconds, toNat_saturatingMul, toNat_saturatingMul]
  change min (min (count.toNat * factor.toNat) (UInt64.size - 1) * 1000000000) _ = _
  rw [min_mul_min (by decide), Nat.mul_assoc]

theorem toNat_ofUnit (unit : TimeUnit) (count : UInt64) :
    (ofUnit unit count).nanos.toNat = min (count.toNat * unit.length) (UInt64.size - 1) := by
  cases unit with
  | nanosecond =>
      have bound : count.toNat < UInt64.size := count.toNat_lt
      change count.toNat = min (count.toNat * 1) _
      omega
  | microsecond => exact toNat_saturatingMul count 1000
  | millisecond => exact toNat_saturatingMul count 1000000
  | second => exact toNat_saturatingMul count nanosPerSecond
  -- The longer units are cut off as seconds and once more as nanoseconds.
  | minute => exact toNat_ofSeconds_saturatingMul count 60
  | hour => exact toNat_ofSeconds_saturatingMul count 3600
  | day => exact toNat_ofSeconds_saturatingMul count 86400

theorem ofUnit_mono (unit : TimeUnit) {count more : UInt64} (le : count ≤ more) :
    (ofUnit unit count).nanos ≤ (ofUnit unit more).nanos := by
  rw [UInt64.le_iff_toNat_le] at le ⊢
  rw [toNat_ofUnit, toNat_ofUnit]
  have product := Nat.mul_le_mul_right unit.length le
  omega

section Splitting

variable (limit : TimeLimit)

theorem toNat_seconds : limit.toDuration.seconds.toNat = limit.nanos.toNat / 1000000000 :=
  UInt64.toNat_div ..

theorem toNat_nanos : limit.toDuration.nanos.toNat = limit.nanos.toNat % 1000000000 := by
  have small : limit.nanos.toNat % 1000000000 < 1000000000 := Nat.mod_lt _ (by decide)
  change (limit.nanos % nanosPerSecond).toUInt32.toNat = _
  rw [UInt64.toNat_toUInt32, UInt64.toNat_mod]
  change limit.nanos.toNat % 1000000000 % 4294967296 = _
  omega

theorem isProper_toDuration : limit.toDuration.IsProper := by
  rw [Duration.IsProper, toNat_nanos]
  exact Nat.mod_lt _ (by decide)

theorem totalNanos_toDuration : limit.toDuration.totalNanos = limit.nanos.toNat := by
  rw [Duration.totalNanos, toNat_seconds, toNat_nanos]
  omega

theorem ofDuration_toDuration : ofDuration limit.toDuration = limit := by
  have bound : limit.nanos.toNat < UInt64.size := limit.nanos.toNat_lt
  rw [ofDuration, totalNanos_toDuration, Nat.min_eq_left (by omega), UInt64.ofNat_toNat]

end Splitting

section Durations

variable {duration : Duration}

theorem toNat_ofDuration (duration : Duration) :
    (ofDuration duration).nanos.toNat = min duration.totalNanos (UInt64.size - 1) :=
  toNat_ofNat_min _

/-- A proper duration is determined by its nanoseconds. -/
theorem eq_of_totalNanos_eq {other : Duration} (proper : duration.IsProper)
    (proper' : other.IsProper) (same : duration.totalNanos = other.totalNanos) :
    duration = other := by
  simp only [Duration.IsProper, Duration.totalNanos] at proper proper' same
  have seconds : duration.seconds = other.seconds := by
    apply UInt64.toNat_inj.mp
    omega
  have nanos : duration.nanos = other.nanos := by
    apply UInt32.toNat_inj.mp
    omega
  cases duration
  cases other
  exact Duration.mk.injEq .. ▸ ⟨seconds, nanos⟩

theorem toDuration_ofDuration_iff (proper : duration.IsProper) :
    (ofDuration duration).toDuration = duration ↔ duration.totalNanos < UInt64.size := by
  have through := totalNanos_toDuration (ofDuration duration)
  rw [toNat_ofDuration] at through
  have positive : 0 < UInt64.size := by decide
  constructor
  · intro same
    rw [same] at through
    omega
  · intro fits
    apply eq_of_totalNanos_eq (isProper_toDuration _) proper
    omega

theorem ofDuration_mono {longer : Duration} (le : duration.totalNanos ≤ longer.totalNanos) :
    (ofDuration duration).nanos ≤ (ofDuration longer).nanos := by
  rw [UInt64.le_iff_toNat_le, toNat_ofDuration, toNat_ofDuration]
  omega

end Durations

/--
A limit of any number of units is their exact product or the largest word, so more units never make
a shorter limit. The kernel gets exactly the seconds of a limit and the nanoseconds left over,
whatever its block held before, and a limit survives the way through a duration. A duration becomes
its nanoseconds or the largest word, and comes back exactly if they fit.
-/
theorem converts_exactly :
    (∀ (unit : TimeUnit) (count : UInt64),
      (ofUnit unit count).nanos.toNat = min (count.toNat * unit.length) (UInt64.size - 1) ∧
      ∀ more, count ≤ more → (ofUnit unit count).nanos ≤ (ofUnit unit more).nanos) ∧
    (∀ limit : TimeLimit,
      limit.timeSpec.nanos.toNat < 1000000000 ∧
      limit.timeSpec.seconds.toNat * 1000000000 + limit.timeSpec.nanos.toNat =
        limit.nanos.toNat ∧
      limit.micros.toNat = limit.nanos.toNat / 1000 ∧
      limit.millis.toNat = limit.nanos.toNat / 1000000 ∧
      (∀ previous : TimeSpec, previous.set limit = limit.timeSpec) ∧
      ofDuration limit.toDuration = limit) ∧
    (∀ duration : Duration, duration.IsProper →
      (ofDuration duration).nanos.toNat = min duration.totalNanos (UInt64.size - 1) ∧
      ((ofDuration duration).toDuration = duration ↔ duration.totalNanos < UInt64.size)) ∧
    ∀ duration longer : Duration, duration.totalNanos ≤ longer.totalNanos →
      (ofDuration duration).nanos ≤ (ofDuration longer).nanos := by
  refine ⟨?_, ?_, ?_, ?_⟩
  · intro unit count
    exact ⟨toNat_ofUnit unit count, fun more le => ofUnit_mono unit le⟩
  · intro limit
    refine ⟨isProper_toDuration limit, totalNanos_toDuration limit, UInt64.toNat_div ..,
      UInt64.toNat_div .., fun previous => rfl, ofDuration_toDuration limit⟩
  · intro duration proper
    exact ⟨toNat_ofDuration duration, toDuration_ofDuration_iff proper⟩
  · intro duration longer le
    exact ofDuration_mono le

/--
A million days are cut off and still no shorter than a hundred thousand; a duration made with a
carry survives the way through a limit, and the longest one does not.
-/
theorem converts_carried_seconds :
    let carried : Duration := ⟨5, 500000000⟩
    let longest : Duration := ⟨UInt64.ofNat (UInt64.size - 1), 999999999⟩
    Duration.carry? 3 2500000000 = some carried ∧ longest.IsProper ∧
      (ofUnit .day 100000).nanos ≤ (ofUnit .day 1000000).nanos ∧
      (ofDuration carried).toDuration = carried ∧ (ofDuration longest).toDuration ≠ longest ∧
      (ofDuration carried).nanos ≤ (ofDuration longest).nanos := by
  intro carried longest
  have made : Duration.carry? 3 2500000000 = some carried := by decide
  have proper : longest.IsProper := by
    unfold Duration.IsProper
    decide
  obtain ⟨units, limits, durations, ordered⟩ := converts_exactly
  refine ⟨made, proper, (units .day 100000).2 1000000 (by decide), ?_, ?_, ?_⟩
  · exact (durations carried (Duration.isProper_of_carry? made)).2.mpr (by decide)
  · intro same
    exact absurd ((durations longest proper).2.mp same) (by decide)
  · exact ordered carried longest (by decide)

end TimeLimit

end CompletionEngine
