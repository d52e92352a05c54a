import DiscoveryDemo.Clock.Timespecs

/-!
# Proofs: the times are exact

Every part of a time is shown to lie in the range of the type that it passes through. The deadline
adds two numbers of nanoseconds below a second, so that one carry is enough.
-/

namespace DiscoveryDemo.Clock

variable {timeT : TimeT} {us : UInt64}

/-! ## Ranges -/

/-- An operation whose result is in range, and what follows it. -/
theorem exact_bind {t : IntType} {v : Int} (h : t.min ≤ v ∧ v ≤ t.max) {α : Type}
    (f : t.Value → Option α) : (t.exact v).bind f = f ⟨v, h⟩ := by
  rw [IntType.exact, dif_pos h]
  rfl

theorem timeT_min (timeT : TimeT) : timeT.type.min ≤ 0 :=
  Int.neg_nonpos_of_nonneg (Int.le_of_lt (Int.pow_pos (by decide)))

theorem timeT_max (timeT : TimeT) : timeT.type.max < 2 ^ 63 := by
  have hbits : timeT.bits - 1 ≤ 63 := Nat.sub_le_of_le_add timeT.bits_le
  have hpow : (2 : Int) ^ (timeT.bits - 1) ≤ 2 ^ 63 := by
    exact_mod_cast Nat.pow_le_pow_right (by decide : 0 < 2) hbits
  exact Int.sub_one_lt_of_le hpow

theorem long_range {v : Int} (hpos : 0 ≤ v) (hlt : v < 2147483648) : long.min ≤ v ∧ v ≤ long.max := by
  have hmin : long.min = -2147483648 := by decide
  have hmax : long.max = 2147483647 := by decide
  omega

theorem uint64_range {v : Int} (hpos : 0 ≤ v) (hlt : v < 2 ^ 64) :
    uint64.min ≤ v ∧ v ≤ uint64.max :=
  ⟨hpos, Int.le_sub_one_of_lt hlt⟩

/-! ## Durations -/

theorem toNat_seconds (us : UInt64) : (us / 1000000).toNat = us.toNat / 1000000 :=
  UInt64.toNat_div us 1000000

theorem toNat_micros (us : UInt64) : (us % 1000000).toNat = us.toNat % 1000000 :=
  UInt64.toNat_mod us 1000000

/-- The parts of a duration. -/
theorem wholeSeconds_eq (h : (us.toNat / 1000000 : Nat) ≤ timeT.type.max) :
    ∃ sec, wholeSeconds timeT us = some sec ∧ sec.1 = (us.toNat / 1000000 : Nat) := by
  have hmin := timeT_min timeT
  rw [wholeSeconds, toNat_seconds]
  have hrange : timeT.type.min ≤ ((us.toNat / 1000000 : Nat) : Int) ∧
      ((us.toNat / 1000000 : Nat) : Int) ≤ timeT.type.max := ⟨by omega, h⟩
  exact ⟨⟨_, hrange⟩, dif_pos hrange, rfl⟩

theorem nanoseconds_eq (us : UInt64) :
    ∃ nsec, nanoseconds us = some nsec ∧ nsec.1 = 1000 * (us.toNat % 1000000 : Nat) := by
  rw [nanoseconds, toNat_micros]
  have hrange := uint64_range (v := 1000 * (us.toNat % 1000000 : Nat)) (by omega) (by omega)
  exact ⟨⟨_, hrange⟩, dif_pos hrange, rfl⟩

theorem timespec_eq (h : (us.toNat / 1000000 : Nat) ≤ timeT.type.max) :
    ∃ ts, timespec timeT us = some ts ∧ ts.sec.1 = (us.toNat / 1000000 : Nat) ∧
      ts.nsec.1 = 1000 * (us.toNat % 1000000 : Nat) := by
  obtain ⟨sec, hsec, hsecval⟩ := wholeSeconds_eq h
  obtain ⟨nsec, hnsec, hnsecval⟩ := nanoseconds_eq us
  have hrange := long_range (v := nsec.1) (by omega) (by omega)
  refine ⟨⟨sec, ⟨nsec.1, hrange⟩⟩, ?_, hsecval, hnsecval⟩
  simp only [timespec, hsec, hnsec, Option.bind_eq_bind, Option.bind_some, exact_bind hrange]
  rfl

/-- **The structures for a duration** are exact if its seconds fit `time_t`. -/
theorem exact_of_fits (h : (us.toNat / 1000000 : Nat) ≤ timeT.type.max) : Exact timeT us := by
  obtain ⟨ts, hts, hsec, hnsec⟩ := timespec_eq h
  have hdiv := Nat.div_add_mod us.toNat 1000000
  constructor
  · refine ⟨ts, hts, hts, hts, ⟨⟨zero timeT.bits, zero 32⟩, ?_, rfl, rfl⟩, ?_, ?_⟩
    · rw [testTimerfd, hts]
      rfl
    · exact ⟨by omega, by omega⟩
    · rw [Timespec.total, hsec, hnsec]
      omega
  · obtain ⟨sec, hsec, hsecval⟩ := wholeSeconds_eq h
    have hrange := long_range (v := (us.toNat % 1000000 : Nat)) (by omega) (by omega)
    refine ⟨⟨sec, ⟨_, hrange⟩⟩, ?_, ?_, ?_⟩
    · simp only [testSelectDelay, hsec, toNat_micros, Option.bind_eq_bind, Option.bind_some,
        exact_bind hrange]
      rfl
    · exact ⟨Int.natCast_nonneg _, by show ((us.toNat % 1000000 : Nat) : Int) < _; omega⟩
    · rw [Timeval.total, hsecval]
      show ((us.toNat / 1000000 : Nat) : Int) * 1000000 + (us.toNat % 1000000 : Nat) = _
      omega

/-! ## The deadline -/

/-- **The deadline** is exact if its seconds fit `time_t`. -/
theorem exactDeadline_of_fits (now : MonotonicReading timeT)
    (h : (now.time.total + us.toNat * 1000) / 1000000000 ≤ timeT.type.max) :
    ExactDeadline us now := by
  obtain ⟨hnsec0, hnsecmax⟩ := now.normalised
  have hsec0 := now.sec_nonneg
  have hsecmax := now.time.sec.2.2
  have htotal : now.time.total = now.time.sec.1 * 1000000000 + now.time.nsec.1 := rfl
  have hmin := timeT_min timeT
  have hmax := timeT_max timeT
  have hdiv := Nat.div_add_mod us.toNat 1000000
  have hus := us.toNat_lt
  obtain ⟨nsec, hnsec, hnsecval⟩ := nanoseconds_eq us
  -- the ranges of the sums, in the order of the source
  have h1 := uint64_range hsec0 (by omega)
  have h2 := uint64_range (v := now.time.sec.1 + (us.toNat / 1000000 : Nat)) (by omega) (by omega)
  have h3 : timeT.type.min ≤ now.time.sec.1 + (us.toNat / 1000000 : Nat) ∧
      now.time.sec.1 + (us.toNat / 1000000 : Nat) ≤ timeT.type.max := by omega
  have h4 := uint64_range hnsec0 (by omega)
  have h5 := uint64_range (v := now.time.nsec.1 + nsec.1) (by omega) (by omega)
  have h6 := long_range (v := now.time.nsec.1 + nsec.1) (by omega) (by omega)
  by_cases hcarry : now.time.nsec.1 + nsec.1 ≥ 1000000000
  · have h7 : timeT.type.min ≤ now.time.sec.1 + (us.toNat / 1000000 : Nat) + 1 ∧
        now.time.sec.1 + (us.toNat / 1000000 : Nat) + 1 ≤ timeT.type.max := by omega
    have h8 := long_range (v := now.time.nsec.1 + nsec.1 - 1000000000) (by omega) (by omega)
    refine ⟨⟨⟨_, h7⟩, ⟨_, h8⟩⟩, ?_, ?_, ?_⟩
    · simp only [testPthreadCondTimedwait, toNat_seconds, hnsec, Option.bind_eq_bind,
        Option.bind_some, exact_bind h1, exact_bind h2, exact_bind h3, exact_bind h4, exact_bind h5,
        exact_bind h6, if_pos hcarry, exact_bind h7, exact_bind h8]
      rfl
    · show 0 ≤ now.time.nsec.1 + nsec.1 - 1000000000 ∧
        now.time.nsec.1 + nsec.1 - 1000000000 < 1000000000
      omega
    · show (now.time.sec.1 + (us.toNat / 1000000 : Nat) + 1) * 1000000000 +
        (now.time.nsec.1 + nsec.1 - 1000000000) = _
      omega
  · refine ⟨⟨⟨_, h3⟩, ⟨_, h6⟩⟩, ?_, ?_, ?_⟩
    · simp only [testPthreadCondTimedwait, toNat_seconds, hnsec, Option.bind_eq_bind,
        Option.bind_some, exact_bind h1, exact_bind h2, exact_bind h3, exact_bind h4, exact_bind h5,
        exact_bind h6, if_neg hcarry]
      rfl
    · show 0 ≤ now.time.nsec.1 + nsec.1 ∧ now.time.nsec.1 + nsec.1 < 1000000000
      omega
    · show (now.time.sec.1 + (us.toNat / 1000000 : Nat)) * 1000000000 +
        (now.time.nsec.1 + nsec.1) = _
      omega

/-- **The sleeps ask for one time.** For every duration whose seconds fit `time_t`, the four
`timespec`s and the `timeval` are normalised and denote it; and for every reading of the clock from
which on the seconds fit, the deadline is normalised and lies the duration after the reading. No
operation on the way overflows or wraps. -/
theorem sleeps_exact (timeT : TimeT) (us : UInt64) :
    ((us.toNat / 1000000 : Nat) ≤ timeT.type.max → Exact timeT us) ∧
      ∀ now : MonotonicReading timeT,
        (now.time.total + us.toNat * 1000) / 1000000000 ≤ timeT.type.max → ExactDeadline us now :=
  ⟨exact_of_fits, exactDeadline_of_fits⟩

/-- `time_t` with 32 bits. -/
def time32 : TimeT := ⟨32, by decide⟩

/-- The reading of 7.6 seconds. -/
def reading : MonotonicReading time32 where
  time := ⟨⟨7, by decide⟩, ⟨600000000, by decide⟩⟩
  sec_nonneg := by decide
  normalised := ⟨by decide, by decide⟩

/-- For `SLEEP_TIME_US`, with a carry. -/
theorem sleeps_exact_carry : Exact time32 5500000 ∧ ExactDeadline 5500000 reading := by
  obtain ⟨hdurations, hdeadline⟩ := sleeps_exact time32 5500000
  exact ⟨hdurations (by decide), hdeadline reading (by decide)⟩

end DiscoveryDemo.Clock
