import DiscoveryDemo.Clock.BusySleep

/-!
# Proofs: when the busy wait is long enough

The loop ends with the first reading whose whole seconds are far enough from those of the start. How
far a reading is into its second does not matter to the loop, so it may end almost a second early, and
a fraction of a second in the requested time is not waited for at all.
-/

namespace DiscoveryDemo.Clock

variable {sleepTimeUs : UInt64} {sleepStart now : Reading} {clock : Nat → Option Reading}

/-- For a reading that is not earlier the comparison is the one of the numbers. -/
theorem waits_iff (hle : sleepStart.sec ≤ now.sec) :
    waits sleepTimeUs sleepStart now = true ↔
      now.sec < sleepStart.sec + sleepTimeUs.toNat / 1000000 := by
  have hlt := now.sec_lt
  have hdiff : (((now.sec : Int) - sleepStart.sec) % 2 ^ 64).toNat = now.sec - sleepStart.sec := by
    rw [Int.emod_eq_of_lt (by omega) (by omega)]
    omega
  have hquot : (sleepTimeUs / 1000000).toNat = sleepTimeUs.toNat / 1000000 := UInt64.toNat_div _ _
  unfold waits
  rw [decide_eq_true_iff, hdiff, hquot]
  omega

/-- The loop ends with a reading for which it does not wait any more. -/
theorem busyLoop_ended {i k : Nat} (h : busyLoop sleepTimeUs sleepStart clock i k = .ended now) :
    ∃ m, clock m = some now ∧ waits sleepTimeUs sleepStart now = false := by
  induction i generalizing k with
  | zero => cases h
  | succ i ih =>
    rw [busyLoop] at h
    cases hc : clock k with
    | none =>
      rw [hc] at h
      cases h
    | some r =>
      simp only [hc] at h
      by_cases hw : waits sleepTimeUs sleepStart r = true
      · rw [if_pos hw] at h
        exact ih h
      · rw [if_neg hw] at h
        cases h
        exact ⟨k, hc, Bool.eq_false_iff.mpr hw⟩

theorem sec_le_of_total_le (h : sleepStart.total ≤ now.total) : sleepStart.sec ≤ now.sec := by
  have hnow := now.nsec_lt
  unfold Reading.total at h
  omega

theorem ended_reading {uninitialised : Reading} {i : Nat} (hstart : clock 0 = some sleepStart)
    (hmono : Monotonic clock) (h : testBusySleep sleepTimeUs uninitialised clock i = .ended now) :
    sleepStart.total ≤ now.total ∧ sleepStart.sec + sleepTimeUs.toNat / 1000000 ≤ now.sec := by
  unfold testBusySleep at h
  rw [hstart, Option.getD_some] at h
  obtain ⟨m, hm, hw⟩ := busyLoop_ended h
  have hle := hmono 0 m _ _ (Nat.zero_le m) hstart hm
  refine ⟨hle, ?_⟩
  rw [← Nat.not_lt, ← waits_iff (sec_le_of_total_le hle), hw]
  exact Bool.false_ne_true

/-- The clock that shows `sleepStart` and then `now`. -/
def twoReadings (sleepStart now : Reading) (k : Nat) : Option Reading :=
  if k = 0 then some sleepStart else some now

theorem monotonic_twoReadings (h : sleepStart.total ≤ now.total) :
    Monotonic (twoReadings sleepStart now) := by
  intro i j a b hij ha hb
  unfold twoReadings at ha hb
  by_cases hi : i = 0
  · rw [if_pos hi] at ha
    cases ha
    by_cases hj : j = 0
    · rw [if_pos hj] at hb
      cases hb
      exact le_refl _
    · rw [if_neg hj] at hb
      cases hb
      exact h
  · rw [if_neg hi] at ha
    rw [if_neg (by omega)] at hb
    cases ha
    cases hb
    exact le_refl _

/-- The loop may end with any reading that has enough whole seconds. -/
theorem twoReadings_ended (hle : sleepStart.total ≤ now.total)
    (hsec : sleepStart.sec + sleepTimeUs.toNat / 1000000 ≤ now.sec) :
    testBusySleep sleepTimeUs sleepStart (twoReadings sleepStart now) 1 = .ended now := by
  have hw : ¬waits sleepTimeUs sleepStart now = true := by
    rw [waits_iff (sec_le_of_total_le hle)]
    omega
  show (if waits sleepTimeUs sleepStart now then _ else Progress.ended now) = _
  rw [if_neg hw]

/-- **The busy wait is never short** exactly if there is nothing to wait for, or a number of whole
seconds from the beginning of a second on, or the loop has no end. -/
theorem neverShort_iff (sleepTimeUs : UInt64) (sleepStart : Reading) :
    NeverShort sleepTimeUs sleepStart ↔ WholeSeconds sleepTimeUs sleepStart := by
  have hstart := sleepStart.nsec_lt
  constructor
  · intro hnever
    by_contra hno
    obtain ⟨hpos, hrest⟩ := not_or.mp hno
    obtain ⟨hwhole, hfar⟩ := not_or.mp hrest
    have hrange := Nat.lt_of_not_le hfar
    have htime : sleepTimeUs.toNat ≠ 0 := fun h => hpos (UInt64.toNat_inj.mp h)
    by_cases hquot : sleepTimeUs.toNat / 1000000 = 0
    · -- the loop ends at once
      have hended : testBusySleep sleepTimeUs sleepStart (twoReadings sleepStart sleepStart) 1 =
        .ended sleepStart := twoReadings_ended (le_refl _) (by omega)
      have := hnever _ sleepStart 1 sleepStart rfl (monotonic_twoReadings (le_refl _)) hended
      omega
    · -- the loop ends with the beginning of the second that it waits for
      have hle : sleepStart.total ≤
          (⟨sleepStart.sec + sleepTimeUs.toNat / 1000000, 0, hrange, by decide⟩ : Reading).total := by
        show sleepStart.sec * 1000000000 + sleepStart.nsec ≤
          (sleepStart.sec + sleepTimeUs.toNat / 1000000) * 1000000000 + 0
        omega
      have hshort := hnever _ sleepStart 1 _ rfl (monotonic_twoReadings hle)
        (twoReadings_ended hle (le_refl _))
      have hshort' : sleepStart.sec * 1000000000 + sleepStart.nsec + sleepTimeUs.toNat * 1000 ≤
        (sleepStart.sec + sleepTimeUs.toNat / 1000000) * 1000000000 + 0 := hshort
      exact hwhole ⟨by omega, by omega⟩
  · rintro hcond clock uninitialised i now hfirst hmono hended
    obtain ⟨hle, hsec⟩ := ended_reading hfirst hmono hended
    rcases hcond with rfl | ⟨hdvd, hnsec⟩ | hrange
    · simpa using hle
    · unfold Reading.total
      omega
    · have hlt := now.sec_lt
      omega

/-- `SLEEP_TIME_US` -/
def sleepTime : UInt64 := 5500000

/-- The last nanosecond of a second. -/
def lateStart : Reading := ⟨100, 999999999, by decide, by decide⟩

/-- A wait for 5.5 seconds that takes 4 seconds and a nanosecond. -/
theorem busySleep_short :
    let now : Reading := ⟨105, 0, by decide, by decide⟩
    Monotonic (twoReadings lateStart now) ∧ twoReadings lateStart now 0 = some lateStart ∧
      testBusySleep sleepTime lateStart (twoReadings lateStart now) 1 = .ended now ∧
      now.total = lateStart.total + 4000000001 ∧ ¬NeverShort sleepTime lateStart := by
  have hmono : Monotonic (twoReadings lateStart ⟨105, 0, by decide, by decide⟩) :=
    monotonic_twoReadings (by decide)
  have hended : testBusySleep sleepTime lateStart
      (twoReadings lateStart ⟨105, 0, by decide, by decide⟩) 1 =
      .ended ⟨105, 0, by decide, by decide⟩ := by decide
  refine ⟨hmono, rfl, hended, by decide, fun hnever => ?_⟩
  exact absurd (hnever _ lateStart 1 _ rfl hmono hended) (by decide)

end DiscoveryDemo.Clock
