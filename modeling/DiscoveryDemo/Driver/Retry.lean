/-!
# Retry loops

A program that waits for something tries it again and again, with a delay after each attempt in vain, and
gives up after a number of attempts. The world moves on with each delay; `now` counts them.
-/

namespace Driver

/-- What an attempt comes to. -/
inductive Attempt (Error : Type) where
  | done
  | again
  | failed (error : Error)
  deriving DecidableEq

/-- How waiting ends, and after how many delays. -/
inductive Waited (Error : Type) where
  | done (now : Nat)
  | failed (error : Error) (now : Nat)
  | timedOut (now : Nat)
  deriving DecidableEq

variable {Error : Type}

/-- At most `attempts` attempts from `now` on. -/
def retry (attempt : Nat → Attempt Error) : (attempts now : Nat) → Waited Error
  | 0, now => .timedOut now
  | attempts + 1, now =>
    match attempt now with
    | .done => .done now
    | .failed error => .failed error now
    | .again => retry attempt attempts (now + 1)

variable {attempt : Nat → Attempt Error}

/-- **Waiting succeeds with the first attempt that is not in vain**, if there is one in time. -/
theorem retry_done_iff (attempts now k : Nat) :
    retry attempt attempts now = .done k ↔
      now ≤ k ∧ k < now + attempts ∧ attempt k = .done ∧
        ∀ j, now ≤ j → j < k → attempt j = .again := by
  induction attempts generalizing now with
  | zero =>
    constructor
    · intro h
      cases h
    · rintro ⟨hlow, hhigh, -⟩
      omega
  | succ attempts ih =>
    unfold retry
    cases hnow : attempt now with
    | done =>
      constructor
      · intro h
        cases h
        exact ⟨Nat.le_refl _, by omega, hnow, fun j hlow hhigh => by omega⟩
      · rintro ⟨hlow, -, -, hbefore⟩
        rcases Nat.eq_or_lt_of_le hlow with rfl | hlt
        · rfl
        · rw [hbefore now (Nat.le_refl _) hlt] at hnow
          cases hnow
    | failed error =>
      constructor
      · intro h
        cases h
      · rintro ⟨hlow, -, hdone, hbefore⟩
        rcases Nat.eq_or_lt_of_le hlow with rfl | hlt
        · rw [hdone] at hnow
          cases hnow
        · rw [hbefore now (Nat.le_refl _) hlt] at hnow
          cases hnow
    | again =>
      dsimp only
      rw [ih (now + 1)]
      constructor
      · rintro ⟨hlow, hhigh, hdone, hbefore⟩
        refine ⟨by omega, by omega, hdone, fun j hj hjk => ?_⟩
        rcases Nat.eq_or_lt_of_le hj with rfl | hlt
        · exact hnow
        · exact hbefore j hlt hjk
      · rintro ⟨hlow, hhigh, hdone, hbefore⟩
        have hne : now ≠ k := by
          rintro rfl
          rw [hdone] at hnow
          cases hnow
        exact ⟨by omega, by omega, hdone, fun j hj hjk => hbefore j (by omega) hjk⟩

/-- Waiting times out if all attempts have been in vain. -/
theorem retry_timedOut {attempts now k : Nat} (h : retry attempt attempts now = .timedOut k) :
    ∀ j, now ≤ j → j < now + attempts → attempt j = .again := by
  induction attempts generalizing now with
  | zero =>
    intro j hlow hhigh
    omega
  | succ attempts ih =>
    unfold retry at h
    intro j hlow hhigh
    cases hnow : attempt now with
    | done =>
      rw [hnow] at h
      cases h
    | failed error =>
      rw [hnow] at h
      cases h
    | again =>
      rw [hnow] at h
      rcases Nat.eq_or_lt_of_le hlow with rfl | hlt
      · exact hnow
      · exact ih h j hlt (by omega)

/-- An attempt that fails for good ends the waiting at once. -/
theorem retry_failed {attempts now : Nat} {error : Error} (hpos : 0 < attempts)
    (h : attempt now = .failed error) : retry attempt attempts now = .failed error now := by
  obtain ⟨n, rfl⟩ := Nat.exists_eq_succ_of_ne_zero (Nat.ne_of_gt hpos)
  rw [retry, h]

/-- An attempt that is not in vain ends the waiting at once. -/
theorem retry_now {attempts now : Nat} (hpos : 0 < attempts) (h : attempt now = .done) :
    retry attempt attempts now = .done now :=
  (retry_done_iff attempts now now).mpr
    ⟨Nat.le_refl _, by omega, h, fun j hlow hhigh => by omega⟩

end Driver
