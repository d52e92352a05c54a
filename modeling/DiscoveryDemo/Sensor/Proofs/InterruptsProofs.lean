import DiscoveryDemo.Sensor.Interrupts
import DiscoveryDemo.Sensor.Proofs.TerminalProofs

/-!
# Proofs: what a signal does to a delay

`delay_us` goes on with what is left of its time: what has elapsed and what remains are together what
was requested, after every signal. `delay_or_keypress` takes every answer of `select` that is not a key
for the end of its time, an interruption too.
-/

namespace DiscoveryDemo.Sensor

/-! ## Sleeping -/

theorem minus_micros (tv : Timeval) (time : Nat) : (tv.minus time).micros = tv.micros - time := by
  have h := Nat.div_add_mod (tv.micros - time) 1000000
  have hminus : (tv.minus time).micros =
      (tv.micros - time) / 1000000 * 1000000 + (tv.micros - time) % 1000000 := rfl
  omega

/-- `select` without descriptors sleeps to the end of its time, or to a signal before that. -/
theorem selectAlone_cases (w : World) (tv : Timeval) :
    selectAlone w tv = (.elapsed, tv.micros) ∨
      ∃ gap gaps, w.gaps = gap :: gaps ∧ gap ≤ tv.micros ∧
        selectAlone w tv = (.interrupted (tv.minus gap), gap) := by
  unfold selectAlone
  cases hgaps : w.gaps with
  | nil => exact Or.inl rfl
  | cons gap gaps =>
    by_cases h : gap ≤ tv.micros
    · exact Or.inr ⟨gap, gaps, rfl, h, if_pos h⟩
    · exact Or.inl (if_neg h)

/-- The next answer goes to the call of `select` that `delay_us` is in. -/
theorem delayLoop_append {tv tv' : Timeval} {answers : List Slept}
    (h : delayLoop tv answers = .waiting tv') (a : Slept) :
    delayLoop tv (answers ++ [a]) = delayLoop tv' [a] := by
  induction answers generalizing tv with
  | nil =>
    cases h
    rfl
  | cons b answers ih =>
    cases b with
    | elapsed => cases h
    | failed => cases h
    | interrupted left => exact ih h

section Sleep

variable {us : UInt32} {w : World} {s : Sleep}

/-- What has elapsed and what is left are what was requested. -/
def Sleep.Accounts (us : UInt32) (s : Sleep) : Prop :=
  (∃ tv, delayUs us s.answers = .waiting tv ∧ s.now.time + tv.micros = us.toNat) ∨
    delayUs us s.answers = .returned ∧ s.now.time = us.toNat

theorem accounts_call : Sleep.Accounts us ⟨[], w.start⟩ := by
  left
  refine ⟨timeout us, rfl, ?_⟩
  rw [timeout_micros]
  exact Nat.zero_add _

/-- A call of `select` that `delay_us` asks for keeps the account. -/
theorem Sleep.Accounts.select {tv : Timeval} (h : s.Accounts us)
    (hasks : delayUs us s.answers = .waiting tv) :
    Sleep.Accounts us ⟨s.answers ++ [(s.now.ask selectAlone tv).1], (s.now.ask selectAlone tv).2⟩ := by
  have htime : s.now.time + tv.micros = us.toNat := by
    rcases h with ⟨tv', hwaiting, htime⟩ | ⟨hreturned, -⟩
    · rw [hasks] at hwaiting
      cases hwaiting
      exact htime
    · rw [hasks] at hreturned
      cases hreturned
  have hnext : ∀ a, delayUs us (s.answers ++ [a]) = delayLoop tv [a] := fun a =>
    delayLoop_append hasks a
  rcases selectAlone_cases s.now.world tv with hselect | ⟨gap, gaps, -, hgap, hselect⟩
  · right
    rw [Moment.ask, hselect]
    exact ⟨hnext _, htime⟩
  · left
    rw [Moment.ask, hselect]
    refine ⟨tv.minus gap, hnext _, ?_⟩
    rw [minus_micros]
    show s.now.time + gap + (tv.micros - gap) = us.toNat
    omega

/-- **The account of a sleep** is kept in every run, however many signals interrupt it. -/
theorem Sleeps.accounts (h : Sleeps us w s) : s.Accounts us := by
  induction h with
  | call => exact accounts_call
  | select run hasks ih => exact ih.select hasks

/-- `delay_us` returns after finitely many signals: each call of `select` uses one up. -/
theorem Sleeps.returns (h : Sleeps us w s) :
    ∃ s', Sleeps us w s' ∧ delayUs us s'.answers = .returned := by
  generalize hgaps : s.now.world.gaps = gaps
  induction gaps generalizing s with
  | nil =>
    rcases h.accounts with ⟨tv, hasks, -⟩ | ⟨hreturned, -⟩
    · refine ⟨_, .select h hasks, ?_⟩
      rcases selectAlone_cases s.now.world tv with hselect | ⟨gap, gaps', hcons, -, -⟩
      · rw [Moment.ask, hselect]
        exact delayLoop_append hasks .elapsed
      · rw [hgaps] at hcons
        cases hcons
    · exact ⟨s, h, hreturned⟩
  | cons gap gaps ih =>
    rcases h.accounts with ⟨tv, hasks, -⟩ | ⟨hreturned, -⟩
    · rcases selectAlone_cases s.now.world tv with hselect | ⟨gap', gaps', hcons, hgap, hselect⟩
      · refine ⟨_, .select h hasks, ?_⟩
        rw [Moment.ask, hselect]
        exact delayLoop_append hasks .elapsed
      · rw [hgaps] at hcons
        cases hcons
        apply ih (.select h hasks)
        rw [Moment.ask, hselect]
        simp only [World.later, hgaps, if_pos (Nat.le_refl gap)]
    · exact ⟨s, h, hreturned⟩

theorem sleepsFully (us : UInt32) (w : World) : SleepsFully us w := by
  refine ⟨Sleeps.call.returns, ?_⟩
  intro s hrun hreturned
  rcases hrun.accounts with ⟨tv, hasks, -⟩ | ⟨-, htime⟩
  · rw [hreturned] at hasks
    cases hasks
  · exact htime.ge

end Sleep

/-! ## Waiting for a key -/

section Wait

variable {us : UInt32} {w : World}

/-- A key that is pressed before anything else ends the waiting. -/
theorem selectStdin_key {tv : Timeval} {k : Nat} (hkey : w.key = some k)
    (h : k ≤ (selectNoKey w.gaps tv).2) : selectStdin w tv = (⟨1, true⟩, k) := by
  simp only [selectStdin, hkey, if_pos h]

theorem selectStdin_noKey {tv : Timeval}
    (h : ∀ k, w.key = some k → (selectNoKey w.gaps tv).2 < k) :
    selectStdin w tv = selectNoKey w.gaps tv := by
  unfold selectStdin
  cases hkey : w.key with
  | none => rfl
  | some k => exact if_neg (Nat.not_le.mpr (h k hkey))

/-- Without a key `select` ends with the time, or with a signal before that. -/
theorem selectNoKey_cases (gaps : List Nat) (tv : Timeval) :
    (selectNoKey gaps tv = (⟨0, false⟩, tv.micros) ∧
        ∀ signal, gaps.head? = some signal → tv.micros < signal) ∨
      ∃ signal, gaps.head? = some signal ∧ signal ≤ tv.micros ∧
        selectNoKey gaps tv = (⟨-1, true⟩, signal) := by
  cases gaps with
  | nil =>
    left
    refine ⟨rfl, fun signal h => ?_⟩
    cases h
  | cons gap gaps =>
    by_cases h : gap ≤ tv.micros
    · exact Or.inr ⟨gap, rfl, h, if_pos h⟩
    · left
      refine ⟨if_neg h, fun signal hsignal => ?_⟩
      cases hsignal
      exact Nat.lt_of_not_le h

/-- `delay_or_keypress` returns when its only call of `select` does. -/
theorem waitForKey_time (settable : BitVec 32) (t : Terminal) :
    (waitForKey settable us t w).2.2.time = (selectStdin w (timeout us)).2 := by
  rw [waitForKey, delayOrKeypressIn_eq]
  exact Nat.zero_add _

/-- It returns 1 after a key press. -/
theorem waitForKey_key {k : Nat} (hkey : w.key = some k)
    (h : k ≤ (selectNoKey w.gaps (timeout us)).2) (settable : BitVec 32) (t : Terminal) :
    (waitForKey settable us t w).1 = 1 := by
  have hselect : (Moment.ask selectStdin (timeout us) w.start).1 = ⟨1, true⟩ :=
    congrArg Prod.fst (selectStdin_key hkey h)
  rw [waitForKey, delayOrKeypressIn_eq, hselect]
  rfl

/-- It returns 0 after everything else, be it an interruption. -/
theorem waitForKey_noKey (h : ∀ k, w.key = some k → (selectNoKey w.gaps (timeout us)).2 < k)
    (settable : BitVec 32) (t : Terminal) : (waitForKey settable us t w).1 = 0 := by
  have hselect : (Moment.ask selectStdin (timeout us) w.start).1 =
      (selectNoKey w.gaps (timeout us)).1 := congrArg Prod.fst (selectStdin_noKey h)
  rw [waitForKey, delayOrKeypressIn_eq, hselect]
  rcases selectNoKey_cases w.gaps (timeout us) with ⟨hwait, -⟩ | ⟨signal, -, -, hwait⟩
  · rw [hwait]
    rfl
  · rw [hwait]
    rfl

theorem waitsFully_of_key {k : Nat} (hkey : w.key = some k)
    (h : k ≤ (selectNoKey w.gaps (timeout us)).2) : WaitsFully us w := by
  intro settable t
  rw [waitForKey_key hkey h, waitForKey_time, selectStdin_key hkey h]
  exact ⟨fun h => absurd h (by decide), fun _ => ⟨k, hkey, Nat.le_refl k⟩⟩

theorem waitsFully_noKey_iff (h : ∀ k, w.key = some k → (selectNoKey w.gaps (timeout us)).2 < k) :
    WaitsFully us w ↔ us.toNat ≤ (selectNoKey w.gaps (timeout us)).2 := by
  constructor
  · intro hfully
    obtain ⟨hzero, -⟩ := hfully 0 ⟨⟨0, 0, 0, 0, []⟩, 0⟩
    rw [waitForKey_noKey h, waitForKey_time, selectStdin_noKey h] at hzero
    exact (hzero rfl).1
  · intro hlong settable t
    rw [waitForKey_noKey h, waitForKey_time, selectStdin_noKey h]
    refine ⟨fun _ => ⟨hlong, fun k hkey => ?_⟩, fun h => absurd h (by decide)⟩
    have hk := h k hkey
    omega

/-- `delay_or_keypress` keeps its word exactly if the first signal comes late. -/
theorem waitsFully_iff : WaitsFully us w ↔ LateSignals us w := by
  have hmicros := timeout_micros us
  have hcases := selectNoKey_cases w.gaps (timeout us)
  by_cases hpressed : ∃ k, w.key = some k ∧ k ≤ (selectNoKey w.gaps (timeout us)).2
  · obtain ⟨k, hkey, hk⟩ := hpressed
    refine iff_of_true (waitsFully_of_key hkey hk) fun signal hsignal => ?_
    rcases hcases with ⟨-, hlate⟩ | ⟨signal', hsignal', -, hwait⟩
    · have hlt := hlate signal hsignal
      omega
    · rw [hsignal] at hsignal'
      cases hsignal'
      rw [hwait] at hk
      exact Or.inr ⟨k, hkey, hk⟩
  · have hlate : ∀ k, w.key = some k → (selectNoKey w.gaps (timeout us)).2 < k := by
      intro k hkey
      exact Nat.lt_of_not_le fun hk => hpressed ⟨k, hkey, hk⟩
    rw [waitsFully_noKey_iff hlate]
    rcases hcases with ⟨hwait, hsignals⟩ | ⟨signal, hsignal, -, hwait⟩
    · rw [hwait, hmicros]
      refine iff_of_true (Nat.le_refl _) fun signal hsignal => ?_
      have hlt := hsignals signal hsignal
      omega
    · rw [hwait] at hlate ⊢
      constructor
      · intro h signal' hsignal'
        rw [hsignal] at hsignal'
        cases hsignal'
        exact Or.inl h
      · intro h
        rcases h signal hsignal with hus | ⟨k, hkey, hk⟩
        · exact hus
        · exact absurd hk (Nat.not_le.mpr (hlate k hkey))

/-- **Signals and delays.** No signal shortens `delay_us`; and none shortens `delay_or_keypress`
exactly if the first one comes after the time is over or after the key press. -/
theorem signals_shorten_nothing_iff :
    SleepsFully us w ∧ WaitsFully us w ↔ LateSignals us w := by
  rw [waitsFully_iff]
  exact ⟨fun h => h.2, fun h => ⟨sleepsFully us w, h⟩⟩

end Wait

/-- A signal after 10 of 1000 microseconds: `delay_or_keypress` returns 0 then, and no key was
pressed. -/
theorem signal_ends_wait :
    (∀ settable t, (waitForKey settable 1000 t ⟨[10], none⟩).1 = 0 ∧
        (waitForKey settable 1000 t ⟨[10], none⟩).2.2.time = 10) ∧
      ¬(SleepsFully 1000 ⟨[10], none⟩ ∧ WaitsFully 1000 ⟨[10], none⟩) := by
  refine ⟨fun settable t => ⟨rfl, rfl⟩, ?_⟩
  rintro ⟨-, h⟩
  have hlong : 1000 ≤ 10 := ((h 0 ⟨⟨0, 0, 0, 0, []⟩, 0⟩).1 rfl).1
  exact absurd hlong (by decide)

end DiscoveryDemo.Sensor
