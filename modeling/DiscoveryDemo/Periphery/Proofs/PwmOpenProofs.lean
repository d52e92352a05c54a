import DiscoveryDemo.Periphery.Proofs.PwmProofs

/-!
# Proofs: opening a PWM channel

`pwm_open` waits for the file of the period to become writable. It means to wait for the channel to appear
first, but looks for the file `export`, which is always there.
-/

namespace DiscoveryDemo.Periphery.Pwm

open CLib Driver

/-! ## Opening -/

section Opening

variable {w : World} {chip channel : UInt32}

/-- `pwm_open` has found the channel or exported it. -/
def opened (s : System) (a : Answers) (chip channel : UInt32) (now : Nat) :
    Except Fault ((Int × Nat) × System) := do
  match ← pwmGetPeriodNs { s with pwm := ⟨chip, channel, 0, Error.none⟩ } a with
  | (.error code, s) => return ((code, now), s)
  | (.ok _, s) => return ((0, now), s)

/-- At the end `pwm_open` reads the period. -/
theorem opened_spec (s : System) (a : Answers) (chip channel : UInt32) (now : Nat) :
    (¬a.file.Broken ∧ s.channel.period.toNat ≤ ulongMax ∧
        opened s a chip channel now =
          .ok ((0, now), { s with pwm := ⟨chip, channel, s.channel.period, Error.none⟩ })) ∨
      (¬(¬a.file.Broken ∧ s.channel.period.toNat ≤ ulongMax) ∧
        ∃ s', opened s a chip channel now = .ok ((errorQuery, now), s')) := by
  unfold opened pwmGetPeriodNs
  rcases @getNs_spec { s with pwm := ⟨chip, channel, 0, Error.none⟩ } a .period s.channel.period rfl
    (lit "Unknown PWM 'period' value") with ⟨hroom, hget⟩ | ⟨e, hroom, hget⟩
  · refine Or.inl ⟨hroom.1, hroom.2, ?_⟩
    rw [hget]
    rfl
  · refine Or.inr ⟨hroom, ⟨{ s with pwm := ⟨chip, channel, 0, e⟩ }, ?_⟩⟩
    rw [hget]
    rfl

/-- The channel is not there, its number can be written to `export`, and `export` does not go away. -/
structure World.Exports (w : World) (chip channel : UInt32) : Prop where
  absent : w.stat (channelPath chip channel) 0 ≠ none
  written : ¬w.exporting.Broken
  stays : w.stat (exportPath chip) 0 = none

theorem writeFile_fine {Device : Type} {a : FileAnswers} (ha : ¬a.Broken) {d d' : Device}
    {store : List Byte → Except Nat Device} {text : List Byte} (hstore : store text = .ok d') :
    writeFile a store d text = (.ok (), d') := by
  obtain ⟨opened, io, closed⟩ := a
  simp only [FileAnswers.Broken, not_or, not_not] at ha
  obtain ⟨rfl, rfl, rfl⟩ := ha
  simp only [writeFile, hstore]

theorem periodAttempt_done (path : List Byte) (now : Nat) :
    periodAttempt w path 0 now = .done ↔ w.openW path now = none := by
  unfold periodAttempt
  cases w.openW path now with
  | none => simp
  | some e =>
    dsimp only
    constructor
    · intro h
      split at h
      · cases h
      · cases h
    · intro h
      cases h

theorem periodAttempt_again (path : List Byte) (now : Nat) :
    periodAttempt w path 0 now = .again ↔ w.openW path now = some eacces ∧ now ≠ 9 := by
  have hlast : exportStatRetries - 1 = 9 := rfl
  unfold periodAttempt
  cases w.openW path now with
  | none => simp
  | some e =>
    dsimp only
    rw [hlast, Nat.sub_zero]
    by_cases he : e = eacces <;> by_cases hnow : now = 9 <;> simp [he, hnow]

/-- The second loop never runs out of attempts. -/
theorem periodAttempt_ends (path : List Byte) (k : Nat) :
    retry (periodAttempt w path 0) exportStatRetries 0 ≠ .timedOut k := by
  intro h
  have hlast := retry_timedOut h 9 (Nat.zero_le 9) (by decide)
  exact ((periodAttempt_again path 9).mp hlast).2 rfl

/-- The first loop looks for `export` and goes on at once; what it comes to is decided by the second. -/
theorem exportChannel_cases (hw : w.Exports chip channel) :
    (∃ k, retry (periodAttempt w (periodPath chip channel) 0) exportStatRetries 0 = .done k ∧
        exportChannel w chip channel = (.ok (), k)) ∨
      ∃ e text k, retry (periodAttempt w (periodPath chip channel) 0) exportStatRetries 0 = .failed e k ∧
        exportChannel w chip channel = (.error (e, text), k) := by
  have hstat : statAttempt w (exportPath chip) 0 = .done := by
    rw [statAttempt, hw.stays]
  have hretry : retry (statAttempt w (exportPath chip)) exportStatRetries 0 = .done 0 :=
    retry_now (by decide) hstat
  have hwrite := @writeFile_fine Unit w.exporting hw.written () () (fun _ => .ok ())
    (printUnsigned channel.toNat ++ [NL]) rfl
  have hends := periodAttempt_ends (w := w) (periodPath chip channel)
  unfold exportChannel
  rw [hwrite]
  simp only [hretry]
  revert hends
  cases retry (periodAttempt w (periodPath chip channel) 0) exportStatRetries 0 with
  | done k => exact fun _ => Or.inl ⟨k, rfl, rfl⟩
  | timedOut k => exact fun hends => absurd rfl (hends k)
  | failed e k => exact fun _ => Or.inr ⟨e, _, k, rfl, rfl⟩

theorem pwmOpen_export (hw : w.Exports chip channel) (s : System) (a : Answers) :
    (∃ k, retry (periodAttempt w (periodPath chip channel) 0) exportStatRetries 0 = .done k ∧
        pwmOpen s w a chip channel = opened s a chip channel k) ∨
      ∃ e k s', retry (periodAttempt w (periodPath chip channel) 0) exportStatRetries 0 = .failed e k ∧
        pwmOpen s w a chip channel = .ok ((errorOpen, k), s') := by
  unfold pwmOpen
  rcases exportChannel_cases hw with ⟨k, hretry, heq⟩ | ⟨e, text, k, hretry, heq⟩
  · simp only [hw.absent, if_false, heq]
    exact Or.inl ⟨k, hretry, rfl⟩
  · simp only [hw.absent, if_false, heq]
    exact Or.inr ⟨e, k, _, hretry, rfl⟩

/-- **`pwm_open` waits for permission, not for the channel**: a channel that has to be exported is opened
after `k` delays just if the file of its period is there from the start, refuses access at first, and can
be opened after less than ten delays; whether the directory of the channel has appeared is never asked,
and if the file of the period is not there at once then opening fails without a delay. -/
theorem open_waits_for_permission (hw : w.Exports chip channel) (s : System) (a : Answers) :
    (∀ k, (∃ s', pwmOpen s w a chip channel = .ok ((0, k), s')) ↔
        k < 10 ∧ w.openW (periodPath chip channel) k = none ∧
          (∀ j < k, w.openW (periodPath chip channel) j = some eacces) ∧
          ¬a.file.Broken ∧ s.channel.period.toNat ≤ ulongMax) ∧
      ∀ e, w.openW (periodPath chip channel) 0 = some e → e ≠ eacces →
        ∃ s', pwmOpen s w a chip channel = .ok ((errorOpen, 0), s') := by
  have hquery : errorQuery ≠ 0 := by decide
  have hopen : errorOpen ≠ 0 := by decide
  constructor
  · intro k
    have hdone : retry (periodAttempt w (periodPath chip channel) 0) exportStatRetries 0 = .done k ↔
        k < 10 ∧ w.openW (periodPath chip channel) k = none ∧
          ∀ j < k, w.openW (periodPath chip channel) j = some eacces := by
      rw [retry_done_iff, periodAttempt_done]
      constructor
      · rintro ⟨-, hk, hnone, hbefore⟩
        exact ⟨by simpa [exportStatRetries] using hk, hnone,
          fun j hj => ((periodAttempt_again _ j).mp (hbefore j (Nat.zero_le j) hj)).1⟩
      · rintro ⟨hk, hnone, hbefore⟩
        refine ⟨Nat.zero_le k, by simpa [exportStatRetries] using hk, hnone, fun j _ hj => ?_⟩
        exact (periodAttempt_again _ j).mpr ⟨hbefore j hj, by omega⟩
    constructor
    · rintro ⟨s', hs'⟩
      rcases pwmOpen_export hw s a with ⟨k', hretry, heq⟩ | ⟨e, k', s'', hretry, heq⟩
      · rw [heq] at hs'
        rcases opened_spec s a chip channel k' with ⟨hfine, hle, hok⟩ | ⟨-, s'', hbad⟩
        · rw [hok] at hs'
          cases hs'
          obtain ⟨hk, hnone, hbefore⟩ := hdone.mp hretry
          exact ⟨hk, hnone, hbefore, hfine, hle⟩
        · rw [hbad] at hs'
          cases hs'
      · rw [heq] at hs'
        cases hs'
    · rintro ⟨hk, hnone, hbefore, hfine, hle⟩
      have hretry := hdone.mpr ⟨hk, hnone, hbefore⟩
      rcases pwmOpen_export hw s a with ⟨k', hretry', heq⟩ | ⟨e, k', s'', hretry', -⟩
      · rw [hretry] at hretry'
        cases hretry'
        rcases opened_spec s a chip channel k with ⟨-, -, hok⟩ | ⟨hno, -⟩
        · exact ⟨_, heq.trans hok⟩
        · exact absurd ⟨hfine, hle⟩ hno
      · rw [hretry] at hretry'
        cases hretry'
  · intro e hopenW hne
    have hfailed : retry (periodAttempt w (periodPath chip channel) 0) exportStatRetries 0 =
        .failed e 0 := by
      have hattempt : periodAttempt w (periodPath chip channel) 0 0 = .failed e := by
        rw [periodAttempt, hopenW]
        exact if_pos (Or.inl hne)
      exact retry_failed (by decide) hattempt
    rcases pwmOpen_export hw s a with ⟨k', hretry', -⟩ | ⟨e', k', s', hretry', heq⟩
    · rw [hfailed] at hretry'
      cases hretry'
    · rw [hfailed] at hretry'
      cases hretry'
      exact ⟨s', heq⟩

end Opening

/-- A channel whose files appear at once, without access until three delays have passed. -/
def slowChannel : World where
  stat path now := if path = channelPath 0 1 ∧ now = 0 then some enoent else none
  openW _ now := if now < 3 then some eacces else none
  exporting := ⟨none, none, none⟩

/-- A channel of 1 kHz. -/
def kilohertz : Channel := ⟨1000000, 250000, false, false⟩

/-- Nothing fails. -/
def Answers.fine : Answers := ⟨⟨none, none, none⟩, Buf.zeroed, 0⟩

theorem exports_slowChannel : slowChannel.Exports 0 1 := by
  refine ⟨?_, ?_, ?_⟩
  · show (if channelPath 0 1 = channelPath 0 1 ∧ 0 = 0 then some enoent else none) ≠ none
    rw [if_pos ⟨rfl, rfl⟩]
    exact Option.some_ne_none enoent
  · decide
  · show (if exportPath 0 = channelPath 0 1 ∧ 0 = 0 then some enoent else none) = none
    rw [if_neg (by decide)]

theorem open_waits_for_permission_slow :
    (∀ k, (∃ s', pwmOpen ⟨pwmNew, kilohertz⟩ slowChannel Answers.fine 0 1 = .ok ((0, k), s')) ↔
        k < 10 ∧ slowChannel.openW (periodPath 0 1) k = none ∧
          (∀ j < k, slowChannel.openW (periodPath 0 1) j = some eacces) ∧
          ¬Answers.fine.file.Broken ∧ kilohertz.period.toNat ≤ ulongMax) ∧
      ∀ e, slowChannel.openW (periodPath 0 1) 0 = some e → e ≠ eacces →
        ∃ s', pwmOpen ⟨pwmNew, kilohertz⟩ slowChannel Answers.fine 0 1 = .ok ((errorOpen, 0), s') :=
  open_waits_for_permission exports_slowChannel ⟨pwmNew, kilohertz⟩ Answers.fine

/-! ## The period that is remembered -/

/-- What `pwm_open` leaves behind when it succeeds. -/
theorem pwmOpen_ok {s s' : System} {w : World} {a : Answers} {chip channel : UInt32} {k : Nat}
    (h : pwmOpen s w a chip channel = .ok ((0, k), s')) :
    s' = { s with pwm := ⟨chip, channel, s.channel.period, Error.none⟩ } := by
  have hopened : ∀ now, opened s a chip channel now = .ok ((0, k), s') →
      s' = { s with pwm := ⟨chip, channel, s.channel.period, Error.none⟩ } := by
    intro now heq
    rcases opened_spec s a chip channel now with ⟨-, -, hok⟩ | ⟨-, s'', hbad⟩
    · rw [hok] at heq
      cases heq
      rfl
    · rw [hbad] at heq
      cases heq
  unfold pwmOpen at h
  by_cases hfound : w.stat (channelPath chip channel) 0 = none
  · simp only [hfound, if_true] at h
    exact hopened 0 h
  · simp only [hfound, if_false] at h
    revert h
    cases exportChannel w chip channel with
    | mk ready now =>
      cases ready with
      | error e =>
        intro h
        cases h
      | ok u => exact hopened now

/-- **The remembered period is the channel's**: after a channel has been opened and any calls have been
made, the period that the handle remembers for its duty cycles is the one that the channel has, unless
`close` has failed after a period had been written. -/
theorem period_remembered {check : Channel → Option Nat} {s s' : System} {w : World} {a : Answers}
    {chip channel : UInt32} {k : Nat} (h : pwmOpen s w a chip channel = .ok ((0, k), s'))
    {calls : List (Call × Answers)} (hcalls : ∀ c ∈ calls, Closes c) :
    (run (exec check) s' calls).2.pwm.periodNs = (run (exec check) s' calls).2.channel.period := by
  have hstart : Remembers s' := by
    rw [pwmOpen_ok h]
    rfl
  exact @run_invariant _ _ _ (exec check) Remembers Closes (fun s c hc hs => hs.exec hc) s' hstart calls
    hcalls

/-- A period is set and cannot be read, for one with ten digits is more than `unsigned long` has room
for, and the next one is refused. -/
theorem period_remembered_long :
    let s' : System := ⟨⟨0, 1, 1000000, Error.none⟩, kilohertz⟩
    let calls := [(Call.setPeriodNs 5000000000, Answers.fine), (.getPeriodNs, Answers.fine),
      (.setPeriodNs 18446744073709551615, Answers.fine)]
    (run (exec fun _ => none) s' calls).2.pwm.periodNs =
      (run (exec fun _ => none) s' calls).2.channel.period :=
  @period_remembered (fun _ => none) ⟨pwmNew, kilohertz⟩ _ slowChannel Answers.fine 0 1 3 rfl _ (by
    intro c hc ns hns
    rcases List.mem_cons.mp hc with rfl | hc
    · rfl
    · rcases List.mem_cons.mp hc with rfl | hc
      · cases hns
      · rw [List.mem_singleton.mp hc]
        rfl)

end DiscoveryDemo.Periphery.Pwm
