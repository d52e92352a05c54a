import DiscoveryDemo.Periphery.Proofs.PwmOpenProofs
import DiscoveryDemo.Pwm.Session

/-!
# Proofs: what the user of ioexample6 is shown

The program goes on only as long as the calls succeed, and each of them leaves alone what the ones before
it have set.
-/

namespace DiscoveryDemo.Ioexample6

open CLib Periphery Pwm

variable {check : Channel → Option Nat} {answers : Nat → Answers} {s : System} {n : Nat}

/-! ## Calls that succeed -/

section Succeeds

variable {a : Answers}

/-- An attribute that has been written without an error. -/
theorem write_done {attr : Attribute} {text : List Byte} {c : Channel}
    (h : Takes check s.channel attr text (some c))
    (hok : 0 ≤ (pwmWriteAttribute check s a attr text).1) :
    (pwmWriteAttribute check s a attr text).2.channel = c ∧
      (pwmWriteAttribute check s a attr text).2.pwm.periodNs = s.pwm.periodNs := by
  have hneg : ¬0 ≤ errorConfigure := by decide
  obtain ⟨hcode, -, hchannel, hperiod⟩ := setter_spec (a := a) h
  refine ⟨?_, hperiod⟩
  rw [hcode] at hok
  rw [hchannel]
  rcases change_cases check a.file s.channel (some c) with heq | ⟨c', hc', -, heq⟩ | ⟨c', hc', heq⟩
  · rw [heq] at hok
    exact absurd hok hneg
  · rw [heq] at hok
    exact absurd hok hneg
  · rw [heq]
    exact (Option.some.inj hc').symm

/-- A period of one millisecond. -/
structure Configured (s : System) : Prop where
  remembered : s.pwm.periodNs = 1000000
  period : s.channel.period = 1000000

structure On (s : System) : Prop extends Configured s where
  enabled : s.channel.enabled = true

theorem setFrequency_done (hok : 0 ≤ (pwmSetFrequency check s a 1000).1) :
    Configured (pwmSetFrequency check s a 1000).2 := by
  have hneg : ¬0 ≤ errorConfigure := by decide
  have hfloor : (1000000000 / (1000 : Rat)).floor = 1000000 := by decide +kernel
  have hset : pwmSetFrequency check s a 1000 = pwmSetPeriodNs check s a 1000000 := by
    unfold pwmSetFrequency
    rw [hfloor]
    rfl
  rw [hset] at hok ⊢
  obtain ⟨hcode, -, hchannel, hperiod⟩ := pwmSetPeriodNs_spec check s a 1000000
  rw [hcode] at hok
  rw [if_neg (by omega)] at hperiod
  refine ⟨hperiod, ?_⟩
  rw [hchannel]
  rcases change_cases check a.file s.channel (some { s.channel with period := 1000000 }) with
    heq | ⟨c', -, -, heq⟩ | ⟨c', hc', heq⟩
  · exact absurd (le_of_le_of_eq hok (congrArg (·.1.1) heq)) hneg
  · exact absurd (le_of_le_of_eq hok (congrArg (·.1.1) heq)) hneg
  · cases hc'
    exact congrArg (·.2.period) heq

theorem setEnabled_done (h : Configured s) (hok : 0 ≤ (pwmSetEnabled check s a true).1) :
    On (pwmSetEnabled check s a true).2 := by
  obtain ⟨hchannel, hperiod⟩ := write_done (takes_enabled s.channel true) hok
  refine ⟨⟨hperiod.trans h.remembered, ?_⟩, ?_⟩
  · exact (congrArg Channel.period hchannel).trans h.period
  · exact congrArg Channel.enabled hchannel

/-- A part `d` of the period that is `ns` nanoseconds long. -/
theorem setDutyCycle_done (h : On s) {d : Rat} {ns : UInt64} (hd : ¬(d < 0 ∨ d > 1))
    (hns : ((1000000 : UInt64).toNat * d : Rat).floor.toNat = ns.toNat) (hsmall : ns.toNat < 2 ^ 63)
    (hok : 0 ≤ (pwmSetDutyCycle check s a d).1) :
    On (pwmSetDutyCycle check s a d).2 ∧ (pwmSetDutyCycle check s a d).2.channel.dutyCycle = ns := by
  have hset : pwmSetDutyCycle check s a d = pwmSetDutyCycleNs check s a ns := by
    unfold pwmSetDutyCycle
    rw [if_neg hd, h.remembered, hns, UInt64.ofNat_toNat]
  rw [hset] at hok ⊢
  have htakes := @takes_dutyCycle check s.channel ns
  rw [if_pos hsmall] at htakes
  obtain ⟨hchannel, hperiod⟩ := write_done htakes hok
  refine ⟨⟨⟨hperiod.trans h.remembered, ?_⟩, ?_⟩, ?_⟩
  · exact (congrArg Channel.period hchannel).trans h.period
  · exact (congrArg Channel.enabled hchannel).trans h.enabled
  · exact congrArg Channel.dutyCycle hchannel

end Succeeds

/-! ## The session -/

/-- The program does not wait any more once it cleans up. -/
theorem shown_cleanup (n : Nat) (s : System) : Shown check answers n s cleanup :=
  ⟨fun _ h => Call.noConfusion h, fun _ h => Call.noConfusion h, fun _ h => Call.noConfusion h, trivial⟩

/-- A step goes on only if its call has succeeded. -/
theorem shown_step {call : Call} {next : List Call} {rest : List (Call × List Call)} {code : Int}
    (hreturned : call.returned = some code) (hrole : call.role = .uses code)
    (hagrees : Agrees check answers n s (runSteps ((call, next) :: rest) ++ cleanup))
    (hnext : 0 ≤ (call.perform check s (answers n)).1 →
      Agrees check answers (n + 1) (call.perform check s (answers n)).2
        (next ++ (runSteps rest ++ cleanup)) →
      Shown check answers (n + 1) (call.perform check s (answers n)).2
        (next ++ (runSteps rest ++ cleanup))) :
    Shown check answers n s (runSteps ((call, next) :: rest) ++ cleanup) := by
  have hcall : ∀ message, call ≠ .waitForUser message := by
    rintro message rfl
    cases hreturned
  unfold runSteps at hagrees ⊢
  rw [List.cons_append] at hagrees ⊢
  obtain ⟨hcode, hagrees⟩ := hagrees
  refine ⟨fun message h => absurd h (hcall message), ?_⟩
  rw [hrole] at hagrees ⊢
  by_cases hfails : code < 0
  · have hreports : (Driver.Role.uses code).reportsError = true := decide_eq_true hfails
    rw [if_pos hreports]
    exact shown_cleanup _ _
  · have hfine : ¬(Driver.Role.uses code).reportsError = true := by
      intro h
      exact hfails (of_decide_eq_true h)
    rw [if_neg hfine, List.append_assoc] at hagrees ⊢
    refine hnext ?_ hagrees
    rw [hcode code hreturned]
    exact Int.not_lt.mp hfails

/-- The user is told what the channel does, and goes on. -/
theorem shown_wait {message : List Byte} {calls : List Call} (hmessage : Announced message s.channel)
    (hrest : Agrees check answers (n + 1) s calls → Shown check answers (n + 1) s calls)
    (hagrees : Agrees check answers n s (.waitForUser message :: calls)) :
    Shown check answers n s (.waitForUser message :: calls) := by
  refine ⟨fun m h => ?_, hrest hagrees.2⟩
  cases h
  exact hmessage

/-- A step that sets the duty cycle to `percent` and waits. -/
theorem shown_duty (h : On s) {d : Rat} {percent : Nat} {code : Int}
    {rest : List (Call × List Call)} (hd : ¬(d < 0 ∨ d > 1)) (hpercent : percent ≤ 100)
    (hns : ((1000000 : UInt64).toNat * d : Rat).floor.toNat = percent * 10000)
    (hrest : ∀ s' : System, On s' → ∀ n, Agrees check answers n s' (runSteps rest ++ cleanup) →
      Shown check answers n s' (runSteps rest ++ cleanup))
    (hagrees : Agrees check answers n s (runSteps ((.pwmSetDutyCycle d code,
      [.waitForUser (lit "Observe LED brightness at " ++ printUnsigned percent ++ lit "% duty")]) :: rest) ++
        cleanup)) :
    Shown check answers n s (runSteps ((.pwmSetDutyCycle d code,
      [.waitForUser (lit "Observe LED brightness at " ++ printUnsigned percent ++ lit "% duty")]) :: rest) ++
        cleanup) := by
  have hvalue : (UInt64.ofNat (percent * 10000)).toNat = percent * 10000 :=
    UInt64.toNat_ofNat_of_lt' (by show percent * 10000 < 2 ^ 64; omega)
  refine shown_step rfl rfl hagrees fun hok hagrees' => ?_
  obtain ⟨hon, hduty⟩ := setDutyCycle_done h hd (hns.trans hvalue.symm) (by omega) hok
  refine shown_wait ⟨percent, rfl, hon.enabled, hon.period, ?_⟩ (hrest _ hon _) hagrees'
  have hperiod : (pwmSetDutyCycle check s (answers n) d).2.channel.period.toNat = 1000000 := by
    rw [hon.period]
    rfl
  show (pwmSetDutyCycle check s (answers n) d).2.channel.dutyCycle.toNat * 100 =
    percent * (pwmSetDutyCycle check s (answers n) d).2.channel.period.toNat
  rw [hduty, hvalue, hperiod]
  omega

/-- From `pwm_open` on. -/
theorem shown_session (env : Env) (n : Nat) (s : System)
    (hagrees : Agrees check answers n s (runSteps (steps env) ++ cleanup)) :
    Shown check answers n s (runSteps (steps env) ++ cleanup) := by
  have hend : ∀ s' : System, On s' → ∀ n, Agrees check answers n s' (runSteps [] ++ cleanup) →
      Shown check answers n s' (runSteps [] ++ cleanup) := fun s' _ n _ => shown_cleanup n s'
  refine shown_step rfl rfl hagrees fun hok hagrees => ?_
  have hconfigured := setFrequency_done hok
  refine shown_step rfl rfl hagrees fun hok hagrees => ?_
  have hon := setEnabled_done hconfigured hok
  refine @shown_duty _ _ _ _ hon (1 / 4) 25 _ _ (by decide +kernel) (by decide) (by decide +kernel) ?_ hagrees
  intro s' hon n hagrees
  refine @shown_duty _ _ _ _ hon (1 / 2) 50 _ _ (by decide +kernel) (by decide) (by decide +kernel) ?_ hagrees
  intro s' hon n hagrees
  refine @shown_duty _ _ _ _ hon (3 / 4) 75 _ _ (by decide +kernel) (by decide) (by decide +kernel) ?_ hagrees
  intro s' hon n hagrees
  exact @shown_duty _ _ _ _ hon 1 100 _ _ (by decide +kernel) (by decide) (by decide +kernel) hend hagrees

/-- **The user is shown what is announced**: in every run, whatever the driver accepts and whichever
system calls fail, as long as the library returns what the program has got back, the channel is enabled
with a period of one millisecond and has the announced duty cycle whenever the program waits. -/
theorem announced_is_shown {env : Env} (h : Agrees check answers n s (main env).2) :
    Shown check answers n s (main env).2 := by
  unfold main at h ⊢
  cases hargs : chipAndChannel env.args with
  | none => exact trivial
  | some pin =>
    obtain ⟨chip, channel⟩ := pin
    rw [hargs] at h
    dsimp only at h ⊢
    by_cases hcreated : env.created = true
    · rw [if_neg (not_not.mpr hcreated)] at h ⊢
      by_cases hopened : env.opened < 0
      · rw [if_pos hopened]
        exact ⟨fun _ h => Call.noConfusion h, fun _ h => Call.noConfusion h,
          fun _ h => Call.noConfusion h, trivial⟩
      · rw [if_neg hopened] at h ⊢
        rw [List.append_assoc] at h ⊢
        exact ⟨fun _ h => Call.noConfusion h, fun _ h => Call.noConfusion h,
          shown_session env _ _ h.2.2⟩
    · rw [if_pos hcreated]
      exact ⟨fun _ h => Call.noConfusion h, trivial⟩

/-- The second duty cycle cannot be written. -/
theorem announced_is_shown_failing :
    let env : Env := ⟨[], true, 0, 0, 0, 0, -4, 0, 0⟩
    let answers : Nat → Answers := fun n =>
      if n = 6 then { Answers.fine with file := ⟨none, some 5, none⟩ } else Answers.fine
    Shown (fun _ => none) answers 0 ⟨⟨0, 0, 0, Error.none⟩, ⟨0, 0, false, false⟩⟩ (main env).2 :=
  announced_is_shown (by
    refine ⟨?_, ?_, ?_, ?_, ?_, ?_, ?_, ?_, ?_, ?_, trivial⟩
    · rintro code ⟨⟩
    · rintro code ⟨⟩
    · rintro code ⟨⟩
      decide +kernel
    · rintro code ⟨⟩
      decide +kernel
    · rintro code ⟨⟩
      decide +kernel
    · rintro code ⟨⟩
    · rintro code ⟨⟩
      decide +kernel
    · rintro code ⟨⟩
    · rintro code ⟨⟩
    · rintro code ⟨⟩)

end DiscoveryDemo.Ioexample6
