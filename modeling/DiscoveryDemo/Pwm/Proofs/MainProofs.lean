import DiscoveryDemo.Pwm.Main
import DiscoveryDemo.Sensor.Proofs.MainProofs

/-!
# Proofs: what `main` of ioexample6 reports

The steps before the clean-up fail exactly if one of the configuring calls does; `main` returns 0
whether they fail or not. The last section puts the two programs side by side.
-/

namespace DiscoveryDemo.Ioexample6

open CLib Driver

/-! ## The steps -/

theorem mem_runSteps {call : Call} {ss : List (Call × List Call)} (h : call ∈ runSteps ss) :
    ∃ p ∈ ss, call = p.1 ∨ call ∈ p.2 := by
  induction ss with
  | nil => exact absurd h List.not_mem_nil
  | cons p ss ih =>
    rcases List.mem_cons.mp h with hfirst | hnext
    · exact ⟨p, List.mem_cons_self, Or.inl hfirst⟩
    · split at hnext
      · exact absurd hnext List.not_mem_nil
      · rcases List.mem_append.mp hnext with hnext | hrest
        · exact ⟨p, List.mem_cons_self, Or.inr hnext⟩
        · obtain ⟨q, hq, hcall⟩ := ih hrest
          exact ⟨q, List.mem_cons_of_mem p hq, hcall⟩

/-- A step configures the PWM and, when that succeeds, waits for the user. -/
theorem steps_parts {env : Env} {p : Call × List Call} (hp : p ∈ steps env) :
    (∃ code, p.1.role = .uses code) ∧ ∀ call ∈ p.2, call.role = .other := by
  simp only [steps, List.mem_cons, List.not_mem_nil, or_false] at hp
  constructor
  · rcases hp with rfl | rfl | rfl | rfl | rfl | rfl <;> exact ⟨_, rfl⟩
  · rcases hp with rfl | rfl | rfl | rfl | rfl | rfl <;> simp [Call.role]

theorem steps_role {env : Env} {call : Call} (h : call ∈ runSteps (steps env)) :
    (∃ code, call.role = .uses code) ∨ call.role = .other := by
  obtain ⟨p, hp, hcall⟩ := mem_runSteps h
  obtain ⟨huses, hother⟩ := steps_parts hp
  rcases hcall with rfl | hnext
  · exact Or.inl huses
  · exact Or.inr (hother call hnext)

theorem runSteps_failed (ss : List (Call × List Call))
    (h : ∀ p ∈ ss, ¬Failed (p.2.map Call.role)) :
    Failed ((runSteps ss).map Call.role) ↔ ∃ p ∈ ss, p.1.role.reportsError = true := by
  induction ss with
  | nil => simp [runSteps]
  | cons p ss ih =>
    obtain ⟨hp, hss⟩ := List.forall_mem_cons.mp h
    unfold runSteps
    rw [List.map_cons, failed_cons]
    split
    · rename_i hfail
      exact iff_of_true (Or.inl hfail) ⟨p, List.mem_cons_self, hfail⟩
    · rename_i hfine
      rw [List.map_append, failed_append, ih hss]
      constructor
      · rintro (hfail | hfail | ⟨q, hq, hfail⟩)
        · exact absurd hfail hfine
        · exact absurd hfail hp
        · exact ⟨q, List.mem_cons_of_mem p hq, hfail⟩
      · rintro ⟨q, hq, hfail⟩
        rcases List.mem_cons.mp hq with rfl | hq
        · exact absurd hfail hfine
        · exact Or.inr (Or.inr ⟨q, hq, hfail⟩)

theorem steps_kept (env : Env) : Kept ((runSteps (steps env)).map Call.role) := by
  have hkept : ∀ call ∈ runSteps (steps env), call.role ≠ .closes ∧ call.role ≠ .frees := by
    intro call hcall
    rcases steps_role hcall with ⟨code, hrole⟩ | hrole <;> simp [hrole]
  constructor
  · intro h
    obtain ⟨call, hcall, hrole⟩ := List.mem_map.mp h
    exact (hkept call hcall).1 hrole
  · intro h
    obtain ⟨call, hcall, hrole⟩ := List.mem_map.mp h
    exact (hkept call hcall).2 hrole

theorem steps_failed (env : Env) :
    Failed ((runSteps (steps env)).map Call.role) ↔ ¬env.RunsWell := by
  rw [runSteps_failed]
  · simp [steps, Call.role, Role.reportsError, Env.RunsWell]
    omega
  · rintro p hp ⟨r, hr, hfail⟩
    obtain ⟨call, hcall, rfl⟩ := List.mem_map.mp hr
    rw [(steps_parts hp).2 call hcall] at hfail
    cases hfail

/-! ## The whole program -/

/-- Arguments that are rejected, or a PWM that cannot be opened, are accounted for. -/
theorem accounts_of_not_setsUp {env : Env} (hcreated : env.created = true) (h : ¬env.SetsUp) :
    Accounts env := by
  unfold Accounts
  cases hargs : chipAndChannel env.args with
  | none =>
    simp only [main, hargs]
    exact accounted_failure (Or.inl trivial) fun h => absurd h not_opened_nil
  | some c =>
    have hopen : env.opened < 0 := by
      by_contra hopen
      exact h ⟨by rw [hargs]; exact Option.some_ne_none c, Int.not_lt.mp hopen⟩
    simp only [main, hargs, hcreated, hopen, if_true, not_true, if_false]
    refine accounted_failure (Or.inr ?_) ?_
    · simp [Failed, Call.role, Role.reportsError, hopen]
    · rintro ⟨code, hcode, hmem⟩
      simp [Call.role] at hmem
      omega

/-- After the set-up the status is 0, and the PWM is disabled, closed and freed. -/
theorem accounts_iff_of_setsUp {env : Env} (hcreated : env.created = true) (h : env.SetsUp) :
    Accounts env ↔ env.RunsWell := by
  obtain ⟨haccepted, hopen⟩ := h
  obtain ⟨⟨chip, channel⟩, hargs⟩ := Option.ne_none_iff_exists'.mp haccepted
  set before : List Role :=
    [.other, .opens env.opened] ++ (runSteps (steps env)).map Call.role ++ [.releases] with hbefore
  have hmain : (main env).1 = 0 ∧ (main env).2.map Call.role = before ++ [.closes, .frees] := by
    simp only [main, hargs, hcreated, Int.not_lt.mpr hopen, not_true, if_false]
    exact ⟨trivial, by simp [hbefore, cleanup, Call.role]⟩
  have hkept : Kept before := by
    have hfirst : Kept [.other, .opens env.opened] := by simp [Kept]
    exact (hfirst.append (steps_kept env)).append (by simp [Kept])
  have hfailed : Failed (before ++ [.closes, .frees]) ↔ ¬env.RunsWell := by
    rw [failed_append, hbefore, failed_append, failed_append, steps_failed]
    simp [Failed, Role.reportsError, Int.not_lt.mpr hopen]
  unfold Accounts
  rw [hmain.1, hmain.2, accounted_success hkept.closedOnce, hfailed]
  constructor
  · intro h
    by_contra hwell
    exact h (Or.inr hwell)
  · rintro hwell (hrejected | hfail)
    · exact haccepted hrejected
    · exact hfail hwell

/-- **What ioexample6 reports.** Its exit status and its clean-up account for every run in which,
after the PWM has been opened, no configuring call fails; and for no other. -/
theorem accounts_iff {env : Env} (hcreated : env.created = true) :
    Accounts env ↔ (env.SetsUp → env.RunsWell) := by
  by_cases h : env.SetsUp
  · rw [accounts_iff_of_setsUp hcreated h]
    exact ⟨fun hwell _ => hwell, fun hwell => hwell h⟩
  · exact iff_of_true (accounts_of_not_setsUp hcreated h) fun h' => absurd h' h

/-! ## Both programs -/

/-- **Failures and the exit status.** The status tells whether an argument was rejected or an opening,
configuring or transfer call failed, and an opened device is closed once and freed once: in ioexample4
exactly if, after the set-up, `select` does not fail in `delay_us` and no transfer of the sampling
loop fails, in ioexample6 exactly if no configuring call fails. -/
theorem failures_reach_status (env4 : Ioexample4.Env) (env6 : Env) (hcreated : env6.created = true) :
    (Ioexample4.Accounts env4 ↔ (env4.SetsUp → env4.RunsWell)) ∧
      (Accounts env6 ↔ (env6.SetsUp → env6.RunsWell)) :=
  ⟨Ioexample4.accounts_iff env4, accounts_iff hcreated⟩

/-- A run of ioexample4 without arguments: one round, and a key pressed before the second. -/
def oneRound (temp : Sensor.Transfer) : Ioexample4.Env where
  args := []
  opened := 0
  regs := fun _ => 0
  term := ⟨⟨0, 0, 0, 0, []⟩, 0⟩
  settable := 0
  whoami := .done fun _ => 0
  ctrl1 := .done fun _ => 0
  delays := [.elapsed]
  rounds :=
    let idle : Sensor.Transfer := .done fun _ => 0
    [⟨none, 0, temp, .zeroed 6, .zeroed 7, .zeroed 7, idle, ⟨0, false⟩⟩,
      ⟨some NL, 0, idle, .zeroed 6, .zeroed 7, .zeroed 7, idle, ⟨0, false⟩⟩]

theorem oneRound_setsUp (temp : Sensor.Transfer) : (oneRound temp).SetsUp :=
  ⟨Option.some_ne_none _, Int.le_refl 0, Int.le_refl 0, Int.le_refl 0⟩

/-- A run of ioexample6 without arguments, in which only `pwm_set_frequency` may fail. -/
def setFrequency (code : Int) : Env := ⟨[], true, 0, code, 0, 0, 0, 0, 0⟩

theorem failures_reach_status_fine :
    Ioexample4.Accounts (oneRound (.done fun _ => 0)) ∧ Accounts (setFrequency 0) := by
  obtain ⟨h4, h6⟩ := failures_reach_status (oneRound (.done fun _ => 0)) (setFrequency 0) rfl
  constructor
  · refine h4.mpr fun _ => ?_
    show Ioexample4.Steady _
    rw [oneRound, Ioexample4.steady_cons, Ioexample4.steady_cons]
    refine ⟨fun _ => by simp [Ioexample4.Round.Fails, Ioexample4.transferCode], fun _ => ⟨?_, ?_⟩⟩
    · intro h
      cases h
    · rintro ⟨h, -⟩
      cases h
  · refine h6.mpr fun _ => ?_
    show ∀ code ∈ [0, 0, 0, 0, 0, 0], (0 : Int) ≤ code
    decide

/-- When the first temperature cannot be read, or the frequency cannot be set, the programs return
`EXIT_SUCCESS`. -/
theorem failures_end_in_success :
    Ioexample4.main (oneRound (.failed (-1) (by decide))) = .ok (.exited 0
      [.spiNew, .spiOpen Ioexample4.spiDevice 3 1000000 0, .spiTransfer 0x0F 0, .spiTransfer 0x20 0,
        .spiTransfer 0x26 (-1), .spiClose, .spiFree]) ∧
    ¬Ioexample4.Accounts (oneRound (.failed (-1) (by decide))) ∧
    main (setFrequency (-1)) =
      (0, [.pwmNew, .pwmOpen 0 0 0, .pwmSetFrequency 1000 (-1), .pwmDisable, .pwmClose, .pwmFree]) ∧
    ¬Accounts (setFrequency (-1)) := by
  refine ⟨rfl, ?_, rfl, ?_⟩
  · intro h
    have hsteady := (Ioexample4.accounts_iff _).mp h (oneRound_setsUp _)
    exact hsteady [] _ _ rfl (fun q hq => absurd hq List.not_mem_nil) rfl (Or.inl (by decide))
  · intro h
    have hwell := (accounts_iff rfl).mp h ⟨Option.some_ne_none _, Int.le_refl 0⟩
    exact absurd (hwell (-1) List.mem_cons_self) (by decide)

end DiscoveryDemo.Ioexample6
