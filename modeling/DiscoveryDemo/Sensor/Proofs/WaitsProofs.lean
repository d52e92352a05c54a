import DiscoveryDemo.CLib.Proofs.StrtolProofs
import DiscoveryDemo.Sensor.Proofs.MainProofs
import DiscoveryDemo.Sensor.Waits

/-!
# Proofs: the delay that ioexample4 uses

The argument is a numeral for a positive `long`; it is multiplied by 1000 as an `unsigned int`, and
the product is what every wait of the sampling loop takes. It is the delay that was asked for as long
as it fits in 32 bits.
-/

namespace DiscoveryDemo.Ioexample4

open CLib Sensor Driver

/-! ## The waits of a run -/

/-- **The waits of a run.** With an argument that is accepted the run goes through, and every wait for a
key takes the delay times 1000, as an `unsigned int`. -/
theorem main_waits {env : Env} {u : UInt32} (hu : delayMs env.args = some u) :
    ∃ outcome, main env = .ok outcome ∧ Wait (timeout (u * 1000)) outcome.calls := by
  by_cases h : env.SetsUp
  · obtain ⟨whoami, regs, hmain⟩ := main_setsUp hu h
    have hquiet : timeouts (setUpCalls env) = [] := rfl
    have hnone : Wait (timeout (u * 1000)) (setUpCalls env) := by
      rw [Wait, hquiet]
      exact fun _ htv => absurd htv List.not_mem_nil
    cases hdelay : delayUs 100000 env.delays with
    | waiting tv =>
      rw [hdelay] at hmain
      exact ⟨_, hmain, hnone⟩
    | exited =>
      rw [hdelay] at hmain
      exact ⟨_, hmain, hnone⟩
    | returned =>
      obtain ⟨e, new, hsample, hcalls, -, hwait, -, -⟩ :=
        sample_spec env.settable u whoami ⟨regs, env.term, setUpCalls env⟩ env.rounds
      have hall : Wait (timeout (u * 1000)) e.state.calls := by
        rw [hcalls]
        exact hnone.append hwait
      rw [hdelay] at hmain
      simp only [hsample] at hmain
      cases e with
      | goesOn s => exact ⟨_, hmain, hall⟩
      | stopped s =>
        refine ⟨_, hmain, ?_⟩
        exact hall.append fun _ htv => absurd htv List.not_mem_nil
  · obtain ⟨calls, hmain, -, -, hquiet⟩ := main_setUp_fails hu h
    refine ⟨_, hmain, ?_⟩
    rw [Wait, Outcome.calls, hquiet]
    exact fun _ htv => absurd htv List.not_mem_nil

/-! ## The argument -/

variable {arg : CStr}

theorem delayMs_eq_some_iff (u : UInt32) :
    delayMs [arg] = some u ↔
      ∃ d, Denotes arg.chars d ∧ 0 < d ∧ d ≤ longMax ∧ u = UInt32.ofInt d := by
  have hmin : longMin ≤ 0 := by decide
  have hchecked := checked_eq_some_iff arg.chars (· ≤ 0)
  have hdelay : delayMs [arg] = (if (strtol arg.chars).erange = true ∨ (strtol arg.chars).rest ≠ [] ∨
      (strtol arg.chars).value ≤ 0 then none else some (strtol arg.chars).value).map UInt32.ofInt := by
    rw [apply_ite (Option.map UInt32.ofInt)]
    rfl
  rw [hdelay, Option.map_eq_some_iff]
  constructor
  · rintro ⟨d, hd, rfl⟩
    obtain ⟨⟨-, rfl⟩ | ⟨hd, -, hmax⟩, hpos⟩ := (hchecked d).mp hd
    · exact absurd (Int.le_refl 0) hpos
    · exact ⟨d, hd, Int.not_le.mp hpos, hmax, rfl⟩
  · rintro ⟨d, hd, hpos, hmax, rfl⟩
    exact ⟨d, (hchecked d).mpr ⟨Or.inr ⟨hd, by omega, hmax⟩, Int.not_le.mpr hpos⟩, rfl⟩

/-- The product that `delay_or_keypress` gets, for a delay that `strtol` lets pass. -/
theorem toNat_mul_1000 {d : Int} (hpos : 0 < d) (hmax : d ≤ longMax) :
    ((UInt32.ofInt d * 1000).toNat : Int) = d * 1000 % 2 ^ 32 := by
  have hd := toNat_ofInt_long (Int.le_of_lt hpos) hmax
  have hk : (1000 : UInt32).toNat = 1000 := rfl
  rw [UInt32.toNat_mul, hk]
  omega

/-! ## The delay -/

/-- A run that comes to wait once. -/
def waitOnce (arg : CStr) : Env where
  args := [arg]
  opened := 0
  regs := fun _ => 0
  term := ⟨⟨0, 0, 0, 0, []⟩, 0⟩
  settable := 0
  whoami := .done fun _ => 0
  ctrl1 := .done fun _ => 0
  delays := [.elapsed]
  rounds :=
    let idle : Sensor.Transfer := .done fun _ => 0
    [⟨none, 0, idle, .zeroed 6, .zeroed 7, .zeroed 7, idle, ⟨0, false⟩⟩]

theorem main_waitOnce {u : UInt32} (hu : delayMs [arg] = some u) :
    ∃ calls, main (waitOnce arg) = .ok (.running calls) ∧ timeouts calls = [timeout (u * 1000)] := by
  have hargs : delayMs (waitOnce arg).args = some u := hu
  unfold main
  rw [hargs]
  exact ⟨_, rfl, rfl⟩

/-- What the run with one wait shows of an argument that is accepted. -/
theorem UsesDelay.product (h : UsesDelay arg) {u : UInt32} (hu : delayMs [arg] = some u) {d : Int}
    (hd : Denotes arg.chars d) : ((u * 1000).toNat : Int) = d * 1000 := by
  obtain ⟨calls, hmain, htimeouts⟩ := main_waitOnce hu
  rcases h (waitOnce arg) rfl with hrejected | ⟨d', outcome, hd', -, hrun, hall⟩
  · rw [hmain] at hrejected
    cases hrejected
  · rw [hmain] at hrun
    cases hrun
    have hwait : timeout (u * 1000) ∈ timeouts calls := by
      rw [htimeouts]
      exact List.mem_singleton_self _
    obtain ⟨hmicros, -⟩ := hall _ hwait
    rw [timeout_micros, hd'.unique hd] at hmicros
    exact hmicros

/-- **The delay that is used.** It is the one that the argument asks for, in every run, exactly if the
argument is rejected or its milliseconds, as microseconds, fit in 32 bits. -/
theorem usesDelay_iff :
    UsesDelay arg ↔ ∀ d, Denotes arg.chars d → 0 < d → d ≤ longMax → d * 1000 < 2 ^ 32 := by
  constructor
  · intro h d hd hpos hmax
    have hu := (delayMs_eq_some_iff _).mpr ⟨d, hd, hpos, hmax, rfl⟩
    have hproduct := h.product hu hd
    rw [toNat_mul_1000 hpos hmax] at hproduct
    omega
  · intro h env hargs
    cases hu : delayMs [arg] with
    | none =>
      left
      rw [main, hargs, hu]
    | some u =>
      obtain ⟨d, hd, hpos, hmax, rfl⟩ := (delayMs_eq_some_iff u).mp hu
      obtain ⟨outcome, hmain, hwait⟩ := main_waits (by rw [hargs]; exact hu)
      right
      refine ⟨d, outcome, hd, hpos, hmain, fun tv htv => ?_⟩
      rw [hwait tv htv]
      refine ⟨?_, timeout_usec_lt _⟩
      have hlt := h d hd hpos hmax
      rw [timeout_micros, toNat_mul_1000 hpos hmax]
      omega

/-- Of the first delay that is too long, 704 microseconds are left. -/
theorem long_delay_wraps :
    (∃ calls, main (waitOnce ⟨lit "4294968", by decide⟩) = .ok (.running calls) ∧
        timeouts calls = [⟨0, 704⟩]) ∧
      ¬UsesDelay ⟨lit "4294968", by decide⟩ := by
  have hu : delayMs [⟨lit "4294968", by decide⟩] = some 4294968 := by decide +kernel
  have hd : Denotes (lit "4294968") 4294968 := denotes_digits (by decide) (List.cons_ne_nil _ _)
  constructor
  · obtain ⟨calls, hmain, htimeouts⟩ := main_waitOnce hu
    exact ⟨calls, hmain, htimeouts⟩
  · intro h
    have hproduct : (((4294968 : UInt32) * 1000).toNat : Int) = 4294968 * 1000 := h.product hu hd
    exact absurd hproduct (by decide)

end DiscoveryDemo.Ioexample4
