import DiscoveryDemo.Led.Main
import DiscoveryDemo.CLib.Proofs.BufferProofs

/-!
# Proofs: what ioexample1 leaves behind

The way out behind the command loop frees the LED object and restores the trigger. The three ways out
before the loop free the object, but none of them restores the trigger.
-/

namespace DiscoveryDemo.Ioexample1

open CLib

variable {env : Env}

/-! ## The calls of the helper functions -/

theorem setTrigger_not_led (file : TriggerFile) (name text : List Byte) :
    ∀ c ∈ setTrigger file name text, c.isLed = false := by
  intro c hc
  unfold setTrigger at hc
  rcases List.mem_cons.mp hc with rfl | hc
  · rfl
  · split at hc
    · cases hc
    · rcases List.mem_pair.mp hc with rfl | rfl
      · rfl
      · rfl

/-- Calls that are no LED accesses free nothing. -/
theorem count_ledFree {calls : List Call} (h : ∀ c ∈ calls, c.isLed = false) :
    calls.count .ledFree = 0 := by
  rw [List.count_eq_zero]
  intro hmem
  exact absurd (h _ hmem) (by decide)

theorem clearLedTrigger_not_led (file : TriggerFile) (name : List Byte) :
    ∀ c ∈ clearLedTrigger file name, c.isLed = false :=
  List.forall_mem_cons.mpr ⟨rfl, setTrigger_not_led file name _⟩

theorem restoreLedTrigger_not_led (file : TriggerFile) (name trigger : List Byte) :
    ∀ c ∈ restoreLedTrigger file name trigger, c.isLed = false :=
  List.forall_mem_cons.mpr ⟨rfl, setTrigger_not_led file name _⟩

theorem count_ledFree_actions (as : List Action) : (as.flatMap Action.calls).count .ledFree = 0 := by
  induction as with
  | nil => rfl
  | cons a as ih =>
    rw [List.flatMap_cons, List.count_append, ih]
    cases a with
    | write value => cases value <;> rfl
    | quit => rfl

/-! ## The ways out -/

/-- **The ways out of `main`**, with the calls made until then. -/
theorem main_exited {i status : Nat} {calls : List Call} (h : main env i = .ok (.exited status calls)) :
    (¬env.SetsUp ∧ status = 1 ∧ ∃ led, calls = clearLedTrigger env.clear ledName ++ led ∧
      (∀ c ∈ led, c.isLed = true) ∧ led.count .ledFree = if env.created then 1 else 0) ∨
    (env.SetsUp ∧ status = 0 ∧ ∃ as : List Action, calls = clearLedTrigger env.clear ledName ++
      [.ledNew, .ledOpen ledName, .ledGetMaxBrightness] ++ as.flatMap Action.calls ++
      [.ledClose, .ledFree] ++ restoreLedTrigger env.restore ledName originalTrigger) := by
  unfold main at h
  by_cases hcreated : env.created
  · rw [if_neg (not_not.mpr hcreated)] at h
    by_cases hopened : env.opened < 0
    · rw [if_pos hopened] at h
      cases h
      refine Or.inl ⟨fun hs => absurd hs.2.1 (by omega), rfl,
        [.ledNew, .ledOpen ledName, .ledFree], by simp, by decide, ?_⟩
      rw [if_pos hcreated]
      decide
    · rw [if_neg hopened] at h
      by_cases hmax : env.maxBrightness < 0
      · rw [if_pos hmax] at h
        cases h
        refine Or.inl ⟨fun hs => absurd hs.2.2 (by omega), rfl,
          [.ledNew, .ledOpen ledName, .ledGetMaxBrightness, .ledClose, .ledFree], by simp,
          by decide, ?_⟩
        rw [if_pos hcreated]
        decide
      · rw [if_neg hmax] at h
        cases hrun : run env.results i (start env.input env.on env.stdin) with
        | error f => simp [hrun] at h
        | ok pr =>
          cases pr with
          | running s => simp [hrun] at h
          | exited s =>
            simp only [hrun] at h
            cases h
            exact Or.inr ⟨⟨hcreated, by omega, by omega⟩, rfl, s.actions, by simp⟩
  · rw [if_pos hcreated] at h
    cases h
    refine Or.inl ⟨fun hs => hcreated hs.1, rfl, [.ledNew], rfl, by decide, ?_⟩
    rw [if_neg hcreated]
    decide

/-- A created LED object is freed once on every way out. -/
theorem main_frees {i status : Nat} {calls : List Call} (h : main env i = .ok (.exited status calls)) :
    calls.count .ledFree = if env.created then 1 else 0 := by
  rcases main_exited h with ⟨-, -, led, rfl, -, hcount⟩ | ⟨hs, -, as, rfl⟩
  · rw [List.count_append, count_ledFree (clearLedTrigger_not_led _ _), hcount, Nat.zero_add]
  · rw [if_pos hs.1]
    simp only [List.count_append, count_ledFree (clearLedTrigger_not_led _ _),
      count_ledFree (restoreLedTrigger_not_led _ _ _), count_ledFree_actions]
    decide

/-- If the LED cannot be set up, the program exits before the loop. -/
theorem main_fails (h : ¬env.SetsUp) : ∃ calls, main env 0 = .ok (.exited 1 calls) := by
  unfold main
  by_cases hcreated : env.created
  · rw [if_neg (not_not.mpr hcreated)]
    by_cases hopened : env.opened < 0
    · rw [if_pos hopened]
      exact ⟨_, rfl⟩
    · rw [if_neg hopened]
      by_cases hmax : env.maxBrightness < 0
      · rw [if_pos hmax]
        exact ⟨_, rfl⟩
      · exact absurd ⟨hcreated, by omega, by omega⟩ h
  · rw [if_pos hcreated]
    exact ⟨_, rfl⟩

/-- **The trigger is restored** on every way out exactly if the LED could be set up: if it was
created and opened and its brightness could be read. -/
theorem main_givesBack_iff (env : Env) : GivesBack env ↔ (env.clear.Succeeds → env.SetsUp) := by
  constructor
  · intro hgives hclear
    by_contra hfails
    obtain ⟨calls, hmain⟩ := main_fails hfails
    obtain ⟨⟨pre, post, hcalls, -⟩, -⟩ := hgives 0 1 calls hmain hclear
    rcases main_exited hmain with ⟨-, -, led, hled, hall, -⟩ | ⟨hs, -, -⟩
    · -- the call is neither among those that clear the trigger nor an LED access
      have hmem : Call.restoreLedTrigger ledName originalTrigger ∈
          clearLedTrigger env.clear ledName ++ led := by
        rw [← hled, hcalls]
        simp
      rcases List.mem_append.mp hmem with hmem | hmem
      · unfold clearLedTrigger setTrigger at hmem
        split at hmem <;> simp at hmem
      · exact absurd (hall _ hmem) (by decide)
    · exact hfails hs
  · intro hsets i status calls hmain hclear
    refine ⟨?_, fun hcreated => ?_⟩
    · rcases main_exited hmain with ⟨hfails, -⟩ | ⟨-, -, as, rfl⟩
      · exact absurd (hsets hclear) hfails
      · exact ⟨_, _, rfl, setTrigger_not_led _ _ _⟩
    · rw [main_frees hmain, if_pos hcreated]

/-- A run in which the LED object cannot be created; everything else succeeds. -/
def noLed : Env where
  clear := { opened := 3, written := 4 }
  created := false
  opened := 0
  maxBrightness := 0
  results _ := 0
  restore := { opened := 3, written := 9 }
  input := Buf.zeroed _
  on := false
  stdin := lit "q\n"

/-- The program exits with the trigger still cleared. -/
theorem main_noLed :
    noLed.clear.Succeeds ∧
    main noLed 0 = .ok (.exited 1 [.clearLedTrigger ledName,
      .openTrigger (lit "/sys/class/leds/led-green/trigger"), .writeTrigger (lit "none"),
      .closeTrigger, .ledNew]) ∧
    ¬GivesBack noLed := by
  have hmain : main noLed 0 = .ok (.exited 1 [.clearLedTrigger ledName,
      .openTrigger (lit "/sys/class/leds/led-green/trigger"), .writeTrigger (lit "none"),
      .closeTrigger, .ledNew]) := by
    have hpath : triggerPath ledName = lit "/sys/class/leds/led-green/trigger" := by decide
    rw [← hpath]
    rfl
  have hclear : noLed.clear.Succeeds := ⟨by decide, by decide⟩
  refine ⟨hclear, hmain, fun hgives => ?_⟩
  obtain ⟨⟨pre, post, hcalls, -⟩, -⟩ := hgives 0 1 _ hmain hclear
  have hmem : Call.restoreLedTrigger ledName originalTrigger ∈ [Call.clearLedTrigger ledName,
      .openTrigger (lit "/sys/class/leds/led-green/trigger"), .writeTrigger (lit "none"),
      .closeTrigger, .ledNew] := by
    rw [hcalls]
    simp
  exact absurd hmem (by decide)

end DiscoveryDemo.Ioexample1
