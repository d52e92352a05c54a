import DiscoveryDemo.Led.Proofs.CommandLoopProofs
import DiscoveryDemo.Periphery.Proofs.LedProofs

/-!
# Proofs: the LED behind the command loop

The command loop is described for a device that takes what is written to it or fails. The LED of the
kernel, behind the handle that the program opens, is such a device.
-/

namespace DiscoveryDemo.Ioexample1

open CLib Periphery Periphery.Led

/-- What `led_write` returns if its system calls are answered so. -/
def code (a : Answers) : Int := if a.file.Broken then errorIo else 0

/-- The calls of `led_write` that the actions make, from the one with number `n` on. -/
def writes (answers : Nat → Answers) : Nat → List Action → List (Led.Call × Answers)
  | _, [] => []
  | n, .write value :: as => (.write value, answers n) :: writes answers (n + 1) as
  | n, .quit :: as => writes answers n as

/-- The LED is as the loop believes the device to be, and no trigger changes it. -/
structure Behind (d : Device) (l : Light) : Prop where
  on : d.on = true ↔ l.brightness ≠ 0
  lights : l.max ≠ 0
  steady : l.triggered = false

variable {answers : Nat → Answers} {d : Device} {l : Light}

/-- A call of `led_write` that closes its file. -/
theorem Behind.write (h : Behind d l) (value : Bool) (hclosed : (answers d.writes).file.closed = none) :
    (respond l (.write value, answers d.writes)).1 = .ok (code (answers d.writes), .nothing) ∧
      Behind (d.ledWrite (fun n => code (answers n)) value)
        (respond l (.write value, answers d.writes)).2 := by
  obtain ⟨hon, hlights, hsteady⟩ := h
  have htick : l.tick (answers d.writes).glow = l := by
    unfold Light.tick
    rw [hsteady, if_neg Bool.false_ne_true]
  have hroom : ¬(if value then l.max else 0) > l.max := by
    cases value with
    | true => exact UInt32.lt_irrefl l.max
    | false => exact UInt32.not_lt.mpr (UInt32.zero_le)
  have hbroken : (answers d.writes).file.Broken ↔
      (answers d.writes).file.opened ≠ none ∨ (answers d.writes).file.io ≠ none := by
    unfold FileAnswers.Broken
    rw [hclosed]
    simp
  have hneg : errorIo < 0 := by decide
  have hrespond : respond l (.write value, answers d.writes) =
      (.ok ((change (answers d.writes).file l (if value then l.max else 0)).1, .nothing),
        (change (answers d.writes).file l (if value then l.max else 0)).2) := by
    unfold respond
    rw [htick]
  rw [hrespond]
  unfold change code Device.ledWrite
  rw [if_neg hroom]
  by_cases hfails : (answers d.writes).file.Broken
  · rw [if_pos (hbroken.mp hfails), if_pos hfails]
    refine ⟨rfl, ?_, hlights, hsteady⟩
    show (if (if (answers d.writes).file.Broken then errorIo else 0) < 0 then d.on else value) = true ↔ _
    rw [if_pos hfails, if_pos hneg]
    exact hon
  · rw [if_neg (mt hbroken.mpr hfails), if_neg hfails, hclosed, if_neg (not_not.mpr rfl)]
    refine ⟨rfl, ?_, hlights, ?_⟩
    · show (if (if (answers d.writes).file.Broken then errorIo else 0) < 0 then d.on else value) = true ↔
        (if value then l.max else 0) ≠ 0
      rw [if_neg hfails, if_neg (by decide)]
      cases value with
      | true => exact ⟨fun _ => hlights, fun _ => rfl⟩
      | false => exact ⟨fun hv => absurd hv Bool.false_ne_true, fun hne => absurd rfl hne⟩
    · unfold Light.put
      rw [hsteady]
      exact ite_self false

/-- The actions, one after the other. -/
theorem Behind.perform (h : Behind d l) (hclosed : ∀ n, (answers n).file.closed = none)
    (as : List Action) :
    (Driver.run respond l (writes answers d.writes as)).1 =
        (writes answers d.writes as).map (fun c => .ok (code c.2, .nothing)) ∧
      Behind (as.foldl (Device.perform fun n => code (answers n)) d)
        (Driver.run respond l (writes answers d.writes as)).2 := by
  induction as generalizing d l with
  | nil => exact ⟨rfl, h⟩
  | cons a as ih =>
    cases a with
    | quit => exact ih h
    | write value =>
      obtain ⟨hret, hnext⟩ := h.write value (hclosed d.writes)
      obtain ⟨hrets, hend⟩ := ih hnext
      refine ⟨?_, hend⟩
      unfold writes
      rw [Driver.run_cons, List.map_cons, hret]
      exact congrArg _ hrets

/-- **The commands switch the LED**: in every run of the loop over a handle that has been opened, with no
trigger active, the calls of `led_write` return what the loop goes by, and the LED of the kernel is on
just if the loop believes so. -/
theorem commands_switch_light {s₀ s : System} {opened : Option Nat} {a : Answers} {name : List Byte}
    (hshort : s₀.device.length ≤ 63) (h : ledOpen s₀ opened a name = .ok (0, s))
    (hsteady : s₀.light.triggered = false) (hlights : s₀.light.max ≠ 0)
    (hclosed : ∀ n, (answers n).file.closed = none) (input : InputBuf) (stdin : List Byte) (i : Nat) :
    ∃ pr, run (fun n => code (answers n)) i (start input (decide (s₀.light.brightness ≠ 0)) stdin) = .ok pr ∧
      (Driver.run exec s (writes answers 0 pr.state.actions)).1 =
        (writes answers 0 pr.state.actions).map (fun c => .ok (code c.2, .nothing)) ∧
      ((Driver.run exec s (writes answers 0 pr.state.actions)).2.light.brightness ≠ 0 ↔
        pr.state.device.on = true) := by
  obtain ⟨-, hknows, hlight⟩ := knows_opened hshort h
  obtain ⟨input', rest, -, hrun⟩ := run_reads (fun n => code (answers n)) i
    (start input (decide (s₀.light.brightness ≠ 0)) stdin)
  refine ⟨_, hrun, ?_⟩
  rw [progress_state]
  have hstart : Behind (start input (decide (s₀.light.brightness ≠ 0)) stdin).device s₀.light :=
    ⟨decide_eq_true_iff, hlights, hsteady⟩
  obtain ⟨hrets, hbehind⟩ := hstart.perform hclosed
    (chunkActions (readChunks i (chunks NL inputLength stdin)))
  obtain ⟨hsame, -, hend⟩ := simulates.run ⟨hknows, hlight⟩
    (writes answers 0 (chunkActions (readChunks i (chunks NL inputLength stdin))))
  refine ⟨hsame.trans hrets, ?_⟩
  have hon : _ ↔ (Driver.run respond s₀.light
      (writes answers 0 (chunkActions (readChunks i (chunks NL inputLength stdin))))).2.brightness ≠ 0 :=
    hbehind.on
  rw [← hend] at hon
  exact hon.symm

/-- The second command fails. -/
theorem commands_switch_light_failing :
    let answers : Nat → Answers := fun n =>
      ⟨⟨none, if n = 1 then some 5 else none, none⟩, zeros, 0⟩
    let s : System := ⟨⟨lit "led-green", 255, Error.none⟩, lit "led-green", ⟨0, 255, false⟩⟩
    ∃ pr, run (fun n => code (answers n)) 3 (start zeros false (lit "1\n0\nq\n")) = .ok pr ∧
      (Driver.run exec s (writes answers 0 pr.state.actions)).1 =
        (writes answers 0 pr.state.actions).map (fun c => .ok (code c.2, .nothing)) ∧
      ((Driver.run exec s (writes answers 0 pr.state.actions)).2.light.brightness ≠ 0 ↔
        pr.state.device.on = true) :=
  @commands_switch_light
    (fun n => ⟨⟨none, if n = 1 then some 5 else none, none⟩, zeros, 0⟩)
    (System.fresh (lit "led-green") ⟨0, 255, false⟩) _ none
    ⟨FileAnswers.fine, zeros, 0⟩ (lit "led-green") (by decide) rfl rfl (by decide) (fun _ => rfl) zeros
    (lit "1\n0\nq\n") 3

end DiscoveryDemo.Ioexample1
