import Mathlib.Algebra.Ring.Nat
import DiscoveryDemo.Sensor.Delay

/-!
# Signals during the delays of ioexample4

`select` as on Linux, in a world where signals and a key press come at given moments: a signal ends it
with -1 and `EINTR`, and what is left of the time is written back into its timeout. No other error
occurs. The time that a delay takes is what the clock of this world shows when it returns.
-/

namespace DiscoveryDemo.Sensor

/-- What happens from the call of a delay on. -/
structure World where
  /-- The microseconds until the first signal, and from each signal to the next. -/
  gaps : List Nat
  /-- When a key is pressed, if one is. -/
  key : Option Nat

/-- What is still to come when `time` has passed. -/
def World.later (w : World) (time : Nat) : World where
  gaps := match w.gaps with
    | [] => []
    | gap :: gaps => if gap ≤ time then gaps else (gap - time) :: gaps
  key := w.key.map (· - time)

/-- A moment during a delay. -/
structure Moment where
  /-- The microseconds since the delay was called. -/
  time : Nat
  world : World

/-- The moment of the call. -/
def World.start (w : World) : Moment := ⟨0, w⟩

/-- A call of `select` at a moment: the answer, and the moment when it comes. -/
def Moment.ask {Answer : Type} (select : World → Timeval → Answer × Nat) (tv : Timeval) (m : Moment) :
    Answer × Moment :=
  let (answer, time) := select m.world tv
  (answer, ⟨m.time + time, m.world.later time⟩)

/-- What is left of a timeout. -/
def Timeval.minus (tv : Timeval) (time : Nat) : Timeval :=
  ⟨(tv.micros - time) / 1000000, (tv.micros - time) % 1000000⟩

/-- What `select` without descriptors answers, and after how long. A signal that comes as the time is
over still interrupts it. -/
def selectAlone (w : World) (tv : Timeval) : Slept × Nat :=
  match w.gaps with
  | [] => (.elapsed, tv.micros)
  | gap :: _ => if gap ≤ tv.micros then (.interrupted (tv.minus gap), gap) else (.elapsed, tv.micros)

/-- What `select` answers about the standard input when no key is pressed, and after how long. On an
error the descriptor set is left as it was. -/
def selectNoKey (gaps : List Nat) (tv : Timeval) : Selected × Nat :=
  match gaps with
  | [] => (⟨0, false⟩, tv.micros)
  | gap :: _ => if gap ≤ tv.micros then (⟨-1, true⟩, gap) else (⟨0, false⟩, tv.micros)

/-- What `select` answers about the standard input, and after how long. -/
def selectStdin (w : World) (tv : Timeval) : Selected × Nat :=
  let waited := selectNoKey w.gaps tv
  match w.key with
  | some k => if k ≤ waited.2 then (⟨1, true⟩, k) else waited
  | none => waited

/-! ## Runs of the delays -/

/-- A run of `delay_us`, as far as it has got. -/
structure Sleep where
  /-- What `select` has answered. -/
  answers : List Slept
  now : Moment

/-- `delay_us` has been called, and `select` as often as `delay_us` has asked for it. -/
inductive Sleeps (us : UInt32) (w : World) : Sleep → Prop
  | call : Sleeps us w ⟨[], w.start⟩
  | select {s : Sleep} {tv : Timeval} (run : Sleeps us w s) (asks : delayUs us s.answers = .waiting tv) :
      Sleeps us w ⟨s.answers ++ [(s.now.ask selectAlone tv).1], (s.now.ask selectAlone tv).2⟩

/-- `delay_us` returns, and only when its time has elapsed, in spite of all signals. -/
structure SleepsFully (us : UInt32) (w : World) : Prop where
  returns : ∃ s, Sleeps us w s ∧ delayUs us s.answers = .returned
  elapsed : ∀ s, Sleeps us w s → delayUs us s.answers = .returned → us.toNat ≤ s.now.time

/-- A run of `delay_or_keypress`: what it returns, the terminal, and the moment when it does. -/
def waitForKey (settable : BitVec 32) (us : UInt32) (t : Terminal) (w : World) :
    Int × Terminal × Moment :=
  delayOrKeypressIn settable us (Moment.ask selectStdin) t w.start

/-- `delay_or_keypress` returns 0 only when its time has elapsed without a key, and 1 only when a key
has been pressed. -/
def WaitsFully (us : UInt32) (w : World) : Prop :=
  ∀ settable t,
    ((waitForKey settable us t w).1 = 0 →
      us.toNat ≤ (waitForKey settable us t w).2.2.time ∧ ∀ k, w.key = some k → us.toNat ≤ k) ∧
    ((waitForKey settable us t w).1 = 1 →
      ∃ k, w.key = some k ∧ k ≤ (waitForKey settable us t w).2.2.time)

/-- The first signal comes after the time is over, or after the key press. -/
def LateSignals (us : UInt32) (w : World) : Prop :=
  ∀ signal, w.gaps.head? = some signal → us.toNat ≤ signal ∨ ∃ k, w.key = some k ∧ k ≤ signal

end DiscoveryDemo.Sensor
