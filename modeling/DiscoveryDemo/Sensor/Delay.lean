import DiscoveryDemo.Sensor.Terminal

/-!
# Sleeping in ioexample4

`delay_us` sleeps with `select`. A signal interrupts it: `select` then leaves the time that is left in
its timeout, and `delay_us` calls it again. Any other error ends the program on the spot.
-/

namespace DiscoveryDemo.Sensor

/-- How a call of `select` without descriptors ends. -/
inductive Slept where
  /-- The time is over: it returns 0. -/
  | elapsed
  /-- It returns -1 with `EINTR`, and `left` is in `tv`. -/
  | interrupted (left : Timeval)
  /-- It returns -1 with another error. -/
  | failed

/-- How far `delay_us` has got. -/
inductive Delayed where
  /-- In a call of `select`. -/
  | waiting (tv : Timeval)
  | returned
  /-- `exit(EXIT_FAILURE)` -/
  | exited

/-- The loop of `delay_us`; `answers` are those of `select`, one after the other. -/
def delayLoop (tv : Timeval) : List Slept → Delayed
  | [] => .waiting tv
  | .elapsed :: _ => .returned
  | .interrupted left :: answers => delayLoop left answers
  | .failed :: _ => .exited

/-- `delay_us` -/
def delayUs (us : UInt32) (answers : List Slept) : Delayed :=
  delayLoop ⟨us.toNat / 1000000, us.toNat % 1000000⟩ answers

/-- The first answer that is not an interruption. -/
def finalAnswer : List Slept → Option Slept
  | [] => none
  | .interrupted _ :: answers => finalAnswer answers
  | a :: _ => some a

end DiscoveryDemo.Sensor
