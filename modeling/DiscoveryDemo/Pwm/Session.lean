import DiscoveryDemo.Periphery.Pwm
import DiscoveryDemo.Pwm.Main

/-!
# ioexample6 over its channel

The calls of a run, made one after the other through a handle of the PWM library, from the state that
`pwm_open` has left. All numbers that the program hands to the library as `double`s, and what the library
computes from them, are exact.
-/

namespace DiscoveryDemo.Ioexample6

open CLib Periphery

/-- What a call does, and what it returns. -/
def Call.perform (check : Pwm.Channel → Option Nat) (s : Pwm.System) (a : Pwm.Answers) :
    Call → Int × Pwm.System
  | pwmSetFrequency frequency _ => Pwm.pwmSetFrequency check s a frequency
  | pwmEnable _ => Pwm.pwmSetEnabled check s a true
  | pwmSetDutyCycle dutyCycle _ => Pwm.pwmSetDutyCycle check s a dutyCycle
  | pwmDisable => Pwm.pwmSetEnabled check s a false
  | pwmClose => Pwm.pwmClose s a.file
  | pwmNew | pwmOpen .. | waitForUser _ | pwmFree => (0, s)

/-- What the program has got back from a configuring call. -/
def Call.returned : Call → Option Int
  | pwmSetFrequency _ code | pwmEnable code | pwmSetDutyCycle _ code => some code
  | _ => none

section Session

variable (check : Pwm.Channel → Option Nat) (answers : Nat → Pwm.Answers)

/-- The calls one after the other, from the one with number `n` on. -/
def play : Nat → Pwm.System → List Call → Pwm.System
  | _, s, [] => s
  | n, s, call :: calls => play (n + 1) (call.perform check s (answers n)).2 calls

/-- The configuring calls return what the program has got back. -/
def Agrees : Nat → Pwm.System → List Call → Prop
  | _, _, [] => True
  | n, s, call :: calls =>
    (∀ code, call.returned = some code → (call.perform check s (answers n)).1 = code) ∧
      Agrees (n + 1) (call.perform check s (answers n)).2 calls

/-- The channel does what the user is told. -/
def Announced (message : List Byte) (c : Pwm.Channel) : Prop :=
  ∃ percent : Nat,
    message = lit "Observe LED brightness at " ++ printUnsigned percent ++ lit "% duty" ∧
    c.enabled = true ∧ c.period = 1000000 ∧ c.dutyCycle.toNat * 100 = percent * c.period.toNat

/-- Whenever the program waits, the channel does what the user is told. -/
def Shown : Nat → Pwm.System → List Call → Prop
  | _, _, [] => True
  | n, s, call :: calls =>
    (∀ message, call = .waitForUser message → Announced message s.channel) ∧
      Shown (n + 1) (call.perform check s (answers n)).2 calls

end Session

end DiscoveryDemo.Ioexample6
