import DiscoveryDemo.CLib.Strtol
import DiscoveryDemo.Driver.Trace

/-!
# `main` of ioexample6

The program checks its two arguments, opens a PWM channel, sets its frequency, enables it and shows
four duty cycles, each until the user presses a key. The first call that fails leads to the common
clean-up. A run is described by the calls it makes, with what the PWM library returns.
-/

namespace DiscoveryDemo.Ioexample6

open CLib Driver

/-- The calls of a run. The numbers are those of the `double` literals. -/
inductive Call where
  | pwmNew
  | pwmOpen (chip channel : UInt32) (code : Int)
  | pwmSetFrequency (frequency : Rat) (code : Int)
  | pwmEnable (code : Int)
  | pwmSetDutyCycle (dutyCycle : Rat) (code : Int)
  | waitForUser (message : List Byte)
  | pwmDisable
  | pwmClose
  | pwmFree

/-- The part that a call plays. -/
def Call.role : Call → Role
  | pwmOpen _ _ code => .opens code
  | pwmSetFrequency _ code | pwmEnable code | pwmSetDutyCycle _ code => .uses code
  | pwmDisable => .releases
  | pwmClose => .closes
  | pwmFree => .frees
  | pwmNew | waitForUser _ => .other

/-- `val_chip` or `val_channel`, if it is accepted. -/
def number (arg : CStr) : Option Int :=
  let val := strtol arg.chars
  if val.erange = true ∨ val.rest ≠ [] ∨ val.value < 0 then none else some val.value

/-- `chip` and `channel`; an argument that is rejected gives none. -/
def chipAndChannel : List CStr → Option (Int × Int)
  | [chip, channel] => do
    let chip ← number chip
    let channel ← number channel
    return (chip, channel)
  | _ => some (0, 0)

/-- All that a run gets from outside. -/
structure Env where
  /-- The arguments after the name of the program. -/
  args : List CStr
  /-- Whether `pwm_new` returns an object. -/
  created : Bool
  /-- What `pwm_open` returns. -/
  opened : Int
  /-- What `pwm_set_frequency` returns. -/
  frequency : Int
  /-- What `pwm_enable` returns. -/
  enabled : Int
  /-- What `pwm_set_duty_cycle` returns for the four steps. -/
  step1 : Int
  step2 : Int
  step3 : Int
  step4 : Int

/-- The calls between opening and clean-up, each with what follows it when it succeeds. -/
def steps (env : Env) : List (Call × List Call) :=
  [(.pwmSetFrequency 1000 env.frequency, []),
    (.pwmEnable env.enabled, []),
    (.pwmSetDutyCycle (1 / 4) env.step1, [.waitForUser (lit "Observe LED brightness at 25% duty")]),
    (.pwmSetDutyCycle (1 / 2) env.step2, [.waitForUser (lit "Observe LED brightness at 50% duty")]),
    (.pwmSetDutyCycle (3 / 4) env.step3, [.waitForUser (lit "Observe LED brightness at 75% duty")]),
    (.pwmSetDutyCycle 1 env.step4, [.waitForUser (lit "Observe LED brightness at 100% duty")])]

/-- The steps one after the other; after a call that fails, `goto cleanup`. -/
def runSteps : List (Call × List Call) → List Call
  | [] => []
  | (call, next) :: rest =>
    call :: if call.role.reportsError then [] else next ++ runSteps rest

/-- What follows the label `cleanup`. -/
def cleanup : List Call := [.pwmDisable, .pwmClose, .pwmFree]

/-- `main`: the status it returns and the calls it makes. -/
def main (env : Env) : Nat × List Call :=
  match chipAndChannel env.args with
  | none => (1, [])
  | some (chip, channel) =>
    if ¬env.created then (1, [.pwmNew])
    else
      let calls : List Call :=
        [.pwmNew, .pwmOpen (UInt32.ofInt chip) (UInt32.ofInt channel) env.opened]
      if env.opened < 0 then (1, calls ++ [.pwmFree])
      else (0, calls ++ runSteps (steps env) ++ cleanup)

/-! ## What a run owes -/

/-- The status tells whether an argument was rejected or a call failed, and a PWM that was opened has
been closed once and freed once. -/
def Accounts (env : Env) : Prop :=
  Accounted (chipAndChannel env.args = none) (main env).1 ((main env).2.map Call.role)

/-- The arguments are accepted and the PWM is opened. -/
def Env.SetsUp (env : Env) : Prop := chipAndChannel env.args ≠ none ∧ 0 ≤ env.opened

/-- None of the configuring calls fails. -/
def Env.RunsWell (env : Env) : Prop :=
  ∀ code ∈ [env.frequency, env.enabled, env.step1, env.step2, env.step3, env.step4], 0 ≤ code

end DiscoveryDemo.Ioexample6
