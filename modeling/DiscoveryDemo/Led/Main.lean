import DiscoveryDemo.Led.CommandLoop

/-!
# `main` of ioexample1

The program takes the LED away from the kernel by writing `none` to its trigger, creates and opens an
LED object of the periphery library, runs the command loop, and gives the LED back by writing the
original trigger. A run is described by the calls it makes. What the trigger file and the library
answer is the environment of the run; the build defines `PERIPHERY_GPIO_CDEV_SUPPORT`.
-/

namespace DiscoveryDemo.Ioexample1

open CLib

/-- `LED_NAME` -/
def ledName : List Byte := lit "led-green"

/-- `ORIGINAL_TRIGGER` -/
def originalTrigger : List Byte := lit "heartbeat"

/-- The calls of a run. -/
inductive Call where
  | clearLedTrigger (name : List Byte)
  | restoreLedTrigger (name trigger : List Byte)
  /-- `open(path, O_WRONLY)` -/
  | openTrigger (path : List Byte)
  | writeTrigger (text : List Byte)
  | closeTrigger
  | ledNew
  | ledOpen (name : List Byte)
  | ledGetMaxBrightness
  | ledWrite (value : Bool)
  | ledClose
  | ledFree
  deriving DecidableEq

/-- What `open` and `write` return for the trigger file. -/
structure TriggerFile where
  opened : Int
  written : Int

/-- The trigger has been written. -/
def TriggerFile.Succeeds (file : TriggerFile) : Prop := 0 ≤ file.opened ∧ 0 ≤ file.written

/-- `path`: as much as fits into 128 characters. -/
def triggerPath (name : List Byte) : List Byte :=
  (lit "/sys/class/leds/" ++ name ++ lit "/trigger").take 127

/-- The calls that write `text` to the trigger file. -/
def setTrigger (file : TriggerFile) (name text : List Byte) : List Call :=
  .openTrigger (triggerPath name) ::
    if file.opened < 0 then [] else [.writeTrigger text, .closeTrigger]

/-- `clear_led_trigger` -/
def clearLedTrigger (file : TriggerFile) (name : List Byte) : List Call :=
  .clearLedTrigger name :: setTrigger file name (lit "none")

/-- `restore_led_trigger` -/
def restoreLedTrigger (file : TriggerFile) (name trigger : List Byte) : List Call :=
  .restoreLedTrigger name trigger :: setTrigger file name trigger

/-- The calls of an action of the command loop. -/
def Action.calls : Action → List Call
  | write value => [.ledWrite value]
  | quit => []

/-- All that a run gets from outside. -/
structure Env where
  clear : TriggerFile
  /-- Whether `led_new` returns an object. -/
  created : Bool
  /-- What `led_open` returns. -/
  opened : Int
  /-- What `led_get_max_brightness` returns. -/
  maxBrightness : Int
  /-- What the calls of `led_write` return. -/
  results : Nat → Int
  restore : TriggerFile
  /-- The uninitialised array `input`. -/
  input : InputBuf
  /-- Whether the LED is on at the beginning. -/
  on : Bool
  stdin : List Byte

/-- How far a run has got, and the calls it has made. -/
inductive Outcome where
  | running (calls : List Call)
  | exited (status : Nat) (calls : List Call)

/-- `main`, for at most `i` rounds of the command loop. -/
def main (env : Env) (i : Nat) : Except Fault Outcome :=
  let calls := clearLedTrigger env.clear ledName ++ [.ledNew]
  if ¬env.created then .ok (.exited 1 calls)
  else
    let calls := calls ++ [.ledOpen ledName]
    if env.opened < 0 then .ok (.exited 1 (calls ++ [.ledFree]))
    else
      let calls := calls ++ [.ledGetMaxBrightness]
      if env.maxBrightness < 0 then .ok (.exited 1 (calls ++ [.ledClose, .ledFree]))
      else
        match run env.results i (start env.input env.on env.stdin) with
        | .error f => .error f
        | .ok (.running s) => .ok (.running (calls ++ s.actions.flatMap Action.calls))
        | .ok (.exited s) => .ok (.exited 0 (calls ++ s.actions.flatMap Action.calls ++
            [.ledClose, .ledFree] ++ restoreLedTrigger env.restore ledName originalTrigger))

/-! ## What a run should leave behind -/

/-- A call of the LED library. -/
def Call.isLed : Call → Bool
  | ledNew | ledOpen _ | ledGetMaxBrightness | ledWrite _ | ledClose | ledFree => true
  | _ => false

/-- The trigger is restored after the last LED access. -/
def Restored (calls : List Call) : Prop :=
  ∃ pre post, calls = pre ++ .restoreLedTrigger ledName originalTrigger :: post ∧
    ∀ c ∈ post, c.isLed = false

/-- However the program terminates after it has cleared the trigger, the trigger has been restored,
and an LED object that was created has been freed once. -/
def GivesBack (env : Env) : Prop :=
  ∀ i status calls, main env i = .ok (.exited status calls) → env.clear.Succeeds →
    Restored calls ∧ (env.created → calls.count .ledFree = 1)

/-- The LED can be set up. -/
def Env.SetsUp (env : Env) : Prop := env.created ∧ 0 ≤ env.opened ∧ 0 ≤ env.maxBrightness

end DiscoveryDemo.Ioexample1
