import DiscoveryDemo.Gpio.PinName
import DiscoveryDemo.Periphery.GpioLine
import DiscoveryDemo.Sensor.Terminal

/-!
# `main` of ioexample2

The program opens the button as an input and the red LED as an output, and shows the state of the button
on the LED, ten times a second, until a key is pressed or a line cannot be read or written. Its `kbhit`
is the one of ioexample4. The build defines `PERIPHERY_GPIO_CDEV_SUPPORT`; the texts on the terminal are
left out.
-/

namespace DiscoveryDemo.Ioexample2

open CLib Periphery.Gpio

/-- What is answered in one round of the loop. -/
structure Round where
  read : Answers
  write : Answers
  /-- What `getchar` returns in `kbhit`. -/
  key : Option Byte

/-- All that a run gets from outside. -/
structure Env where
  /-- What `atoi` gives for numbers that are no `int`. -/
  other : List Byte → Int
  /-- The flags that `F_SETFL` can change. -/
  settable : BitVec 32
  terminal : Sensor.Terminal
  /-- The uninitialised arrays and the uninitialised `button_value`. -/
  buttonChip : Buf 32
  ledChip : Buf 32
  buttonValue : Bool
  /-- Whether `gpio_new` returns both objects. -/
  created : Bool
  /-- What `open` returns for a path. -/
  chips : List Byte → Except Nat Nat
  openButton : Answers
  openLed : Answers
  rounds : List Round
  closeButton : Answers
  closeLed : Answers

/-- What the loop works on. -/
structure Board where
  button : System
  led : System
  buttonValue : Bool
  terminal : Sensor.Terminal

/-- How far a run has got. -/
inductive Outcome where
  /-- At the head of the loop, after all rounds. -/
  | running (b : Board)
  | exited (status : Nat) (b : Board)

def Outcome.board : Outcome → Board
  | running b => b
  | exited _ b => b

/-- `BUTTON_GPIO` -/
def buttonGpio : CStr := ⟨lit "A0", by decide⟩

/-- `RED_LED_GPIO` -/
def redLedGpio : CStr := ⟨lit "G14", by decide⟩

/-- The path and the line of a pin. -/
def pin (other : List Byte → Int) (gpioStr : CStr) (buf : Buf 32) : Except Fault (List Byte × Int) := do
  let some buf ← gpioChip (some gpioStr) (some buf) | .error .unterminated
  return (← buf.str 0, ← gpioLine other (some gpioStr))

/-- The body of the loop: whether it goes on, and the board. -/
def round (settable : BitVec 32) (b : Board) (r : Round) : Bool × Board :=
  let ((ret, value), button) := gpioCdevRead b.button r.read
  let b := { b with button := button, buttonValue := value.getD b.buttonValue }
  if ret < 0 then (false, b)
  else
    let (ret, led) := gpioCdevWrite b.led r.write b.buttonValue
    let b := { b with led := led }
    if ret < 0 then (false, b)
    else
      let (hit, terminal) := Sensor.kbhit settable r.key b.terminal
      (hit = 0, { b with terminal := terminal })

/-- The loop: whether it is still running after the rounds, and the board. -/
def loop (settable : BitVec 32) : List Round → Board → Bool × Board
  | [], b => (true, b)
  | r :: rounds, b =>
    match round settable b r with
    | (true, b) => loop settable rounds b
    | (false, b) => (false, b)

/-- `main` -/
def main (env : Env) : Except Fault Outcome := do
  let (buttonChip, buttonLine) ← pin env.other buttonGpio env.buttonChip
  let (ledChip, ledLine) ← pin env.other redLedGpio env.ledChip
  let b : Board := ⟨System.new, System.new, env.buttonValue, env.terminal⟩
  if !env.created then return .exited 1 b
  else
    let (ret, button) :=
      gpioOpen b.button env.openButton (env.chips buttonChip) (UInt32.ofInt buttonLine).toNat .dirIn
    let b := { b with button := button }
    if ret < 0 then return .exited 1 b
    else
      let (ret, led) :=
        gpioOpen b.led env.openLed (env.chips ledChip) (UInt32.ofInt ledLine).toNat .dirOut
      let b := { b with led := led }
      if ret < 0 then return .exited 1 { b with button := (gpioCdevClose b.button env.closeButton).2 }
      else
        match loop env.settable env.rounds b with
        | (true, b) => return .running b
        | (false, b) =>
          return .exited 0 { b with
            button := (gpioCdevClose b.button env.closeButton).2
            led := (gpioCdevClose b.led env.closeLed).2 }

/-! ## What it is for -/

/-- A button that is shown on an LED: whether the loop is still running after the rounds, and the level
of the LED. A round that fails leaves the LED as it is, one with a key is the last. -/
def shown (level : Bool) : List Round → Bool × Bool
  | [] => (true, level)
  | r :: rounds =>
    if r.read.io ≠ none ∨ r.write.io ≠ none then (false, level)
    else if r.key ≠ none then (false, r.read.pin)
    else shown r.read.pin rounds

/-- Both handles are created, both chips can be opened and the kernel gives both lines. -/
structure Env.Opens (env : Env) : Prop where
  created : env.created = true
  button : ∃ chip fd, env.chips (lit "/dev/gpiochip0") = .ok chip ∧ env.openButton.request = .ok fd
  led : ∃ chip fd, env.chips (lit "/dev/gpiochip6") = .ok chip ∧ env.openLed.request = .ok fd

/-- Closing the lines does not fail. -/
def Env.Closes (env : Env) : Prop :=
  env.closeButton.closeLine = none ∧ env.closeLed.closeLine = none

/-- What a run has come to: the lines could be opened and the LED shows the button, while the program runs
or until it has ended with success; or they could not and the program has failed and holds no line. -/
def Outcome.Shows (env : Env) : Outcome → Prop
  | .running b =>
    env.Opens ∧ (true, b.led.level) = shown false env.rounds ∧
      (∃ q, b.button.held = some q ∧ q.offset = 0) ∧ ∃ q, b.led.held = some q ∧ q.offset = 14
  | .exited status b =>
    (env.Opens ∧ status = 0 ∧ (false, b.led.level) = shown false env.rounds ∨ ¬env.Opens ∧ status = 1) ∧
      b.button.held = none ∧ b.led.held = none

end DiscoveryDemo.Ioexample2
