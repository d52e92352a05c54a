import DiscoveryDemo.Driver.Machine
import DiscoveryDemo.Driver.Retry
import DiscoveryDemo.Periphery.Error
import DiscoveryDemo.Periphery.Sysfs

/-!
# PWM channels

`pwm.c`: a handle knows the numbers of the chip and of the channel and remembers the period, in
nanoseconds; all else is kept by the kernel and goes through attributes in sysfs. `unsigned long` has 32
bits. A `double` is a rational number here: the results are those of the program where its computation
with `double` does not round.

The kernel has a configuration for the channel, and takes a new one if the driver does.
-/

namespace DiscoveryDemo.Periphery.Pwm

open CLib Driver

/-- `pwm_polarity_t` -/
inductive Polarity where
  | normal
  | inversed
  | other (value : Nat)
  deriving DecidableEq

/-- `pwm_t` -/
structure Handle where
  chip : UInt32
  channel : UInt32
  periodNs : UInt64
  error : Error

/-- `pwm_new` -/
def pwmNew : Handle := ⟨-1, -1, 0, Error.none⟩

def errorArg : Int := -1
def errorOpen : Int := -2
def errorQuery : Int := -3
def errorConfigure : Int := -4
def errorClose : Int := -5

/-- `EACCES` -/
def eacces : Nat := 13

/-! ## The kernel -/

/-- The configuration of a channel. -/
structure Channel where
  period : UInt64
  dutyCycle : UInt64
  inversed : Bool
  enabled : Bool
  deriving DecidableEq

inductive Attribute where
  | period
  | dutyCycle
  | polarity
  | enable

/-- The name of the file of an attribute. -/
def Attribute.name : Attribute → List Byte
  | period => lit "period"
  | dutyCycle => lit "duty_cycle"
  | polarity => lit "polarity"
  | enable => lit "enable"

/-- What the kernel shows. -/
def Channel.show (c : Channel) : Attribute → List Byte
  | .period => printUnsigned c.period.toNat ++ [NL]
  | .dutyCycle => printUnsigned c.dutyCycle.toNat ++ [NL]
  | .polarity => if c.inversed then lit "inversed\n" else lit "normal\n"
  | .enable => if c.enabled then lit "1\n" else lit "0\n"

/-- The kernel takes a configuration if the driver has no `errno` for it. -/
def Channel.apply (check : Channel → Option Nat) (c : Channel) : Except Nat Channel :=
  match check c with
  | some e => .error e
  | none => .ok c

/-- What the kernel makes of a text. -/
def Channel.store (check : Channel → Option Nat) (c : Channel) (attr : Attribute)
    (text : List Byte) : Except Nat Channel :=
  match attr with
  | .period =>
    match kstrtoul (2 ^ 64 - 1) text with
    | .error e => .error e
    | .ok value => { c with period := UInt64.ofNat value }.apply check
  | .dutyCycle =>
    match kstrtoul (2 ^ 64 - 1) text with
    | .error e => .error e
    | .ok value => { c with dutyCycle := UInt64.ofNat value }.apply check
  | .polarity =>
    if text = lit "normal\n" then { c with inversed := false }.apply check
    else if text = lit "inversed\n" then { c with inversed := true }.apply check
    else .error einval
  | .enable =>
    match kstrtoul (2 ^ 31 - 1) text with
    | .error e => .error e
    | .ok value =>
      if value = 0 then { c with enabled := false }.apply check
      else if value = 1 then { c with enabled := true }.apply check
      else .error einval

/-- A handle and the channel that it is for. -/
structure System where
  pwm : Handle
  channel : Channel

/-- What is answered to a library call, and what is on the stack where it has its array. -/
structure Answers where
  file : FileAnswers
  stack : (n : Nat) → Buf n
  /-- The value of `errno` before. -/
  errno : Nat

/-- `return _pwm_error(..)` -/
def fail (s : System) (code : Int) (c_errno : Nat) (text : List Byte) : Int × System :=
  (code, { s with pwm := { s.pwm with error := ⟨c_errno, text⟩ } })

/-! ## Attributes -/

/-- The text of an error in `pwm_read_attribute` or `pwm_write_attribute`. -/
def attributeText (step : Step) (attr : Attribute) : List Byte :=
  (match step with
    | .opening => lit "Opening PWM '"
    | .reading => lit "Reading PWM '"
    | .writing => lit "Writing PWM '"
    | .closing => lit "Closing PWM '") ++ attr.name ++ lit "'"

/-- `pwm_read_attribute`: the code it returns if it fails, or `buf`. -/
def pwmReadAttribute {n : Nat} (s : System) (a : Answers) (attr : Attribute) (buf : Buf n) :
    Except Fault (Except Int (Buf n) × System) := do
  match ← readFile a.file (s.channel.show attr) buf with
  | .error (step, e) =>
    let (code, s) := fail s errorQuery e (attributeText step attr)
    return (.error code, s)
  | .ok buf => return (.ok buf, s)

/-- `pwm_write_attribute` -/
def pwmWriteAttribute (check : Channel → Option Nat) (s : System) (a : Answers) (attr : Attribute)
    (buf : List Byte) : Int × System :=
  match writeFile a.file (s.channel.store check attr) s.channel buf with
  | (.error (step, e), channel) =>
    fail { s with channel := channel } errorConfigure e (attributeText step attr)
  | (.ok (), channel) => (0, { s with channel := channel })

/-! ## Getters -/

/-- The body of `pwm_get_period_ns` and `pwm_get_duty_cycle_ns` up to the assignment. -/
def getNs (s : System) (a : Answers) (attr : Attribute) (text : List Byte) :
    Except Fault (Except Int UInt64 × System) := do
  match ← pwmReadAttribute s a attr (a.stack 32) with
  | (.error code, s) => return (.error code, s)
  | (.ok buf, s) =>
    let value := strtoul (← buf.str 0)
    if value.erange then
      let (code, s) := fail s errorQuery erange text
      return (.error code, s)
    else return (.ok (UInt64.ofNat value.value), s)

/-- `pwm_get_period_ns` -/
def pwmGetPeriodNs (s : System) (a : Answers) : Except Fault (Except Int UInt64 × System) := do
  match ← getNs s a .period (lit "Unknown PWM 'period' value") with
  | (.error code, s) => return (.error code, s)
  | (.ok value, s) => return (.ok value, { s with pwm := { s.pwm with periodNs := value } })

/-- `pwm_get_duty_cycle_ns` -/
def pwmGetDutyCycleNs (s : System) (a : Answers) : Except Fault (Except Int UInt64 × System) :=
  getNs s a .dutyCycle (lit "Unknown PWM 'duty_cycle' value")

/-- `pwm_get_polarity` -/
def pwmGetPolarity (s : System) (a : Answers) : Except Fault (Except Int Polarity × System) := do
  match ← pwmReadAttribute s a .polarity (a.stack 16) with
  | (.error code, s) => return (.error code, s)
  | (.ok buf, s) =>
    let text ← buf.str 0
    if text = lit "normal\n" then return (.ok .normal, s)
    else if text = lit "inversed\n" then return (.ok .inversed, s)
    else
      let (code, s) := fail s errorQuery a.errno (lit "Unknown PWM 'polarity' value")
      return (.error code, s)

/-- `pwm_get_enabled` -/
def pwmGetEnabled (s : System) (a : Answers) : Except Fault (Except Int Bool × System) := do
  match ← pwmReadAttribute s a .enable (a.stack 2) with
  | (.error code, s) => return (.error code, s)
  | (.ok buf, s) =>
    let c ← buf.read 0
    if c = ch '0' then return (.ok false, s)
    else if c = ch '1' then return (.ok true, s)
    else
      let (code, s) := fail s errorQuery a.errno (lit "Unknown PWM 'enabled' value")
      return (.error code, s)

/-! ## Setters -/

/-- A `uint64_t` where `printf` expects an `int64_t`. -/
def signed (ns : UInt64) : Int := if ns.toNat < 2 ^ 63 then ns.toNat else ns.toNat - 2 ^ 64

section Setters

variable (check : Channel → Option Nat)

/-- `pwm_set_enabled` -/
def pwmSetEnabled (s : System) (a : Answers) (enabled : Bool) : Int × System :=
  pwmWriteAttribute check s a .enable (if enabled then lit "1\n" else lit "0\n")

/-- `pwm_set_period_ns` -/
def pwmSetPeriodNs (s : System) (a : Answers) (periodNs : UInt64) : Int × System :=
  let (ret, s) := pwmWriteAttribute check s a .period (printSigned (signed periodNs) ++ [NL])
  if ret < 0 then (ret, s) else (0, { s with pwm := { s.pwm with periodNs := periodNs } })

/-- `pwm_set_duty_cycle_ns` -/
def pwmSetDutyCycleNs (s : System) (a : Answers) (dutyCycleNs : UInt64) : Int × System :=
  pwmWriteAttribute check s a .dutyCycle (printSigned (signed dutyCycleNs) ++ [NL])

/-- `pwm_set_polarity` -/
def pwmSetPolarity (s : System) (a : Answers) (polarity : Polarity) : Int × System :=
  match polarity with
  | .normal => pwmWriteAttribute check s a .polarity (lit "normal\n")
  | .inversed => pwmWriteAttribute check s a .polarity (lit "inversed\n")
  | .other _ => fail s errorArg 0 (lit "Invalid PWM polarity (can be normal, inversed)")

/-- `pwm_set_frequency` -/
def pwmSetFrequency (s : System) (a : Answers) (frequency : Rat) : Int × System :=
  pwmSetPeriodNs check s a (UInt64.ofNat (1000000000 / frequency).floor.toNat)

/-- `pwm_set_duty_cycle` -/
def pwmSetDutyCycle (s : System) (a : Answers) (dutyCycle : Rat) : Int × System :=
  if dutyCycle < 0 ∨ dutyCycle > 1 then
    fail s errorArg 0 (lit "PWM duty cycle out of bounds (should be between 0.0 and 1.0)")
  else
    pwmSetDutyCycleNs check s a (UInt64.ofNat (s.pwm.periodNs.toNat * dutyCycle).floor.toNat)

end Setters

/-! ## Calls -/

/-- A call of the library. `pwm_get_enabled` is left out: it overruns its array, and after that nothing is
known of the state. -/
inductive Call where
  | getPeriodNs
  | getDutyCycleNs
  | getPolarity
  | setPeriodNs (periodNs : UInt64)
  | setDutyCycleNs (dutyCycleNs : UInt64)
  | setPolarity (polarity : Polarity)
  | setEnabled (enabled : Bool)

/-- What a getter stores. -/
inductive Value where
  | nothing
  | ns (ns : UInt64)
  | polarity (polarity : Polarity)
  deriving DecidableEq

/-- What a getter returns and stores; after a fault nothing is known, and the state is left as it is. -/
def got {α : Type} (value : α → Value) (s : System) (r : Except Fault (Except Int α × System)) :
    Except Fault (Int × Value) × System :=
  match r with
  | .error fault => (.error fault, s)
  | .ok (.error code, s) => (.ok (code, .nothing), s)
  | .ok (.ok x, s) => (.ok (0, value x), s)

/-- A call with what is answered to it. -/
def exec (check : Channel → Option Nat) (s : System) (c : Call × Answers) :
    Except Fault (Int × Value) × System :=
  let code (r : Int × System) : Except Fault (Int × Value) × System := (.ok (r.1, .nothing), r.2)
  match c.1 with
  | .getPeriodNs => got .ns s (pwmGetPeriodNs s c.2)
  | .getDutyCycleNs => got .ns s (pwmGetDutyCycleNs s c.2)
  | .getPolarity => got .polarity s (pwmGetPolarity s c.2)
  | .setPeriodNs periodNs => code (pwmSetPeriodNs check s c.2 periodNs)
  | .setDutyCycleNs dutyCycleNs => code (pwmSetDutyCycleNs check s c.2 dutyCycleNs)
  | .setPolarity polarity => code (pwmSetPolarity check s c.2 polarity)
  | .setEnabled enabled => code (pwmSetEnabled check s c.2 enabled)

/-! ## Opening -/

/-- What the file system answers while a channel is opened. The delays that have passed are counted. -/
structure World where
  /-- `errno` of `stat` -/
  stat : List Byte → Nat → Option Nat
  /-- `errno` of `open(.., O_WRONLY)` -/
  openW : List Byte → Nat → Option Nat
  /-- What is answered while the number of the channel is written to `export`. -/
  exporting : FileAnswers

/-- `"/sys/class/pwm/pwmchip%u"` and what follows. -/
def path (chip : UInt32) (rest : List Byte) : List Byte :=
  (lit "/sys/class/pwm/pwmchip" ++ printUnsigned chip.toNat ++ rest).take 255

def channelPath (chip channel : UInt32) : List Byte :=
  path chip (lit "/pwm" ++ printUnsigned channel.toNat)

def exportPath (chip : UInt32) : List Byte := path chip (lit "/export")

def periodPath (chip channel : UInt32) : List Byte :=
  path chip (lit "/pwm" ++ printUnsigned channel.toNat ++ lit "/period")

/-- `PWM_EXPORT_STAT_RETRIES` -/
def exportStatRetries : Nat := 10

/-- The body of the first loop of `pwm_open`: it looks for `path`, which is the path of `export`. -/
def statAttempt (w : World) (path : List Byte) (now : Nat) : Attempt Nat :=
  match w.stat path now with
  | none => .done
  | some e => if e ≠ enoent then .failed e else .again

/-- The body of the second loop, which is entered at `start`. -/
def periodAttempt (w : World) (path : List Byte) (start now : Nat) : Attempt Nat :=
  match w.openW path now with
  | none => .done
  | some e =>
    if e ≠ eacces ∨ (e = eacces ∧ now - start = exportStatRetries - 1) then .failed e else .again

/-- `pwm_open` for a channel that has to be exported: an error with its text, and the delays that have
passed. -/
def exportChannel (w : World) (chip channel : UInt32) : Except (Nat × List Byte) Unit × Nat :=
  let exporting := writeFile w.exporting (fun _ => .ok ()) () (printUnsigned channel.toNat ++ [NL])
  match exporting.1 with
  | .error (.opening, e) => (.error (e, lit "Opening PWM: opening 'export'"), 0)
  | .error (.closing, e) => (.error (e, lit "Opening PWM: closing 'export'"), 0)
  | .error (_, e) => (.error (e, lit "Opening PWM: writing 'export'"), 0)
  | .ok () =>
    let name := lit "'pwm" ++ printUnsigned channel.toNat
    match retry (statAttempt w (exportPath chip)) exportStatRetries 0 with
    | .failed e now => (.error (e, lit "Opening PWM: stat " ++ name ++ lit "/' after export"), now)
    | .timedOut now => (.error (0, lit "Opening PWM: waiting for " ++ name ++ lit "/' timed out"), now)
    | .done start =>
      match retry (periodAttempt w (periodPath chip channel) start) exportStatRetries start with
      | .failed e now => (.error (e, lit "Opening PWM: opening " ++ name ++ lit "/period' after export"), now)
      | .timedOut now => (.ok (), now)
      | .done now => (.ok (), now)

/-- `pwm_open`: what it returns, and the delays that have passed. -/
def pwmOpen (s : System) (w : World) (a : Answers) (chip channel : UInt32) :
    Except Fault ((Int × Nat) × System) := do
  let found := w.stat (channelPath chip channel) 0 = none
  let (ready, now) := if found then (.ok (), 0) else exportChannel w chip channel
  match ready with
  | .error (e, text) =>
    let (code, s) := fail s errorOpen e text
    return ((code, now), s)
  | .ok () =>
    let s := { s with pwm := ⟨chip, channel, 0, Error.none⟩ }
    match ← pwmGetPeriodNs s a with
    | (.error code, s) => return ((code, now), s)
    | (.ok _, s) => return ((0, now), s)

/-- `pwm_close`; `unexporting` is what is answered while the number of the channel is written to
`unexport`. -/
def pwmClose (s : System) (unexporting : FileAnswers) : Int × System :=
  if s.pwm.channel = -1 then (0, s)
  else
    match (writeFile unexporting (fun _ => .ok ()) () (printUnsigned s.pwm.channel.toNat ++ [NL])).1 with
    | .error (.opening, e) => fail s errorClose e (lit "Closing PWM: opening 'unexport'")
    | .error (.closing, e) => fail s errorClose e (lit "Closing PWM: closing 'unexport'")
    | .error (_, e) => fail s errorClose e (lit "Closing PWM: writing 'unexport'")
    | .ok () => (0, { s with pwm := { s.pwm with chip := -1, channel := -1 } })

/-! ## What it is for -/

/-- A change of the configuration of a channel, if there is a text for it. -/
def change (check : Channel → Option Nat) (a : FileAnswers) (c : Channel) (next : Option Channel) :
    (Int × Value) × Channel :=
  if a.opened ≠ none ∨ a.io ≠ none then ((errorConfigure, .nothing), c)
  else
    match next with
    | none => ((errorConfigure, .nothing), c)
    | some next =>
      if check next ≠ none then ((errorConfigure, .nothing), c)
      else if a.closed ≠ none then ((errorConfigure, .nothing), next)
      else ((0, .nothing), next)

/-- What a channel shows. -/
def answer (a : FileAnswers) (value : Option Value) : Int × Value :=
  if a.Broken then (errorQuery, .nothing)
  else
    match value with
    | none => (errorQuery, .nothing)
    | some value => (0, value)

/-- A time that `unsigned long` has room for. -/
def readable (ns : UInt64) : Option Value := if ns.toNat ≤ ulongMax then some (.ns ns) else none

/-- The configuration itself, without texts: a time is taken below `2 ^ 63` and shown below `2 ^ 32`. -/
def respond (check : Channel → Option Nat) (c : Channel) (call : Call × Answers) :
    Except Fault (Int × Value) × Channel :=
  let a := call.2.file
  let setter (next : Option Channel) : Except Fault (Int × Value) × Channel :=
    (.ok (change check a c next).1, (change check a c next).2)
  match call.1 with
  | .getPeriodNs => (.ok (answer a (readable c.period)), c)
  | .getDutyCycleNs => (.ok (answer a (readable c.dutyCycle)), c)
  | .getPolarity => (.ok (answer a (some (.polarity (if c.inversed then .inversed else .normal)))), c)
  | .setPeriodNs ns => setter (if ns.toNat < 2 ^ 63 then some { c with period := ns } else none)
  | .setDutyCycleNs ns => setter (if ns.toNat < 2 ^ 63 then some { c with dutyCycle := ns } else none)
  | .setPolarity .normal => setter (some { c with inversed := false })
  | .setPolarity .inversed => setter (some { c with inversed := true })
  | .setPolarity (.other _) => (.ok (errorArg, .nothing), c)
  | .setEnabled enabled => setter (some { c with enabled := enabled })

end DiscoveryDemo.Periphery.Pwm
