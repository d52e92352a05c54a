import DiscoveryDemo.CLib.Strtol
import DiscoveryDemo.Driver.Trace
import DiscoveryDemo.Sensor.Accessors
import DiscoveryDemo.Sensor.Delay

/-!
# `main` of ioexample4

The program checks its argument, opens the SPI device, reads `WHO_AM_I`, switches the sensor on and
samples it until a key is pressed or a transfer fails. A run is described by the driver calls it makes,
with what they return, by the readings it prints and by the timeouts with which it waits for a key. What
the library, the device, the clock and the keyboard answer is the environment of the run.
-/

namespace DiscoveryDemo.Ioexample4

open CLib Sensor Driver

/-- `SPI_DEVICE` -/
def spiDevice : List Byte := lit "/dev/spidev0.0"

/-- `SPI_MODE` -/
def spiMode : Nat := 3

/-- `SPI_SPEED_HZ` -/
def spiSpeedHz : Nat := 1000000

/-- `REG_WHOAMI` -/
def regWhoami : Byte := 0x0F

/-- `REG_CTRL1` -/
def regCtrl1 : Byte := 0x20

/-- `REG_TEMP` -/
def regTemp : Byte := 0x26

/-- `REG_OUT_X_L` -/
def regOutXL : Byte := 0x28

/-- The calls of a run. -/
inductive Call where
  | spiNew
  | spiOpen (path : List Byte) (mode speed : Nat) (code : Int)
  /-- `spi_transfer`, for a register. -/
  | spiTransfer (reg : Byte) (code : Int)
  /-- `printf` of a reading. -/
  | reading (whoami : Byte) (temp : Int) (x y z : Int16)
  /-- `select` in `delay_or_keypress`, with the timeout that it gets. -/
  | select (tv : Timeval)
  | spiClose
  | spiFree
  deriving DecidableEq

/-- The timeouts of the waits for a key among the calls. -/
def timeouts (calls : List Call) : List Timeval :=
  calls.filterMap fun
    | .select tv => some tv
    | _ => none

/-- What `spi_transfer` returns. -/
def transferCode : Transfer → Int
  | .done _ => 0
  | .failed code _ => code

/-- `delay_ms`; an argument that is rejected gives none. -/
def delayMs : List CStr → Option UInt32
  | [arg] =>
    let val := strtol arg.chars
    if val.erange = true ∨ val.rest ≠ [] ∨ val.value ≤ 0 then none else some (UInt32.ofInt val.value)
  | _ => some 1000

/-- `cleanup` -/
def cleanup : List Call := [.spiClose, .spiFree]

/-- What a round of the sampling loop gets from outside. -/
structure Round where
  /-- What `getchar` returns in `kbhit`. -/
  key : Option Byte
  /-- The uninitialised `temp_raw`. -/
  tempRaw : Byte
  /-- The transfer of `REG_TEMP`. -/
  temp : Transfer
  /-- The uninitialised arrays `buf`, `tx` and `rx`. -/
  buf : Buf 6
  tx : Buf 7
  rx : Buf 7
  /-- The transfer of the six registers from `REG_OUT_X_L` on. -/
  multi : Transfer
  /-- What `select` answers in `delay_or_keypress`. -/
  select : Selected

/-- What a run changes. -/
structure State where
  regs : RegFile
  term : Terminal
  calls : List Call

/-- How a round of the sampling loop, or some of them, end. -/
inductive Sampled where
  /-- The loop goes on. -/
  | goesOn (s : State)
  | stopped (s : State)

/-- The state at the end. -/
def Sampled.state : Sampled → State
  | goesOn s | stopped s => s

/-- `(int16_t)(buf[i + 1] << 8 | buf[i])` -/
def axis (buf : Buf 6) (i : Nat) : Except Fault Int16 := do
  let hi ← buf.read (i + 1 : Nat)
  let lo ← buf.read (i : Nat)
  return Int16.ofNat (hi.toNat <<< 8 ||| lo.toNat)

/-- One round of the sampling loop. -/
def sampleRound (settable : BitVec 32) (delayMs : UInt32) (whoami : Byte) (s : State) (r : Round) :
    Except Fault Sampled := do
  let (pressed, term) := kbhit settable r.key s.term
  let s := { s with term := term }
  if pressed ≠ 0 then return .stopped s
  else
    let (code, tempRaw, regs) ← spiReadRegister s.regs r.temp regTemp r.tempRaw
    let s := { s with regs := regs, calls := s.calls ++ [.spiTransfer regTemp (transferCode r.temp)] }
    if code < 0 then return .stopped s
    else
      let (code, buf, regs) ← spiReadMulti s.regs r.multi regOutXL r.buf r.tx r.rx
      let s :=
        { s with regs := regs, calls := s.calls ++ [.spiTransfer regOutXL (transferCode r.multi)] }
      if code < 0 then return .stopped s
      else
        let x ← axis buf 0
        let y ← axis buf 2
        let z ← axis buf 4
        let reading := Call.reading whoami (25 + tempRaw.toInt8.toInt) x y z
        let s := { s with calls := s.calls ++ [reading] }
        let (pressed, term, calls) := delayOrKeypressIn settable (delayMs * 1000)
          (fun tv calls => (r.select, calls ++ [Call.select tv])) s.term s.calls
        let s := { s with term := term, calls := calls }
        if pressed ≠ 0 then return .stopped s else return .goesOn s

/-- The sampling loop, for the rounds given. -/
def sample (settable : BitVec 32) (delayMs : UInt32) (whoami : Byte) (s : State) :
    List Round → Except Fault Sampled
  | [] => .ok (.goesOn s)
  | r :: rounds => do
    match ← sampleRound settable delayMs whoami s r with
    | .goesOn s => sample settable delayMs whoami s rounds
    | .stopped s => return .stopped s

/-- All that a run gets from outside. `spi_new` returns an object. -/
structure Env where
  /-- The arguments after the name of the program. -/
  args : List CStr
  /-- What `spi_open` returns. -/
  opened : Int
  regs : RegFile
  term : Terminal
  /-- The file status flags that can be set. -/
  settable : BitVec 32
  /-- The transfer of `REG_WHOAMI`. -/
  whoami : Transfer
  /-- The transfer of `REG_CTRL1`. -/
  ctrl1 : Transfer
  /-- What `select` answers in `delay_us`. -/
  delays : List Slept
  rounds : List Round

/-- How far a run has got. -/
inductive Outcome where
  | running (calls : List Call)
  | exited (status : Nat) (calls : List Call)

/-- `main`, as far as the answers of the environment reach. -/
def main (env : Env) : Except Fault Outcome :=
  match delayMs env.args with
  | none => .ok (.exited 1 [])
  | some delayMs => do
    let calls : List Call := [.spiNew, .spiOpen spiDevice spiMode spiSpeedHz env.opened]
    if env.opened < 0 then return .exited 1 (calls ++ cleanup)
    else
      let (code, whoami, regs) ← spiReadRegister env.regs env.whoami regWhoami 0
      let calls := calls ++ [.spiTransfer regWhoami (transferCode env.whoami)]
      if code < 0 then return .exited 1 (calls ++ cleanup)
      else
        let (code, regs) := spiWriteRegister regs env.ctrl1 regCtrl1 0x0F
        let calls := calls ++ [.spiTransfer regCtrl1 (transferCode env.ctrl1)]
        if code < 0 then return .exited 1 (calls ++ cleanup)
        else
          match delayUs 100000 env.delays with
          | .waiting _ => return .running calls
          | .exited => return .exited 1 calls
          | .returned =>
            match ← sample env.settable delayMs whoami ⟨regs, env.term, calls⟩ env.rounds with
            | .goesOn s => return .running s.calls
            | .stopped s => return .exited 0 (s.calls ++ cleanup)

/-! ## What a run owes -/

/-- The part that a call plays. -/
def Call.role : Call → Role
  | spiOpen _ _ _ code => .opens code
  | spiTransfer _ code => .uses code
  | spiClose => .closes
  | spiFree => .frees
  | spiNew | reading _ _ _ _ _ | select _ => .other

/-- If the program ends, its status tells whether an argument was rejected or a call failed, and a
device that was opened has been closed once and freed once. -/
def Accounts (env : Env) : Prop :=
  ∀ status calls, main env = .ok (.exited status calls) →
    Accounted (delayMs env.args = none) status (calls.map Call.role)

/-- A transfer of the round fails, if it is made. -/
def Round.Fails (r : Round) : Prop := transferCode r.temp < 0 ∨ transferCode r.multi < 0

/-- No key is pressed in the round. -/
def Round.Quiet (r : Round) : Prop := r.key = none ∧ ¬(r.select.retval > 0 ∧ r.select.ready)

/-- Until a key is pressed no transfer fails. -/
def Steady (rounds : List Round) : Prop :=
  ∀ pre r post, rounds = pre ++ r :: post → (∀ q ∈ pre, q.Quiet) → r.key = none → ¬r.Fails

/-- The argument is accepted, and the sensor is opened and switched on. -/
def Env.SetsUp (env : Env) : Prop :=
  delayMs env.args ≠ none ∧ 0 ≤ env.opened ∧ 0 ≤ transferCode env.whoami ∧
    0 ≤ transferCode env.ctrl1

/-- After the set-up, `select` in `delay_us` does not fail with another error than `EINTR`, and no
transfer of the sampling loop fails. -/
def Env.RunsWell (env : Env) : Prop :=
  match finalAnswer env.delays with
  | some .elapsed => Steady env.rounds
  | some .failed => False
  | _ => True

end DiscoveryDemo.Ioexample4
