import DiscoveryDemo.Periphery.GpioCdev

/-!
# A handle and its line

What a handle remembers against what the kernel holds: the settings that the flags of a request stand
for, what a setter asks for, and when the two sides agree.
-/

namespace DiscoveryDemo.Periphery.Gpio

open CLib Driver

/-- The settings that the flags of a request stand for. -/
def settingsOf (flags : LineFlags) : Settings where
  direction := if flags.has lineOutput then .dirOut else .dirIn
  edge :=
    if flags.has edgeRising && flags.has edgeFalling then .both
    else if flags.has edgeRising then .rising
    else if flags.has edgeFalling then .falling
    else .none
  bias :=
    if flags.has biasPullUp then .pullUp
    else if flags.has biasPullDown then .pullDown
    else if flags.has biasDisabled then .disable
    else .default
  drive :=
    if flags.has openDrain then .openDrain
    else if flags.has openSource then .openSource
    else .default
  inverted := flags.has activeLow

/-- Settings that pass the checks of the library. -/
structure Settings.Checked (c : Settings) : Prop where
  direction : isDirection c.direction = true
  edge : isEdge c.edge = true
  bias : isBias c.bias = true
  drive : isDrive c.drive = true
  edge_input : c.edge ≠ .none → c.direction = .dirIn

/-- The descriptors that a handle holds. -/
def Handle.descriptors (g : Handle) : List Nat :=
  (if 0 ≤ g.lineFd then [g.lineFd.toNat] else []) ++ if 0 ≤ g.chipFd then [g.chipFd.toNat] else []

/-- All descriptors of a handle have been given back once. -/
def GivenBack (s : System) : Prop := s.ledger.opened.Perm s.ledger.closed

/-- The handle and the kernel agree: either there is a line, requested with what the handle remembers, or
there is none in the kernel. The handle may then keep the number of a line that could not be closed. -/
structure Coherent (s : System) : Prop where
  checked : s.gpio.settings.Checked
  direction : s.gpio.settings.direction = .dirIn ∨ s.gpio.settings.direction = .dirOut
  drive_output : 0 ≤ s.gpio.chipFd → s.gpio.settings.drive ≠ .default →
    s.gpio.settings.direction = .dirOut
  line : s.request = none ∨
    ∃ (fd : Nat) (r : Request), s.gpio.lineFd = fd ∧ s.request = some (fd, r) ∧
      r.flags = configFlags s.gpio.settings
  line_fd : -1 ≤ s.gpio.lineFd
  chip : 0 ≤ s.gpio.lineFd → 0 ≤ s.gpio.chipFd
  chip_fd : -1 ≤ s.gpio.chipFd

/-- The settings that a setter asks for. -/
def Call.asks (c : Settings) : Call → Option Settings
  | .setDirection direction => some { c with direction := direction, edge := .none }
  | .setEdge edge => some { c with edge := edge }
  | .setBias bias => some { c with bias := bias }
  | .setDrive drive => some { c with drive := drive }
  | .setInverted inverted => some { c with inverted := inverted }
  | _ => none

/-- A setter asks for what the handle remembers anyway. -/
def Call.Remembered (c : Settings) : Call → Prop
  | .setDirection direction => c.direction = direction
  | .setEdge edge => c.edge = edge
  | .setBias bias => c.bias = bias
  | .setDrive drive => c.drive = drive
  | .setInverted inverted => c.inverted = inverted
  | _ => False

/-- A call that leaves the line alone: it reads, or it asks for what is there. -/
def Call.Quiet (c : Settings) (call : Call) : Prop :=
  call.Remembered c ∨ call = .read ∨ call = .readEvent

/-- The value that an output has after a call, if the call sets it. Requesting a line anew sets it to the
level of the direction that is asked for, whatever had been written before. -/
def Call.drives (c : Settings) (call : Call) : Option Bool :=
  match call with
  | .write value => some value
  | call =>
    match call.asks c with
    | none => none
    | some c =>
      if c.direction = .dirIn then none else some (decide (c.direction = .dirOutHigh) ^^ c.inverted)

/-- The line is an output at `value`. -/
def Drives (s : System) (value : Bool) : Prop :=
  ∃ r, s.held = some r ∧ r.flags.has lineOutput = true ∧ (s.level ^^ r.flags.has activeLow) = value

/-- The chip says that a line has the name. -/
def Chip.Named (chip : Chip) (name : CStr) (line : Nat) : Prop :=
  ∃ info, chip.lineInfo line = .ok info ∧ info.chars = name.chars

/-- The chip says that a line has another name. -/
def Chip.Differs (chip : Chip) (name : CStr) (line : Nat) : Prop :=
  ∃ info, chip.lineInfo line = .ok info ∧ info.chars ≠ name.chars

/-- All lines of the chip have other names. -/
def Chip.Unnamed (chip : Chip) (name : CStr) : Prop :=
  ∃ fd lines, chip.opened = .ok fd ∧ chip.lines = .ok lines ∧ ∀ k < lines, chip.Differs name k

/-- The first line with the name. -/
structure Chip.First (chip : Chip) (name : CStr) (line : Nat) : Prop where
  exists_line : ∃ lines, chip.lines = .ok lines ∧ line < lines
  named : chip.Named name line
  before : ∀ k < line, chip.Differs name k

/-- A handle that has been opened and on which calls have been made. -/
def Reached (s : System) : Prop :=
  ∃ a opened line c label calls,
    (gpioOpenAdvanced System.new a opened line c label).1 = 0 ∧
      s = (run exec (gpioOpenAdvanced System.new a opened line c label).2 calls).2

end DiscoveryDemo.Periphery.Gpio
