import DiscoveryDemo.CLib.Flags
import DiscoveryDemo.Driver.Ledger
import DiscoveryDemo.Driver.Machine
import DiscoveryDemo.Periphery.Error

/-!
# GPIO lines of the character device

`gpio_cdev_v2.c`: a handle holds a descriptor of the chip and one of the line that it has requested, and
remembers how it has configured the line. To change the configuration it closes the line and requests it
anew; when that fails the handle is left without a line.

The kernel refuses a request that breaks its configuration rules, or for reasons of its own. It keeps the
flags of the request, and the level to which an output drives the pin. A close gives the descriptor back
even if it fails; when the handle closes the number once more, that is counted as giving it back again,
for the number may have been given out to something else.
-/

namespace DiscoveryDemo.Periphery.Gpio

open CLib Driver

/-- `gpio_direction_t` -/
inductive Direction where
  | dirIn
  | dirOut
  | dirOutLow
  | dirOutHigh
  | other (value : Nat)
  deriving DecidableEq

/-- `gpio_edge_t` -/
inductive Edge where
  | none
  | rising
  | falling
  | both
  | other (value : Nat)
  deriving DecidableEq

/-- `gpio_bias_t` -/
inductive Bias where
  | default
  | pullUp
  | pullDown
  | disable
  | other (value : Nat)
  deriving DecidableEq

/-- `gpio_drive_t` -/
inductive Drive where
  | default
  | openDrain
  | openSource
  | other (value : Nat)
  deriving DecidableEq

/-- What a handle remembers of the configuration of its line. -/
structure Settings where
  direction : Direction
  edge : Edge
  bias : Bias
  drive : Drive
  inverted : Bool
  deriving DecidableEq

/-- `gpio_t` with a line of the character device. -/
structure Handle where
  line : Nat
  lineFd : Int
  chipFd : Int
  settings : Settings
  label : List Byte
  error : Error

/-- `gpio_new` -/
def gpioNew : Handle :=
  ⟨0, -1, -1, ⟨.dirIn, .none, .default, .default, false⟩, [], Error.none⟩

/-! ## Codes -/

def errorArg : Int := -1
def errorOpen : Int := -2
def errorNotFound : Int := -3
def errorQuery : Int := -4
def errorInvalidOperation : Int := -7
def errorIo : Int := -8
def errorClose : Int := -9

/-- `EPERM` -/
def eperm : Nat := 1

/-- `EBADF` -/
def ebadf : Nat := 9

/-- `EINVAL` -/
def einval : Nat := 22

/-! ## The kernel -/

/-- The flags of a line request. -/
abbrev LineFlags := BitVec 32

def activeLow : LineFlags := 0x2
def lineInput : LineFlags := 0x4
def lineOutput : LineFlags := 0x8
def edgeRising : LineFlags := 0x10
def edgeFalling : LineFlags := 0x20
def openDrain : LineFlags := 0x40
def openSource : LineFlags := 0x80
def biasPullUp : LineFlags := 0x100
def biasPullDown : LineFlags := 0x200
def biasDisabled : LineFlags := 0x400
def eventClockRealtime : LineFlags := 0x800

def LineFlags.has (flags mask : LineFlags) : Bool := flags &&& mask ≠ 0

/-- `struct gpio_v2_line_request` -/
structure Request where
  offset : Nat
  consumer : List Byte
  flags : LineFlags
  /-- The initial value of an output. -/
  value : Option Bool

/-- The configuration rules of the character device: one direction, edges only of inputs, one drive and
only of outputs, one bias. -/
def accepted (flags : LineFlags) : Bool :=
  !(flags.has lineInput && flags.has lineOutput) &&
    (!flags.has (edgeRising ||| edgeFalling) || flags.has lineInput) &&
    !(flags.has openDrain && flags.has openSource) &&
    (!flags.has (openDrain ||| openSource) || flags.has lineOutput) &&
    (!flags.has (biasPullUp ||| biasPullDown ||| biasDisabled) || flags.has (lineInput ||| lineOutput)) &&
    !(flags.has biasPullUp && flags.has biasPullDown) &&
    !(flags.has biasPullUp && flags.has biasDisabled) &&
    !(flags.has biasPullDown && flags.has biasDisabled)

/-- A handle and what the kernel knows of it. -/
structure System where
  gpio : Handle
  /-- The request that the line is held by, and its descriptor. -/
  request : Option (Nat × Request)
  /-- The level at which an output drives the pin, or has driven it last. -/
  level : Bool
  ledger : Ledger

/-- What the system calls of one library call return: an `errno`, or what they give. -/
structure Answers where
  closeLine : Option Nat
  closeChip : Option Nat
  /-- The descriptor for a line request. -/
  request : Except Nat Nat
  /-- `ioctl` to get or set the value. -/
  io : Option Nat
  /-- The level at which the pin is read. For an output it is up to the driver whether this is the level
  that it drives or the one at the pin. -/
  pin : Bool
  /-- The identifier of an edge event and its time. -/
  event : Except Nat (Nat × Nat)

/-- `return _gpio_error(..)` -/
def fail (s : System) (code : Int) (c_errno : Nat) (text : List Byte) : Int × System :=
  (code, { s with gpio := { s.gpio with error := ⟨c_errno, text⟩ } })

/-- `close(line_fd)`, if there is one: its `errno` if it fails. The descriptor is gone in any case. -/
def closeLine (s : System) (a : Answers) : Option Nat × System :=
  if 0 ≤ s.gpio.lineFd then
    let s := { s with request := none, ledger := s.ledger.leave s.gpio.lineFd.toNat }
    match a.closeLine with
    | some e => (some e, s)
    | none => (none, { s with gpio := { s.gpio with lineFd := -1 } })
  else (none, s)

/-- `close(chip_fd)`, if there is one: its `errno` if it fails. The descriptor is gone in any case. -/
def closeChip (s : System) (a : Answers) : Option Nat × System :=
  if 0 ≤ s.gpio.chipFd then
    let s := { s with ledger := s.ledger.leave s.gpio.chipFd.toNat }
    match a.closeChip with
    | some e => (some e, s)
    | none => (none, { s with gpio := { s.gpio with chipFd := -1 } })
  else (none, s)

/-- `ioctl(chip_fd, GPIO_V2_GET_LINE_IOCTL, ..)` -/
def getLine (s : System) (a : Answers) (r : Request) : Except Nat (Nat × System) :=
  if s.gpio.chipFd < 0 then .error ebadf
  else if !accepted r.flags then .error einval
  else
    match a.request with
    | .error e => .error e
    | .ok fd =>
      .ok (fd, { s with
        request := some (fd, r)
        level :=
          match r.value with
          | some value => value ^^ r.flags.has activeLow
          | none => s.level
        ledger := s.ledger.enter fd })

/-- The request behind `line_fd`. -/
def System.held (s : System) : Option Request :=
  match s.request with
  | some (fd, r) => if s.gpio.lineFd = fd then some r else none
  | none => none

/-! ## Requesting a line -/

/-- `flags` in `_gpio_cdev_reopen`. -/
def configFlags (c : Settings) : LineFlags :=
  let flags : LineFlags := 0
  let flags :=
    if c.bias = .pullUp then flags ||| biasPullUp
    else if c.bias = .pullDown then flags ||| biasPullDown
    else if c.bias = .disable then flags ||| biasDisabled
    else flags
  let flags :=
    if c.drive = .openDrain then flags ||| openDrain
    else if c.drive = .openSource then flags ||| openSource
    else flags
  let flags := if c.inverted then flags ||| activeLow else flags
  if c.direction = .dirIn then
    let flags := flags ||| lineInput
    let flags := flags |||
      (if c.edge = .rising then edgeRising
       else if c.edge = .falling then edgeFalling
       else if c.edge = .both then edgeRising ||| edgeFalling
       else 0)
    flags ||| (if c.edge ≠ .none then eventClockRealtime else 0)
  else flags ||| lineOutput

/-- `line_request` in `_gpio_cdev_reopen`. -/
def lineRequest (g : Handle) (c : Settings) : Request where
  offset := g.line
  consumer := g.label.take 31
  flags := configFlags c
  value := if c.direction = .dirIn then none else some (decide (c.direction = .dirOutHigh) ^^ c.inverted)

/-- What a handle remembers of a configuration. -/
def Settings.remembered (c : Settings) : Settings :=
  { c with direction := if c.direction = .dirIn then .dirIn else .dirOut }

/-- `_gpio_cdev_reopen` -/
def gpioCdevReopen (s : System) (a : Answers) (c : Settings) : Int × System :=
  match closeLine s a with
  | (some e, s) => fail s errorClose e (lit "Closing GPIO line")
  | (none, s) =>
    match getLine s a (lineRequest s.gpio c) with
    | .error e =>
      fail s errorOpen e
        (if c.direction = .dirIn then lit "Opening input line handle" else lit "Opening output line handle")
    | .ok (fd, s) => (0, { s with gpio := { s.gpio with lineFd := fd, settings := c.remembered } })

/-! ## Setters -/

/-- The directions that are checked for. -/
def isDirection (d : Direction) : Bool :=
  !(d ≠ .dirIn && d ≠ .dirOut && d ≠ .dirOutLow && d ≠ .dirOutHigh)

/-- The edges that are checked for. -/
def isEdge (e : Edge) : Bool := !(e ≠ .none && e ≠ .rising && e ≠ .falling && e ≠ .both)

/-- The biases that are checked for. -/
def isBias (b : Bias) : Bool := !(b ≠ .default && b ≠ .pullUp && b ≠ .pullDown && b ≠ .disable)

/-- The drives that are checked for. -/
def isDrive (d : Drive) : Bool := !(d ≠ .default && d ≠ .openDrain && d ≠ .openSource)

/-- The text of the error if `isDirection` fails, and those of the other checks. -/
def directionText : List Byte := lit "Invalid GPIO direction (can be in, out, low, high)"
def edgeText : List Byte := lit "Invalid GPIO interrupt edge (can be none, rising, falling, both)"
def biasText : List Byte := lit "Invalid GPIO line bias (can be default, pull_up, pull_down, disable)"
def driveText : List Byte := lit "Invalid GPIO line drive (can be default, open_drain, open_source)"

/-- `gpio_cdev_set_direction` -/
def gpioCdevSetDirection (s : System) (a : Answers) (direction : Direction) : Int × System :=
  if !isDirection direction then fail s errorArg 0 directionText
  else if s.gpio.settings.direction = direction then (0, s)
  else gpioCdevReopen s a { s.gpio.settings with direction := direction, edge := .none }

/-- `gpio_cdev_set_edge` -/
def gpioCdevSetEdge (s : System) (a : Answers) (edge : Edge) : Int × System :=
  if !isEdge edge then fail s errorArg 0 edgeText
  else if s.gpio.settings.direction ≠ .dirIn then
    fail s errorInvalidOperation 0 (lit "Invalid operation: cannot set edge on output GPIO")
  else if s.gpio.settings.edge = edge then (0, s)
  else gpioCdevReopen s a { s.gpio.settings with edge := edge }

/-- `gpio_cdev_set_bias` -/
def gpioCdevSetBias (s : System) (a : Answers) (bias : Bias) : Int × System :=
  if !isBias bias then fail s errorArg 0 biasText
  else if s.gpio.settings.bias = bias then (0, s)
  else gpioCdevReopen s a { s.gpio.settings with bias := bias }

/-- `gpio_cdev_set_drive` -/
def gpioCdevSetDrive (s : System) (a : Answers) (drive : Drive) : Int × System :=
  if !isDrive drive then fail s errorArg 0 driveText
  else if s.gpio.settings.direction ≠ .dirOut ∧ drive ≠ .default then
    fail s errorInvalidOperation 0 (lit "Invalid operation: cannot set line drive on input GPIO")
  else if s.gpio.settings.drive = drive then (0, s)
  else gpioCdevReopen s a { s.gpio.settings with drive := drive }

/-- `gpio_cdev_set_inverted` -/
def gpioCdevSetInverted (s : System) (a : Answers) (inverted : Bool) : Int × System :=
  if s.gpio.settings.inverted = inverted then (0, s)
  else gpioCdevReopen s a { s.gpio.settings with inverted := inverted }

/-! ## Values and events -/

/-- `gpio_cdev_read`: the value it stores, if it succeeds. -/
def gpioCdevRead (s : System) (a : Answers) : (Int × Option Bool) × System :=
  let failed (e : Nat) : (Int × Option Bool) × System :=
    let (code, s) := fail s errorIo e (lit "Getting line value")
    ((code, none), s)
  match s.held, a.io with
  | none, _ => failed ebadf
  | some _, some e => failed e
  | some r, none => ((0, some (a.pin ^^ r.flags.has activeLow)), s)

/-- `gpio_cdev_write` -/
def gpioCdevWrite (s : System) (a : Answers) (value : Bool) : Int × System :=
  if s.gpio.settings.direction ≠ .dirOut then
    fail s errorInvalidOperation 0 (lit "Invalid operation: cannot write to input GPIO")
  else
    match s.held, a.io with
    | none, _ => fail s errorIo ebadf (lit "Setting line value")
    | some _, some e => fail s errorIo e (lit "Setting line value")
    | some r, none =>
      if r.flags.has lineOutput then (0, { s with level := value ^^ r.flags.has activeLow })
      else fail s errorIo eperm (lit "Setting line value")

/-- `gpio_cdev_read_event`: the edge and the time it stores, if it succeeds. -/
def gpioCdevReadEvent (s : System) (a : Answers) : (Int × Option (Edge × Nat)) × System :=
  let failed (code : Int) (e : Nat) (text : List Byte) : (Int × Option (Edge × Nat)) × System :=
    ((code, none), (fail s code e text).2)
  if s.gpio.settings.direction ≠ .dirIn then
    failed errorInvalidOperation 0 (lit "Invalid operation: cannot read event of output GPIO")
  else if s.gpio.settings.edge = .none then
    failed errorInvalidOperation 0 (lit "Invalid operation: GPIO edge not set")
  else
    match s.held, a.event with
    | none, _ => failed errorIo ebadf (lit "Reading GPIO event")
    | some _, .error e => failed errorIo e (lit "Reading GPIO event")
    | some _, .ok (id, time) =>
      ((0, some (if id = 1 then .rising else if id = 2 then .falling else .none, time)), s)

/-! ## Opening and closing -/

/-- `gpio_cdev_close` -/
def gpioCdevClose (s : System) (a : Answers) : Int × System :=
  match closeLine s a with
  | (some e, s) => fail s errorClose e (lit "Closing GPIO line")
  | (none, s) =>
    match closeChip s a with
    | (some e, s) => fail s errorClose e (lit "Closing GPIO chip")
    | (none, s) =>
      (0, { s with
        gpio := { s.gpio with settings := { s.gpio.settings with edge := .none, direction := .dirIn } } })

/-- `gpio_open_advanced`. `opened` is what `open` returns, an `errno` or a descriptor. -/
def gpioOpenAdvanced (s : System) (a : Answers) (opened : Except Nat Nat) (line : Nat) (c : Settings)
    (label : Option (List Byte)) : Int × System :=
  if !isDirection c.direction then fail s errorArg 0 directionText
  else if !isEdge c.edge then fail s errorArg 0 edgeText
  else if c.direction ≠ .dirIn ∧ c.edge ≠ .none then
    fail s errorArg 0 (lit "Invalid GPIO edge for output GPIO")
  else if !isBias c.bias then fail s errorArg 0 biasText
  else if !isDrive c.drive then fail s errorArg 0 driveText
  else if c.direction = .dirIn ∧ c.drive ≠ .default then
    fail s errorArg 0 (lit "Invalid GPIO line drive for input GPIO")
  else
    match opened with
    | .error e => fail s errorOpen e (lit "Opening GPIO chip")
    | .ok fd =>
      let s := { s with
        gpio := { gpioNew with
          line := line
          chipFd := fd
          label := (label.getD (lit "periphery")).take 31 }
        ledger := s.ledger.enter fd }
      let (ret, s) := gpioCdevReopen s a c
      if ret < 0 then
        (ret, { s with gpio := { s.gpio with chipFd := -1 }, ledger := s.ledger.leave fd })
      else (0, s)

/-- `gpio_open` -/
def gpioOpen (s : System) (a : Answers) (opened : Except Nat Nat) (line : Nat) (direction : Direction) :
    Int × System :=
  gpioOpenAdvanced s a opened line ⟨direction, .none, .default, .default, false⟩ none

/-! ## Opening by name -/

/-- What the chip answers while a line is looked for: `open`, the number of its lines, what is asked of
each line, and `close`. -/
structure Chip where
  opened : Except Nat Nat
  lines : Except Nat Nat
  lineInfo : Nat → Except Nat CStr
  closed : Option Nat

/-- How the search for a line ends. -/
inductive Search where
  | found (line : Nat)
  | notFound
  | failed (line : Nat) (c_errno : Nat)
  deriving DecidableEq

/-- The loop of `gpio_open_name_advanced`, with `remaining` lines from `line` on. -/
def findLine (lineInfo : Nat → Except Nat CStr) (name : CStr) : (remaining line : Nat) → Search
  | 0, _ => .notFound
  | remaining + 1, line =>
    match lineInfo line with
    | .error e => .failed line e
    | .ok info => if info.chars = name.chars then .found line else findLine lineInfo name remaining (line + 1)

/-- `gpio_open_name_advanced` -/
def gpioOpenNameAdvanced (s : System) (chip : Chip) (name : CStr) (a : Answers) (opened : Except Nat Nat)
    (c : Settings) (label : Option (List Byte)) : Int × System :=
  match chip.opened with
  | .error e => fail s errorOpen e (lit "Opening GPIO chip")
  | .ok fd =>
    let s := { s with ledger := s.ledger.enter fd }
    let closed := { s with ledger := s.ledger.leave fd }
    match chip.lines with
    | .error e => fail closed errorQuery e (lit "Querying GPIO chip info")
    | .ok lines =>
      match findLine chip.lineInfo name lines 0 with
      | .failed line e =>
        fail closed errorQuery e (lit "Querying GPIO line info for line " ++ printUnsigned line)
      | .notFound =>
        fail closed errorNotFound 0 (lit "GPIO line \"" ++ name.chars ++ lit "\" not found by name")
      | .found line =>
        match chip.closed with
        | some e => fail closed errorClose e (lit "Closing GPIO chip")
        | none => gpioOpenAdvanced closed a opened line c label

/-! ## Calls -/

inductive Call where
  | setDirection (direction : Direction)
  | setEdge (edge : Edge)
  | setBias (bias : Bias)
  | setDrive (drive : Drive)
  | setInverted (inverted : Bool)
  | read
  | write (value : Bool)
  | readEvent
  | close

/-- What a call stores behind its arguments. -/
inductive Value where
  | nothing
  | value (value : Bool)
  | event (edge : Edge) (time : Nat)
  deriving DecidableEq

/-- A call with the answers of its system calls. -/
def exec (s : System) (c : Call × Answers) : (Int × Value) × System :=
  let code (r : Int × System) : (Int × Value) × System := ((r.1, .nothing), r.2)
  match c.1 with
  | .setDirection direction => code (gpioCdevSetDirection s c.2 direction)
  | .setEdge edge => code (gpioCdevSetEdge s c.2 edge)
  | .setBias bias => code (gpioCdevSetBias s c.2 bias)
  | .setDrive drive => code (gpioCdevSetDrive s c.2 drive)
  | .setInverted inverted => code (gpioCdevSetInverted s c.2 inverted)
  | .read =>
    let r := gpioCdevRead s c.2
    ((r.1.1, match r.1.2 with
      | some value => .value value
      | none => .nothing), r.2)
  | .write value => code (gpioCdevWrite s c.2 value)
  | .readEvent =>
    let r := gpioCdevReadEvent s c.2
    ((r.1.1, match r.1.2 with
      | some (edge, time) => .event edge time
      | none => .nothing), r.2)
  | .close => code (gpioCdevClose s c.2)

/-- A handle before it is opened. -/
def System.new : System := ⟨gpioNew, none, false, Ledger.empty⟩

end DiscoveryDemo.Periphery.Gpio
