import DiscoveryDemo.Driver.Machine
import DiscoveryDemo.Periphery.Error
import DiscoveryDemo.Periphery.Termios

/-!
# The settings of a serial port

The functions of `serial.c` that open a port and set and query its attributes. The kernel keeps the
attributes of the terminal. `tcsetattr` succeeds if any of the changes could be made, so that it is up to
the driver what it makes of the attributes that it is given; it fails if none could be made. Any of the
system calls can fail in any call. `vtime` is in tenths of a second; the conversion from and to `float`
is not part of the model.
-/

namespace DiscoveryDemo.Periphery.Serial

open CLib

/-- `serial_parity_t`; an argument can have any value. -/
inductive Parity where
  | none
  | odd
  | even
  | other (value : Nat)
  deriving DecidableEq

/-- `serial_t` -/
structure Handle where
  fd : Int
  useTermiosTimeout : Bool
  error : Error

/-- `serial_new` -/
def serialNew : Handle := ⟨-1, false, Error.none⟩

/-- A handle, and the attributes that the kernel holds for its terminal. -/
structure Port where
  handle : Handle
  tty : Termios

/-- What the system calls of one library call return: an `errno`, or nothing if they succeed. -/
structure Answers where
  tcgetattr : Option Nat
  tcsetattr : Option Nat
  /-- The attributes that are in force after `tcsetattr` has succeeded with the ones that it was given. -/
  inForce : Termios → Termios

/-- Calls that succeed, with a driver that supports all attributes. -/
def Answers.fine : Answers := ⟨none, none, id⟩

/-! ## Errors -/

def errorArg : Int := -1
def errorOpen : Int := -2
def errorQuery : Int := -3
def errorConfigure : Int := -4

/-- `EBADF` -/
def ebadf : Nat := 9

/-- `return _serial_error(..)` -/
def fail (p : Port) (code : Int) (c_errno : Nat) (text : List Byte) : Int × Port :=
  (code, { p with handle := { p.handle with error := ⟨c_errno, text⟩ } })

/-! ## Baud rates -/

/-- The baud rates and their bits, as the two functions below list them. -/
def rates : List (Word × Word) :=
  [(50, 1), (75, 2), (110, 3), (134, 4), (150, 5), (200, 6), (300, 7), (600, 8), (1200, 9), (1800, 10),
    (2400, 11), (4800, 12), (9600, 13), (19200, 14), (38400, 15), (57600, 0x1001), (115200, 0x1002),
    (230400, 0x1003), (460800, 0x1004), (500000, 0x1005), (576000, 0x1006), (921600, 0x1007),
    (1000000, 0x1008), (1152000, 0x1009), (1500000, 0x100a), (2000000, 0x100b), (2500000, 0x100c),
    (3000000, 0x100d), (3500000, 0x100e), (4000000, 0x100f)]

/-- `_serial_baudrate_to_bits`, as a `speed_t`. -/
def serialBaudrateToBits (baudrate : Word) : Word :=
  match rates.find? (·.1 = baudrate) with
  | some rate => rate.2
  | none => 0xffffffff

/-- `_serial_bits_to_baudrate`, as a `uint32_t`. -/
def serialBitsToBaudrate (bits : Word) : Word :=
  if bits = b0 then 0
  else
    match rates.find? (·.2 = bits) with
    | some rate => rate.1
    | none => 0xffffffff

/-! ## Opening -/

def databitsFlag (databits : Nat) : Word :=
  if databits = 5 then cs5
  else if databits = 6 then cs6
  else if databits = 7 then cs7
  else if databits = 8 then cs8
  else 0

def parityFlag (parity : Parity) : Word :=
  if parity = .even then parenb
  else if parity = .odd then parenb ||| parodd
  else 0

def stopbitsFlag (stopbits : Nat) : Word := if stopbits = 2 then cstopb else 0

def xonxoffFlag (enabled : Bool) : Word := if enabled then ixon ||| ixoff else 0

def rtsctsFlag (enabled : Bool) : Word := if enabled then crtscts else 0

def isDatabits (databits : Nat) : Bool :=
  !(databits ≠ 5 && databits ≠ 6 && databits ≠ 7 && databits ≠ 8)

def isParity (parity : Parity) : Bool := !(parity ≠ .none && parity ≠ .odd && parity ≠ .even)

def isStopbits (stopbits : Nat) : Bool := !(stopbits ≠ 1 && stopbits ≠ 2)

def databitsText : List Byte := lit "Invalid data bits (can be 5,6,7,8)"
def parityText : List Byte := lit "Invalid parity (can be PARITY_NONE,PARITY_ODD,PARITY_EVEN)"
def stopbitsText : List Byte := lit "Invalid stop bits (can be 1,2)"

/-- `termios_settings` in `serial_open_advanced`. -/
def openSettings (baudrate : Word) (databits : Nat) (parity : Parity) (stopbits : Nat)
    (xonxoff rtscts : Bool) : Termios :=
  let iflag := ignbrk
  let iflag := if parity ≠ .none then iflag ||| inpck else iflag
  -- only if there are less than 8 data bits, as ISTRIP strips the 8th bit
  let iflag := if parity ≠ .none ∧ databits ≠ 8 then iflag ||| istrip else iflag
  let iflag := iflag ||| xonxoffFlag xonxoff
  let cflag := cread ||| clocal
  let cflag := cflag ||| databitsFlag databits
  let cflag := cflag ||| parityFlag parity
  let cflag := cflag ||| stopbitsFlag stopbits
  let cflag := cflag ||| rtsctsFlag rtscts
  let settings := { Termios.zero with iflag := iflag, cflag := cflag }
  let settings := cfsetspeed settings (serialBaudrateToBits baudrate)
  cfsetspeed settings (serialBaudrateToBits baudrate)

/-- `serial_open_advanced`. `opened` is what `open` returns, an `errno` or a descriptor. -/
def serialOpenAdvanced (p : Port) (path : List Byte) (baudrate : Word) (databits : Nat)
    (parity : Parity) (stopbits : Nat) (xonxoff rtscts : Bool) (opened : Except Nat Nat) (a : Answers) :
    Int × Port :=
  if !isDatabits databits then fail p errorArg 0 databitsText
  else if !isParity parity then fail p errorArg 0 parityText
  else if !isStopbits stopbits then fail p errorArg 0 stopbitsText
  else
    match opened with
    | .error e =>
      fail { p with handle := ⟨-1, false, Error.none⟩ } errorOpen e
        (lit "Opening serial port \"" ++ path ++ lit "\"")
    | .ok fd =>
      match a.tcsetattr with
      | some e =>
        fail { p with handle := ⟨-1, false, Error.none⟩ } errorConfigure e
          (lit "Setting serial port attributes")
      | none =>
        (0, ⟨⟨fd, false, Error.none⟩,
          a.inForce (openSettings baudrate databits parity stopbits xonxoff rtscts)⟩)

/-- `serial_open` -/
def serialOpen (p : Port) (path : List Byte) (baudrate : Word) (opened : Except Nat Nat) (a : Answers) :
    Int × Port :=
  serialOpenAdvanced p path baudrate 8 .none 1 false false opened a

/-! ## System calls -/

def tcgetattr (p : Port) (a : Answers) : Except Nat Termios :=
  if p.handle.fd < 0 then .error ebadf
  else
    match a.tcgetattr with
    | some e => .error e
    | none => .ok p.tty

def tcsetattr (p : Port) (a : Answers) (settings : Termios) : Except Nat Port :=
  match a.tcsetattr with
  | some e => .error e
  | none => .ok { p with tty := a.inForce settings }

/-! ## Getters -/

/-- The body of the getters: what they store behind their argument, if anything. -/
def query {α : Type} (p : Port) (a : Answers) (value : Termios → Option α) : (Int × Option α) × Port :=
  match tcgetattr p a with
  | .error e =>
    let (code, p) := fail p errorQuery e (lit "Getting serial port attributes")
    ((code, none), p)
  | .ok settings => ((0, value settings), p)

/-- `serial_get_baudrate` -/
def serialGetBaudrate (p : Port) (a : Answers) : (Int × Option Word) × Port :=
  query p a fun t => some (serialBitsToBaudrate (cfgetospeed t))

/-- `serial_get_databits` -/
def serialGetDatabits (p : Port) (a : Answers) : (Int × Option Nat) × Port :=
  query p a fun t =>
    let size := t.cflag &&& csize
    if size = cs5 then some 5
    else if size = cs6 then some 6
    else if size = cs7 then some 7
    else if size = cs8 then some 8
    else none

/-- `serial_get_parity` -/
def serialGetParity (p : Port) (a : Answers) : (Int × Option Parity) × Port :=
  query p a fun t =>
    if t.cflag &&& parenb = 0 then some .none
    else if t.cflag &&& parodd = 0 then some .even
    else some .odd

/-- `serial_get_stopbits` -/
def serialGetStopbits (p : Port) (a : Answers) : (Int × Option Nat) × Port :=
  query p a fun t => if t.cflag &&& cstopb ≠ 0 then some 2 else some 1

/-- `serial_get_xonxoff` -/
def serialGetXonxoff (p : Port) (a : Answers) : (Int × Option Bool) × Port :=
  query p a fun t => if t.iflag &&& (ixon ||| ixoff) ≠ 0 then some true else some false

/-- `serial_get_rtscts` -/
def serialGetRtscts (p : Port) (a : Answers) : (Int × Option Bool) × Port :=
  query p a fun t => if t.cflag &&& crtscts ≠ 0 then some true else some false

/-- `serial_get_vmin` -/
def serialGetVmin (p : Port) (a : Answers) : (Int × Option Byte) × Port :=
  query p a fun t => some t.vmin

/-- `serial_get_vtime` -/
def serialGetVtime (p : Port) (a : Answers) : (Int × Option Byte) × Port :=
  query p a fun t => some t.vtime

/-! ## Setters -/

/-- The body of the setters after their check: get the attributes, change them, set them. -/
def configure (p : Port) (a : Answers) (change : Termios → Termios) : Int × Port :=
  match tcgetattr p a with
  | .error e => fail p errorQuery e (lit "Getting serial port attributes")
  | .ok settings =>
    match tcsetattr p a (change settings) with
    | .error e => fail p errorConfigure e (lit "Setting serial port attributes")
    | .ok p => (0, p)

/-- `serial_set_baudrate` -/
def serialSetBaudrate (p : Port) (a : Answers) (baudrate : Word) : Int × Port :=
  configure p a fun t =>
    cfsetspeed (cfsetspeed t (serialBaudrateToBits baudrate)) (serialBaudrateToBits baudrate)

/-- `serial_set_databits` -/
def serialSetDatabits (p : Port) (a : Answers) (databits : Nat) : Int × Port :=
  if !isDatabits databits then fail p errorArg 0 databitsText
  else configure p a fun t => { t with cflag := assign t.cflag csize (databitsFlag databits) }

/-- `serial_set_parity` -/
def serialSetParity (p : Port) (a : Answers) (parity : Parity) : Int × Port :=
  if !isParity parity then fail p errorArg 0 parityText
  else
    configure p a fun t =>
      { t with
        iflag := assign t.iflag (inpck ||| istrip) (if parity ≠ .none then inpck ||| istrip else 0)
        cflag := assign t.cflag (parenb ||| parodd) (parityFlag parity) }

/-- `serial_set_stopbits` -/
def serialSetStopbits (p : Port) (a : Answers) (stopbits : Nat) : Int × Port :=
  if !isStopbits stopbits then fail p errorArg 0 stopbitsText
  else configure p a fun t => { t with cflag := assign t.cflag cstopb (stopbitsFlag stopbits) }

/-- `serial_set_xonxoff` -/
def serialSetXonxoff (p : Port) (a : Answers) (enabled : Bool) : Int × Port :=
  configure p a fun t =>
    { t with iflag := assign t.iflag (ixon ||| ixoff ||| ixany) (xonxoffFlag enabled) }

/-- `serial_set_rtscts` -/
def serialSetRtscts (p : Port) (a : Answers) (enabled : Bool) : Int × Port :=
  configure p a fun t => { t with cflag := assign t.cflag crtscts (rtsctsFlag enabled) }

/-- `serial_set_vmin`; it alone decides how `serial_read` ends. -/
def serialSetVmin (p : Port) (a : Answers) (vmin : Nat) : Int × Port :=
  if vmin > 255 then fail p errorArg 0 (lit "Invalid vmin (can be 0-255)")
  else
    let (code, p) := configure p a fun t => { t with vmin := UInt8.ofNat vmin }
    if code < 0 then (code, p)
    else (code, { p with handle := { p.handle with useTermiosTimeout := vmin > 0 } })

/-- `serial_set_vtime`. `tenths` is what the conversion gives for a time that passes the check. -/
def serialSetVtime (p : Port) (a : Answers) (tenths : Option Byte) : Int × Port :=
  match tenths with
  | none => fail p errorArg 0 (lit "Invalid vtime (can be 0-25.5)")
  | some tenths => configure p a fun t => { t with vtime := tenths }

end DiscoveryDemo.Periphery.Serial
