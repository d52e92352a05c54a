import DiscoveryDemo.Periphery.Serial

/-!
# What a serial port is set to

A serial port as its user sees it: a record of settings, which the setters replace and the getters
return. `exec` performs a call on the port of the library, `respond` on the record. The two agree as long
as the driver puts in force what it is asked for.
-/

namespace DiscoveryDemo.Periphery.Serial

open CLib

/-- A call of a setter or getter. -/
inductive Call where
  | setBaudrate (baudrate : Word)
  | setDatabits (databits : Nat)
  | setParity (parity : Parity)
  | setStopbits (stopbits : Nat)
  | setXonxoff (enabled : Bool)
  | setRtscts (enabled : Bool)
  | setVmin (vmin : Nat)
  | setVtime (tenths : Option Byte)
  | getBaudrate
  | getDatabits
  | getParity
  | getStopbits
  | getXonxoff
  | getRtscts
  | getVmin
  | getVtime

/-- What a getter stores. -/
inductive Value where
  | baudrate (baudrate : Word)
  | count (n : Nat)
  | parity (parity : Parity)
  | switch (enabled : Bool)
  | byte (b : Byte)
  deriving DecidableEq

/-- The code that a call returns, and what it stores. -/
abbrev Reply := Int × Option Value

def setter (r : Int × Port) : Reply × Port := ((r.1, none), r.2)

def getter {α : Type} (f : α → Value) (r : (Int × Option α) × Port) : Reply × Port :=
  ((r.1.1, r.1.2.map f), r.2)

/-- A call with the answers of its system calls. -/
def exec (p : Port) (c : Call × Answers) : Reply × Port :=
  match c.1 with
  | .setBaudrate baudrate => setter (serialSetBaudrate p c.2 baudrate)
  | .setDatabits databits => setter (serialSetDatabits p c.2 databits)
  | .setParity parity => setter (serialSetParity p c.2 parity)
  | .setStopbits stopbits => setter (serialSetStopbits p c.2 stopbits)
  | .setXonxoff enabled => setter (serialSetXonxoff p c.2 enabled)
  | .setRtscts enabled => setter (serialSetRtscts p c.2 enabled)
  | .setVmin vmin => setter (serialSetVmin p c.2 vmin)
  | .setVtime tenths => setter (serialSetVtime p c.2 tenths)
  | .getBaudrate => getter .baudrate (serialGetBaudrate p c.2)
  | .getDatabits => getter .count (serialGetDatabits p c.2)
  | .getParity => getter .parity (serialGetParity p c.2)
  | .getStopbits => getter .count (serialGetStopbits p c.2)
  | .getXonxoff => getter .switch (serialGetXonxoff p c.2)
  | .getRtscts => getter .switch (serialGetRtscts p c.2)
  | .getVmin => getter .byte (serialGetVmin p c.2)
  | .getVtime => getter .byte (serialGetVtime p c.2)

/-- The driver puts in force just the attributes that it is given. -/
def Answers.AsAsked (a : Answers) : Prop := ∀ t, a.inForce t = t

theorem asAsked_fine : Answers.fine.AsAsked := fun _ => rfl

/-! ## The record -/

/-- The baud rate is one of those that the library knows. -/
def Known (baudrate : Word) : Prop := ∃ r ∈ rates, r.1 = baudrate

instance (baudrate : Word) : Decidable (Known baudrate) :=
  inferInstanceAs (Decidable (∃ r ∈ rates, r.1 = baudrate))

structure Settings where
  /-- 0 if the port has been opened with a baud rate that is not known. -/
  baudrate : Word
  databits : Nat
  parity : Parity
  stopbits : Nat
  xonxoff : Bool
  rtscts : Bool
  vmin : Byte
  vtime : Byte
  /-- The 8th bit of what is received is stripped. There is no getter for this. -/
  strip : Bool
  known : baudrate = 0 ∨ Known baudrate
  isDatabits : isDatabits databits = true
  isParity : isParity parity = true
  isStopbits : isStopbits stopbits = true

/-- The settings after a call, if its argument is valid. An unknown baud rate is ignored. -/
def Settings.put (s : Settings) : Call → Option Settings
  | .setBaudrate baudrate =>
    if h : Known baudrate then some { s with baudrate := baudrate, known := Or.inr h } else some s
  | .setDatabits databits =>
    if h : Serial.isDatabits databits = true then some { s with databits := databits, isDatabits := h }
    else none
  | .setParity parity =>
    if h : Serial.isParity parity = true then
      some { s with parity := parity, strip := decide (parity ≠ .none), isParity := h }
    else none
  | .setStopbits stopbits =>
    if h : Serial.isStopbits stopbits = true then some { s with stopbits := stopbits, isStopbits := h }
    else none
  | .setXonxoff enabled => some { s with xonxoff := enabled }
  | .setRtscts enabled => some { s with rtscts := enabled }
  | .setVmin vmin => if vmin ≤ 255 then some { s with vmin := UInt8.ofNat vmin } else none
  | .setVtime tenths => tenths.map fun tenths => { s with vtime := tenths }
  | _ => some s

/-- What a call stores. -/
def Settings.get (s : Settings) : Call → Option Value
  | .getBaudrate => some (.baudrate s.baudrate)
  | .getDatabits => some (.count s.databits)
  | .getParity => some (.parity s.parity)
  | .getStopbits => some (.count s.stopbits)
  | .getXonxoff => some (.switch s.xonxoff)
  | .getRtscts => some (.switch s.rtscts)
  | .getVmin => some (.byte s.vmin)
  | .getVtime => some (.byte s.vtime)
  | _ => none

/-- What the record makes of a call: it is left alone by a call that fails. -/
def respond (s : Settings) (c : Call × Answers) : Reply × Settings :=
  match s.put c.1 with
  | none => ((errorArg, none), s)
  | some s' =>
    if c.2.tcgetattr ≠ none then ((errorQuery, none), s)
    else if s.get c.1 = none ∧ c.2.tcsetattr ≠ none then ((errorConfigure, none), s)
    else ((0, s.get c.1), s')

/-- The record of a port that has just been opened. -/
structure Settings.OpenedWith (s : Settings) (rate : Word) (bits : Nat) (par : Parity) (stop : Nat)
    (xon rts : Bool) : Prop where
  baudrate : s.baudrate = if Known rate then rate else 0
  databits : s.databits = bits
  parity : s.parity = par
  stopbits : s.stopbits = stop
  xonxoff : s.xonxoff = xon
  rtscts : s.rtscts = rts
  vmin : s.vmin = 0
  vtime : s.vtime = 0
  strip : s.strip = decide (par ≠ .none ∧ bits ≠ 8)

/-! ## The record in the attributes -/

/-- The bits of a baud rate that the port can have. -/
def rateBits (baudrate : Word) : Word := if baudrate = 0 then b0 else serialBaudrateToBits baudrate

/-- All flags of `c_cflag` that depend on the settings. -/
def cflagMask : Word := union [cbaud, csize, parenb ||| parodd, cstopb, crtscts]

/-- All flags of `c_iflag` that depend on the settings. -/
def iflagMask : Word := union [inpck, istrip, ixon ||| ixoff ||| ixany]

/-- The attributes show the settings, and nothing else that is not always set. -/
structure Shows (t : Termios) (s : Settings) : Prop where
  speed : t.cflag &&& cbaud = rateBits s.baudrate
  size : t.cflag &&& csize = databitsFlag s.databits
  parity : t.cflag &&& (parenb ||| parodd) = parityFlag s.parity
  stop : t.cflag &&& cstopb = stopbitsFlag s.stopbits
  rtscts : t.cflag &&& crtscts = rtsctsFlag s.rtscts
  control : t.cflag &&& ~~~cflagMask = cread ||| clocal
  check : t.iflag &&& inpck = if s.parity ≠ .none then inpck else 0
  strip : t.iflag &&& istrip = if s.strip then istrip else 0
  xonxoff : t.iflag &&& (ixon ||| ixoff ||| ixany) = xonxoffFlag s.xonxoff
  input : t.iflag &&& ~~~iflagMask = ignbrk
  output : t.oflag = 0
  line : t.lflag = 0
  vmin : t.vmin = s.vmin
  vtime : t.vtime = s.vtime

/-- The port is open, its attributes show the settings, and a read ends by `VMIN` just if that is set. -/
structure Represents (p : Port) (s : Settings) : Prop where
  opened : 0 ≤ p.handle.fd
  shows_settings : Shows p.tty s
  timeout : p.handle.useTermiosTimeout = decide (0 < s.vmin.toNat)

end DiscoveryDemo.Periphery.Serial
