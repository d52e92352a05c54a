import DiscoveryDemo.CLib.Flags
import DiscoveryDemo.CLib.Buffer

/-!
# Terminal attributes

The part of `struct termios` that `serial.c` uses, with the flags of Linux. The speeds are kept in
`c_cflag`; `cfsetispeed` and `cfsetospeed` leave the attributes alone if the speed is none.
-/

namespace DiscoveryDemo.Periphery

open CLib

/-- A `tcflag_t`, `speed_t` or `uint32_t`. -/
abbrev Word := BitVec 32

/-- `struct termios`. The other control characters are neither read nor written. -/
structure Termios where
  /-- `c_iflag` -/
  iflag : Word
  /-- `c_oflag` -/
  oflag : Word
  /-- `c_cflag` -/
  cflag : Word
  /-- `c_lflag` -/
  lflag : Word
  /-- `c_cc[VMIN]` -/
  vmin : Byte
  /-- `c_cc[VTIME]` -/
  vtime : Byte
  deriving DecidableEq

/-- The attributes that `memset` leaves. -/
def Termios.zero : Termios := ⟨0, 0, 0, 0, 0, 0⟩

/-! ## Flags -/

def ignbrk : Word := 0x1
def inpck : Word := 0x10
def istrip : Word := 0x20
def ixon : Word := 0x400
def ixany : Word := 0x800
def ixoff : Word := 0x1000

def csize : Word := 0x30
def cs5 : Word := 0x0
def cs6 : Word := 0x10
def cs7 : Word := 0x20
def cs8 : Word := 0x30
def cstopb : Word := 0x40
def cread : Word := 0x80
def parenb : Word := 0x100
def parodd : Word := 0x200
def clocal : Word := 0x800
def crtscts : Word := 0x80000000

/-- `CBAUD`, which contains `CBAUDEX`. -/
def cbaud : Word := 0x100f

def b0 : Word := 0
def b57600 : Word := 0x1001
def b4000000 : Word := 0x100f

/-! ## Speeds -/

/-- `speed` is one that `cfsetispeed` and `cfsetospeed` accept. -/
def isSpeed (speed : Word) : Bool := speed &&& ~~~cbaud = 0 ∨ (b57600 ≤ speed ∧ speed ≤ b4000000)

/-- `cfsetispeed`, `cfsetospeed` -/
def cfsetspeed (t : Termios) (speed : Word) : Termios :=
  if isSpeed speed then { t with cflag := assign t.cflag cbaud speed } else t

/-- `cfgetospeed` -/
def cfgetospeed (t : Termios) : Word := t.cflag &&& cbaud

end DiscoveryDemo.Periphery
