import DiscoveryDemo.CLib.Buffer

/-!
# Waiting for a key in ioexample4

`kbhit` and `delay_or_keypress` change two things that belong to the terminal and not to the program:
the terminal attributes, to read single keys without an echo, and the file status flags of the
standard input, to read without blocking. Both put them back before they return. The system calls are
taken to succeed; what `getchar` and `select` answer is part of the environment of a call.
-/

namespace DiscoveryDemo.Sensor

open CLib

/-- `struct termios` -/
structure Termios where
  iflag : BitVec 32
  oflag : BitVec 32
  cflag : BitVec 32
  lflag : BitVec 32
  cc : List Byte
  deriving DecidableEq

def icanon : BitVec 32 := 0x2
def echo : BitVec 32 := 0x8
def oNonblock : BitVec 32 := 0x800

/-- What the terminal keeps for the standard input. -/
structure Terminal where
  attrs : Termios
  /-- The file status flags and the access mode. -/
  flags : BitVec 32
  deriving DecidableEq

/-- `tcsetattr(STDIN_FILENO, TCSANOW, &attrs)` -/
def Terminal.tcsetattr (t : Terminal) (attrs : Termios) : Terminal := { t with attrs := attrs }

/-- `fcntl(STDIN_FILENO, F_SETFL, flags)`: only the flags in `settable` change, the access mode and
the others are ignored. -/
def Terminal.setfl (settable : BitVec 32) (t : Terminal) (flags : BitVec 32) : Terminal :=
  { t with flags := (t.flags &&& ~~~settable) ||| (flags &&& settable) }

/-- `newt`: the attributes `oldt` without line editing and echo. -/
def rawMode (oldt : Termios) : Termios := { oldt with lflag := oldt.lflag &&& ~~~(icanon ||| echo) }

/-- `struct timeval` -/
structure Timeval where
  sec : Nat
  usec : Nat
  deriving DecidableEq

/-- The microseconds of a `timeval`. -/
def Timeval.micros (tv : Timeval) : Nat := tv.sec * 1000000 + tv.usec

/-- The timeout that `delay_us` and `delay_or_keypress` make of their argument. -/
def timeout (us : UInt32) : Timeval := ⟨us.toNat / 1000000, us.toNat % 1000000⟩

/-- What `select` answers. -/
structure Selected where
  /-- What it returns. -/
  retval : Int
  /-- Whether `STDIN_FILENO` is in `readfds` afterwards. -/
  ready : Bool

/-- `kbhit`: what it returns, and the terminal afterwards. `ch` is the result of `getchar`, which is
`EOF` without a character; the character is put back. -/
def kbhit (settable : BitVec 32) (ch : Option Byte) (t : Terminal) : Int × Terminal :=
  let oldt := t.attrs
  let t := t.tcsetattr (rawMode oldt)
  let oldf := t.flags
  let t := t.setfl settable (oldf ||| oNonblock)
  let t := t.tcsetattr oldt
  let t := t.setfl settable oldf
  (if ch ≠ none then 1 else 0, t)

/-- `delay_or_keypress`: what it returns, the terminal afterwards, and what has become of the world in
which `select` is called. -/
def delayOrKeypressIn {W : Type} (settable : BitVec 32) (us : UInt32)
    (select : Timeval → W → Selected × W) (t : Terminal) (w : W) : Int × Terminal × W :=
  let tv : Timeval := ⟨us.toNat / 1000000, us.toNat % 1000000⟩
  let oldt := t.attrs
  let t := t.tcsetattr (rawMode oldt)
  let t := t.setfl settable oNonblock
  let (s, w) := select tv w
  let t := t.tcsetattr oldt
  let t := t.setfl settable 0
  (if s.retval > 0 ∧ s.ready then 1 else 0, t, w)

/-- `delay_or_keypress`, where it is only its timeout that the answer of `select` depends on. -/
def delayOrKeypress (settable : BitVec 32) (us : UInt32) (select : Timeval → Selected)
    (t : Terminal) : Int × Terminal :=
  let (pressed, t, _) := delayOrKeypressIn settable us (fun tv w => (select tv, w)) t ()
  (pressed, t)

/-- A call, with its environment. -/
inductive Call where
  | kbhit (ch : Option Byte)
  | delayOrKeypress (us : UInt32) (select : Timeval → Selected)

/-- The terminal after a call. -/
def Call.exec (settable : BitVec 32) (t : Terminal) : Call → Terminal
  | kbhit ch => (Sensor.kbhit settable ch t).2
  | delayOrKeypress us select => (Sensor.delayOrKeypress settable us select t).2

/-- The terminal after a sequence of calls. -/
def after (settable : BitVec 32) (t : Terminal) (calls : List Call) : Terminal :=
  calls.foldl (Call.exec settable) t

/-- A call of `kbhit`. -/
def Call.isKbhit : Call → Bool
  | kbhit _ => true
  | delayOrKeypress _ _ => false

end DiscoveryDemo.Sensor
