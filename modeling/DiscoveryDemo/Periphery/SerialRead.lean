import Mathlib.Algebra.Group.Int.Defs
import DiscoveryDemo.Driver.Machine
import DiscoveryDemo.Periphery.Serial

/-!
# Reading from a serial port

`serial_read` waits with `select` until the port is readable and reads what there is, until it has as
many bytes as were asked for or the time is up. `select` is the one of Linux, which takes the time it has
waited off its timeout, so that one `timeval` serves for the whole loop. `read` knows nothing of that
timeout: with `VMIN` and `VTIME` it can go on after the port has become readable, waiting from one byte to
the next, and without `VTIME` it can do so for ever. Times are in microseconds.
-/

namespace DiscoveryDemo.Periphery.Serial

open CLib

/-- `SERIAL_ERROR_IO` -/
def errorIo : Int := -5

/-- What happens next at the port. After the last event it never becomes readable again. -/
inductive Event where
  /-- After some time `select` fails. -/
  | interrupts (after c_errno : Nat)
  /-- After some time the port is readable, but `read`, which takes some time, fails. -/
  | breaks (after took c_errno : Nat)
  /-- After some time the port is readable, but `read` never returns. -/
  | hangs (after : Nat)
  /-- After some time the port is readable, and `read`, which takes some time, gives up to `count` bytes. -/
  | delivers (after took count : Nat)

/-- The time that `read` takes, if it is called and returns. -/
def Event.took : Event → Nat
  | interrupts _ _ => 0
  | hangs _ => 0
  | breaks _ took _ => took
  | delivers _ took _ => took

/-- How `serial_read` ends. -/
inductive Outcome where
  | returned (count : Nat)
  | failed (code : Int) (error : Error)
  /-- It waits for ever. -/
  | blocked

structure ReadState where
  /-- `tv_timeout`, if the call has a timeout. -/
  timeout : Option Nat
  buf : List Byte
  /-- `bytes_read` -/
  bytesRead : Nat
  /-- What the line is still to deliver. -/
  line : List Byte
  /-- The time that the calls of `select` have taken. -/
  waited : Nat
  /-- The time that the calls of `read` have taken. -/
  reading : Nat

/-- `select` returns 0 when the time is up. -/
def timeOut (s : ReadState) : Outcome × ReadState :=
  match s.timeout with
  | none => (.blocked, s)
  | some t => (.returned s.bytesRead, { s with timeout := some 0, waited := s.waited + t })

/-- The state after `select`, if the port is readable in time or the call fails in time. -/
def readable (s : ReadState) (after : Nat) : Option ReadState :=
  match s.timeout with
  | none => some { s with waited := s.waited + after }
  | some t =>
    if after ≤ t then some { s with timeout := some (t - after), waited := s.waited + after }
    else none

/-- `read(fd, buf + bytes_read, len - bytes_read)` where `count` bytes are there: what it stores. -/
def received (s : ReadState) (count : Nat) : List Byte :=
  s.line.take (min count (s.buf.length - s.bytesRead))

/-- The state after `read`. -/
def afterRead (s : ReadState) (data : List Byte) (took : Nat) : ReadState :=
  { s with
    buf := s.buf.take s.bytesRead ++ data ++ s.buf.drop (s.bytesRead + data.length)
    line := s.line.drop data.length
    reading := s.reading + took }

/-- The loop of `serial_read`. -/
def readLoop (useTermiosTimeout : Bool) : List Event → ReadState → Outcome × ReadState
  | [], s => if s.bytesRead < s.buf.length then timeOut s else (.returned s.bytesRead, s)
  | event :: events, s =>
    if s.bytesRead < s.buf.length then
      match event with
      | .interrupts after e =>
        match readable s after with
        | none => timeOut s
        | some s => (.failed errorIo ⟨e, lit "select() on serial port"⟩, s)
      | .breaks after took e =>
        match readable s after with
        | none => timeOut s
        | some s =>
          (.failed errorIo ⟨e, lit "Reading serial port"⟩, { s with reading := s.reading + took })
      | .hangs after =>
        match readable s after with
        | none => timeOut s
        | some s => (.blocked, s)
      | .delivers after took count =>
        match readable s after with
        | none => timeOut s
        | some s =>
          let data := received s count
          let s := afterRead s data took
          -- with VMIN or VMIN and VTIME a read ends where the terminal ends it
          if useTermiosTimeout then (.returned data.length, s)
          else if data.length = 0 ∧ s.buf.length ≠ 0 then
            (.failed errorIo ⟨0, lit "Reading serial port: unexpected empty read"⟩, s)
          else readLoop useTermiosTimeout events { s with bytesRead := s.bytesRead + data.length }
    else (.returned s.bytesRead, s)

/-- `tv_timeout` -/
def tvTimeout (timeoutMs : Int) : Int := timeoutMs.tdiv 1000 * 1000000 + timeoutMs.tmod 1000 * 1000

/-- `serial_read` into a buffer of `len` bytes, with what the line is to deliver. -/
def serialRead (useTermiosTimeout : Bool) (buf : List Byte) (timeoutMs : Int) (events : List Event)
    (line : List Byte) : Outcome × ReadState :=
  readLoop useTermiosTimeout events
    { timeout := if timeoutMs < 0 then none else some (tvTimeout timeoutMs).toNat
      buf := buf
      bytesRead := 0
      line := line
      waited := 0
      reading := 0 }

/-! ## One call after the other -/

/-- A call of `serial_read`, and what happens at the port during it. -/
structure ReadCall where
  useTermiosTimeout : Bool
  buf : List Byte
  timeoutMs : Int
  events : List Event

/-- A call on the line: how it ends, and the buffer it leaves. -/
def readOnce (line : List Byte) (c : ReadCall) : (Outcome × List Byte) × List Byte :=
  let r := serialRead c.useTermiosTimeout c.buf c.timeoutMs c.events line
  ((r.1, r.2.buf), r.2.line)

/-- The bytes that a call hands to its caller. -/
def handed (r : Outcome × List Byte) : List Byte :=
  match r.1 with
  | .returned count => r.2.take count
  | _ => []

def Outcome.isReturned : Outcome → Bool
  | returned _ => true
  | _ => false

end DiscoveryDemo.Periphery.Serial
