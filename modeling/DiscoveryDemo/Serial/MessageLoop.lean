import DiscoveryDemo.CLib.Stream

/-!
# The message loops of ioexample7 and ioexample8

Both programs read messages from the standard input with `fgets`, strip the newline and hand each
message to a serial port with a single call: ioexample8 calls `write` on the device, ioexample7 calls
`serial_write` of the periphery library, which passes one `write` through. The loops are otherwise
the same, and `iteration` is their body, with what the program makes of the result of `write` as a
parameter. `tcdrain` and the texts on the terminal are left out.
-/

namespace DiscoveryDemo.Serial

open CLib

abbrev maxMsgLen : Nat := 255
abbrev MessageBuf := Buf (maxMsgLen + 1)

/-- How the port answers to the write calls of a run. -/
structure Port where
  /-- What the `i`-th call returns that offers `bytes`: how many of them are accepted, or a negative
  value. -/
  write : Nat → List Byte → Int
  /-- A call accepts a non-empty prefix of what it is offered, or fails. -/
  accepts : ∀ i bytes, bytes ≠ [] → write i bytes < 0 ∨ (0 < write i bytes ∧ write i bytes ≤ bytes.length)

/-- The port that accepts everything. -/
def Port.acceptAll : Port where
  write _ bytes := bytes.length
  accepts _ bytes h := by
    have := List.length_pos_iff.mpr h
    omega

/-- The state at the head of the loop. -/
structure LoopState where
  message : MessageBuf
  /-- What is left of the standard input. -/
  stdin : List Byte
  /-- What the port has accepted. -/
  sent : List Byte
  /-- How many write calls have been made. -/
  calls : Nat

/-- The branches in which the loop ends. -/
inductive Exit where
  /-- "Input error or EOF detected. Exiting." -/
  | endOfFile
  /-- "Empty input detected. Exiting." -/
  | emptyInput
  /-- The write call has failed. -/
  | writeError
  deriving DecidableEq, Repr

/-- The exit status: `EXIT_SUCCESS` or `EXIT_FAILURE`. -/
def Exit.status : Exit → Nat
  | endOfFile => 0
  | emptyInput => 0
  | writeError => 1

/-- How far a run has got. -/
inductive Progress where
  /-- At the head of the loop. -/
  | running (s : LoopState)
  /-- The program has terminated. -/
  | exited (e : Exit) (s : LoopState)

/-- The body of the loop; `ret` is what the program sees of the result of `write`. -/
def iteration (port : Port) (ret : Int → Int) (s : LoopState) : Except Fault Progress := do
  match fgets s.message s.stdin with
  | none => return .exited .endOfFile s
  | some (message, stdin) =>
    let message ← message.write (← message.strcspn 0 NL) NUL
    let length ← message.strlen 0
    if length = 0 then
      return .exited .emptyInput { s with message := message, stdin := stdin }
    else
      let bytes := message.bytes.take length
      let accepted := port.write s.calls bytes
      let s := { message := message, stdin := stdin, sent := s.sent ++ bytes.take accepted.toNat,
                 calls := s.calls + 1 }
      let len := ret accepted
      if len < 0 then
        return .exited .writeError s
      else
        return .running s

/-- A run for at most `i` rounds of the loop. -/
def run (port : Port) (ret : Int → Int) : Nat → LoopState → Except Fault Progress
  | 0, s => .ok (.running s)
  | i + 1, s =>
    match iteration port ret s with
    | .error f => .error f
    | .ok (.running s) => run port ret i s
    | .ok (.exited e s) => .ok (.exited e s)

/-- The state in which the loop is entered; `message` is not initialised. -/
def start (message : MessageBuf) (stdin : List Byte) : LoopState :=
  { message := message, stdin := stdin, sent := [], calls := 0 }

/-! ## What the loops should do -/

/-- The lines before the first empty one. -/
def linesBeforeEmpty (stdin : List Byte) : List (List Byte) :=
  (physLines NL stdin).takeWhile (· ≠ [])

/-- No message is lost and the loop does not end too early: the run ends, everything before the first
empty line has been sent by then, and if the loop ended because of an empty line then such a line is
part of what has been read. -/
def SendsAll (r : Nat → Except Fault Progress) (stdin : List Byte) : Prop :=
  ∃ i e s, r i = .ok (.exited e s) ∧ s.sent = (linesBeforeEmpty stdin).flatten ∧
    (e = .emptyInput → ∃ consumed, stdin = consumed ++ s.stdin ∧ [] ∈ physLines NL consumed)

/-- No line before the first empty one that ends with a newline fills its chunks exactly. -/
def NoFullLine (stdin : List Byte) : Prop :=
  ∀ l ∈ (terminatedLines NL stdin).takeWhile (· ≠ []), ¬maxMsgLen ∣ l.length

/-- The messages on the standard input, if every line fits into the buffer: what the string functions
see of the lines. -/
def messages (stdin : List Byte) : List (List Byte) := (physLines NL stdin).map (·.takeWhile (· ≠ NUL))

/-- After `i` rounds with the messages `msgs`, all that was read has been accepted or the program has
failed; `sent` is what had been accepted before. -/
def Progress.Delivered (sent : List Byte) (msgs : List (List Byte)) (i : Nat) : Progress → Prop
  | running s => s.sent = sent ++ (msgs.take i).flatten
  | exited e s => e.status = 1 ∨ s.sent = sent ++ (msgs.takeWhile (· ≠ [])).flatten

/-- Of the calls with the messages `msgs`, up to the first one that fails, each accepts all it is
offered; `i` is the number of the first call. -/
def NoShortWrite (port : Port) : Nat → List (List Byte) → Prop
  | _, [] => True
  | i, m :: msgs =>
    port.write i m < 0 ∨ (port.write i m = m.length ∧ NoShortWrite port (i + 1) msgs)

end DiscoveryDemo.Serial

namespace DiscoveryDemo.Ioexample7

open CLib Serial

/-- `SERIAL_ERROR_IO` -/
def serialErrorIo : Int := -5

/-- `serial_write`: the result of the `write` call, or the library's code for its failure. -/
def serialWrite (ret : Int) : Int := if ret < 0 then serialErrorIo else ret

/-- The loop of ioexample7. -/
def run (port : Port) : Nat → LoopState → Except Fault Progress := Serial.run port serialWrite

end DiscoveryDemo.Ioexample7

namespace DiscoveryDemo.Ioexample8

open CLib Serial

/-- The loop of ioexample8. -/
def run (port : Port) : Nat → LoopState → Except Fault Progress := Serial.run port id

end DiscoveryDemo.Ioexample8
