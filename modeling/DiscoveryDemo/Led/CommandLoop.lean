import DiscoveryDemo.CLib.Stream

/-!
# The command loop of ioexample1

The loop reads the standard input with `fgets` into an array of 16 characters and decides by the
first character of what it has got: `1` and `0` switch the LED with `led_write`, `q` and `Q` end the
loop, anything else is invalid. When `fgets` returns a null pointer the loop tries again. The results
of `led_write` are part of the environment; the texts on the terminal are left out.
-/

namespace DiscoveryDemo.Ioexample1

open CLib

/-- The array `input`. -/
abbrev InputBuf := Buf 16

/-- The number of characters that one call of `fgets` reads at most. -/
abbrev inputLength : Nat := 15

/-- What a round of the loop may do. -/
inductive Action where
  /-- `led_write(led, value)` -/
  | write (value : Bool)
  /-- "Exiting program..." -/
  | quit
  deriving DecidableEq

/-- The LED, and how many times it has been written. -/
structure Device where
  on : Bool
  writes : Nat
  deriving DecidableEq

/-- `led_write`. Its results are those of the whole run, in order, and negative for a failure. A
success sets the LED, a failure leaves it. -/
def Device.ledWrite (results : Nat → Int) (d : Device) (value : Bool) : Device :=
  { on := if results d.writes < 0 then d.on else value, writes := d.writes + 1 }

/-- The state at the head of the loop. -/
structure LoopState where
  input : InputBuf
  /-- What is left of the standard input. -/
  stdin : List Byte
  device : Device
  /-- What the loop has done so far. -/
  actions : List Action

/-- How far a run has got. -/
inductive Progress where
  /-- At the head of the loop. -/
  | running (s : LoopState)
  /-- Behind the loop. -/
  | exited (s : LoopState)

def Progress.state : Progress → LoopState
  | running s => s
  | exited s => s

/-- The body of the loop. -/
def iteration (results : Nat → Int) (s : LoopState) : Except Fault Progress := do
  match fgets s.input s.stdin with
  | none => return .running s
  | some (input, stdin) =>
    let s := { s with input := input, stdin := stdin }
    let c ← input.read 0
    if c = ch '1' then
      return .running { s with
        device := s.device.ledWrite results true, actions := s.actions ++ [.write true] }
    else if c = ch '0' then
      return .running { s with
        device := s.device.ledWrite results false, actions := s.actions ++ [.write false] }
    else if c = ch 'q' ∨ c = ch 'Q' then
      return .exited { s with actions := s.actions ++ [.quit] }
    else
      return .running s

/-- A run for at most `i` rounds of the loop. -/
def run (results : Nat → Int) : Nat → LoopState → Except Fault Progress
  | 0, s => .ok (.running s)
  | i + 1, s =>
    match iteration results s with
    | .error f => .error f
    | .ok (.running s) => run results i s
    | .ok (.exited s) => .ok (.exited s)

/-- The state in which the loop is entered; `input` is not initialised. -/
def start (input : InputBuf) (on : Bool) (stdin : List Byte) : LoopState :=
  { input := input, stdin := stdin, device := { on := on, writes := 0 }, actions := [] }

/-! ## What the loop should do -/

/-- The action that the first character of a line asks for. -/
def action : Option Byte → Option Action
  | none => none
  | some c =>
    if c = ch '1' then some (.write true)
    else if c = ch '0' then some (.write false)
    else if c = ch 'q' ∨ c = ch 'Q' then some .quit
    else none

/-- The actions that the lines of `p` ask for; the last line need not be complete. -/
def lineActions (p : List Byte) : List Action := (physLines NL p).filterMap fun l => action l.head?

/-- What an action does to the LED. -/
def Device.perform (results : Nat → Int) (d : Device) : Action → Device
  | .write value => d.ledWrite results value
  | .quit => d

/-- One action per line: after every number of rounds what has been done is what the lines read so
far ask for, and the LED is as these actions leave it; and the loop goes on until it quits or has
read everything. -/
def OneActionPerLine (results : Nat → Int) (s : LoopState) : Prop :=
  (∀ i, ∃ pr p, run results i s = .ok pr ∧ s.stdin = p ++ pr.state.stdin ∧
    pr.state.actions = lineActions p ∧
    pr.state.device = (lineActions p).foldl (Device.perform results) s.device) ∧
  ∃ i pr, run results i s = .ok pr ∧ (pr = .exited pr.state ∨ pr.state.stdin = [])

/-- In no line before the first one that begins with `q` or `Q` does a command character stand at a
position, other than the first, that is a multiple of 15. -/
def NoLateCommand (stdin : List Byte) : Prop :=
  ∀ l ∈ (physLines NL stdin).takeWhile fun l => action l.head? ≠ some .quit,
    ∀ k, 0 < k → action l[inputLength * k]? = none

/-- A `q` or `Q` stands in a line at a position that is a multiple of 15. -/
def HasQuit (stdin : List Byte) : Prop :=
  ∃ l ∈ physLines NL stdin, ∃ k, action l[inputLength * k]? = some .quit

end DiscoveryDemo.Ioexample1
