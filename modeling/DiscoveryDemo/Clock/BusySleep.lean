import Mathlib.Algebra.Group.Int.Defs
import Mathlib.Algebra.Group.Nat.Defs
import Mathlib.Data.Nat.Basic

/-!
# `test_busy_sleep` of sleepexample

The program waits by reading the monotonic clock over and over. The loop compares the difference of
the whole seconds, which is a signed `time_t`, with the unsigned quotient `SLEEP_TIME_US / 1000000`;
the comparison is made in unsigned arithmetic of 64 bits. What the successive calls of
`clock_gettime` give is the environment of a run; the texts on the terminal are left out.
-/

namespace DiscoveryDemo.Clock

/-- A reading of the clock: a normalised `struct timespec`. -/
structure Reading where
  sec : Nat
  nsec : Nat
  sec_lt : sec < 2 ^ 63
  nsec_lt : nsec < 1000000000
  deriving DecidableEq

/-- The time of a reading in nanoseconds. -/
def Reading.total (r : Reading) : Nat := r.sec * 1000000000 + r.nsec

/-- `(now.tv_sec - sleep_start.tv_sec) < (SLEEP_TIME_US / 1000000)`: the difference is converted to
`uint64_t`. -/
def waits (sleepTimeUs : UInt64) (sleepStart now : Reading) : Bool :=
  decide ((((now.sec : Int) - sleepStart.sec) % 2 ^ 64).toNat < (sleepTimeUs / 1000000).toNat)

/-- How far the loop has got. -/
inductive Progress where
  | running
  /-- A call of `clock_gettime` in the loop has failed. -/
  | failed
  /-- The condition of the loop is false for its last reading. -/
  | ended (now : Reading)
  deriving DecidableEq

/-- The loop for at most `i` rounds, with the calls of `clock_gettime` from number `k` on. -/
def busyLoop (sleepTimeUs : UInt64) (sleepStart : Reading) (clock : Nat → Option Reading) :
    Nat → Nat → Progress
  | 0, _ => .running
  | i + 1, k =>
    match clock k with
    | none => .failed
    | some now =>
      if waits sleepTimeUs sleepStart now then busyLoop sleepTimeUs sleepStart clock i (k + 1)
      else .ended now

/-- `test_busy_sleep`, up to the end of the loop. If the first call fails, `sleep_start` is not
initialised. -/
def testBusySleep (sleepTimeUs : UInt64) (uninitialised : Reading) (clock : Nat → Option Reading)
    (i : Nat) : Progress :=
  busyLoop sleepTimeUs ((clock 0).getD uninitialised) clock i 1

/-- A clock that never goes back. -/
def Monotonic (clock : Nat → Option Reading) : Prop :=
  ∀ i j a b, i ≤ j → clock i = some a → clock j = some b → a.total ≤ b.total

/-- The wait that begins at `sleepStart` is never short: whatever the readings are, the one that ends
the loop is at least `sleepTimeUs` microseconds later. -/
def NeverShort (sleepTimeUs : UInt64) (sleepStart : Reading) : Prop :=
  ∀ clock uninitialised i now, clock 0 = some sleepStart → Monotonic clock →
    testBusySleep sleepTimeUs uninitialised clock i = .ended now →
    sleepStart.total + sleepTimeUs.toNat * 1000 ≤ now.total

/-- There is no time to wait for; or it is a number of whole seconds, and the wait begins with a
second; or the loop has no end, since the second that it waits for is beyond the range of `time_t`. -/
def WholeSeconds (sleepTimeUs : UInt64) (sleepStart : Reading) : Prop :=
  sleepTimeUs = 0 ∨ (1000000 ∣ sleepTimeUs.toNat ∧ sleepStart.nsec = 0) ∨
    2 ^ 63 ≤ sleepStart.sec + sleepTimeUs.toNat / 1000000

end DiscoveryDemo.Clock
