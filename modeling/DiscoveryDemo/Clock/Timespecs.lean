import Mathlib.Algebra.Group.Int.Defs
import Mathlib.Algebra.Group.Nat.Defs
import Mathlib.Data.Nat.Basic

/-!
# The times that sleepexample asks for

Six of the program's tests turn the duration `SLEEP_TIME_US`, a `uint64_t` of microseconds, into a
`struct timespec` or a `struct timeval`, whose parts are signed. The value of an operation or of a
conversion is given only if it is exact: where a signed type overflows or an unsigned one wraps there
is none.
-/

namespace DiscoveryDemo.Clock

/-- An integer type, by its least and its greatest value. -/
structure IntType where
  min : Int
  max : Int

/-- A value of the type. -/
def IntType.Value (t : IntType) : Type := { v : Int // t.min ≤ v ∧ v ≤ t.max }

/-- The exact result `v` of an operation or a conversion, as a value of its type. -/
def IntType.exact (t : IntType) (v : Int) : Option t.Value :=
  if h : t.min ≤ v ∧ v ≤ t.max then some ⟨v, h⟩ else none

/-- A signed type in two's complement. -/
def signed (bits : Nat) : IntType := ⟨-2 ^ (bits - 1), 2 ^ (bits - 1) - 1⟩

/-- `uint64_t` -/
def uint64 : IntType := ⟨0, 2 ^ 64 - 1⟩

/-- `long`, the type of `tv_nsec` and `tv_usec`. -/
def long : IntType := signed 32

/-- `time_t`: a signed type, not wider than `uint64_t`, to which it is converted. -/
structure TimeT where
  bits : Nat
  bits_le : bits ≤ 64

def TimeT.type (t : TimeT) : IntType := signed t.bits

variable (timeT : TimeT)

/-- `struct timespec` -/
structure Timespec where
  sec : timeT.type.Value
  nsec : long.Value

/-- `struct timeval` -/
structure Timeval where
  sec : timeT.type.Value
  usec : long.Value

/-- `struct itimerspec` -/
structure Itimerspec where
  interval : Timespec timeT
  value : Timespec timeT

/-! ## Durations -/

/-- `us / 1000000`, as a `time_t`. -/
def wholeSeconds (us : UInt64) : Option timeT.type.Value :=
  timeT.type.exact (us / 1000000).toNat

/-- `1000 * (us % 1000000)` -/
def nanoseconds (us : UInt64) : Option uint64.Value :=
  uint64.exact (1000 * (us % 1000000).toNat)

/-- The `timespec` of a duration. -/
def timespec (us : UInt64) : Option (Timespec timeT) := do
  let sec ← wholeSeconds timeT us
  let nsec ← long.exact (← nanoseconds us).1
  return ⟨sec, nsec⟩

/-- The number 0 of a signed type. -/
def zero (bits : Nat) : (signed bits).Value :=
  ⟨0, Int.neg_nonpos_of_nonneg (Int.le_of_lt (Int.pow_pos (by decide))),
    Int.sub_nonneg_of_le (Int.pow_pos (by decide))⟩

/-- `ts` of `test_nanosleep` -/
def testNanosleep (us : UInt64) : Option (Timespec timeT) := timespec timeT us

/-- `ts` of `test_clock_nanosleep` -/
def testClockNanosleep (us : UInt64) : Option (Timespec timeT) := timespec timeT us

/-- `timeout` of `test_pselect` -/
def testPselect (us : UInt64) : Option (Timespec timeT) := timespec timeT us

/-- `new_value` of `test_timerfd` -/
def testTimerfd (us : UInt64) : Option (Itimerspec timeT) := do
  return ⟨⟨zero timeT.bits, zero 32⟩, ← timespec timeT us⟩

/-- `tv` of `test_select_delay` -/
def testSelectDelay (us : UInt64) : Option (Timeval timeT) := do
  let sec ← wholeSeconds timeT us
  let usec ← long.exact (us % 1000000).toNat
  return ⟨sec, usec⟩

/-! ## The deadline -/

/-- `future` of `test_pthread_cond_timedwait`, from what `clock_gettime` leaves in it. The additions
are made in `uint64_t`. -/
def testPthreadCondTimedwait (us : UInt64) (future : Timespec timeT) : Option (Timespec timeT) := do
  let sec ← uint64.exact future.sec.1
  let sec ← uint64.exact (sec.1 + (us / 1000000).toNat)
  let sec ← timeT.type.exact sec.1
  let nsec ← uint64.exact future.nsec.1
  let nsec ← uint64.exact (nsec.1 + (← nanoseconds us).1)
  let nsec ← long.exact nsec.1
  if nsec.1 ≥ 1000000000 then
    let sec ← timeT.type.exact (sec.1 + 1)
    let nsec ← long.exact (nsec.1 - 1000000000)
    return ⟨sec, nsec⟩
  else return ⟨sec, nsec⟩

/-! ## Their meaning -/

variable {timeT}

/-- The nanoseconds of a `timespec`. -/
def Timespec.total (ts : Timespec timeT) : Int := ts.sec.1 * 1000000000 + ts.nsec.1

def Timespec.Normalised (ts : Timespec timeT) : Prop := 0 ≤ ts.nsec.1 ∧ ts.nsec.1 < 1000000000

/-- The microseconds of a `timeval`. -/
def Timeval.total (tv : Timeval timeT) : Int := tv.sec.1 * 1000000 + tv.usec.1

def Timeval.Normalised (tv : Timeval timeT) : Prop := 0 ≤ tv.usec.1 ∧ tv.usec.1 < 1000000

/-- A reading of the monotonic clock, which does not show negative times. -/
structure MonotonicReading (timeT : TimeT) where
  time : Timespec timeT
  sec_nonneg : 0 ≤ time.sec.1
  normalised : time.Normalised

/-- The structures for a duration are normalised and denote it. -/
def Exact (timeT : TimeT) (us : UInt64) : Prop :=
  (∃ ts, testNanosleep timeT us = some ts ∧ testClockNanosleep timeT us = some ts ∧
    testPselect timeT us = some ts ∧
    (∃ interval, testTimerfd timeT us = some ⟨interval, ts⟩ ∧ interval.sec.1 = 0 ∧
      interval.nsec.1 = 0) ∧
    ts.Normalised ∧ ts.total = us.toNat * 1000) ∧
  ∃ tv, testSelectDelay timeT us = some tv ∧ tv.Normalised ∧ tv.total = us.toNat

/-- The deadline is normalised and lies the duration after the reading. -/
def ExactDeadline (us : UInt64) (now : MonotonicReading timeT) : Prop :=
  ∃ ts, testPthreadCondTimedwait timeT us now.time = some ts ∧ ts.Normalised ∧
    ts.total = now.time.total + us.toNat * 1000

end DiscoveryDemo.Clock
