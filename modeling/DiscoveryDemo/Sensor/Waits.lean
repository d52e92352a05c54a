import DiscoveryDemo.Sensor.Main

/-!
# The waits of ioexample4

The timeouts that `delay_or_keypress` hands to `select` are in the trace of a run. What they should be is
said by the argument of the program.
-/

namespace DiscoveryDemo.Ioexample4

open CLib Sensor

/-- The calls that a run has made. -/
def Outcome.calls : Outcome → List Call
  | running calls | exited _ calls => calls

/-- The argument is rejected before the device is opened, or it denotes a positive number and every
wait of the run takes that many milliseconds. -/
def UsesDelay (arg : CStr) : Prop :=
  ∀ env, env.args = [arg] →
    main env = .ok (.exited 1 []) ∨
      ∃ d outcome, Denotes arg.chars d ∧ 0 < d ∧ main env = .ok outcome ∧
        ∀ tv ∈ timeouts outcome.calls, (tv.micros : Int) = d * 1000 ∧ tv.usec < 1000000

end DiscoveryDemo.Ioexample4
