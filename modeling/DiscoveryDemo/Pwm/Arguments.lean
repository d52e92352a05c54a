import Mathlib.Algebra.Group.Nat.Defs
import DiscoveryDemo.Pwm.Main

/-!
# The arguments of ioexample6

What the two arguments should be, and what becomes of them: either the program exits before it touches
a PWM, or it opens the chip and the channel that they denote.
-/

namespace DiscoveryDemo.Ioexample6

open CLib Driver

/-- The string is, in full, a numeral for a number between 0 and `INT_MAX`. -/
def IsNumber (arg : CStr) (n : Nat) : Prop := Denotes arg.chars n ∧ n < 2 ^ 31

/-- The chip and the channel that a call passes to `pwm_open`. -/
def Call.target : Call → Option (Nat × Nat)
  | pwmOpen chip channel _ => some (chip.toNat, channel.toNat)
  | _ => none

/-- `main` exits with `EXIT_FAILURE` before it touches a PWM. -/
def Refuses (env : Env) : Prop := (main env).1 = 1 ∧ ∀ call ∈ (main env).2, call.role = .other

/-- Two arguments are accepted exactly if they are numbers, and it is these numbers that `pwm_open`
gets. -/
def AcceptsNumbers (chip channel : CStr) : Prop :=
  ∀ env, env.args = [chip, channel] →
    (Refuses env ∨ ∃ c h, IsNumber chip c ∧ IsNumber channel h ∧
      (main env).2.filterMap Call.target = [(c, h)]) ∧
    ((∃ c h, IsNumber chip c ∧ IsNumber channel h) → .pwmNew ∈ (main env).2)

/-- If `arg` is empty, then `other` is neither empty nor a number. -/
def EmptyRefused (arg other : CStr) : Prop :=
  arg.chars = [] → other.chars ≠ [] ∧ ∀ n, ¬IsNumber other n

end DiscoveryDemo.Ioexample6
