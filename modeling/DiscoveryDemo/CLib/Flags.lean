import Mathlib.Data.List.Basic

/-!
# Settings in a flag word

A C program that keeps several settings in one word gives each of them a mask, and changes one with
`x &= ~m; x |= v;`. The setting under a mask is read back with `x & m`.
-/

namespace CLib

variable {w : Nat}

/-- `x &= ~m; x |= v;` -/
def assign (x m v : BitVec w) : BitVec w := (x &&& ~~~m) ||| v

/-- The bits of `v` are all under the mask `m`. -/
def Within (v m : BitVec w) : Prop := v &&& ~~~m = 0#w

/-- The masks `m` and `k` have no bit in common. -/
def Apart (m k : BitVec w) : Prop := m &&& k = 0#w

/-- The words agree under the mask `m`. -/
def AgreeOn (m x y : BitVec w) : Prop := x &&& m = y &&& m

/-- All the bits under one of the masks. -/
def union (masks : List (BitVec w)) : BitVec w := masks.foldr (· ||| ·) 0#w

instance (v m : BitVec w) : Decidable (Within v m) := inferInstanceAs (Decidable (_ = _))

instance (m k : BitVec w) : Decidable (Apart m k) := inferInstanceAs (Decidable (_ = _))

instance (m x y : BitVec w) : Decidable (AgreeOn m x y) := inferInstanceAs (Decidable (_ = _))

end CLib
