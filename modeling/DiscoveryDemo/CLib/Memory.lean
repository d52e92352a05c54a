import Mathlib.Algebra.Group.Nat.Defs
import DiscoveryDemo.CLib.Buffer

/-!
# Memory and words

A memory has a byte at every address. A word of several bytes is stored with its least significant byte
first.
-/

namespace CLib

/-- The bytes of a memory. -/
abbrev Memory := Nat → Byte

/-- The `n` bytes from `p` on. -/
def Memory.load (m : Memory) (p : Nat) : (n : Nat) → List Byte
  | 0 => []
  | n + 1 => m p :: m.load (p + 1) n

/-- The memory with the bytes `s` from `p` on. -/
def Memory.store (m : Memory) (p : Nat) (s : List Byte) : Memory :=
  fun i => if p ≤ i then s[i - p]?.getD (m i) else m i

/-- The `n` bytes of a word. -/
def wordBytes : (n v : Nat) → List Byte
  | 0, _ => []
  | n + 1, v => UInt8.ofNat (v % 256) :: wordBytes n (v / 256)

/-- The word that is made up of bytes. -/
def wordOf : List Byte → Nat
  | [] => 0
  | c :: s => c.toNat + 256 * wordOf s

end CLib
