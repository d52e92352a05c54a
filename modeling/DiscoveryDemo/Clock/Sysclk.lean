import Mathlib.Algebra.Group.Nat.Defs
import Mathlib.Data.Nat.Basic

/-!
# `get_sysclk_freq_hz` of ioexample5

The program computes the system clock from the fields of the register `RCC_PLLCFGR`, in unsigned
arithmetic of 32 bits. The order of the operations is the one of the C expression: the source
frequency is divided before it is multiplied.
-/

namespace DiscoveryDemo.Clock

/-- Unsigned division; division by zero is undefined. -/
def udiv (a b : UInt32) : Option UInt32 := if b = 0 then none else some (a / b)

/-- `pllm`: bits 5..0 -/
def pllm (pllcfgr : UInt32) : UInt32 := pllcfgr &&& 0x3F

/-- `plln`: bits 14..6 -/
def plln (pllcfgr : UInt32) : UInt32 := (pllcfgr >>> 6) &&& 0x1FF

/-- `pllp`: twice the value of bits 17..16 plus one -/
def pllp (pllcfgr : UInt32) : UInt32 := (((pllcfgr >>> 16) &&& 0x3) + 1) * 2

/-- `RCC_PLLCFGR_PLLSRC_HSE`: bit 22 -/
def pllsrcHse : UInt32 := 0x400000

/-- `pll_source_freq` -/
def pllSourceFreq (pllcfgr : UInt32) : UInt32 :=
  if pllcfgr &&& pllsrcHse ≠ 0 then 8000000 else 16000000

/-- `get_sysclk_freq_hz`, with the value read from `RCC_PLLCFGR`. -/
def getSysclkFreqHz (pllcfgr : UInt32) : Option UInt32 := do
  let vcoInput ← udiv (pllSourceFreq pllcfgr) (pllm pllcfgr)
  let sysclk ← udiv (vcoInput * plln pllcfgr) (pllp pllcfgr)
  return sysclk

/-! ## What it should compute -/

/-- The fields of the register as numbers. -/
structure Pll where
  source : Nat
  m : Nat
  n : Nat
  p : Nat
  deriving DecidableEq

/-- The fields as the reference manual numbers the bits. -/
def Pll.ofRegister (pllcfgr : UInt32) : Pll where
  source := if pllcfgr.toNat.testBit 22 then 8000000 else 16000000
  m := pllcfgr.toNat % 2 ^ 6
  n := pllcfgr.toNat / 2 ^ 6 % 2 ^ 9
  p := 2 * (pllcfgr.toNat / 2 ^ 16 % 2 ^ 2 + 1)

/-- The computation is defined, none of its intermediate values exceeds 32 bits, and the result is the
frequency of the PLL, rounded down. -/
def ComputesSysclk (pllcfgr : UInt32) : Prop :=
  let pll := Pll.ofRegister pllcfgr
  pll.m ≠ 0 ∧ pll.source / pll.m * pll.n < 2 ^ 32 ∧
    ∃ freq, getSysclkFreqHz pllcfgr = some freq ∧
      freq.toNat = pll.source * pll.n / (pll.m * pll.p)

/-- The divisor `m` is not zero, the product fits (it does not if 16 MHz are multiplied by 269 or more
without having been divided), and what the first division drops is made up for by the remainder of
the last one. -/
structure Pll.Supported (pll : Pll) : Prop where
  divides : pll.m ≠ 0
  fits : ¬(pll.source = 16000000 ∧ pll.m = 1 ∧ 269 ≤ pll.n)
  rounds : pll.source / pll.m * pll.n % pll.p + pll.source % pll.m * pll.n / pll.m < pll.p

end DiscoveryDemo.Clock
