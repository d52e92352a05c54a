import DiscoveryDemo.CLib.Decimal
import DiscoveryDemo.Clock.Sysclk
import DiscoveryDemo.Periphery.Mmio

/-!
# ioexample5

`main` maps the registers of the RCC, reads one of them through the pointer and prints a frequency. What
`mmio_open` returns is not looked at.
-/

namespace DiscoveryDemo.Ioexample5

open CLib Periphery.Mmio

/-- `RCC_BASE` -/
def rccBase : UInt32 := 0x40000000 + 0x00020000 + 0x3800

/-- `sizeof(RCC_TypeDef)` -/
def rccMapSize : UInt32 := 0x90

/-- The offset of `PLLCFGR` in `RCC_TypeDef`. -/
def pllcfgrOffset : UInt32 := 4

/-- What ends the program before it returns. -/
inductive Stop where
  | fault (fault : Fault)
  | divisionByZero

/-- `rcc_regs->PLLCFGR` -/
def readPllcfgr (s : System) (rccRegs : UInt32) : Except Fault UInt32 := do
  let p ← access s (rccRegs + pllcfgrOffset) 4
  return UInt32.ofNat (wordOf (s.memory.load p 4))

/-- `printf("Detected CPU frequency: %lu Hz\n", cpu_freq)` -/
def printFrequency (cpuFreq : UInt32) : List Byte :=
  lit "Detected CPU frequency: " ++ printUnsigned cpuFreq.toNat ++ lit " Hz\n"

/-- `main`: what it prints, and the state in the end. -/
def main (s : System) (a : Answers) (pageSize : UInt32) : Except Stop (List Byte × System) :=
  let (_, s) := mmioOpen { s with mmio := mmioNew } a pageSize rccBase rccMapSize
  let rccRegs := mmioPtr s
  match readPllcfgr s rccRegs with
  | .error fault => .error (.fault fault)
  | .ok pllcfgr =>
    match Clock.getSysclkFreqHz pllcfgr with
    | none => .error .divisionByZero
    | some cpuFreq =>
      let (_, s) := mmioClose s a
      .ok (printFrequency cpuFreq, s)

end DiscoveryDemo.Ioexample5
