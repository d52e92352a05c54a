import DiscoveryDemo.Periphery.I2c

/-!
# `main` of ioexample3

The program asks every address of the bus for a message without data and prints those that answer. The
address is an unsigned byte.
-/

namespace DiscoveryDemo.Ioexample3

open CLib Periphery.I2c

/-- All that a run gets from outside. -/
structure Env where
  opening : OpenAnswers
  /-- What the transfer to an address is answered with. -/
  transfer : UInt8 → Option Nat
  closing : Option Nat

/-- `i2c_path` -/
def i2cPath : List Byte := lit "/dev/i2c-0"

/-- A digit of `%X`. -/
def hexDigit (n : Nat) : Byte := if n < 10 then UInt8.ofNat (48 + n) else UInt8.ofNat (55 + n)

/-- `printf("Device found at address 0x%02X\n", addr)` -/
def printFound (addr : UInt8) : List Byte :=
  lit "Device found at address 0x" ++ [hexDigit (addr.toNat / 16), hexDigit (addr.toNat % 16)] ++ [NL]

/-- `msg` -/
def message (addr : UInt8) : Msg := { addr := addr.toUInt16, flags := 0, buf := [] }

/-- The loop, from `addr` on: what it prints, and the bus. -/
def scan (env : Env) (addr : UInt8) (s : System) : List Byte × System :=
  if addr < 0x78 then
    let (ret, s) := i2cTransfer s (env.transfer addr) [message addr]
    let out := if ret = 0 then printFound addr else []
    let rest := scan env (addr + 1) s
    (out ++ rest.1, rest.2)
  else ([], s)
termination_by 0x78 - addr.toNat
decreasing_by
  have hlt : addr.toNat < 0x78 := by simpa [UInt8.lt_iff_toNat_lt] using ‹addr < 0x78›
  have hsucc : (addr + 1).toNat = addr.toNat + 1 := by
    rw [UInt8.toNat_add]
    exact Nat.mod_eq_of_lt (by show addr.toNat + 1 < 256; omega)
  omega

/-- `main`: the status, what it prints on `stdout`, and the bus. -/
def main (env : Env) : Nat × List Byte × System :=
  let (ret, s) := i2cOpen System.new env.opening i2cPath
  if ret < 0 then (1, [], s)
  else
    let (out, s) := scan env 0x03 s
    let (_, s) := i2cClose s env.closing
    (0, lit "Scanning I2C bus " ++ i2cPath ++ lit "...\n" ++ out, s)

end DiscoveryDemo.Ioexample3
