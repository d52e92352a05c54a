import Mathlib.Logic.Function.Basic
import DiscoveryDemo.CLib.Buffer

/-!
# A register file behind a serial bus

A device with 64 byte registers. The first byte of a transfer is the command: bit 7 asks for a read,
bit 6 for the address to be incremented after each byte, and bits 5..0 are the address. The bytes
that follow are stored, or shifted out, one register after the other.
-/

namespace DiscoveryDemo.Sensor

open CLib

/-- The contents of the registers. -/
abbrev RegFile := Fin 64 → Byte

/-- The register with the number `n`, modulo 64. -/
def register (n : Nat) : Fin 64 := Fin.ofNat 64 n

/-- Bit 7 of a command. -/
def isRead (cmd : Byte) : Bool := cmd.toNat.testBit 7

/-- Bit 6 of a command. -/
def autoIncrement (cmd : Byte) : Bool := cmd.toNat.testBit 6

/-- Bits 5..0 of a command. -/
def address (cmd : Byte) : Nat := cmd.toNat % 64

/-- The address of the next byte. -/
def next (inc : Bool) (a : Nat) : Nat := if inc then a + 1 else a

/-- The bytes shifted out in answer to `n` more bytes of a read. -/
def readBytes (inc : Bool) (regs : RegFile) : Nat → Nat → List Byte
  | _, 0 => []
  | a, n + 1 => regs (register a) :: readBytes inc regs (next inc a) n

/-- The registers after the bytes of a write. -/
def writeBytes (inc : Bool) : RegFile → Nat → List Byte → RegFile
  | regs, _, [] => regs
  | regs, a, b :: bytes => writeBytes inc (Function.update regs (register a) b) (next inc a) bytes

/-- What the device shifts out during a whole transfer, and its registers afterwards. `idle` are the
bytes it shifts out when it has nothing to say. -/
def exchange (regs : RegFile) (idle : Nat → Byte) : List Byte → List Byte × RegFile
  | [] => ([], regs)
  | cmd :: data =>
    if isRead cmd then
      (idle 0 :: readBytes (autoIncrement cmd) regs (address cmd) data.length, regs)
    else
      ((List.range (data.length + 1)).map idle,
        writeBytes (autoIncrement cmd) regs (address cmd) data)

/-- What becomes of a transfer. -/
inductive Transfer where
  /-- It is performed as a whole. -/
  | done (idle : Nat → Byte)
  /-- It fails with a negative code and without any effect. -/
  | failed (code : Int) (neg : code < 0)

/-- `spi_transfer`: the code it returns, the bytes it receives and the registers afterwards. -/
def spiTransfer (regs : RegFile) (t : Transfer) (tx : List Byte) : Int × List Byte × RegFile :=
  match t with
  | .done idle => (0, exchange regs idle tx)
  | .failed code _ => (code, [], regs)

end DiscoveryDemo.Sensor
