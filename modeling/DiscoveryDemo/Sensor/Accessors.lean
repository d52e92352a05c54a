import DiscoveryDemo.Sensor.RegisterDevice

/-!
# The register accessors of ioexample4

`spi_write_register`, `spi_read_register` and `spi_read_multi` frame their command bytes in different
ways and shift the received bytes by one. Below them is the device of `Sensor.RegisterDevice`; above
them the register file that they are meant to be, whose contents are the values last written.
-/

namespace DiscoveryDemo.Sensor

open CLib

/-- `spi_write_register` -/
def spiWriteRegister (regs : RegFile) (t : Transfer) (reg val : Byte) : Int × RegFile :=
  let tx := [reg &&& 0x7F, val]
  let (code, _, regs) := spiTransfer regs t tx
  (code, regs)

/-- `spi_read_register`: the code it returns, what `*val` holds afterwards, and the registers. -/
def spiReadRegister (regs : RegFile) (t : Transfer) (reg val : Byte) :
    Except Fault (Int × Byte × RegFile) := do
  let tx := [reg ||| 0x80, 0x00]
  let (code, received, regs) := spiTransfer regs t tx
  let rx := (Buf.zeroed 2).store received
  if code < 0 then
    return (-1, val, regs)
  else
    return (0, ← rx.read 1, regs)

/-- `spi_read_multi`. The arrays `tx` and `rx` are not initialised. -/
def spiReadMulti (regs : RegFile) (t : Transfer) (startReg : Byte) {len : Nat} (buf : Buf len)
    (tx rx : Buf (1 + len)) : Except Fault (Int × Buf len × RegFile) := do
  let tx ← tx.write 0 (startReg ||| 0xC0)
  let tx ← (List.range' 1 len).foldlM (fun tx i => tx.write (i : Nat) 0x00) tx
  let (code, received, regs) := spiTransfer regs t tx.bytes
  let rx := rx.store received
  if code < 0 then
    return (-1, buf, regs)
  else
    let buf ← (List.range' 0 len).foldlM
      (fun buf i => do buf.write (i : Nat) (← rx.read (i + 1 : Nat))) buf
    return (0, buf, regs)

/-- A call of one of the accessors, with all that it finds in memory. -/
inductive Op where
  /-- `spi_write_register(spi, reg, val)` -/
  | write (reg val : Byte)
  /-- `spi_read_register(spi, reg, &val)` -/
  | read (reg val : Byte)
  /-- `spi_read_multi(spi, startReg, buf, len)` -/
  | readMulti (startReg : Byte) (len : Nat) (buf : Buf len) (tx rx : Buf (1 + len))

/-- What a call returns, and what its output holds afterwards: nothing, `*val`, or `buf`. -/
structure Result where
  /-- The code. -/
  code : Int
  /-- The output. -/
  out : List Byte

/-- One call. -/
def Op.exec (regs : RegFile) (t : Transfer) : Op → Except Fault (Result × RegFile)
  | write reg val =>
    let (code, regs) := spiWriteRegister regs t reg val
    .ok (⟨code, []⟩, regs)
  | read reg val => do
    let (code, val, regs) ← spiReadRegister regs t reg val
    return (⟨code, [val]⟩, regs)
  | readMulti startReg _ buf tx rx => do
    let (code, buf, regs) ← spiReadMulti regs t startReg buf tx rx
    return (⟨code, buf.bytes⟩, regs)

/-- A sequence of calls, each with what becomes of its transfer. -/
def execAll : RegFile → List (Op × Transfer) → Except Fault (List Result × RegFile)
  | regs, [] => .ok ([], regs)
  | regs, (op, t) :: calls => do
    let (r, regs) ← op.exec regs t
    let (rs, regs) ← execAll regs calls
    return (r :: rs, regs)

/-! ## The register file -/

/-- What the output of a call holds before it. -/
def Op.before : Op → List Byte
  | write _ _ => []
  | read _ val => [val]
  | readMulti _ _ buf _ _ => buf.bytes

/-- What a call reads from a register file. -/
def Op.value (regs : RegFile) : Op → List Byte
  | write _ _ => []
  | read reg _ => [regs (register reg.toNat)]
  | readMulti startReg len _ _ _ =>
    (List.range len).map fun i => regs (register (startReg.toNat + i))

/-- The value a call stores in the register `a`, if it does. -/
def stored (a : Fin 64) : Op × Transfer → Option Byte
  | (.write reg val, .done _) => if register reg.toNat = a then some val else none
  | _ => none

/-- The value last stored in the register `a` by `calls`; its initial value if there is none. -/
def lastStored (init : RegFile) (calls : List (Op × Transfer)) (a : Fin 64) : Byte :=
  (calls.filterMap (stored a)).getLast?.getD (init a)

/-- The result that a call should have on the register file `regs`. -/
def Answers (regs : RegFile) (op : Op) (t : Transfer) (r : Result) : Prop :=
  match t with
  | .done _ => r = ⟨0, op.value regs⟩
  | .failed _ _ => r.code < 0 ∧ r.out = op.before

end DiscoveryDemo.Sensor
