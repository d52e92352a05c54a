import DiscoveryDemo.Driver.Ledger
import DiscoveryDemo.Periphery.Error

/-!
# I2C buses

`i2c.c`: a handle is a descriptor of a bus; a transfer hands messages to the kernel, which answers with an
`errno` or with success. What has been handed to the bus is recorded.
-/

namespace DiscoveryDemo.Periphery.I2c

open CLib Driver

/-- `struct i2c_msg`; `len` is the length of `buf`. -/
structure Msg where
  addr : UInt16
  flags : UInt16
  buf : List Byte
  deriving DecidableEq

/-- `i2c_t` -/
structure Handle where
  fd : Int
  error : Error

/-- `i2c_new` -/
def i2cNew : Handle := ⟨-1, Error.none⟩

def errorOpen : Int := -2
def errorQuery : Int := -3
def errorNotSupported : Int := -4
def errorTransfer : Int := -5
def errorClose : Int := -6

/-- `I2C_FUNC_I2C` -/
def funcI2c : UInt32 := 1

/-- A handle, the descriptors, and the transfers that the bus has been asked for. -/
structure System where
  i2c : Handle
  ledger : Ledger
  transfers : List (List Msg)

/-- Nothing has been opened yet. -/
def System.new : System := ⟨i2cNew, Ledger.empty, []⟩

/-- What is answered to `i2c_open`. -/
structure OpenAnswers where
  opened : Except Nat Nat
  funcs : Except Nat UInt32

/-- `return _i2c_error(..)` -/
def fail (s : System) (code : Int) (c_errno : Nat) (text : List Byte) : Int × System :=
  (code, { s with i2c := { s.i2c with error := ⟨c_errno, text⟩ } })

/-- `close(i2c->fd)`; the descriptor is gone even if `close` fails. -/
def System.close (s : System) : System := { s with ledger := s.ledger.leave s.i2c.fd.toNat }

/-- `i2c->fd = -1` -/
def System.forget (s : System) : System := { s with i2c := { s.i2c with fd := -1 } }

/-- `i2c_open` -/
def i2cOpen (s : System) (a : OpenAnswers) (path : List Byte) : Int × System :=
  match a.opened with
  | .error e =>
    fail { s with i2c := ⟨-1, Error.none⟩ } errorOpen e (lit "Opening I2C device \"" ++ path ++ lit "\"")
  | .ok fd =>
    let s := { s with i2c := ⟨fd, Error.none⟩, ledger := s.ledger.enter fd }
    match a.funcs with
    | .error e => fail s.close.forget errorQuery e (lit "Querying I2C functions")
    | .ok supportedFuncs =>
      if supportedFuncs &&& funcI2c = 0 then
        fail s.close.forget errorNotSupported 0 (lit "I2C not supported on " ++ path)
      else (0, s)

/-- `i2c_transfer` -/
def i2cTransfer (s : System) (a : Option Nat) (msgs : List Msg) : Int × System :=
  let s := { s with transfers := s.transfers ++ [msgs] }
  match a with
  | some e => fail s errorTransfer e (lit "I2C transfer")
  | none => (0, s)

/-- `i2c_close` -/
def i2cClose (s : System) (a : Option Nat) : Int × System :=
  if s.i2c.fd < 0 then (0, s)
  else
    match a with
    | some e => fail s.close errorClose e (lit "Closing I2C device")
    | none => (0, s.close.forget)

end DiscoveryDemo.Periphery.I2c
