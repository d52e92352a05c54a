import DiscoveryDemo.CLib.Decimal

/-!
# Errors of the periphery library

Every handle of the library keeps the number and the message of its last error, and each part of the
library has a function (`_serial_error`, `_spi_error`, `_gpio_error`, ..) that stores them: the message
goes into an array of 96 characters, and what `strerror_r` says of `errno` is tacked on. These functions
are the same but for the type of the handle; `recordError` is their body.

A handle is modelled with the arguments of the last of these calls, from which the message follows.
-/

namespace DiscoveryDemo.Periphery

open CLib

/-- `errmsg` -/
abbrev ErrmsgBuf := Buf 96

/-- `snprintf(b + p, sizeof b - p, ..)` of the output `s`, for a `p` in the array. -/
def snprintfAt {n : Nat} (b : Buf n) (p : Nat) (s : List Byte) : Except Fault (Buf n) :=
  if p < n then
    let out := s.take (n - p - 1) ++ [NUL]
    .ok ⟨(b.bytes.take p ++ (out ++ b.bytes.drop (p + out.length))).take n, by
      simp only [List.length_take, List.length_append, List.length_drop, b.length_eq]
      omega⟩
  else .error (.outOfBounds p)

/-- What is tacked on to a message: `buf` holds what `strerror_r` has put into 64 characters. -/
def errnoText (buf : List Byte) (c_errno : Nat) : List Byte :=
  lit ": " ++ buf ++ lit " [errno " ++ printUnsigned c_errno ++ lit "]"

/-- `_xxx_error`: the message it leaves in `errmsg`. `text` is what `fmt` and its arguments give. -/
def recordError (strerror : Nat → CStr) (errmsg : ErrmsgBuf) (c_errno : Nat) (text : List Byte) :
    Except Fault ErrmsgBuf := do
  let errmsg := errmsg.snprintf text
  if c_errno ≠ 0 then
    let buf := (strerror c_errno).chars.take 63
    snprintfAt errmsg (← errmsg.strlen 0) (errnoText buf c_errno)
  else return errmsg

/-- The error of a handle. -/
structure Error where
  /-- `c_errno` -/
  number : Nat
  /-- The text before `errno` is tacked on. -/
  text : List Byte
  deriving DecidableEq

/-- A handle has no error when it is created. -/
def Error.none : Error := ⟨0, []⟩

/-- The message of an error: as much as fits. -/
def Error.message (strerror : Nat → CStr) (e : Error) : List Byte :=
  (e.text ++ if e.number = 0 then [] else errnoText ((strerror e.number).chars.take 63) e.number).take 95

end DiscoveryDemo.Periphery
