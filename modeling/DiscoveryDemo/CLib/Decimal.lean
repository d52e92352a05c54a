import Mathlib.Algebra.Group.Nat.Defs
import DiscoveryDemo.CLib.Strtol

/-!
# Decimal texts

What `printf` makes of an integer, and `strtoul` with an `unsigned long` of 32 bits in base 10, in the
C locale. A number that has been printed is read back as far as `unsigned long` has room for it.
-/

namespace CLib

/-- What `"%u"` prints. -/
def printUnsigned (n : Nat) : List Byte := (Nat.toDigits 10 n).map ch

/-- What `"%d"` prints. -/
def printSigned (n : Int) : List Byte :=
  if n < 0 then ch '-' :: printUnsigned n.natAbs else printUnsigned n.natAbs

/-- `ULONG_MAX` -/
def ulongMax : Nat := 2 ^ 32 - 1

/-- The result of `strtoul`. -/
structure Strtoul where
  value : Nat
  /-- The string at `endptr`. -/
  rest : List Byte
  /-- `errno` is set to `ERANGE`. -/
  erange : Bool
  deriving DecidableEq

/-- `strtoul(s, &endptr, 10)`. A number with a minus sign is taken modulo `ULONG_MAX + 1`; without a
digit nothing is converted and `endptr` is `s`. -/
def strtoul (s : List Byte) : Strtoul :=
  let (minus, t) := splitSign (s.dropWhile isspace)
  let digits := t.takeWhile isdigit
  let rest := t.dropWhile isdigit
  if digits = [] then ⟨0, s, false⟩
  else if digitsValue digits > ulongMax then ⟨ulongMax, rest, true⟩
  else if minus then ⟨(ulongMax + 1 - digitsValue digits) % (ulongMax + 1), rest, false⟩
  else ⟨digitsValue digits, rest, false⟩

end CLib
