import Mathlib.Algebra.Group.Int.Defs
import DiscoveryDemo.CLib.Buffer

/-!
# `strtol` and `atoi`

The conversion of a string to a `long` of 32 bits in base 10, in the C locale: white space, an optional
sign and decimal digits, as far as they go. Such a text is a `Numeral`.
-/

namespace CLib

/-- `isspace` -/
def isspace (c : Byte) : Bool := c = SP ∨ (9 ≤ c ∧ c ≤ 13)

/-- `isdigit` -/
def isdigit (c : Byte) : Bool := ch '0' ≤ c ∧ c ≤ ch '9'

/-- `LONG_MAX` -/
def longMax : Int := 2 ^ 31 - 1

/-- `LONG_MIN` -/
def longMin : Int := -2 ^ 31

/-- The number that a list of digits denotes. -/
def digitsValue (digits : List Byte) : Nat :=
  digits.foldl (fun n d => 10 * n + (d.toNat - (ch '0').toNat)) 0

/-- An optional sign: whether it is a minus sign, and what follows it. -/
def splitSign (s : List Byte) : Bool × List Byte :=
  match s with
  | c :: t => if c = ch '-' then (true, t) else if c = ch '+' then (false, t) else (false, s)
  | [] => (false, [])

/-- The result of `strtol`. -/
structure Strtol where
  value : Int
  /-- The string at `endptr`. -/
  rest : List Byte
  /-- `errno` is set to `ERANGE`. -/
  erange : Bool
  deriving DecidableEq

/-- `strtol(s, &endptr, 10)`. Without a digit nothing is converted and `endptr` is `s`. -/
def strtol (s : List Byte) : Strtol :=
  let (minus, t) := splitSign (s.dropWhile isspace)
  let digits := t.takeWhile isdigit
  let rest := t.dropWhile isdigit
  if digits = [] then ⟨0, s, false⟩
  else
    let n : Int := if minus then -digitsValue digits else digitsValue digits
    if n > longMax then ⟨longMax, rest, true⟩
    else if n < longMin then ⟨longMin, rest, true⟩
    else ⟨n, rest, false⟩

/-- `atoi(s)`: as `strtol`, but the standard leaves open what it gives if the number is not an `int`;
here it is `other s`. -/
def atoi (other : List Byte → Int) (s : List Byte) : Int :=
  let r := strtol s
  if r.erange then other s else r.value

/-! ## Numerals -/

inductive Sign where
  | none
  | plus
  | minus
  deriving DecidableEq

def Sign.text : Sign → List Byte
  | none => []
  | plus => [ch '+']
  | minus => [ch '-']

/-- White space, an optional sign and at least one decimal digit. -/
structure Numeral where
  space : List Byte
  sign : Sign
  digits : List Byte
  isspace_space : ∀ c ∈ space, isspace c = true
  isdigit_digits : ∀ c ∈ digits, isdigit c = true
  nonempty : digits ≠ []

def Numeral.text (m : Numeral) : List Byte := m.space ++ (m.sign.text ++ m.digits)

/-- The number that a numeral denotes. -/
def Numeral.value (m : Numeral) : Int :=
  if m.sign = .minus then -digitsValue m.digits else digitsValue m.digits

/-- The string is, in full, a numeral for `n`. -/
def Denotes (s : List Byte) (n : Int) : Prop := ∃ m : Numeral, m.text = s ∧ m.value = n

/-- The string does not go on with a digit. -/
def NoDigit (rest : List Byte) : Prop := ∀ c, rest.head? = some c → isdigit c = false

/-- The string begins with a numeral for `n`. -/
def Begins (s : List Byte) (n : Int) : Prop :=
  ∃ (m : Numeral) (rest : List Byte), s = m.text ++ rest ∧ NoDigit rest ∧ m.value = n

end CLib
