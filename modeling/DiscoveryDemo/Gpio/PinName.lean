import Mathlib.Algebra.Group.Nat.Defs
import DiscoveryDemo.CLib.Strtol

/-!
# Pin names in ioexample2

A pin such as `G13` is named by the letter of its GPIO bank and its number in the bank.
`GPIO_CHIP` makes the path of the bank's device of the one, `GPIO_LINE` gets the line from the other;
neither looks at the whole name.
-/

namespace DiscoveryDemo.Ioexample2

open CLib

/-- The array of a string, up to its terminator. -/
def array (s : CStr) : Buf (s.chars.length + 1) := ⟨s.chars ++ [NUL], List.length_append⟩

/-- What `"%d"` prints for a number that is not negative. -/
def decimal (n : Nat) : List Byte := (Nat.toDigits 10 n).map ch

/-- What `"/dev/gpiochip%d"` prints. -/
def chipPath (chipNum : Nat) : List Byte := lit "/dev/gpiochip" ++ decimal chipNum

/-- `GPIO_CHIP`: what it leaves in `buf`, if that is not null. -/
def gpioChip {n : Nat} (gpioStr : Option CStr) (buf : Option (Buf n)) :
    Except Fault (Option (Buf n)) :=
  match gpioStr, buf with
  | _, none => .ok none
  | none, some buf =>
    if n > 0 then do
      return some (← buf.write 0 NUL)
    else return some buf
  | some gpioStr, some buf =>
    if n = 0 then return some buf
    else do
      let c ← (array gpioStr).read 0
      if c < ch 'A' ∨ c > ch 'Z' then return some (← buf.write 0 NUL)
      else return some (buf.snprintf (chipPath (c.toNat - (ch 'A').toNat)))

/-- `GPIO_LINE`; `other` is what `atoi` gives for numbers that are no `int`. -/
def gpioLine (other : List Byte → Int) (gpioStr : Option CStr) : Except Fault Int :=
  match gpioStr with
  | none => .ok (-1)
  | some gpioStr => do
    if (← (array gpioStr).read 1) = NUL then return -1
    else return atoi other (← (array gpioStr).str 1)

/-! ## Pins -/

/-- `c` is a capital letter. -/
def IsCapital (c : Byte) : Prop := ch 'A' ≤ c ∧ c ≤ ch 'Z'

/-- A capital letter and the digits of a number up to `INT_MAX`. -/
structure PinName where
  letter : Byte
  digits : List Byte
  isCapital : IsCapital letter
  isdigit_digits : ∀ c ∈ digits, isdigit c = true
  nonempty : digits ≠ []
  le_intMax : digitsValue digits < 2 ^ 31

def PinName.text (p : PinName) : List Byte := p.letter :: p.digits

/-- The device of the pin's bank. -/
def PinName.path (p : PinName) : List Byte := chipPath (p.letter.toNat - (ch 'A').toNat)

def PinName.line (p : PinName) : Nat := digitsValue p.digits

/-- The string names a pin whose path, with its terminator, fits in `n` bytes. -/
def NamesPin (s : CStr) (n : Nat) (p : PinName) : Prop := p.text = s.chars ∧ p.path.length < n

/-- Within the bounds of their arrays, the functions give the path and the line of the pin that the
string names, or an empty path or the line -1 if there is none. -/
def PinOrNothing (s : CStr) (n : Nat) : Prop :=
  ∀ (other : List Byte → Int) (buf : Buf n),
    ∃ (buf' : Buf n) (path : List Byte) (line : Int),
      gpioChip (some s) (some buf) = .ok (some buf') ∧ buf'.str 0 = .ok path ∧
      gpioLine other (some s) = .ok line ∧
      (∀ p, NamesPin s n p → path = p.path ∧ line = p.line) ∧
      ((∀ p, ¬NamesPin s n p) → path = [] ∨ line = -1)

/-- The names that are harmless: those that the checks of the two functions catch, those of pins, and
those with the number -1. -/
def Harmless (s : CStr) (n : Nat) : Prop :=
  ∃ c tail, s.chars = c :: tail ∧
    (tail = [] ∨ ¬IsCapital c ∨ n = 1 ∨ (∃ p, NamesPin s n p) ∨ Begins tail (-1))

end DiscoveryDemo.Ioexample2
