import DiscoveryDemo.CLib.Decimal

/-!
# Attributes in sysfs

The kernel shows an attribute of a device as a text and takes it as a text. To read one, the library
opens its file, reads into an array, closes the file and puts a NUL behind what it has read; to write
one, it opens the file, writes the text and closes the file.
-/

namespace DiscoveryDemo.Periphery

open CLib

/-- `ENOENT` -/
def enoent : Nat := 2

/-- `EINVAL` -/
def einval : Nat := 22

/-- `ERANGE` -/
def erange : Nat := 34

/-- `errno`, if a system call on the file fails for reasons of its own. -/
structure FileAnswers where
  opened : Option Nat
  /-- `read` or `write` -/
  io : Option Nat
  closed : Option Nat

/-- No system call on the file fails. -/
def FileAnswers.fine : FileAnswers := ⟨none, none, none⟩

/-- Some system call on the file fails. -/
def FileAnswers.Broken (a : FileAnswers) : Prop := a.opened ≠ none ∨ a.io ≠ none ∨ a.closed ≠ none

instance (a : FileAnswers) : Decidable a.Broken := inferInstanceAs (Decidable (_ ∨ _))

/-- Where it failed. -/
inductive Step where
  | opening
  | reading
  | writing
  | closing
  deriving DecidableEq

/-- Reads the attribute with the text `content` into `buf`; without an error, `buf[ret] = '\0'`. -/
def readFile {n : Nat} (a : FileAnswers) (content : List Byte) (buf : Buf n) :
    Except Fault (Except (Step × Nat) (Buf n)) :=
  match a.opened, a.io, a.closed with
  | some e, _, _ => .ok (.error (.opening, e))
  | none, some e, _ => .ok (.error (.reading, e))
  | none, none, some e => .ok (.error (.closing, e))
  | none, none, none => do
    let got := content.take n
    return .ok (← (buf.store got).write got.length NUL)

/-- Writes `text` to an attribute of the device `d`; `store` is what the kernel makes of it. -/
def writeFile {Device : Type} (a : FileAnswers) (store : List Byte → Except Nat Device) (d : Device)
    (text : List Byte) : Except (Step × Nat) Unit × Device :=
  match a.opened with
  | some e => (.error (.opening, e), d)
  | none =>
    match a.io, store text with
    | some e, _ => (.error (.writing, e), d)
    | none, .error e => (.error (.writing, e), d)
    | none, .ok d =>
      match a.closed with
      | some e => (.error (.closing, e), d)
      | none => (.ok (), d)

/-- The kernel's `kstrtoull` and its relatives, for a number that is at most `max` and is written in
decimal without a leading zero. -/
def kstrtoul (max : Nat) (text : List Byte) : Except Nat Nat :=
  let digits := text.takeWhile isdigit
  let rest := text.dropWhile isdigit
  if digits = [] then .error einval
  else if digitsValue digits > max then .error erange
  else if rest ≠ [] ∧ rest ≠ [NL] then .error einval
  else .ok (digitsValue digits)

end DiscoveryDemo.Periphery
