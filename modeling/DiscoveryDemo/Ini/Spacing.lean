import DiscoveryDemo.Ini.Inert

/-!
# Files that differ in their spacing

A file as a list of lines in which the spaces of the entry lines are kept apart from their texts. Two
files that differ in nothing but the numbers of these spaces are one list of lines with two spacings.
-/

namespace DiscoveryDemo.Ini

open CLib

/-- The numbers of spaces in an entry line. -/
structure Spaces where
  beforeKey : Nat
  beforeEquals : Nat
  afterEquals : Nat
  afterValue : Nat
  deriving DecidableEq

/-- A line of a file: an entry line without its spaces, or any other line. -/
inductive Line where
  | entry (key value : List Byte)
  | other (text : List Byte)
  deriving DecidableEq

def spaces (m : Nat) : List Byte := List.replicate m SP

/-- The text of a line with the given spaces. -/
def Line.render (m : Spaces) : Line → List Byte
  | entry κ v => spaces m.beforeKey ++ κ ++ spaces m.beforeEquals ++ ch '=' ::
      (spaces m.afterEquals ++ v ++ spaces m.afterValue)
  | other t => t

/-- A text that neither begins nor ends with a space. -/
def Trimmed (t : List Byte) : Prop := t.head? ≠ some SP ∧ t.getLast? ≠ some SP

/-- The key of an entry is not empty and does not begin with `#` or `[`. -/
def Line.WellFormed : Line → Prop
  | entry κ v => KeyText κ ∧ LineText κ ∧ Trimmed κ ∧ LineText v ∧ Trimmed v
  | other t => LineText t ∧ t.head? ≠ some (ch '=')

/-- A line of two files, with its spaces in the one and in the other. -/
structure SpacedLine where
  line : Line
  left : Spaces
  right : Spaces

/-- The file of the given lines, with or without a newline after the last one. -/
def fileOf (final : Bool) : List (List Byte) → List Byte
  | [] => []
  | [l] => if final then l ++ [NL] else l
  | l :: m :: ls => l ++ NL :: fileOf final (m :: ls)

/-- The lines of the one file. -/
def leftLines (lines : List SpacedLine) : List (List Byte) := lines.map fun l => l.line.render l.left

/-- The lines of the other file. -/
def rightLines (lines : List SpacedLine) : List (List Byte) := lines.map fun l => l.line.render l.right

/-- The lines are well formed and have at most 254 characters in both files. -/
structure SpacedFile (lines : List SpacedLine) : Prop where
  wellFormed : ∀ l ∈ lines, l.line.WellFormed
  fitsLeft : ∀ l ∈ leftLines lines, l.length ≤ lineBufferLength - 2
  fitsRight : ∀ l ∈ rightLines lines, l.length ≤ lineBufferLength - 2

/-- The first entry line for `key` in section `sec`, if it has a value, has the same number of spaces
after it in both files. -/
def SameTrailing (sec key : List Byte) (lines : List SpacedLine) : Prop :=
  ∀ A v left right B, lines = A ++ ⟨.entry key v, left, right⟩ :: B → sec ≠ [] →
    sectionAfter (leftLines A) = sec → ¬EntryIn sec key (leftLines A) →
    v = [] ∨ left.afterValue = right.afterValue

end DiscoveryDemo.Ini
