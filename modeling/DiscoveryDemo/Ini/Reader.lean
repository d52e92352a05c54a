import DiscoveryDemo.Ini.ConfigManager

/-!
# What the INI reader makes of a file

The read loop seen without its buffers: each chunk that `fgets` delivers is an `Item`, and the loop
walks over the items with the section in force. `Ini.Proofs.ReaderProofs` shows that
`getConfigValue` does exactly this, fault for fault.
-/

namespace DiscoveryDemo.Ini

open CLib

/-- What a chunk of the file means to the reader. -/
inductive Item where
  /-- A comment, an empty line, or a line without `=`. -/
  | inert
  /-- A section header; the name is cut to what `currentSection` holds. -/
  | header (name : List Byte)
  /-- An entry with nothing at all before its `=`. -/
  | keyless
  /-- An entry, with its key and its value trimmed. -/
  | entry (key value : List Byte)
  deriving DecidableEq

/-- `l` without leading and trailing spaces. -/
def trimSpaces (l : List Byte) : List Byte := (l.dropWhile (· = SP)).rdropWhile (· = SP)

/-- The text before the first `=`. -/
def keyText (t : List Byte) : List Byte := t.takeWhile (· ≠ ch '=')

/-- The text after the first `=` without leading spaces, up to the end of the line. -/
def valueText (t : List Byte) : List Byte :=
  ((t.drop ((keyText t).length + 1)).dropWhile (· = SP)).takeWhile (· ≠ NL)

/-- The text between a leading `[` and the first `]`. -/
def bracketText (t : List Byte) : List Byte := (t.drop 1).takeWhile (· ≠ ch ']')

/-- A line that begins with `[` and contains a `]`. -/
def IsHeader (t : List Byte) : Prop := t.head? = some (ch '[') ∧ ch ']' ∈ t

instance (t : List Byte) : Decidable (IsHeader t) := inferInstanceAs (Decidable (_ ∧ _))

/-- The item that the text `t` is. -/
def classify (t : List Byte) : Item :=
  if t.head? = some (ch '#') ∨ t.head? = some NL then .inert
  else if IsHeader t then .header ((bracketText t).take (maxSectionLength - 1))
  else if ch '=' ∈ t then
    if t.head? = some (ch '=') then .keyless else .entry (trimSpaces (keyText t)) (valueText t)
  else .inert

/-- The part of a chunk that the string functions see. -/
def text (chunk : List Byte) : List Byte := chunk.takeWhile (· ≠ NUL)

/-- The items of a file, one for each chunk. -/
def items (file : List Byte) : List Item :=
  (chunks NL (lineBufferLength - 1) file).map fun c => classify (text c)

/-- The section in force after an item. -/
def Item.enter (current : List Byte) : Item → List Byte
  | .header name => name
  | _ => current

/-- Look for `key` in section `sec`, with `current` the section in force. Entries count only in a
section with a name; there a keyless entry makes the reader look at the byte before the buffer. -/
def scan (sec key : List Byte) (current : List Byte) :
    List Item → Except Fault (Option (List Byte))
  | [] => .ok none
  | .inert :: l => scan sec key current l
  | .header name :: l => scan sec key name l
  | .keyless :: l => if current = [] then scan sec key current l else .error (.outOfBounds (-1))
  | .entry k v :: l =>
    if current ≠ [] ∧ current = sec ∧ k = key then .ok (some v) else scan sec key current l

/-- Each item together with the section in force where it stands. -/
def located (current : List Byte) : List Item → List (List Byte × Item)
  | [] => []
  | it :: l => (current, it) :: located (it.enter current) l

/-- A keyless entry in a named section: reading it leaves the line buffer. -/
def Hazard (x : List Byte × Item) : Prop := x.1 ≠ [] ∧ x.2 = .keyless

/-- An entry for `key` in section `sec` with the value `v`. -/
def Hit (sec key v : List Byte) (x : List Byte × Item) : Prop :=
  sec ≠ [] ∧ x = (sec, .entry key v)

/-- The items at which a scan stops. -/
def stops (sec key : List Byte) : List Byte × Item → Bool
  | (current, .keyless) => decide (current ≠ [])
  | (current, .entry k _) => decide (current ≠ [] ∧ current = sec ∧ k = key)
  | _ => false

/-- What `file`, if it can be opened, says about `key` in section `sec`. -/
def meaning (file : Option (List Byte)) (sec key : List Byte) : Except Fault (Option (List Byte)) :=
  match file with
  | none => .ok none
  | some content => scan sec key [] (items content)

/-- The result of the read loop stands for the result of a scan. -/
inductive Reads : Except Fault (Option Nat × LineBuf) → Except Fault (Option (List Byte)) → Prop
  | fault (f : Fault) : Reads (.error f) (.error f)
  | missing (line : LineBuf) : Reads (.ok (none, line)) (.ok none)
  | value {line : LineBuf} {p : Nat} {v : List Byte} (h : line.str p = .ok v) :
      Reads (.ok (some p, line)) (.ok (some v))

end DiscoveryDemo.Ini
