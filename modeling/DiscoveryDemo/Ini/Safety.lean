import DiscoveryDemo.Ini.Reader

/-!
# Which files are safe to read

Conditions on the chunks of a file under which a lookup stays inside its buffers, and under which it
finds something.
-/

namespace DiscoveryDemo.Ini

open CLib

/-- The chunks in which `fgets` delivers a file. -/
def fileChunks (content : List Byte) : List (List Byte) := chunks NL (lineBufferLength - 1) content

/-- The section in force after the chunks `pre`. -/
def sectionAfter (pre : List (List Byte)) : List Byte :=
  (pre.map fun c => classify (text c)).foldl Item.enter []

/-- Among the chunks `pre` there is an entry for `key` in section `sec`. -/
def EntryIn (sec key : List Byte) (pre : List (List Byte)) : Prop :=
  ∃ A c B v, pre = A ++ c :: B ∧ sec ≠ [] ∧ sectionAfter A = sec ∧ classify (text c) = .entry key v

/-- A chunk that begins with `=` does harm only in a named section. -/
def Harmless (pre : List (List Byte)) : Prop :=
  ∀ A c B, pre = A ++ c :: B → c.head? = some (ch '=') → sectionAfter A = []

/-- No chunk that begins with `=` stands in a named section, unless an entry for `key` in section
`sec` comes before it. -/
def SafeFor (file : Option (List Byte)) (sec key : List Byte) : Prop :=
  ∀ content, file = some content → ∀ A c B, fileChunks content = A ++ c :: B →
    c.head? = some (ch '=') → sectionAfter A = [] ∨ EntryIn sec key A

/-- The file can be opened and has an entry for `key` in section `sec`, before which no chunk that
begins with `=` stands in a named section. -/
def Present (file : Option (List Byte)) (sec key : List Byte) : Prop :=
  ∃ content A c B v, file = some content ∧ fileChunks content = A ++ c :: B ∧ sec ≠ [] ∧
    sectionAfter A = sec ∧ classify (text c) = .entry key v ∧ Harmless A

end DiscoveryDemo.Ini
