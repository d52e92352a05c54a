import DiscoveryDemo.Ini.Reader

/-!
# The reference meaning of an INI file

What a person expects of a lookup, in terms of the physical lines of the file and with nothing of
the reader in it: the first entry line for the key below a header with the section's name.
-/

namespace DiscoveryDemo.Ini

open CLib

/-- A file without NULs whose lines fit into the line buffer with their newlines, and none of which
begins with `=`. -/
structure PlainFile (content : List Byte) : Prop where
  noNul : NUL ∉ content
  short : ∀ l ∈ physLines NL content, l.length ≤ lineBufferLength - 2
  keyed : ∀ l ∈ physLines NL content, l.head? ≠ some (ch '=')

/-- The name in the nearest header among the lines `above`. -/
def nearestHeader (above : List (List Byte)) : Option (List Byte) :=
  (above.filter fun l => decide (IsHeader l)).getLast?.map bracketText

/-- The line `L` is an entry for `k`. -/
structure IsEntry (L k : List Byte) : Prop where
  nonempty : L ≠ []
  notComment : L.head? ≠ some (ch '#')
  notHeader : ¬IsHeader L
  hasEquals : ch '=' ∈ L
  key : trimSpaces (keyText L) = k

/-- The value of an entry line: the text after the first `=` without its leading spaces. -/
def lineValue (L : List Byte) : List Byte :=
  (L.drop ((keyText L).length + 1)).dropWhile (· = SP)

/-- `v` is the value of the first line that is an entry for `k` and stands below lines that satisfy
`inSection`. -/
def FirstEntry (inSection : List (List Byte) → Prop) (k v : List Byte) (lines : List (List Byte)) :
    Prop :=
  ∃ above L below, lines = above ++ L :: below ∧ inSection above ∧ IsEntry L k ∧ lineValue L = v ∧
    ∀ A M B, above = A ++ M :: B → inSection A → ¬IsEntry M k

/-- No line is an entry for `k` below lines that satisfy `inSection`. -/
def NoEntry (inSection : List (List Byte) → Prop) (k : List Byte) (lines : List (List Byte)) :
    Prop :=
  ∀ above L below, lines = above ++ L :: below → inSection above → ¬IsEntry L k

/-- The nearest header names the section `s`, which has a name. -/
def Under (s : List Byte) (above : List (List Byte)) : Prop := s ≠ [] ∧ nearestHeader above = some s

/-- The nearest header names a section whose name agrees with `s` in all that `currentSection`
holds. -/
def UnderCut (s : List Byte) (above : List (List Byte)) : Prop :=
  s ≠ [] ∧ ∃ name, nearestHeader above = some name ∧ name.take (maxSectionLength - 1) = s

/-- A lookup for `k` returns only entries below lines that satisfy `inSection`; `ret` is what the
caller gets of a value. -/
def OnlyFrom (inSection : List (List Byte) → Prop) (k : List Byte) (lines : List (List Byte))
    (ret : List Byte → List Byte) (r : Except Fault (Option (List Byte))) : Prop :=
  ∀ v, r = .ok (some v) → ∃ above L below, lines = above ++ L :: below ∧ inSection above ∧
    IsEntry L k ∧ ret (lineValue L) = v

/-- If there is an entry for `k` below lines that satisfy `inSection`, the lookup finds one. -/
def FindsIn (inSection : List (List Byte) → Prop) (k : List Byte) (lines : List (List Byte))
    (r : Except Fault (Option (List Byte))) : Prop :=
  ∀ above L below, lines = above ++ L :: below → inSection above → IsEntry L k →
    ∃ v, r = .ok (some v)

/-- The file that both programs are delivered with (`hellomk.ini`, `hellomkcpp.ini`). -/
def deliveredIni : List Byte :=
  lit ("[database]\nhost = localhost\nuser = root\npassword = secret\n\n" ++
    "[server]\nport = 8080\nenable_logging = true\n")

end DiscoveryDemo.Ini
