import DiscoveryDemo.Ini.Reference
import DiscoveryDemo.Ini.Safety

/-!
# Text that should not matter

Two files that differ in the text of one comment, or in one value, as a relation between the results
of their lookups. `fgets` cuts a line after 255 characters, and what is behind the cut is read as if it
were lines of its own; what the reader makes of it decides whether the text matters.
-/

namespace DiscoveryDemo.Ini

open CLib

/-- A NUL-free file none of whose lines begins with `=`; the lines may be of any length. -/
structure KeyedFile (content : List Byte) : Prop where
  noNul : NUL ∉ content
  keyed : ∀ l ∈ physLines NL content, l.head? ≠ some (ch '=')

/-- What stands between `pre` and `post` is one line. -/
structure WholeLine (pre post : List Byte) : Prop where
  start : AtLineStart NL pre
  stop : post = [] ∨ post.head? = some NL

/-- Free text within a line. -/
structure LineText (t : List Byte) : Prop where
  noNewline : NL ∉ t
  noNul : NUL ∉ t

/-- The lookups of both programs for `k` in section `s` do not tell the two files apart, whatever
their static buffers hold. -/
def SameResult (content content' : List Byte) (s k : CStr) : Prop :=
  (∀ line line', Hellomk.lookup line (some content) s k =
    Hellomk.lookup line' (some content') s k) ∧
  (∀ st st', Hellomkcpp.lookup st (some content) s k = Hellomkcpp.lookup st' (some content') s k)

/-- A key text of an entry line. -/
structure KeyText (κ : List Byte) : Prop where
  noEquals : ch '=' ∉ κ
  nonempty : κ ≠ []
  start : κ.head? ≠ some (ch '#') ∧ κ.head? ≠ some (ch '[')

/-- The section under which an entry below the lines of `above` stands, as far as `currentSection` holds
the name of its header. Without a header it is the section without a name. -/
def enclosing (above : List Byte) : List Byte :=
  ((nearestHeader (physLines NL above)).getD []).take (maxSectionLength - 1)

/-! ## Behind the cut -/

/-- What the reader makes of the characters of a line behind its first 255. -/
def overflow (l : List Byte) : List Item := items (l.drop (lineBufferLength - 1))

/-- An item that only a lookup for the key `own` takes notice of; without such a key none does. -/
def Item.Idle (own : Option (List Byte)) (it : Item) : Prop :=
  it = .inert ∨ ∃ k v, own = some k ∧ it = .entry k v

/-- The reader finds nothing behind the cut, or nothing but entries for the key `own` of the line. -/
def Plain (own : Option (List Byte)) (l : List Byte) : Prop := ∀ it ∈ overflow l, it.Idle own

/-- There is no header behind the cut of a line, and none of a line is cut before its `]`. -/
def HeadersPlain (above : List Byte) : Prop :=
  ∀ l ∈ physLines NL above, (∀ name, .header name ∉ overflow l) ∧
    (IsHeader l → IsHeader (l.take (lineBufferLength - 1)))

/-! ## Texts -/

/-- In every file the text `t` of a comment can be replaced, by a text of which the reader finds nothing
behind the cut, and no lookup notices. -/
def CommentInert (t : List Byte) : Prop :=
  ∀ pre post t', WholeLine pre post → KeyedFile (pre ++ (ch '#' :: t) ++ post) → LineText t' →
    Plain none (ch '#' :: t') →
    ∀ s k, SameResult (pre ++ (ch '#' :: t) ++ post) (pre ++ (ch '#' :: t') ++ post) s k

/-- In every file whose headers above are plain the value `v` of an entry for `κ` can be replaced, by a
value of which the reader finds nothing but the same key behind the cut, and no lookup notices but the
one for this key in the enclosing section. -/
def ValueInert (κ v : List Byte) : Prop :=
  ∀ pre post v', WholeLine pre post → HeadersPlain pre →
    KeyedFile (pre ++ (κ ++ ch '=' :: v) ++ post) → LineText v' →
    Plain (some (trimSpaces κ)) (κ ++ ch '=' :: v') →
    ∀ s k : CStr, ¬(s.chars = enclosing pre ∧ k.chars = trimSpaces κ) →
      SameResult (pre ++ (κ ++ ch '=' :: v) ++ post) (pre ++ (κ ++ ch '=' :: v') ++ post) s k

/-! ## Files -/

/-- The line `l` stands between `pre` and `post` in a section with a name, and nowhere in the file does
the reader leave its buffer. -/
structure Place (pre post l : List Byte) : Prop where
  whole : WholeLine pre post
  headers : HeadersPlain pre
  noNul : NUL ∉ pre
  named : enclosing pre ≠ []
  calm : Harmless (fileChunks (pre ++ l ++ post))

/-- Between `pre` and `post` all texts of a comment line of at most `n` characters are alike. -/
def CommentsAlike (pre post : List Byte) (n : Nat) : Prop :=
  ∀ t t', LineText t → LineText t' → (ch '#' :: t).length ≤ n → (ch '#' :: t').length ≤ n →
    ∀ s k, SameResult (pre ++ (ch '#' :: t) ++ post) (pre ++ (ch '#' :: t') ++ post) s k

/-- Between `pre` and `post` all values of an entry line for `κ` of at most `n` characters are alike, but
for the lookup for this key in the enclosing section. -/
def ValuesAlike (pre post κ : List Byte) (n : Nat) : Prop :=
  ∀ v v', LineText v → LineText v' → (κ ++ ch '=' :: v).length ≤ n →
    (κ ++ ch '=' :: v').length ≤ n →
    ∀ s k : CStr, ¬(s.chars = enclosing pre ∧ k.chars = trimSpaces κ) →
      SameResult (pre ++ (κ ++ ch '=' :: v) ++ post) (pre ++ (κ ++ ch '=' :: v') ++ post) s k

end DiscoveryDemo.Ini
