import DiscoveryDemo.Ini.Safety

/-!
# Sequences of lookups

Both programs keep static buffers from one call of `getConfigValue` to the next: hellomk the line
buffer into which it returns pointers, hellomkcpp also the buffer `returnValue`. A sequence of calls
hands these buffers on.
-/

namespace DiscoveryDemo.Ini

open CLib

/-- The arguments of a call of `getConfigValue`, with what `fopen` gives for its file name. -/
structure Lookup where
  file : Option (List Byte)
  sec : CStr
  key : CStr

/-- No chunk that `fgets` delivers of the file begins with `=`. -/
def Keyed (file : Option (List Byte)) : Prop :=
  ∀ content, file = some content → ∀ c ∈ fileChunks content, c.head? ≠ some (ch '=')

/-- Every chunk that the call reads has fewer than `p` characters: the file cannot be opened, or
every chunk is as short as that before which no entry for the key stands. -/
def Lookup.Spares (p : Nat) (c : Lookup) : Prop :=
  ∀ content, c.file = some content → ∀ A chunk B, fileChunks content = A ++ chunk :: B →
    ¬EntryIn c.sec.chars c.key.chars A → chunk.length < p

/-- The value that was found last, and nothing if none was. -/
def lastFound (found : List (Option (List Byte))) : List Byte := found.reduceOption.getLast?.getD []

/-- The results of the two programs for the same lookup: they fail in the same way, both return a
null pointer, or hellomkcpp returns what `returnValue` holds of the value that hellomk returns. -/
inductive Agree :
    Except Fault (Option Nat × LineBuf) → Except Fault (Bool × Hellomkcpp.Statics) → Prop
  | fault (f : Fault) : Agree (.error f) (.error f)
  | null (line : LineBuf) (st : Hellomkcpp.Statics) : Agree (.ok (none, line)) (.ok (false, st))
  | value {line : LineBuf} {p : Nat} {v : List Byte} {st : Hellomkcpp.Statics}
      (h : line.str p = .ok v) (h' : st.returnValue.str 0 = .ok (v.take (maxValueLength - 1))) :
      Agree (.ok (some p, line)) (.ok (true, st))

end DiscoveryDemo.Ini

namespace DiscoveryDemo.Hellomk

open CLib Ini

/-- The line buffer after a sequence of calls. -/
def callAll : LineBuf → List Lookup → Except Fault LineBuf
  | line, [] => .ok line
  | line, c :: calls => do
    let (_, line) ← getConfigValue line c.file c.sec c.key
    callAll line calls

end DiscoveryDemo.Hellomk

namespace DiscoveryDemo.Hellomkcpp

open CLib Ini

/-- The static buffers of a fresh process. -/
def Statics.init : Statics := { line := Buf.zeroed _, returnValue := Buf.zeroed _ }

/-- A sequence of calls: for each of them the string that its caller reads through the pointer it
gets, if it is not a null pointer, and the static buffers afterwards. -/
def callAll : Statics → List Lookup → Except Fault (List (Option (List Byte) × Statics))
  | _, [] => .ok []
  | st, c :: calls => do
    let (found, st) ← getConfigValue st c.file c.sec c.key
    let value ← if found then (return some (← st.returnValue.str 0)) else pure none
    let after ← callAll st calls
    return (value, st) :: after

end DiscoveryDemo.Hellomkcpp
