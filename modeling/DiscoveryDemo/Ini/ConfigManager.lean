import DiscoveryDemo.CLib.Stream

/-!
# `getConfigValue` of hellomk and hellomkcpp

The two programs have a copy each of the same INI reader (`libconfig/config_manager.c`). It reads
the file with `fgets` into a static line buffer and takes each line apart in place: NULs are written
over the `]` of a header, over the `=` of an entry, over the trailing spaces of a key and over the
newline. The copies differ in what they return: hellomk a pointer into the line buffer, hellomkcpp a
pointer to a second static buffer with a bounded copy of the value.

The definitions below follow the C text. The buffers are `Buf`s, the pointers `endPos`, `equalsPos`,
`currentKey` and `currentValue` are indices into `line`, and every access is checked. Diagnostic
output is left out.
-/

namespace DiscoveryDemo.Ini

open CLib

abbrev lineBufferLength : Nat := 256
abbrev maxSectionLength : Nat := 50
abbrev maxValueLength : Nat := 100

/-- The buffer `line`; the two below are `currentSection` and `returnValue`. -/
abbrev LineBuf := Buf lineBufferLength
abbrev SectionBuf := Buf maxSectionLength
abbrev ValueBuf := Buf maxValueLength

/-- What the body of the read loop does with a line. -/
inductive LineResult where
  /-- `continue`, or the end of the body: on to the next line. -/
  | next (line : LineBuf) (currentSection : SectionBuf)
  /-- The requested entry: its value is the string at `currentValue`. -/
  | found (line : LineBuf) (currentValue : Nat)

/-- The loop that trims the end of the key:
`while (*(currentKey + strlen(currentKey) - 1) == ' ') *(currentKey + strlen(currentKey) - 1) = 0;`
With an empty key it looks at the byte before `currentKey`. Every round overwrites a space. -/
def trimKeyEnd {n : Nat} (line : Buf n) (currentKey : Nat) : Except Fault (Buf n) :=
  match line.strlen currentKey with
  | .error f => .error f
  | .ok len =>
    match _hr : line.read (currentKey + len - 1) with
    | .error f => .error f
    | .ok c =>
      if _hc : c = SP then
        match _hw : line.write (currentKey + len - 1) NUL with
        | .error f => .error f
        | .ok line' => trimKeyEnd line' currentKey
      else .ok line
termination_by line.bytes.count SP
decreasing_by exact Buf.count_write_lt (_hc ▸ _hr) _hw (by decide)

/-- The entry branch: split the line at the first `=`, trim the key and the value in place, and
compare with what is looked for. -/
def splitEntry (sec key : CStr) (line : LineBuf) (currentSection : SectionBuf) :
    Except Fault LineResult := do
  match ← line.strchr 0 (ch '=') with
  | none => return .next line currentSection
  | some equalsPos =>
    if 0 < (← currentSection.strlen 0) then
      let line ← line.write equalsPos NUL
      -- trim the key: the leading spaces by moving the pointer, the trailing ones by NULs
      let currentKey ← countWhile SP line.bytes
      let line ← trimKeyEnd line currentKey
      let currentValue := equalsPos + 1
      let currentValue := currentValue + (← countWhile SP (line.bytes.drop currentValue))
      let line ← line.write (currentValue + (← line.strcspn currentValue NL)) NUL
      if ← currentSection.streq 0 sec then
        if ← line.streq currentKey key then
          return .found line currentValue
        else
          return .next line currentSection
      else
        return .next line currentSection
    else
      return .next line currentSection

/-- The header branch for a `]` at `endPos`: the name goes to `currentSection`, cut to its size. -/
def enterSection (endPos : Nat) (line : LineBuf) (currentSection : SectionBuf) :
    Except Fault LineResult := do
  let line ← line.write endPos NUL
  let currentSection ← currentSection.strncpy (← line.str 1) (maxSectionLength - 1)
  let currentSection ← currentSection.write (maxSectionLength - 1 : Nat) NUL
  return .next line currentSection

/-- The body of the read loop. -/
def processLine (sec key : CStr) (line : LineBuf) (currentSection : SectionBuf) :
    Except Fault LineResult := do
  let c ← line.read 0
  if c = ch '#' ∨ c = NL then
    return .next line currentSection
  else if c = ch '[' then
    match ← line.strchr 0 (ch ']') with
    | some endPos => enterSection endPos line currentSection
    | none => splitEntry sec key line currentSection
  else
    splitEntry sec key line currentSection

/-- `while (fgets(line, sizeof(line), file))`, with `file` what is left to read. The result is the
index of the value in `line`, if the entry was found, and the line buffer. -/
def readLoop (sec key : CStr) (file : List Byte) (line : LineBuf) (currentSection : SectionBuf) :
    Except Fault (Option Nat × LineBuf) :=
  match _h : fgets line file with
  | none => .ok (none, line)
  | some (line, rest) =>
    match processLine sec key line currentSection with
    | .error f => .error f
    | .ok (.found line currentValue) => .ok (some currentValue, line)
    | .ok (.next line currentSection) => readLoop sec key rest line currentSection
termination_by file.length
decreasing_by exact fgets_length_lt _h

/-- The part the two programs share. `file` is what `fopen(filename, "r")` gives: the contents of the
file, or nothing if it cannot be opened. -/
def scanFile (line : LineBuf) (file : Option (List Byte)) (sec key : CStr) :
    Except Fault (Option Nat × LineBuf) :=
  match file with
  | none => .ok (none, line)
  | some content => readLoop sec key content line (Buf.zeroed maxSectionLength)

end DiscoveryDemo.Ini

namespace DiscoveryDemo.Hellomk

open CLib Ini

/-- `getConfigValue` of hellomk, with the static line buffer it finds and leaves. It returns a
pointer into that buffer. -/
def getConfigValue (line : LineBuf) (file : Option (List Byte)) (sec key : CStr) :
    Except Fault (Option Nat × LineBuf) :=
  scanFile line file sec key

/-- The string a caller reads through the returned pointer. -/
def lookup (line : LineBuf) (file : Option (List Byte)) (sec key : CStr) :
    Except Fault (Option (List Byte)) := do
  match ← getConfigValue line file sec key with
  | (none, _) => return none
  | (some value, line) => return some (← line.str value)

end DiscoveryDemo.Hellomk

namespace DiscoveryDemo.Hellomkcpp

open CLib Ini

/-- The static buffers of `getConfigValue`. -/
structure Statics where
  line : LineBuf
  returnValue : ValueBuf

/-- `getConfigValue` of hellomkcpp, with the static buffers it finds and leaves. It returns
`returnValue`, to which it copies the value, or a null pointer (`false`). -/
def getConfigValue (st : Statics) (file : Option (List Byte)) (sec key : CStr) :
    Except Fault (Bool × Statics) := do
  match ← scanFile st.line file sec key with
  | (none, line) => return (false, { st with line := line })
  | (some currentValue, line) =>
    let returnValue ← st.returnValue.strncpy (← line.str currentValue) (maxValueLength - 1)
    let returnValue ← returnValue.write (maxValueLength - 1 : Nat) NUL
    return (true, { line := line, returnValue := returnValue })

/-- The string a caller reads through the returned pointer. -/
def lookup (st : Statics) (file : Option (List Byte)) (sec key : CStr) :
    Except Fault (Option (List Byte)) := do
  match ← getConfigValue st file sec key with
  | (false, _) => return none
  | (true, st) => return some (← st.returnValue.str 0)

end DiscoveryDemo.Hellomkcpp
