import Mathlib.Data.List.Basic
import Mathlib.Data.List.DropRight

/-!
# Character arrays and C strings

A C array of `n` characters is a list of `n` bytes; a pointer into it is an index. Every access is
checked: an index outside the array is a `Fault`, and so is a string function that runs off the end
of the array without having met a NUL. A run without a fault is therefore a run in which every
access is in bounds and every scanned string is terminated inside its array.

The string functions follow the C standard; those that only ever compare with zero or test for a
null pointer in C return a `Bool` or an `Option` here.
-/

namespace CLib

/-- A `char`. -/
abbrev Byte := UInt8

/-- The byte of an ASCII character. -/
abbrev ch (c : Char) : Byte := c.toUInt8

/-- The terminator of a C string. -/
abbrev NUL : Byte := 0

/-- The newline character. -/
abbrev NL : Byte := 10

/-- The space character. -/
abbrev SP : Byte := 32

/-- What the C standard leaves undefined. -/
inductive Fault where
  /-- An access at an index that is not one of the array's. -/
  | outOfBounds (index : Int)
  /-- A string function reached the end of the array before a NUL. -/
  | unterminated
  deriving DecidableEq, Repr

/-- A C string as a value: a list of bytes without a NUL. -/
structure CStr where
  /-- The characters before the terminator. -/
  chars : List Byte
  /-- The terminator is not one of them. -/
  noNul : NUL ∉ chars
  deriving DecidableEq

/-- The first `k` characters. -/
def CStr.cut (s : CStr) (k : Nat) : CStr := ⟨s.chars.take k, fun h => s.noNul (List.mem_of_mem_take h)⟩

/-- The bytes of a string literal. -/
def lit (s : String) : List Byte := s.toList.map ch

/-- A C array of `n` characters. -/
structure Buf (n : Nat) where
  /-- The contents. -/
  bytes : List Byte
  /-- An array never changes its size. -/
  length_eq : bytes.length = n

/-- The string that starts at the head of `l`: the bytes up to the first NUL. -/
def cString : List Byte → Except Fault (List Byte)
  | [] => .error .unterminated
  | c :: l => if c = NUL then .ok [] else (cString l).map (c :: ·)

/-- The number of leading `c`s of `l`, for a loop that reads one byte after another until it meets
another byte; falling off the end of the array is a fault. -/
def countWhile (c : Byte) : List Byte → Except Fault Nat
  | [] => .error .unterminated
  | x :: l => if x = c then (countWhile c l).map (· + 1) else .ok 0

namespace Buf

variable {n : Nat}

/-- An array initialised with the empty string: C fills the rest with NULs. -/
def zeroed (n : Nat) : Buf n := ⟨List.replicate n NUL, List.length_replicate⟩

/-- `b[i]` -/
def read (b : Buf n) (i : Int) : Except Fault Byte :=
  if 0 ≤ i then
    match b.bytes[i.toNat]? with
    | some c => .ok c
    | none => .error (.outOfBounds i)
  else .error (.outOfBounds i)

/-- `b[i] = c` -/
def write (b : Buf n) (i : Int) (c : Byte) : Except Fault (Buf n) :=
  if 0 ≤ i ∧ i < n then .ok ⟨b.bytes.set i.toNat c, by simp [b.length_eq]⟩
  else .error (.outOfBounds i)

/-- The string at `b + p`. -/
def str (b : Buf n) (p : Nat) : Except Fault (List Byte) := cString (b.bytes.drop p)

/-- `strlen(b + p)` -/
def strlen (b : Buf n) (p : Nat) : Except Fault Nat := (b.str p).map List.length

/-- `strchr(b + p, c)` for a character `c` that is not NUL: the index of its first occurrence. -/
def strchr (b : Buf n) (p : Nat) (c : Byte) : Except Fault (Option Nat) :=
  (b.str p).map fun s => if c ∈ s then some (p + s.idxOf c) else none

/-- `strcspn(b + p, "c")`: the length of the part of the string before the first `c`. -/
def strcspn (b : Buf n) (p : Nat) (c : Byte) : Except Fault Nat :=
  (b.str p).map fun s => (s.takeWhile (· ≠ c)).length

/-- `strcmp(b + p, s) == 0` -/
def streq (b : Buf n) (p : Nat) (s : CStr) : Except Fault Bool :=
  (b.str p).map fun t => decide (t = s.chars)

/-- The array with the bytes `s` stored from index 0 on. -/
def store (b : Buf n) (s : List Byte) : Buf n :=
  ⟨(s ++ b.bytes.drop s.length).take n, by simp [b.length_eq]; omega⟩

/-- `strncpy(b, s, k)`: the first `k` characters of `s`, padded with NULs up to `k`. -/
def strncpy (b : Buf n) (s : List Byte) (k : Nat) : Except Fault (Buf n) :=
  if k ≤ n then .ok (b.store (s.take k ++ List.replicate (k - s.length) NUL))
  else .error (.outOfBounds n)

/-- `snprintf(b, sizeof b, ..)` of the output `s`: all that fits, and a terminator. -/
def snprintf (b : Buf n) (s : List Byte) : Buf n := b.store (s.take (n - 1) ++ [NUL])

theorem read_eq_ok {b : Buf n} {i : Int} {c : Byte} (h : b.read i = .ok c) :
    0 ≤ i ∧ b.bytes[i.toNat]? = some c := by
  unfold read at h
  split at h
  · rename_i hi
    split at h
    · rename_i x hx
      cases h
      exact ⟨hi, hx⟩
    · cases h
  · cases h

theorem write_eq_ok {b b' : Buf n} {i : Int} {c : Byte} (h : b.write i c = .ok b') :
    0 ≤ i ∧ i < n ∧ b'.bytes = b.bytes.set i.toNat c := by
  unfold write at h
  split at h
  · rename_i hi
    cases h
    exact ⟨hi.1, hi.2, rfl⟩
  · cases h

/-- Overwriting an occurrence of `c` leaves one less. -/
theorem count_write_lt {b b' : Buf n} {i : Int} {c x : Byte} (hr : b.read i = .ok c)
    (hw : b.write i x = .ok b') (hx : x ≠ c) : b'.bytes.count c < b.bytes.count c := by
  obtain ⟨hlt, hget⟩ := List.getElem?_eq_some_iff.mp (read_eq_ok hr).2
  have hpos : 0 < b.bytes.count c := List.count_pos_iff.mpr (hget ▸ List.getElem_mem hlt)
  rw [(write_eq_ok hw).2.2, List.count_set hlt]
  simp only [hget, beq_self_eq_true, if_true, beq_iff_eq, hx, if_false]
  omega

/-- `b` holds the string `s` at index 0. -/
def Holds (b : Buf n) (s : List Byte) : Prop := NUL ∉ s ∧ ∃ rest, b.bytes = s ++ NUL :: rest

/-- `b` and `b'` agree from index `k` on. -/
def AgreeFrom (k : Nat) (b b' : Buf n) : Prop := b'.bytes.drop k = b.bytes.drop k

end Buf

end CLib
