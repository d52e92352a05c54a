import Mathlib.Data.List.Basic
import DiscoveryDemo.CLib.Buffer

/-!
# Reading a stream line by line

`fgets(buf, cap + 1, stream)` takes from the stream at most `cap` characters, up to and including
the first newline. `takeLine` is one such call and `chunks` is what a loop over it reads, call by
call, until the stream is exhausted. `physLines` are the lines as a person sees them: the newlines
are not part of them, and the last one may lack its newline. As long as no line is longer than what
one call takes, chunks and lines are the same; a longer line is cut, and its last chunk may hold
nothing but the newline.

The definitions are over any alphabet with a distinguished newline.
-/

namespace CLib

section Split

variable {α : Type} [DecidableEq α] (nl : α)

/-- One call: at most `room` characters, up to and including the first newline, and the rest. -/
def takeLine : Nat → List α → List α × List α
  | 0, s => ([], s)
  | _ + 1, [] => ([], [])
  | room + 1, c :: s =>
    if c = nl then ([c], s) else (c :: (takeLine room s).1, (takeLine room s).2)

/-- Put `c` in front of the first list, which is a new one if there is none. -/
def consHead (c : α) : List (List α) → List (List α)
  | [] => [[c]]
  | l :: ls => (c :: l) :: ls

/-- The chunks of the stream `s` when `room` characters of the current one are still free. -/
def chunksFrom (cap : Nat) : Nat → List α → List (List α)
  | _, [] => []
  | room, c :: s =>
    if c = nl ∨ room ≤ 1 then [c] :: chunksFrom cap cap s
    else consHead c (chunksFrom cap (room - 1) s)

/-- What successive calls for at most `cap` characters read. -/
def chunks (cap : Nat) (s : List α) : List (List α) := chunksFrom nl cap cap s

/-- The physical lines of `s`, without their newlines. -/
def physLines : List α → List (List α)
  | [] => []
  | c :: s => if c = nl then [] :: physLines s else consHead c (physLines s)

/-- The lines of `s` that end with a newline, without it. -/
def terminatedLines : List α → List (List α)
  | [] => []
  | c :: s =>
    if c = nl then [] :: terminatedLines s
    else match terminatedLines s with
      | [] => []
      | l :: ls => (c :: l) :: ls

/-- The stream `s` is at the beginning of a line once `p` has been read. -/
def AtLineStart (p : List α) : Prop := p = [] ∨ p.getLast? = some nl

end Split

/-- `fgets(b, sizeof b, stream)`: the array with the chunk and its terminator, and what is left of
the stream; a null pointer, and an unchanged array, at the end of the stream. -/
def fgets {n : Nat} (b : Buf n) (stream : List Byte) : Option (Buf n × List Byte) :=
  match takeLine NL (n - 1) stream with
  | ([], _) => none
  | (c :: chunk, rest) => some (b.store (c :: chunk ++ [NUL]), rest)

theorem takeLine_length {α : Type} [DecidableEq α] (nl : α) (room : Nat) (s : List α) :
    (takeLine nl room s).1.length + (takeLine nl room s).2.length = s.length := by
  induction room generalizing s with
  | zero => simp [takeLine]
  | succ room ih =>
    cases s with
    | nil => simp [takeLine]
    | cons c s =>
      have := ih s
      by_cases hc : c = nl <;> simp [takeLine, hc] <;> omega

/-- Every successful call consumes something. -/
theorem fgets_length_lt {n : Nat} {b b' : Buf n} {s rest : List Byte}
    (h : fgets b s = some (b', rest)) : rest.length < s.length := by
  have hlen := takeLine_length NL (n - 1) s
  unfold fgets at h
  split at h
  · cases h
  · rename_i c chunk t ht
    cases h
    rw [ht] at hlen
    simp at hlen
    omega

end CLib
