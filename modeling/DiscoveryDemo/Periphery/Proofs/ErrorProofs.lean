import DiscoveryDemo.Periphery.Error
import DiscoveryDemo.CLib.Proofs.DecimalProofs
import DiscoveryDemo.CLib.Proofs.BufferProofs

/-!
# Proofs: errors of the periphery library

However long the text of an error is, its message stays in its array and is terminated there.
-/

namespace DiscoveryDemo.Periphery

open CLib

theorem snprintfAt_holds {n : Nat} {b : Buf n} {s t : List Byte} (hb : b.Holds s) (hlen : s.length < n)
    (ht : NUL ∉ t) :
    ∃ b', snprintfAt b s.length t = .ok b' ∧ b'.Holds (s ++ t.take (n - s.length - 1)) := by
  have hhead : b.bytes.take s.length = s := hb.take
  unfold snprintfAt
  rw [if_pos hlen]
  refine ⟨_, rfl, ?_, ?_⟩
  · intro h
    rcases List.mem_append.mp h with hs | hs
    · exact hb.1 hs
    · exact ht (List.mem_of_mem_take hs)
  · dsimp only
    rw [hhead]
    have hout : (t.take (n - s.length - 1) ++ [NUL]).length ≤ n - s.length := by
      simp only [List.length_append, List.length_take, List.length_singleton]
      omega
    generalize hrest : b.bytes.drop (s.length + (t.take (n - s.length - 1) ++ [NUL]).length) = rest
    have hassoc : s ++ ((t.take (n - s.length - 1) ++ [NUL]) ++ rest) =
        (s ++ t.take (n - s.length - 1) ++ [NUL]) ++ rest := by
      simp only [List.append_assoc]
    have hfit : (s ++ t.take (n - s.length - 1) ++ [NUL]).length ≤ n := by
      rw [List.append_assoc, List.length_append]
      omega
    rw [hassoc, List.take_append, List.take_of_length_le hfit]
    exact ⟨rest.take (n - (s ++ t.take (n - s.length - 1) ++ [NUL]).length), by
      rw [List.append_assoc, List.singleton_append]⟩

theorem errnoText_noNul {buf : List Byte} (hbuf : NUL ∉ buf) (c_errno : Nat) :
    NUL ∉ errnoText buf c_errno := by
  have hcolon : NUL ∉ lit ": " := by decide
  have hopen : NUL ∉ lit " [errno " := by decide
  have hclose : NUL ∉ lit "]" := by decide
  have hnumber := printUnsigned_noNul c_errno
  unfold errnoText
  intro h
  simp only [List.mem_append] at h
  rcases h with (((h | h) | h) | h) | h
  · exact hcolon h
  · exact hbuf h
  · exact hopen h
  · exact hnumber h
  · exact hclose h

/-- What fits of a text and of its continuation is what fits of both. -/
theorem take_append_fit {α : Type} (s t : List α) (k : Nat) :
    s.take k ++ t.take (k - (s.take k).length) = (s ++ t).take k := by
  rw [List.take_append, List.length_take]
  by_cases h : s.length ≤ k
  · rw [Nat.min_eq_right h]
  · have hk : k - min k s.length = 0 := by omega
    have hs : k - s.length = 0 := by omega
    rw [hk, hs]

/-- **An error leaves a terminated message**: the array holds as much of the text, and of what
`strerror_r` says of `errno`, as fits, whatever it held before. -/
theorem recordError_holds (strerror : Nat → CStr) (errmsg : ErrmsgBuf) (c_errno : Nat)
    {text : List Byte} (htext : NUL ∉ text) :
    ∃ errmsg', recordError strerror errmsg c_errno text = .ok errmsg' ∧
      errmsg'.Holds (Error.message strerror ⟨c_errno, text⟩) := by
  have hfirst : (errmsg.snprintf text).Holds (text.take 95) :=
    Buf.snprintf_holds errmsg (by decide) htext
  by_cases hno : c_errno = 0
  · refine ⟨errmsg.snprintf text, by simp [recordError, hno, pure, Except.pure], ?_⟩
    simpa [Error.message, hno] using hfirst
  · have hbuf : NUL ∉ (strerror c_errno).chars.take 63 := fun h =>
      (strerror c_errno).noNul (List.mem_of_mem_take h)
    have hlen : (text.take 95).length < 96 := by
      rw [List.length_take]
      omega
    obtain ⟨b', hb', hholds⟩ := snprintfAt_holds hfirst hlen (errnoText_noNul hbuf c_errno)
    have hstrlen : (errmsg.snprintf text).strlen 0 = .ok (text.take 95).length :=
      Buf.strlen_eq hfirst.str
    refine ⟨b', ?_, ?_⟩
    · simp only [recordError, ne_eq, hno, not_false_eq_true, if_true, hstrlen, bind, Except.bind]
      exact hb'
    · have hroom : 96 - (text.take 95).length - 1 = 95 - (text.take 95).length := by omega
      rw [hroom, take_append_fit] at hholds
      simpa [Error.message, hno] using hholds

/-- An error whose text alone fills the array. -/
theorem recordError_holds_long :
    ∃ errmsg', recordError (fun _ => ⟨lit "Permission denied", by decide⟩) (Buf.zeroed 96) 13
        (List.replicate 100 (ch 'x')) = .ok errmsg' ∧
      errmsg'.Holds (Error.message (fun _ => ⟨lit "Permission denied", by decide⟩)
        ⟨13, List.replicate 100 (ch 'x')⟩) :=
  recordError_holds _ _ _ (by decide)

end DiscoveryDemo.Periphery
