import DiscoveryDemo.CLib.Proofs.BufferProofs
import DiscoveryDemo.CLib.Proofs.DecimalProofs
import DiscoveryDemo.Periphery.Sysfs

/-!
# Proofs: attributes in sysfs

An attribute is read as a whole if its text is shorter than the array; if it is not, then the NUL is put
behind the array. The kernel reads a number back that has been printed.
-/

namespace DiscoveryDemo.Periphery

open CLib

/-! ## Reading -/

section Reading

variable {n : Nat} {content : List Byte}

theorem store_bytes (buf : Buf n) (h : content.length ≤ n) :
    (buf.store content).bytes = content ++ buf.bytes.drop content.length := by
  unfold Buf.store
  dsimp only
  rw [List.take_of_length_le]
  rw [List.length_append, List.length_drop, buf.length_eq]
  omega

/-- A text that fits is in the array, terminated. -/
theorem store_terminate (buf : Buf n) (hlen : content.length < n) (hnul : NUL ∉ content) :
    ∃ buf', (buf.store content).write content.length NUL = .ok buf' ∧ buf'.Holds content := by
  have hrest : buf.bytes.drop content.length ≠ [] := by
    intro h
    have hzero : (buf.bytes.drop content.length).length = 0 := by rw [h]; rfl
    rw [List.length_drop, buf.length_eq] at hzero
    omega
  obtain ⟨c, rest, hcons⟩ := List.exists_cons_of_ne_nil hrest
  have hbytes : (buf.store content).bytes = content ++ c :: rest := by
    rw [store_bytes buf (Nat.le_of_lt hlen), hcons]
  obtain ⟨buf', hwrite, hbytes'⟩ := Buf.write_middle hbytes rfl NUL
  exact ⟨buf', hwrite, hnul, rest, hbytes'⟩

/-- Reading an attribute fails, or gives its text. -/
theorem readFile_cases (a : FileAnswers) (buf : Buf n) (hlen : content.length < n)
    (hnul : NUL ∉ content) :
    (a.Broken ∧ ∃ e, readFile a content buf = .ok (.error e)) ∨
      (¬a.Broken ∧ ∃ buf', readFile a content buf = .ok (.ok buf') ∧ buf'.Holds content) := by
  unfold FileAnswers.Broken
  obtain ⟨opened, io, closed⟩ := a
  cases opened with
  | some e => exact Or.inl ⟨Or.inl (Option.some_ne_none e), _, rfl⟩
  | none =>
    cases io with
    | some e => exact Or.inl ⟨Or.inr (Or.inl (Option.some_ne_none e)), _, rfl⟩
    | none =>
      cases closed with
      | some e => exact Or.inl ⟨Or.inr (Or.inr (Option.some_ne_none e)), _, rfl⟩
      | none =>
        obtain ⟨buf', hwrite, hholds⟩ := store_terminate buf hlen hnul
        refine Or.inr ⟨by simp, buf', ?_, hholds⟩
        simp only [readFile, List.take_of_length_le (Nat.le_of_lt hlen), hwrite, bind, Except.bind,
          pure, Except.pure]

/-- An attribute whose text is as long as the array is terminated behind it. -/
theorem readFile_overrun {a : FileAnswers} (ha : ¬a.Broken) (buf : Buf n) (hlen : n ≤ content.length) :
    readFile a content buf = .error (.outOfBounds n) := by
  have htake : (content.take n).length = n := List.length_take_of_le hlen
  have hwrite : (buf.store (content.take n)).write (content.take n).length NUL =
      .error (.outOfBounds n) := by
    rw [htake]
    unfold Buf.write
    rw [if_neg (by omega)]
  obtain ⟨opened, io, closed⟩ := a
  simp only [FileAnswers.Broken, not_or, not_not] at ha
  obtain ⟨rfl, rfl, rfl⟩ := ha
  simp only [readFile, hwrite, bind, Except.bind]

end Reading

/-! ## Numbers -/

/-- Printed digits end where a line does. -/
theorem noDigit_newline : NoDigit [NL] := by
  intro c hc
  cases hc
  decide

/-- **The kernel reads a printed number back.** -/
theorem kstrtoul_printUnsigned (max n : Nat) :
    kstrtoul max (printUnsigned n ++ [NL]) = if n > max then .error erange else .ok n := by
  have htake : (printUnsigned n ++ [NL]).takeWhile isdigit = printUnsigned n :=
    takeWhile_span (isdigit_printUnsigned n) noDigit_newline
  have hdrop : (printUnsigned n ++ [NL]).dropWhile isdigit = [NL] :=
    dropWhile_span (isdigit_printUnsigned n) noDigit_newline
  simp [kstrtoul, htake, hdrop, printUnsigned_ne_nil]

/-- The kernel takes no negative number. -/
theorem kstrtoul_printSigned_neg (max : Nat) {n : Int} (hn : n < 0) :
    kstrtoul max (printSigned n ++ [NL]) = .error einval := by
  have hhead : printSigned n = ch '-' :: printUnsigned n.natAbs := by
    rw [printSigned, if_pos hn]
  have hminus : isdigit (ch '-') = false := by decide
  simp [kstrtoul, hhead, hminus]

/-- The text of a number is short. -/
theorem printUnsigned_length {n k : Nat} (hk : 0 < k) (h : n < 10 ^ k) :
    (printUnsigned n).length ≤ k := by
  unfold printUnsigned
  rw [List.length_map]
  exact (Nat.length_toDigits_le_iff (by decide) hk).mpr h

end DiscoveryDemo.Periphery
