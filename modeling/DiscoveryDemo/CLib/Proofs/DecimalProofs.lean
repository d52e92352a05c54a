import DiscoveryDemo.CLib.Decimal
import DiscoveryDemo.CLib.Proofs.StrtolProofs

/-!
# Proofs: decimal texts

The printed digits are digits and denote the number, so that `strtoul` reads a printed number back if it
is at most `ULONG_MAX`, whatever follows it that is no digit.
-/

namespace CLib

/-! ## Printed digits -/

theorem ch_digit {c : Char} (h : c.isDigit = true) :
    isdigit (ch c) = true ∧ (ch c).toNat = c.toNat := by
  have hrange : 48 ≤ c.toNat ∧ c.toNat ≤ 57 := by
    simpa [Char.isDigit, UInt32.le_iff_toNat_le] using h
  have hval : (ch c).toNat = c.toNat := by
    show c.toNat % 256 = c.toNat
    omega
  refine ⟨?_, hval⟩
  have hlow : ch '0' ≤ ch c := by
    rw [UInt8.le_iff_toNat_le, hval]
    exact hrange.1
  have hhigh : ch c ≤ ch '9' := by
    rw [UInt8.le_iff_toNat_le, hval]
    exact hrange.2
  simp [isdigit, hlow, hhigh]

theorem isdigit_printUnsigned (n : Nat) : ∀ c ∈ printUnsigned n, isdigit c = true := by
  intro c hc
  obtain ⟨d, hd, rfl⟩ := List.mem_map.mp hc
  exact (ch_digit (Nat.isDigit_of_mem_toDigits (by decide) (by decide) hd)).1

theorem printUnsigned_ne_nil (n : Nat) : printUnsigned n ≠ [] := by
  intro h
  exact Nat.toDigits_ne_nil (List.map_eq_nil_iff.mp h)

theorem isdigit_NUL : isdigit NUL = false := by decide

theorem printUnsigned_noNul (n : Nat) : NUL ∉ printUnsigned n := by
  intro h
  have hdigit := isdigit_printUnsigned n NUL h
  rw [isdigit_NUL] at hdigit
  cases hdigit

/-- The value of printed digits, whatever has been read before them. -/
theorem foldl_digits {l : List Char} (h : ∀ c ∈ l, c.isDigit = true) (start : Nat) :
    (l.map ch).foldl (fun n d => 10 * n + (d.toNat - (ch '0').toNat)) start =
      Nat.ofDigitChars 10 l start := by
  induction l generalizing start with
  | nil => simp
  | cons c l ih =>
    have hc : (ch c).toNat = c.toNat := (ch_digit (h c List.mem_cons_self)).2
    rw [List.map_cons, List.foldl_cons, Nat.ofDigitChars_cons, hc]
    exact ih (fun d hd => h d (List.mem_cons_of_mem c hd)) _

@[simp] theorem digitsValue_printUnsigned (n : Nat) : digitsValue (printUnsigned n) = n := by
  have hdigits : ∀ c ∈ Nat.toDigits 10 n, c.isDigit = true := fun c hc =>
    Nat.isDigit_of_mem_toDigits (by decide) (by decide) hc
  calc digitsValue (printUnsigned n)
      = Nat.ofDigitChars 10 (Nat.toDigits 10 n) 0 := foldl_digits hdigits 0
    _ = n := Nat.ofDigitChars_ten_toDigits

/-! ## Reading a numeral -/

/-- `strtoul` of a numeral. -/
theorem strtoul_numeral (m : Numeral) {rest : List Byte} (hrest : NoDigit rest) :
    strtoul (m.text ++ rest) =
      if digitsValue m.digits > ulongMax then ⟨ulongMax, rest, true⟩
      else if m.sign = .minus then
        ⟨(ulongMax + 1 - digitsValue m.digits) % (ulongMax + 1), rest, false⟩
      else ⟨digitsValue m.digits, rest, false⟩ := by
  unfold strtoul
  rw [splitSign_numeral]
  have htake : (m.digits ++ rest).takeWhile isdigit = m.digits :=
    takeWhile_span m.isdigit_digits hrest
  have hdrop : (m.digits ++ rest).dropWhile isdigit = rest := dropWhile_span m.isdigit_digits hrest
  dsimp only
  rw [htake, hdrop, if_neg m.nonempty]
  by_cases hminus : m.sign = .minus <;> simp [hminus]

/-- A printed number as a numeral. -/
def printedNumeral (sign : Sign) (n : Nat) : Numeral where
  space := []
  sign := sign
  digits := printUnsigned n
  isspace_space := fun _ h => absurd h List.not_mem_nil
  isdigit_digits := isdigit_printUnsigned n
  nonempty := printUnsigned_ne_nil n

/-- **A printed number is read back** if it is at most `ULONG_MAX`; otherwise `ERANGE` is raised. -/
theorem strtoul_printUnsigned (n : Nat) {rest : List Byte} (hrest : NoDigit rest) :
    strtoul (printUnsigned n ++ rest) =
      if n > ulongMax then ⟨ulongMax, rest, true⟩ else ⟨n, rest, false⟩ := by
  have h := strtoul_numeral (printedNumeral .none n) hrest
  have hvalue : digitsValue (printedNumeral .none n).digits = n := digitsValue_printUnsigned n
  rw [hvalue] at h
  have hsign : ¬(printedNumeral .none n).sign = .minus := by
    intro hs
    cases hs
  rw [if_neg hsign] at h
  exact h

theorem printSigned_of_nonneg {n : Int} (hn : 0 ≤ n) : printSigned n = printUnsigned n.natAbs := by
  rw [printSigned, if_neg (by omega)]

end CLib
