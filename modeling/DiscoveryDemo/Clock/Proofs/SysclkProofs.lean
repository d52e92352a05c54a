import Mathlib.Tactic.Ring
import Mathlib.Data.Nat.Bitwise
import DiscoveryDemo.Clock.Sysclk

/-!
# Proofs: when the clock computation is exact

The registers' fields as numbers, the computation on numbers, and the two places where it goes wrong
although the divisor is not zero: a product of more than 32 bits, and a remainder that is dropped too
early.
-/

namespace DiscoveryDemo.Clock

variable {pllcfgr : UInt32}

/-! ## The fields -/

theorem pllm_toNat (pllcfgr : UInt32) : (pllm pllcfgr).toNat = (Pll.ofRegister pllcfgr).m := by
  show (pllcfgr &&& 0x3F).toNat = pllcfgr.toNat % 2 ^ 6
  rw [UInt32.toNat_and, ← Nat.and_two_pow_sub_one_eq_mod]
  rfl

theorem plln_toNat (pllcfgr : UInt32) : (plln pllcfgr).toNat = (Pll.ofRegister pllcfgr).n := by
  show ((pllcfgr >>> 6) &&& 0x1FF).toNat = pllcfgr.toNat / 2 ^ 6 % 2 ^ 9
  rw [UInt32.toNat_and, ← Nat.and_two_pow_sub_one_eq_mod, UInt32.toNat_shiftRight,
    Nat.shiftRight_eq_div_pow]
  rfl

theorem pllp_toNat (pllcfgr : UInt32) : (pllp pllcfgr).toNat = (Pll.ofRegister pllcfgr).p := by
  have hfield : ((pllcfgr >>> 16) &&& 0x3).toNat = pllcfgr.toNat / 2 ^ 16 % 2 ^ 2 := by
    rw [UInt32.toNat_and, ← Nat.and_two_pow_sub_one_eq_mod, UInt32.toNat_shiftRight,
      Nat.shiftRight_eq_div_pow]
    rfl
  have hlt : pllcfgr.toNat / 2 ^ 16 % 2 ^ 2 < 4 := Nat.mod_lt _ (by decide)
  show ((((pllcfgr >>> 16) &&& 0x3) + 1) * 2).toNat = 2 * (pllcfgr.toNat / 2 ^ 16 % 2 ^ 2 + 1)
  rw [UInt32.toNat_mul, UInt32.toNat_add, hfield]
  show (pllcfgr.toNat / 2 ^ 16 % 2 ^ 2 + 1) % 2 ^ 32 * 2 % 2 ^ 32 = _
  omega

theorem pllSourceFreq_toNat (pllcfgr : UInt32) :
    (pllSourceFreq pllcfgr).toNat = (Pll.ofRegister pllcfgr).source := by
  have hmask : (pllcfgr &&& pllsrcHse).toNat = (pllcfgr.toNat.testBit 22).toNat * 2 ^ 22 := by
    rw [UInt32.toNat_and, ← Nat.and_two_pow]
    rfl
  show (if pllcfgr &&& pllsrcHse ≠ 0 then (8000000 : UInt32) else 16000000).toNat =
    if pllcfgr.toNat.testBit 22 then 8000000 else 16000000
  cases hbit : pllcfgr.toNat.testBit 22 with
  | true =>
    have hne : pllcfgr &&& pllsrcHse ≠ 0 := by
      intro h
      rw [h, hbit] at hmask
      cases hmask
    rw [if_pos hne]
    rfl
  | false =>
    have heq : pllcfgr &&& pllsrcHse = 0 := by
      apply UInt32.toNat_inj.mp
      rw [hmask, hbit]
      rfl
    rw [if_neg (not_not.mpr heq)]
    rfl

theorem ofRegister_ranges (pllcfgr : UInt32) :
    ((Pll.ofRegister pllcfgr).source = 8000000 ∨ (Pll.ofRegister pllcfgr).source = 16000000) ∧
      (Pll.ofRegister pllcfgr).n < 512 ∧ 0 < (Pll.ofRegister pllcfgr).p := by
  refine ⟨?_, Nat.mod_lt _ (by decide), Nat.mul_pos (by decide) (Nat.succ_pos _)⟩
  unfold Pll.ofRegister
  split
  · exact Or.inl rfl
  · exact Or.inr rfl

/-! ## The arithmetic -/

/-- Dividing early by `m` makes no difference to the quotient exactly if what it drops does not reach
the next multiple of `p`. -/
theorem early_division_iff (f n : Nat) {m p : Nat} (hm : 0 < m) (hp : 0 < p) :
    f / m * n / p = f * n / (m * p) ↔ f / m * n % p + f % m * n / m < p := by
  have hsplit : f * n / m = f / m * n + f % m * n / m := by
    calc f * n / m = (m * (f / m) + f % m) * n / m := by rw [Nat.div_add_mod]
      _ = (m * (f / m * n) + f % m * n) / m := by ring_nf
      _ = f / m * n + f % m * n / m := Nat.mul_add_div hm _ _
  have hquot : (f / m * n + f % m * n / m) / p =
      f / m * n / p + (f / m * n % p + f % m * n / m) / p := by
    have hdiv := Nat.div_add_mod (f / m * n) p
    calc (f / m * n + f % m * n / m) / p
        = (p * (f / m * n / p) + (f / m * n % p + f % m * n / m)) / p := by
          rw [← Nat.add_assoc, hdiv]
      _ = f / m * n / p + (f / m * n % p + f % m * n / m) / p := Nat.mul_add_div hp _ _
  rw [← Nat.div_div_eq_div_mul, hsplit, hquot, ← Nat.div_eq_zero_iff_lt hp]
  omega

/-- The product fits into 32 bits, except for 16 MHz that are not divided and multiplied by 269 or
more. -/
theorem product_fits_iff {f m n : Nat} (hf : f = 8000000 ∨ f = 16000000) (hm : m ≠ 0)
    (hn : n < 512) : f / m * n < 2 ^ 32 ↔ ¬(f = 16000000 ∧ m = 1 ∧ 269 ≤ n) := by
  by_cases hm1 : m = 1
  · subst hm1
    rw [Nat.div_one]
    rcases hf with rfl | rfl
    · omega
    · omega
  · have hdiv : f / m ≤ 8000000 := by
      have hhalf : f / m ≤ f / 2 := Nat.div_le_div_left (by omega) (by decide)
      omega
    have hprod : f / m * n ≤ 8000000 * 511 := Nat.mul_le_mul hdiv (by omega)
    omega

/-! ## The computation -/

theorem udiv_of_ne {a b : UInt32} (h : b.toNat ≠ 0) :
    ∃ c, udiv a b = some c ∧ c.toNat = a.toNat / b.toNat := by
  have hne : b ≠ 0 := by
    rintro rfl
    exact h rfl
  refine ⟨a / b, ?_, UInt32.toNat_div a b⟩
  rw [udiv, if_neg hne]

/-- The computation on numbers, as long as the divisor is not zero; the product may wrap around. -/
theorem getSysclkFreqHz_eq (h : (Pll.ofRegister pllcfgr).m ≠ 0) :
    ∃ freq, getSysclkFreqHz pllcfgr = some freq ∧
      freq.toNat = (Pll.ofRegister pllcfgr).source / (Pll.ofRegister pllcfgr).m *
        (Pll.ofRegister pllcfgr).n % 2 ^ 32 / (Pll.ofRegister pllcfgr).p := by
  have hp := (ofRegister_ranges pllcfgr).2.2
  obtain ⟨vco, hvco, hvalue⟩ := udiv_of_ne (a := pllSourceFreq pllcfgr) (b := pllm pllcfgr)
    (by rwa [pllm_toNat])
  obtain ⟨freq, hfreq, hresult⟩ := udiv_of_ne (a := vco * plln pllcfgr) (b := pllp pllcfgr)
    (by rw [pllp_toNat]; omega)
  refine ⟨freq, ?_, ?_⟩
  · simp only [getSysclkFreqHz, hvco, hfreq, Option.bind_eq_bind, Option.bind_some]
  · rw [hresult, UInt32.toNat_mul, hvalue, pllSourceFreq_toNat, pllm_toNat, plln_toNat, pllp_toNat]

/-- **The clock computation is defined and exact** exactly on the supported values of the register. -/
theorem getSysclkFreqHz_exact_iff (pllcfgr : UInt32) :
    ComputesSysclk pllcfgr ↔ (Pll.ofRegister pllcfgr).Supported := by
  obtain ⟨hf, hn, hp⟩ := ofRegister_ranges pllcfgr
  show (_ ∧ _ ∧ _) ↔ _
  constructor
  · rintro ⟨hm, hfits, freq, hfreq, hvalue⟩
    refine ⟨hm, (product_fits_iff hf hm hn).mp hfits, ?_⟩
    obtain ⟨freq', hfreq', hvalue'⟩ := getSysclkFreqHz_eq hm
    rw [hfreq] at hfreq'
    cases hfreq'
    rw [Nat.mod_eq_of_lt hfits, hvalue] at hvalue'
    exact (early_division_iff _ _ (Nat.pos_of_ne_zero hm) hp).mp hvalue'.symm
  · rintro ⟨hm, hno, hrounds⟩
    have hfits := (product_fits_iff hf hm hn).mpr hno
    obtain ⟨freq, hfreq, hvalue⟩ := getSysclkFreqHz_eq hm
    rw [Nat.mod_eq_of_lt hfits] at hvalue
    refine ⟨hm, hfits, freq, hfreq, ?_⟩
    rw [hvalue, (early_division_iff _ _ (Nat.pos_of_ne_zero hm) hp).mpr hrounds]

/-- A register without a divisor, one whose product needs more than 32 bits, and one whose remainder
is dropped too early: 16 MHz times 511 by 14 is 584 MHz. -/
theorem getSysclkFreqHz_wrong :
    (getSysclkFreqHz 0 = none ∧ ¬ComputesSysclk 0) ∧
    (Pll.ofRegister 0x7FC1 = ⟨16000000, 1, 511, 2⟩ ∧ 2 ^ 32 ≤ 16000000 / 1 * 511 ∧
      getSysclkFreqHz 0x7FC1 = some 1940516352 ∧ ¬ComputesSysclk 0x7FC1) ∧
    (Pll.ofRegister 0x7FC7 = ⟨16000000, 7, 511, 2⟩ ∧ 16000000 * 511 / (7 * 2) = 584000000 ∧
      getSysclkFreqHz 0x7FC7 = some 583999927 ∧ ¬ComputesSysclk 0x7FC7) := by
  refine ⟨⟨by decide, fun h => h.1 rfl⟩, ⟨by decide, by decide, by decide, fun h => ?_⟩,
    ⟨by decide, by decide, by decide, ?_⟩⟩
  · exact absurd h.2.1 (by decide)
  · rintro ⟨-, -, freq, hfreq, hvalue⟩
    have hresult : getSysclkFreqHz 0x7FC7 = some 583999927 := by decide
    rw [hresult] at hfreq
    cases hfreq
    exact absurd hvalue (by decide)

end DiscoveryDemo.Clock
