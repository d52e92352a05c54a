import DiscoveryDemo.CLib.Proofs.DecimalProofs
import DiscoveryDemo.Clock.Main
import DiscoveryDemo.Clock.Proofs.SysclkProofs
import DiscoveryDemo.Periphery.Proofs.MmioRunProofs

/-!
# Proofs: the frequency that ioexample5 prints

The program reads the word at the physical address of the register if the memory could be mapped, and an
address that is not mapped if it could not.
-/

namespace DiscoveryDemo.Ioexample5

open CLib Clock Periphery.Mmio

variable {m : Memory} {a : Answers} {pageSize : UInt32}

/-- The register in the memory. -/
def register (m : Memory) : UInt32 := UInt32.ofNat (wordOf (m.load 0x40023804 4))

/-- The state after `mmio_open`. -/
def opened (m : Memory) (a : Answers) (pageSize : UInt32) : System :=
  (mmioOpen (System.fresh m) a pageSize rccBase rccMapSize).2

def Opens (m : Memory) (a : Answers) (pageSize : UInt32) : Prop :=
  (mmioOpen (System.fresh m) a pageSize rccBase rccMapSize).1 = 0

/-! ## Reading the register -/

theorem rccBase_shift : (rccBase % pageSize).toNat ≤ 0x40023800 := by
  rw [UInt32.toNat_mod]
  exact Nat.mod_le _ _

theorem readPllcfgr_opens (h : Opens m a pageSize) :
    readPllcfgr (opened m a pageSize) (mmioPtr (opened m a pageSize)) = .ok (register m) := by
  have hshift : (rccBase % pageSize).toNat ≤ 0x40023800 := rccBase_shift
  have hsize : rccMapSize.toNat + (rccBase % pageSize).toNat < 2 ^ 32 := by
    show 0x90 + (rccBase % pageSize).toNat < 2 ^ 32
    omega
  obtain ⟨hmapped, hsh, hmemory⟩ := mapped_opened h hsize
  have hcovers := hmapped.covers
  have haligned := hmapped.aligned
  have hplace : mmioPtr (opened m a pageSize) + pllcfgrOffset =
      (opened m a pageSize).mmio.ptr + (rccBase % pageSize + pllcfgrOffset) := by
    show (opened m a pageSize).mmio.ptr + (opened m a pageSize).shift + pllcfgrOffset = _
    rw [UInt32.add_assoc]
    exact congrArg (fun o => (opened m a pageSize).mmio.ptr + (o + pllcfgrOffset)) hsh
  have hindex : (rccBase % pageSize + pllcfgrOffset).toNat = (rccBase % pageSize).toNat + 4 := by
    rw [UInt32.toNat_add]
    exact Nat.mod_eq_of_lt (by show _ + 4 < _; omega)
  rw [hsh] at hcovers haligned
  have haccess := access_eq hmapped.backed (rccBase % pageSize + pllcfgrOffset)
    (show 4 ≠ 0 by decide)
  have hfits : (rccBase % pageSize).toNat + 4 + 4 ≤ rccMapSize.toNat + (rccBase % pageSize).toNat := by
    show _ ≤ 0x90 + (rccBase % pageSize).toNat
    omega
  have hphysical : (mmioOpen (System.fresh m) a pageSize rccBase rccMapSize).2.mmio.alignedBase.toNat +
      ((rccBase % pageSize).toNat + 4) = 0x40023804 := by
    rw [← Nat.add_assoc, haligned]
    rfl
  rw [hindex, hcovers, if_pos hfits, hphysical] at haccess
  unfold readPllcfgr
  rw [hplace]
  unfold opened
  rw [haccess, hmemory]
  rfl

/-- What `mmio_open` maps when it fails. -/
theorem mmioOpen_failed {s : System} {base size : UInt32} (h : (mmioOpen s a pageSize base size).1 ≠ 0) :
    (mmioOpen s a pageSize base size).2.mapping = s.mapping := by
  unfold mmioOpen mmioOpenAdvanced at h ⊢
  cases hopened : a.opened with
  | some e => rfl
  | none =>
    rw [hopened] at h
    cases hmapped : a.mapped with
    | error e => rfl
    | ok ptr =>
      rw [hmapped] at h
      cases hclosed : a.closed with
      | some e => rfl
      | none =>
        rw [hclosed] at h
        exact absurd rfl h

theorem readPllcfgr_fails (h : ¬Opens m a pageSize) (rccRegs : UInt32) :
    ∃ fault, readPllcfgr (opened m a pageSize) rccRegs = .error fault := by
  have hnone : (opened m a pageSize).mapping = none := mmioOpen_failed h
  refine ⟨.outOfBounds (rccRegs + pllcfgrOffset).toNat, ?_⟩
  unfold readPllcfgr access
  rw [if_neg (by decide), hnone]
  rfl

/-! ## The program -/

/-- What `main` comes to. -/
theorem main_cases (m : Memory) (a : Answers) (pageSize : UInt32) :
    (¬Opens m a pageSize ∧ ∃ fault, main (System.fresh m) a pageSize = .error (.fault fault)) ∨
      (Opens m a pageSize ∧ (Pll.ofRegister (register m)).m = 0 ∧
        main (System.fresh m) a pageSize = .error .divisionByZero) ∨
      (Opens m a pageSize ∧ (Pll.ofRegister (register m)).m ≠ 0 ∧ ∃ freq,
        getSysclkFreqHz (register m) = some freq ∧
        main (System.fresh m) a pageSize =
          .ok (printFrequency freq, (mmioClose (opened m a pageSize) a).2)) := by
  have hpair : mmioOpen { System.fresh m with mmio := mmioNew } a pageSize rccBase rccMapSize =
      ((mmioOpen (System.fresh m) a pageSize rccBase rccMapSize).1, opened m a pageSize) := rfl
  unfold main
  rw [hpair]
  dsimp only
  by_cases hopens : Opens m a pageSize
  · rw [readPllcfgr_opens hopens]
    dsimp only
    by_cases hzero : (Pll.ofRegister (register m)).m = 0
    · have hpllm : pllm (register m) = 0 := by
        apply UInt32.toNat_inj.mp
        rw [pllm_toNat, hzero]
        rfl
      have hnone : getSysclkFreqHz (register m) = none := by
        unfold getSysclkFreqHz udiv
        rw [if_pos hpllm]
        rfl
      rw [hnone]
      exact Or.inr (Or.inl ⟨hopens, hzero, rfl⟩)
    · obtain ⟨freq, hfreq, -⟩ := getSysclkFreqHz_eq hzero
      rw [hfreq]
      exact Or.inr (Or.inr ⟨hopens, hzero, freq, rfl, rfl⟩)
  · obtain ⟨fault, hfault⟩ := readPllcfgr_fails hopens (mmioPtr (opened m a pageSize))
    rw [hfault]
    exact Or.inl ⟨hopens, fault, rfl⟩

theorem printUnsigned_injective {n k : Nat} (h : printUnsigned n = printUnsigned k) : n = k := by
  rw [← digitsValue_printUnsigned n, h, digitsValue_printUnsigned]

/-- A product that needs more than 32 bits gives another quotient than one that has lost the rest. -/
theorem lost_quotient {x p : Nat} (hp : 0 < p) (hp' : p ≤ 8) (hx : 2 ^ 32 ≤ x) :
    x % 2 ^ 32 / p < x / p := by
  have hle : x % 2 ^ 32 + p * 1 ≤ x := by omega
  calc x % 2 ^ 32 / p < x % 2 ^ 32 / p + 1 := Nat.lt_succ_self _
    _ = (x % 2 ^ 32 + p * 1) / p := by rw [Nat.add_mul_div_left _ _ hp]
    _ ≤ x / p := Nat.div_le_div_right hle

/-- The result of the computation is the frequency of the PLL just if the register is supported. -/
theorem freq_exact_iff {pllcfgr freq : UInt32} (hfreq : getSysclkFreqHz pllcfgr = some freq)
    (hm : (Pll.ofRegister pllcfgr).m ≠ 0) :
    freq.toNat = (Pll.ofRegister pllcfgr).source * (Pll.ofRegister pllcfgr).n /
        ((Pll.ofRegister pllcfgr).m * (Pll.ofRegister pllcfgr).p) ↔
      (Pll.ofRegister pllcfgr).Supported := by
  obtain ⟨hf, hn, hp⟩ := ofRegister_ranges pllcfgr
  have hp' : (Pll.ofRegister pllcfgr).p ≤ 8 := by
    show 2 * (pllcfgr.toNat / 2 ^ 16 % 2 ^ 2 + 1) ≤ 8
    omega
  have hfits := product_fits_iff hf hm hn
  have hearly := early_division_iff (Pll.ofRegister pllcfgr).source (Pll.ofRegister pllcfgr).n
    (Nat.pos_of_ne_zero hm) hp
  obtain ⟨freq', hfreq', hvalue⟩ := getSysclkFreqHz_eq hm
  rw [hfreq] at hfreq'
  cases hfreq'
  rw [hvalue]
  constructor
  · intro heq
    have hproduct : (Pll.ofRegister pllcfgr).source / (Pll.ofRegister pllcfgr).m *
        (Pll.ofRegister pllcfgr).n < 2 ^ 32 := by
      -- if it does not fit, then the result is too small even without the early division
      by_contra hlarge
      have hlost := lost_quotient hp hp' (Nat.not_lt.mp hlarge)
      have hle : (Pll.ofRegister pllcfgr).source / (Pll.ofRegister pllcfgr).m *
          (Pll.ofRegister pllcfgr).n / (Pll.ofRegister pllcfgr).p ≤
          (Pll.ofRegister pllcfgr).source * (Pll.ofRegister pllcfgr).n /
            ((Pll.ofRegister pllcfgr).m * (Pll.ofRegister pllcfgr).p) := by
        rw [← Nat.div_div_eq_div_mul]
        refine Nat.div_le_div_right ?_
        rw [Nat.mul_comm, Nat.mul_comm (Pll.ofRegister pllcfgr).source]
        exact Nat.mul_div_le_mul_div_assoc _ _ _
      omega
    rw [Nat.mod_eq_of_lt hproduct] at heq
    exact ⟨hm, hfits.mp hproduct, hearly.mp heq⟩
  · rintro ⟨-, hno, hrounds⟩
    rw [Nat.mod_eq_of_lt (hfits.mpr hno)]
    exact hearly.mpr hrounds

/-- **The frequency that is printed**: the program prints the frequency of the PLL, rounded down, just if
the memory could be mapped and the register that it finds there is supported. -/
theorem frequency_printed_iff (m : Memory) (a : Answers) (pageSize : UInt32) :
    let pll := Pll.ofRegister (register m)
    (∃ s, main (System.fresh m) a pageSize = .ok (lit "Detected CPU frequency: " ++
        printUnsigned (pll.source * pll.n / (pll.m * pll.p)) ++ lit " Hz\n", s)) ↔
      Opens m a pageSize ∧ pll.Supported := by
  intro pll
  rcases main_cases m a pageSize with ⟨hopens, fault, hmain⟩ | ⟨-, hzero, hmain⟩ |
    ⟨hopens, hm, freq, hfreq, hmain⟩
  · rw [hmain]
    constructor
    · rintro ⟨s, ⟨⟩⟩
    · exact fun h => absurd h.1 hopens
  · rw [hmain]
    constructor
    · rintro ⟨s, ⟨⟩⟩
    · exact fun h => absurd hzero h.2.divides
  · have hexact := freq_exact_iff hfreq hm
    rw [hmain]
    constructor
    · rintro ⟨s, h⟩
      have htext := (Prod.mk.inj (Except.ok.inj h)).1
      have hdigits := List.append_cancel_left (List.append_cancel_right htext)
      exact ⟨hopens, hexact.mp (printUnsigned_injective hdigits)⟩
    · rintro ⟨-, hsupported⟩
      rw [← hexact.mpr hsupported]
      exact ⟨_, rfl⟩

end DiscoveryDemo.Ioexample5
