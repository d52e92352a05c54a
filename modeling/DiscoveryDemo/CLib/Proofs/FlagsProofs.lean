import DiscoveryDemo.CLib.Flags

/-!
# Proofs: settings in a flag word

A setting that has just been assigned is read back, and the settings under masks apart from its own
are left alone. Two words that agree under masks which cover the word are equal.
-/

namespace CLib

variable {w : Nat} {x y v v' m k : BitVec w}

/-! ## Bits -/

theorem Within.bit (h : Within v m) {i : Nat} (hv : v.getLsbD i = true) : m.getLsbD i = true := by
  have hlt : i < w := BitVec.lt_of_getLsbD hv
  have hbit : (v &&& ~~~m).getLsbD i = (0#w).getLsbD i := congrArg (·.getLsbD i) h
  simp only [BitVec.getLsbD_and, BitVec.getLsbD_not, hv, hlt, decide_true, Bool.true_and,
    BitVec.getLsbD_zero] at hbit
  simpa using hbit

theorem Apart.bit (h : Apart m k) {i : Nat} (hm : m.getLsbD i = true) : k.getLsbD i = false := by
  have hbit : (m &&& k).getLsbD i = (0#w).getLsbD i := congrArg (·.getLsbD i) h
  simpa [hm] using hbit

theorem AgreeOn.bit (h : AgreeOn m x y) {i : Nat} (hm : m.getLsbD i = true) :
    x.getLsbD i = y.getLsbD i := by
  have hbit : (x &&& m).getLsbD i = (y &&& m).getLsbD i := congrArg (·.getLsbD i) h
  simpa [hm] using hbit

/-- Under the mask an assignment takes the new bits, elsewhere it keeps the old ones. -/
theorem assign_bit (hv : Within v m) {i : Nat} (hi : i < w) :
    (assign x m v).getLsbD i = if m.getLsbD i then v.getLsbD i else x.getLsbD i := by
  have hbit : (assign x m v).getLsbD i = ((x.getLsbD i && !m.getLsbD i) || v.getLsbD i) := by
    simp [assign, hi]
  rw [hbit]
  cases hm : m.getLsbD i with
  | true => simp
  | false =>
    have hv0 : v.getLsbD i = false := by
      cases hvi : v.getLsbD i with
      | false => rfl
      | true => rw [hv.bit hvi] at hm; cases hm
    simp [hv0]

/-! ## Reading and assigning -/

/-- An assignment is read back. -/
theorem assign_and_self (hv : Within v m) : assign x m v &&& m = v := by
  apply BitVec.eq_of_getLsbD_eq
  intro i hi
  rw [BitVec.getLsbD_and, assign_bit hv hi]
  cases hm : m.getLsbD i with
  | true => simp
  | false =>
    cases hvi : v.getLsbD i with
    | false => simp
    | true => rw [hv.bit hvi] at hm; cases hm

/-- An assignment is not seen under a mask apart from its own. -/
theorem assign_and_apart (hv : Within v m) (hk : Apart m k) : assign x m v &&& k = x &&& k := by
  apply BitVec.eq_of_getLsbD_eq
  intro i hi
  rw [BitVec.getLsbD_and, BitVec.getLsbD_and, assign_bit hv hi]
  cases hm : m.getLsbD i with
  | true => rw [hk.bit hm, Bool.and_false, Bool.and_false]
  | false => simp

/-- What is read under a mask tells what is read under a part of it. -/
theorem and_of_within (hk : Within k m) (h : x &&& m = v) : x &&& k = v &&& k := by
  rw [← h]
  apply BitVec.eq_of_getLsbD_eq
  intro i _
  rw [BitVec.getLsbD_and, BitVec.getLsbD_and, BitVec.getLsbD_and]
  cases hki : k.getLsbD i with
  | false => rw [Bool.and_false, Bool.and_false]
  | true => simp [hk.bit hki]

/-- The last assignment under a mask counts. -/
theorem assign_assign (hv : Within v m) (hv' : Within v' m) :
    assign (assign x m v) m v' = assign x m v' := by
  apply BitVec.eq_of_getLsbD_eq
  intro i hi
  rw [assign_bit hv' hi, assign_bit hv' hi, assign_bit hv hi]
  cases m.getLsbD i <;> rfl

/-! ## Words by their settings -/

theorem union_bit {masks : List (BitVec w)} {i : Nat} (h : (union masks).getLsbD i = true) :
    ∃ m ∈ masks, m.getLsbD i = true := by
  induction masks with
  | nil => simp [union] at h
  | cons m masks ih =>
    have h' : m.getLsbD i = true ∨ (union masks).getLsbD i = true := by
      simpa [union] using h
    rcases h' with hm | hrest
    · exact ⟨m, List.mem_cons_self, hm⟩
    · obtain ⟨k, hk, hki⟩ := ih hrest
      exact ⟨k, List.mem_cons_of_mem m hk, hki⟩

/-- Words that agree under each of several masks agree under all of them together. -/
theorem agreeOn_union {masks : List (BitVec w)} (h : ∀ m ∈ masks, AgreeOn m x y) :
    AgreeOn (union masks) x y := by
  apply BitVec.eq_of_getLsbD_eq
  intro i _
  rw [BitVec.getLsbD_and, BitVec.getLsbD_and]
  cases hu : (union masks).getLsbD i with
  | false => simp
  | true =>
    obtain ⟨m, hmem, hm⟩ := union_bit hu
    rw [(h m hmem).bit hm]

/-- Words that agree under masks which cover the word are equal. -/
theorem eq_of_agreeOn {masks : List (BitVec w)} (hall : union masks = BitVec.allOnes w)
    (h : ∀ m ∈ masks, AgreeOn m x y) : x = y := by
  have hu : AgreeOn (union masks) x y := agreeOn_union h
  rw [hall] at hu
  calc x = x &&& BitVec.allOnes w := (BitVec.and_allOnes).symm
    _ = y &&& BitVec.allOnes w := hu
    _ = y := BitVec.and_allOnes

end CLib
