import DiscoveryDemo.CLib.Memory

/-!
# Proofs: memory and words

What has been stored is loaded again, and a store leaves alone what is apart from it. A word is made up of
its bytes.
-/

namespace CLib

variable {m m' : Memory} {p q n : Nat} {s : List Byte}

/-! ## Loads and stores -/

theorem Memory.load_congr (h : ∀ i, p ≤ i → i < p + n → m i = m' i) : m.load p n = m'.load p n := by
  induction n generalizing p with
  | zero => rfl
  | succ n ih =>
    have hhead : m p = m' p := h p (Nat.le_refl p) (by omega)
    have htail : m.load (p + 1) n = m'.load (p + 1) n :=
      ih fun i hlow hhigh => h i (by omega) (by omega)
    rw [Memory.load, Memory.load, hhead, htail]

theorem Memory.store_apart {i : Nat} (h : i < p ∨ p + s.length ≤ i) : m.store p s i = m i := by
  unfold Memory.store
  rcases h with hlow | hhigh
  · rw [if_neg (by omega)]
  · rw [if_pos (by omega), List.getElem?_eq_none (by omega), Option.getD_none]

theorem Memory.store_nil (m : Memory) (p : Nat) : m.store p [] = m := by
  funext i
  exact Memory.store_apart (by rw [List.length_nil]; omega)

theorem Memory.store_head (m : Memory) (p : Nat) (c : Byte) (s : List Byte) :
    m.store p (c :: s) p = c := by
  unfold Memory.store
  rw [if_pos (Nat.le_refl p), Nat.sub_self]
  rfl

theorem Memory.store_tail {i : Nat} (m : Memory) (c : Byte) (h : p < i) :
    m.store p (c :: s) i = m.store (p + 1) s i := by
  obtain ⟨k, rfl⟩ := Nat.exists_eq_add_of_lt h
  unfold Memory.store
  have hpos : p + k + 1 - p = k + 1 := by omega
  have hpos' : p + k + 1 - (p + 1) = k := by omega
  rw [if_pos (by omega), if_pos (by omega), hpos, hpos', List.getElem?_cons_succ]

/-- **What has been stored is loaded.** -/
theorem Memory.load_store (m : Memory) (p : Nat) (s : List Byte) :
    (m.store p s).load p s.length = s := by
  induction s generalizing p with
  | nil => rfl
  | cons c s ih =>
    have htail : (m.store p (c :: s)).load (p + 1) s.length = (m.store (p + 1) s).load (p + 1) s.length :=
      Memory.load_congr fun i hlow _ => Memory.store_tail m c (by omega)
    rw [List.length_cons, Memory.load, Memory.store_head, htail, ih]

/-! ## Words -/

@[simp] theorem length_wordBytes (n v : Nat) : (wordBytes n v).length = n := by
  induction n generalizing v with
  | zero => rfl
  | succ n ih => rw [wordBytes, List.length_cons, ih]

/-- **A word is made up of its bytes**, as far as there is room for it. -/
theorem wordOf_wordBytes (n v : Nat) : wordOf (wordBytes n v) = v % 256 ^ n := by
  induction n generalizing v with
  | zero => rw [Nat.pow_zero, Nat.mod_one]; rfl
  | succ n ih =>
    have hbyte : (UInt8.ofNat (v % 256)).toNat = v % 256 := by
      rw [UInt8.toNat_ofNat']
      omega
    rw [wordBytes, wordOf, hbyte, ih, Nat.pow_succ', Nat.mod_mul]

end CLib
