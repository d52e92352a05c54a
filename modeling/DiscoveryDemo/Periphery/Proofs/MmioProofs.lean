import DiscoveryDemo.CLib.Proofs.MemoryProofs
import DiscoveryDemo.Periphery.Mmio

/-!
# Proofs: memory-mapped registers

An access is refused, or it is inside the mapping, or its end has wrapped around and it is not. Where
nothing wraps around, a handle is a window of the memory.
-/

namespace DiscoveryDemo.Periphery.Mmio

open CLib Driver

variable {s : System} {base size : Nat}

/-! ## The check -/

theorem first_toNat (s : System) (offset : UInt32) :
    (offset + s.shift).toNat = (offset.toNat + s.shift.toNat) % 2 ^ 32 := UInt32.toNat_add _ _

theorem checked_eq (s : System) (offset : UInt32) {len : Nat} (hlen : len < 2 ^ 32) :
    checked s offset (UInt32.ofNat len) =
      if ((offset + s.shift).toNat + len) % 2 ^ 32 ≤ s.mmio.alignedSize.toNat then some (offset + s.shift)
      else none := by
  have hend : (offset + s.shift + UInt32.ofNat len).toNat = ((offset + s.shift).toNat + len) % 2 ^ 32 := by
    rw [UInt32.toNat_add, UInt32.toNat_ofNat_of_lt' hlen]
  unfold checked
  simp only [gt_iff_lt, UInt32.lt_iff_toNat_lt, hend]
  by_cases h : ((offset + s.shift).toNat + len) % 2 ^ 32 ≤ s.mmio.alignedSize.toNat
  · rw [if_pos h, if_neg (Nat.not_lt.mpr h)]
  · rw [if_neg h, if_pos (Nat.not_le.mp h)]

/-- What the handle knows of is mapped. -/
def Backed (s : System) : Prop :=
  s.mapping = some ⟨s.mmio.ptr, s.mmio.alignedBase, s.mmio.alignedSize⟩

theorem Mapped.backed (h : Mapped s base size) : Backed s := h.mapping

theorem access_eq (h : Backed s) (o : UInt32) {len : Nat} (hlen : len ≠ 0) :
    access s (s.mmio.ptr + o) len =
      if o.toNat + len ≤ s.mmio.alignedSize.toNat then .ok (s.mmio.alignedBase.toNat + o.toNat)
      else .error (.outOfBounds (s.mmio.ptr + o).toNat) := by
  have hindex : s.mmio.ptr + o - s.mmio.ptr = o := by
    rw [UInt32.add_comm, UInt32.add_sub_cancel]
  unfold access
  rw [if_neg hlen, h]
  dsimp only
  rw [hindex]

/-- What comes of an access to `len` bytes. -/
theorem checked_access (h : Backed s) (offset : UInt32) {len : Nat} (hlen : len < 2 ^ 32) :
    let first := (offset.toNat + s.shift.toNat) % 2 ^ 32
    (first + len ≤ s.mmio.alignedSize.toNat ∧ ∃ o p, checked s offset (UInt32.ofNat len) = some o ∧
        access s (s.mmio.ptr + o) len = .ok p ∧ (len ≠ 0 → p = s.mmio.alignedBase.toNat + first)) ∨
      ((2 ^ 32 ≤ first + len ∧ first + len - 2 ^ 32 ≤ s.mmio.alignedSize.toNat) ∧
        ∃ o f, checked s offset (UInt32.ofNat len) = some o ∧
          access s (s.mmio.ptr + o) len = .error f) ∨
      (¬first + len ≤ s.mmio.alignedSize.toNat ∧
        ¬(2 ^ 32 ≤ first + len ∧ first + len - 2 ^ 32 ≤ s.mmio.alignedSize.toNat) ∧
        checked s offset (UInt32.ofNat len) = none) := by
  intro first
  have hsize := s.mmio.alignedSize.toNat_lt
  have hfirst : (offset + s.shift).toNat = first := first_toNat s offset
  have hlt : first < 2 ^ 32 := Nat.mod_lt _ (by decide)
  have hchecked := checked_eq s offset hlen
  rw [hfirst] at hchecked
  by_cases hwrap : 2 ^ 32 ≤ first + len
  · have hmod : (first + len) % 2 ^ 32 = first + len - 2 ^ 32 := by omega
    have hne : len ≠ 0 := by omega
    have haccess := access_eq h (offset + s.shift) hne
    rw [hfirst, if_neg (by omega)] at haccess
    rw [hmod] at hchecked
    by_cases hpass : first + len - 2 ^ 32 ≤ s.mmio.alignedSize.toNat
    · rw [if_pos hpass] at hchecked
      exact Or.inr (Or.inl ⟨⟨hwrap, hpass⟩, _, _, hchecked, haccess⟩)
    · rw [if_neg hpass] at hchecked
      exact Or.inr (Or.inr ⟨by omega, fun hslip => hpass hslip.2, hchecked⟩)
  · have hmod : (first + len) % 2 ^ 32 = first + len := Nat.mod_eq_of_lt (by omega)
    rw [hmod] at hchecked
    by_cases hpass : first + len ≤ s.mmio.alignedSize.toNat
    · rw [if_pos hpass] at hchecked
      refine Or.inl ⟨hpass, offset + s.shift, ?_⟩
      by_cases hzero : len = 0
      · exact ⟨0, hchecked, by rw [access, if_pos hzero], fun hne => absurd hzero hne⟩
      · have haccess := access_eq h (offset + s.shift) hzero
        rw [hfirst, if_pos hpass] at haccess
        exact ⟨_, hchecked, haccess, fun _ => rfl⟩
    · rw [if_neg hpass] at hchecked
      exact Or.inr (Or.inr ⟨hpass, fun hslip => hwrap hslip.1, hchecked⟩)

/-! ## Calls -/

/-- What a call comes to: it is performed, or it is a fault, or it is refused. -/
def Comes (s : System) (call : Call) : Prop :=
  (call.Inside s ∧
      exec s call = (.ok (call.perform s.memory (s.mmio.alignedBase.toNat + call.first s)).1,
        { s with memory := (call.perform s.memory (s.mmio.alignedBase.toNat + call.first s)).2 })) ∨
    (call.Slips s ∧ ∃ f, exec s call = (.error f, s)) ∨
    (¬call.Inside s ∧ ¬call.Slips s ∧ exec s call = (.ok (errorArg, .nothing), (refuse s).2))

/-- What `mmio_read` comes to. -/
theorem mmioRead_spec (h : Backed s) (offset len : UInt32) :
    let call := Call.read offset len
    let p := s.mmio.alignedBase.toNat + call.first s
    (call.Inside s ∧ mmioRead s offset len = .ok (some (s.memory.load p len.toNat), s)) ∨
      (call.Slips s ∧ ∃ f, mmioRead s offset len = .error f) ∨
      (¬call.Inside s ∧ ¬call.Slips s ∧ mmioRead s offset len = .ok (none, (refuse s).2)) := by
  intro call p
  have hcases := checked_access h offset len.toNat_lt
  rw [UInt32.ofNat_toNat] at hcases
  unfold mmioRead
  rcases hcases with ⟨hin, o, p', hchecked, haccess, hp⟩ | ⟨hslip, o, f, hchecked, haccess⟩ |
    ⟨hin, hslip, hchecked⟩
  · refine Or.inl ⟨hin, ?_⟩
    have hload : s.memory.load p' len.toNat = s.memory.load p len.toNat := by
      by_cases hzero : len.toNat = 0
      · rw [hzero]
        rfl
      · rw [hp hzero]
        rfl
    simp only [hchecked, haccess, hload, bind, Except.bind, pure, Except.pure]
  · refine Or.inr (Or.inl ⟨hslip, f, ?_⟩)
    simp only [hchecked, haccess, bind, Except.bind]
  · refine Or.inr (Or.inr ⟨hin, hslip, ?_⟩)
    rw [hchecked]

/-- What `mmio_write` comes to. -/
theorem mmioWrite_spec (h : Backed s) (offset : UInt32) {bytes : List Byte}
    (hlen : bytes.length < 2 ^ 32) :
    let call := Call.write offset bytes
    let p := s.mmio.alignedBase.toNat + call.first s
    (call.Inside s ∧
        mmioWrite s offset bytes = .ok (true, { s with memory := s.memory.store p bytes })) ∨
      (call.Slips s ∧ ∃ f, mmioWrite s offset bytes = .error f) ∨
      (¬call.Inside s ∧ ¬call.Slips s ∧ mmioWrite s offset bytes = .ok (false, (refuse s).2)) := by
  intro call p
  unfold mmioWrite
  rcases checked_access h offset hlen with ⟨hin, o, p', hchecked, haccess, hp⟩ |
    ⟨hslip, o, f, hchecked, haccess⟩ | ⟨hin, hslip, hchecked⟩
  · refine Or.inl ⟨hin, ?_⟩
    have hstore : s.memory.store p' bytes = s.memory.store p bytes := by
      by_cases hzero : bytes.length = 0
      · rw [List.eq_nil_of_length_eq_zero hzero]
        exact (Memory.store_nil _ _).trans (Memory.store_nil _ _).symm
      · rw [hp hzero]
        rfl
    simp only [hchecked, haccess, hstore, bind, Except.bind, pure, Except.pure]
  · refine Or.inr (Or.inl ⟨hslip, f, ?_⟩)
    simp only [hchecked, haccess, bind, Except.bind]
  · refine Or.inr (Or.inr ⟨hin, hslip, ?_⟩)
    rw [hchecked]

/-- A read of a word is a read of its bytes. -/
theorem readWord_spec (h : Backed s) (n offset : UInt32) :
    let call := Call.read offset n
    let p := s.mmio.alignedBase.toNat + call.first s
    (call.Inside s ∧ readWord n s offset = .ok (some (wordOf (s.memory.load p n.toNat)), s)) ∨
      (call.Slips s ∧ ∃ f, readWord n s offset = .error f) ∨
      (¬call.Inside s ∧ ¬call.Slips s ∧ readWord n s offset = .ok (none, (refuse s).2)) := by
  intro call p
  unfold readWord
  rcases mmioRead_spec h offset n with ⟨hin, heq⟩ | ⟨hslip, f, heq⟩ | ⟨hin, hslip, heq⟩
  · rw [heq]
    exact Or.inl ⟨hin, rfl⟩
  · rw [heq]
    exact Or.inr (Or.inl ⟨hslip, f, rfl⟩)
  · rw [heq]
    exact Or.inr (Or.inr ⟨hin, hslip, rfl⟩)

theorem exec_comes (h : Backed s) (call : Call) (hlen : call.len < 2 ^ 32) : Comes s call := by
  have hword : ∀ (n : UInt32) (offset : UInt32) (call : Call), call.offset = offset.toNat →
      call.len = n.toNat →
      (∀ m p, call.perform m p = ((0, .word (wordOf (m.load p n.toNat))), m)) →
      exec s call = got .word s (readWord n s offset) → Comes s call := by
    intro n offset call hoffset hn hperform hexec
    unfold Comes Call.Inside Call.Slips Call.first
    rw [hoffset, hn, hperform, hexec]
    rcases readWord_spec h n offset with ⟨hin, heq⟩ | ⟨hslip, f, heq⟩ | ⟨hin, hslip, heq⟩
    · rw [heq]
      exact Or.inl ⟨hin, rfl⟩
    · rw [heq]
      exact Or.inr (Or.inl ⟨hslip, f, rfl⟩)
    · rw [heq]
      exact Or.inr (Or.inr ⟨hin, hslip, rfl⟩)
  have hwrite : ∀ (offset : UInt32) (bytes : List Byte) (call : Call), bytes.length < 2 ^ 32 →
      call.offset = offset.toNat → call.len = bytes.length →
      (∀ m p, call.perform m p = ((0, .nothing), m.store p bytes)) →
      exec s call = put s (mmioWrite s offset bytes) → Comes s call := by
    intro offset bytes call hbytes hoffset hn hperform hexec
    unfold Comes Call.Inside Call.Slips Call.first
    rw [hoffset, hn, hperform, hexec]
    rcases mmioWrite_spec h offset hbytes with ⟨hin, heq⟩ | ⟨hslip, f, heq⟩ | ⟨hin, hslip, heq⟩
    · rw [heq]
      exact Or.inl ⟨hin, rfl⟩
    · rw [heq]
      exact Or.inr (Or.inl ⟨hslip, f, rfl⟩)
    · rw [heq]
      exact Or.inr (Or.inr ⟨hin, hslip, rfl⟩)
  cases call with
  | read offset len =>
    have hexec : exec s (.read offset len) = got .bytes s (mmioRead s offset len) := rfl
    unfold Comes
    rw [hexec]
    rcases mmioRead_spec h offset len with ⟨hin, heq⟩ | ⟨hslip, f, heq⟩ | ⟨hin, hslip, heq⟩
    · rw [heq]
      exact Or.inl ⟨hin, rfl⟩
    · rw [heq]
      exact Or.inr (Or.inl ⟨hslip, f, rfl⟩)
    · rw [heq]
      exact Or.inr (Or.inr ⟨hin, hslip, rfl⟩)
  | read32 offset => exact hword 4 offset _ rfl rfl (fun _ _ => rfl) rfl
  | read16 offset => exact hword 2 offset _ rfl rfl (fun _ _ => rfl) rfl
  | read8 offset => exact hword 1 offset _ rfl rfl (fun _ _ => rfl) rfl
  | write offset bytes => exact hwrite offset bytes _ hlen rfl rfl (fun _ _ => rfl) rfl
  | write32 offset value =>
    exact hwrite offset (wordBytes 4 value.toNat) _ (by simp) rfl (by simp [Call.len]) (fun _ _ => rfl) rfl
  | write16 offset value =>
    exact hwrite offset (wordBytes 2 value.toNat) _ (by simp) rfl (by simp [Call.len]) (fun _ _ => rfl) rfl
  | write8 offset value =>
    exact hwrite offset (wordBytes 1 value.toNat) _ (by simp) rfl (by simp [Call.len]) (fun _ _ => rfl) rfl

/-! ## Runs -/

theorem Mapped.of_eq {s' : System} (h : Mapped s base size) (hbase : s'.mmio.base = s.mmio.base)
    (haligned : s'.mmio.alignedBase = s.mmio.alignedBase)
    (hsize : s'.mmio.alignedSize = s.mmio.alignedSize) (hptr : s'.mmio.ptr = s.mmio.ptr)
    (hmapping : s'.mapping = s.mapping) : Mapped s' base size := by
  have hshift : s'.shift = s.shift := by
    unfold System.shift
    rw [hbase, haligned]
  refine ⟨?_, ?_, ?_⟩
  · rw [haligned, hshift]
    exact h.aligned
  · rw [hsize, hshift]
    exact h.covers
  · rw [hmapping, hptr, haligned, hsize]
    exact h.mapping

theorem Mapped.memory (h : Mapped s base size) (m : Memory) : Mapped { s with memory := m } base size :=
  h.of_eq rfl rfl rfl rfl rfl

theorem Mapped.refuse (h : Mapped s base size) : Mapped (refuse s).2 base size :=
  h.of_eq rfl rfl rfl rfl rfl

/-- An access that fits is inside the mapping just if it is inside the window, and its place there. -/
theorem Call.Fits.first {call : Call} (hfits : call.Fits s.shift.toNat) :
    call.first s = call.offset + s.shift.toNat := Nat.mod_eq_of_lt (by unfold Fits at hfits; omega)

/-- A call that fits does what `respond` says. -/
theorem exec_fits (h : Mapped s base size) {call : Call} (hfits : call.Fits s.shift.toNat) :
    (exec s call).1 = (respond base size s.memory call).1 ∧
      (exec s call).2.memory = (respond base size s.memory call).2 ∧
      Mapped (exec s call).2 base size ∧ (exec s call).2.shift = s.shift := by
  have hfirst := hfits.first
  have hlen : call.len < 2 ^ 32 := by
    unfold Call.Fits at hfits
    omega
  have hplace : s.mmio.alignedBase.toNat + call.first s = base + call.offset := by
    rw [hfirst, ← h.aligned]
    omega
  have hinside : call.Inside s ↔ call.offset + call.len ≤ size := by
    unfold Call.Inside
    rw [hfirst, h.covers]
    omega
  unfold respond
  rcases exec_comes h.backed call hlen with ⟨hin, heq⟩ | ⟨⟨hslip, -⟩, -⟩ | ⟨hin, -, heq⟩
  · rw [if_pos (hinside.mp hin), heq, hplace]
    exact ⟨rfl, rfl, h.memory _, rfl⟩
  · rw [hfirst] at hslip
    unfold Call.Fits at hfits
    omega
  · rw [if_neg (fun hle => hin (hinside.mpr hle)), heq]
    exact ⟨rfl, rfl, h.refuse, rfl⟩

/-- No call changes what is mapped. -/
theorem Backed.exec (h : Backed s) {call : Call} (hlen : call.len < 2 ^ 32) :
    Backed (exec s call).2 := by
  rcases exec_comes h call hlen with ⟨-, heq⟩ | ⟨-, f, heq⟩ | ⟨-, -, heq⟩
  · rw [heq]
    exact h
  · rw [heq]
    exact h
  · rw [heq]
    exact h

/-- An access that is inside does not slip. -/
theorem Call.Inside.not_slips {call : Call} (h : call.Inside s) : ¬call.Slips s := by
  intro hslip
  have hsize := s.mmio.alignedSize.toNat_lt
  unfold Inside at h
  unfold Slips at hslip
  omega

theorem exec_faults_iff (h : Backed s) {call : Call} (hlen : call.len < 2 ^ 32) :
    (∃ f, (Mmio.exec s call).1 = .error f) ↔ call.Slips s := by
  constructor
  · rintro ⟨f, hf⟩
    rcases exec_comes h call hlen with ⟨-, heq⟩ | ⟨hslip, -⟩ | ⟨-, -, heq⟩
    · rw [heq] at hf
      cases hf
    · exact hslip
    · rw [heq] at hf
      cases hf
  · intro hslip
    rcases exec_comes h call hlen with ⟨hin, -⟩ | ⟨-, f, heq⟩ | ⟨-, hno, -⟩
    · exact absurd hslip hin.not_slips
    · exact ⟨f, by rw [heq]⟩
    · exact absurd hslip hno

end DiscoveryDemo.Periphery.Mmio
