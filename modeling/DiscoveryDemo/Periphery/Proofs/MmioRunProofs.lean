import DiscoveryDemo.Periphery.Proofs.MmioProofs

/-!
# Proofs: runs of memory-mapped registers

What holds of a handle that has been opened: where it is a window of the memory and where it is not.
-/

namespace DiscoveryDemo.Periphery.Mmio

open CLib Driver

variable {s : System} {base size : Nat}

/-! ## Opening -/

section Opening

variable {s₀ : System} {a : Answers} {pageSize b n : UInt32}

/-- What `mmio_open` leaves behind when it succeeds. -/
theorem mmioOpen_ok (h : (mmioOpen s₀ a pageSize b n).1 = 0) :
    ∃ ptr, (mmioOpen s₀ a pageSize b n).2 =
      { s₀ with
        mmio := ⟨b, b - b % pageSize, n, n + (b - (b - b % pageSize)), ptr, Error.none⟩
        mapping := some ⟨ptr, b - b % pageSize, n + (b - (b - b % pageSize))⟩ } := by
  have hne : errorOpen ≠ 0 := by decide
  unfold mmioOpen mmioOpenAdvanced at h ⊢
  cases hopened : a.opened with
  | some e =>
    rw [hopened] at h
    exact absurd h hne
  | none =>
    rw [hopened] at h
    cases hmapped : a.mapped with
    | error e =>
      rw [hmapped] at h
      exact absurd h hne
    | ok ptr =>
      rw [hmapped] at h
      cases hclosed : a.closed with
      | some e =>
        rw [hclosed] at h
        exact absurd h hne
      | none => exact ⟨ptr, rfl⟩

theorem sub_sub_mod (b pageSize : UInt32) : b - (b - b % pageSize) = b % pageSize := by
  apply UInt32.toNat_inj.mp
  have hle : (b % pageSize).toNat ≤ b.toNat := by
    rw [UInt32.toNat_mod]
    exact Nat.mod_le _ _
  have hlt := b.toNat_lt
  rw [UInt32.toNat_sub, UInt32.toNat_sub]
  omega

theorem backed_opened (h : (mmioOpen s₀ a pageSize b n).1 = 0) :
    Backed (mmioOpen s₀ a pageSize b n).2 := by
  obtain ⟨ptr, heq⟩ := mmioOpen_ok h
  rw [heq]
  rfl

/-- After `mmio_open` the bytes that have been asked for are mapped, if their end and the part of the page
before them do not wrap around. -/
theorem mapped_opened (h : (mmioOpen s₀ a pageSize b n).1 = 0)
    (hsize : n.toNat + (b % pageSize).toNat < 2 ^ 32) :
    Mapped (mmioOpen s₀ a pageSize b n).2 b.toNat n.toNat ∧
      (mmioOpen s₀ a pageSize b n).2.shift = b % pageSize ∧
      (mmioOpen s₀ a pageSize b n).2.memory = s₀.memory := by
  obtain ⟨ptr, heq⟩ := mmioOpen_ok h
  have hle : (b % pageSize).toNat ≤ b.toNat := by
    rw [UInt32.toNat_mod]
    exact Nat.mod_le _ _
  have hlt := b.toNat_lt
  rw [heq]
  refine ⟨⟨?_, ?_, rfl⟩, sub_sub_mod b pageSize, rfl⟩
  · show (b - b % pageSize).toNat + (b - (b - b % pageSize)).toNat = b.toNat
    rw [sub_sub_mod, UInt32.toNat_sub]
    omega
  · show (n + (b - (b - b % pageSize))).toNat = n.toNat + (b - (b - b % pageSize)).toNat
    rw [sub_sub_mod, UInt32.toNat_add]
    omega

end Opening

/-- The calls that write nothing. -/
def Call.Reads : Call → Prop
  | read .. | read32 _ | read16 _ | read8 _ => True
  | write .. | write32 .. | write16 .. | write8 .. => False

/-- A call that is performed at a place changes no other bytes. -/
theorem perform_apart {m : Memory} {p i : Nat} {call : Call}
    (h : call.Reads ∨ i < p ∨ p + call.len ≤ i) : (call.perform m p).2 i = m i := by
  have hstore : ∀ {bytes : List Byte}, bytes.length = call.len → ¬call.Reads →
      m.store p bytes i = m i := by
    intro bytes hlen hwrites
    exact Memory.store_apart (hlen ▸ h.resolve_left hwrites)
  cases call with
  | read offset len => rfl
  | read32 offset => rfl
  | read16 offset => rfl
  | read8 offset => rfl
  | write offset bytes => exact hstore rfl id
  | write32 offset value => exact hstore (length_wordBytes 4 _) id
  | write16 offset value => exact hstore (length_wordBytes 2 _) id
  | write8 offset value => exact hstore (length_wordBytes 1 _) id

/-- Bytes apart from the accesses of the calls do not change. -/
theorem respond_run_apart {i : Nat} (m : Memory) {calls : List Call}
    (h : ∀ c ∈ calls, c.offset + c.len ≤ size →
      c.Reads ∨ i < base + c.offset ∨ base + c.offset + c.len ≤ i) :
    (run (respond base size) m calls).2 i = m i := by
  induction calls generalizing m with
  | nil => rfl
  | cons c calls ih =>
    have hrest := ih (respond base size m c).2 fun d hd => h d (List.mem_cons_of_mem c hd)
    have hstep : (respond base size m c).2 i = m i := by
      unfold respond
      by_cases hin : c.offset + c.len ≤ size
      · rw [if_pos hin]
        exact perform_apart (h c List.mem_cons_self hin)
      · rw [if_neg hin]
    rw [run_cons]
    exact hrest.trans hstep

/-- A run of calls that fit, after `mmio_open`. -/
theorem opened_run {s₀ : System} {a : Answers} {pageSize b n : UInt32}
    (h : (mmioOpen s₀ a pageSize b n).1 = 0) (hsize : n.toNat + (b % pageSize).toNat < 2 ^ 32)
    {calls : List Call} (hcalls : ∀ c ∈ calls, c.Fits (b % pageSize).toNat) :
    let concrete := run exec (mmioOpen s₀ a pageSize b n).2 calls
    let abstract := run (respond b.toNat n.toNat) s₀.memory calls
    concrete.1 = abstract.1 ∧ Mapped concrete.2 b.toNat n.toNat ∧ concrete.2.shift = b % pageSize ∧
      concrete.2.memory = abstract.2 := by
  obtain ⟨hmapped, hshift, hmemory⟩ := mapped_opened h hsize
  refine @run_simulates _ _ _ _ exec (respond b.toNat n.toNat) (fun c => c.Fits (b % pageSize).toNat)
    (fun s m => Mapped s b.toNat n.toNat ∧ s.shift = b % pageSize ∧ s.memory = m) ?_ _ s₀.memory
    ⟨hmapped, hshift, hmemory⟩ calls hcalls
  rintro s m call hfits ⟨hs, hsh, rfl⟩
  rw [← hsh] at hfits ⊢
  obtain ⟨hret, hmem, hnext, hsame⟩ := exec_fits hs hfits
  exact ⟨hret, hnext, hsame, hmem⟩

/-- **A handle is a window of the memory**: as long as no offset comes near `2 ^ 32`, the calls read and
write the bytes of the window, refuse all that is not in it, and leave the rest of the memory alone. -/
theorem mmio_refines_window {s₀ : System} {a : Answers} {pageSize b n : UInt32}
    (h : (mmioOpen s₀ a pageSize b n).1 = 0) (hsize : n.toNat + (b % pageSize).toNat < 2 ^ 32)
    {calls : List Call} (hcalls : ∀ c ∈ calls, c.Fits (b % pageSize).toNat) :
    let s := (mmioOpen s₀ a pageSize b n).2
    (run exec s calls).1 = (run (respond b.toNat n.toNat) s₀.memory calls).1 ∧
      (run exec s calls).2.memory = (run (respond b.toNat n.toNat) s₀.memory calls).2 ∧
      ∀ i, i < b.toNat ∨ b.toNat + n.toNat ≤ i → (run exec s calls).2.memory i = s₀.memory i := by
  intro s
  obtain ⟨hrets, -, -, hend⟩ := opened_run h hsize hcalls
  refine ⟨hrets, hend, fun i hi => ?_⟩
  rw [hend]
  exact respond_run_apart s₀.memory fun c _ hin => Or.inr (by omega)

/-- Nothing fails, and the memory is mapped where it is. -/
def Answers.fine (ptr : UInt32) : Answers := ⟨none, .ok ptr, none, none⟩

/-- A system with the memory `m` and nothing mapped. -/
def System.fresh (m : Memory) : System := ⟨mmioNew, none, m⟩

theorem mmio_refines_window_registers :
    let s₀ := System.fresh fun _ => 0
    let s := (mmioOpen s₀ (Answers.fine 0x40023000) 4096 0x40023800 0x90).2
    let calls := [Call.write32 4 0x24003010, .read16 6, .read32 0x8e, .write 0x90 []]
    (run exec s calls).1 = (run (respond 0x40023800 0x90) s₀.memory calls).1 ∧
      (run exec s calls).2.memory = (run (respond 0x40023800 0x90) s₀.memory calls).2 ∧
      ∀ i, i < 0x40023800 ∨ 0x40023800 + 0x90 ≤ i →
        (run exec s calls).2.memory i = s₀.memory i :=
  mmio_refines_window rfl (by decide) (by
    intro c hc
    simp only [List.mem_cons, List.not_mem_nil, or_false] at hc
    rcases hc with rfl | rfl | rfl | rfl <;> decide)

/-! ## Words that are read back -/

/-- A call that writes none of the `n` bytes at `offset`. -/
def Call.Spares (offset n : Nat) (call : Call) : Prop :=
  call.Reads ∨ call.offset + call.len ≤ offset ∨ offset + n ≤ call.offset

/-- **A word that has been written is read back**, whatever has been written beside it in between and
however wide that was. -/
theorem word_read_back {s₀ : System} {a : Answers} {pageSize b n : UInt32}
    (h : (mmioOpen s₀ a pageSize b n).1 = 0) (hsize : n.toNat + (b % pageSize).toNat < 2 ^ 32)
    {offset value : UInt32} (hin : offset.toNat + 4 ≤ n.toNat) {calls : List Call}
    (hcalls : ∀ c ∈ calls, c.Fits (b % pageSize).toNat ∧ c.Spares offset.toNat 4) :
    let s := (run exec (mmioOpen s₀ a pageSize b n).2 (.write32 offset value :: calls)).2
    (exec s (.read32 offset)).1 = .ok (0, .word value.toNat) := by
  intro s
  have hwrite : (Call.write32 offset value).Fits (b % pageSize).toNat := by
    show offset.toNat + (b % pageSize).toNat + 4 < 2 ^ 32
    omega
  have hfits : ∀ c ∈ Call.write32 offset value :: calls, c.Fits (b % pageSize).toNat := by
    intro c hc
    rcases List.mem_cons.mp hc with rfl | hc
    · exact hwrite
    · exact (hcalls c hc).1
  obtain ⟨-, hmapped, hshift, hmemory⟩ := opened_run h hsize hfits
  have hread : (Call.read32 offset).Fits s.shift.toNat := by
    rw [hshift]
    exact hwrite
  -- the memory right after the word has been written
  have hstored : (respond b.toNat n.toNat s₀.memory (.write32 offset value)).2 =
      s₀.memory.store (b.toNat + offset.toNat) (wordBytes 4 value.toNat) := by
    have hinside : (Call.write32 offset value).offset + (Call.write32 offset value).len ≤ n.toNat := hin
    unfold respond
    rw [if_pos hinside]
    rfl
  have hbytes : s.memory.load (b.toNat + offset.toNat) 4 = wordBytes 4 value.toNat := by
    have hkept : s.memory.load (b.toNat + offset.toNat) 4 =
        (s₀.memory.store (b.toNat + offset.toNat) (wordBytes 4 value.toNat)).load
          (b.toNat + offset.toNat) 4 := by
      refine Memory.load_congr fun i hlow hhigh => ?_
      rw [hmemory, run_cons]
      dsimp only
      rw [respond_run_apart _ fun c hc _ => ?_, hstored]
      have hspares := (hcalls c hc).2
      rcases hspares with hreads | hspares
      · exact Or.inl hreads
      · exact Or.inr (by omega)
    have hload := Memory.load_store s₀.memory (b.toNat + offset.toNat) (wordBytes 4 value.toNat)
    rw [length_wordBytes] at hload
    rw [hkept, hload]
  have hword : wordOf (wordBytes 4 value.toNat) = value.toNat := by
    rw [wordOf_wordBytes]
    exact Nat.mod_eq_of_lt value.toNat_lt
  have hinside : (Call.read32 offset).offset + (Call.read32 offset).len ≤ n.toNat := hin
  obtain ⟨hret, -, -, -⟩ := exec_fits hmapped hread
  rw [hret]
  unfold respond
  rw [if_pos hinside]
  show Except.ok (0, Value.word (wordOf (s.memory.load (b.toNat + offset.toNat) 4))) = _
  rw [hbytes, hword]

theorem word_read_back_bytes :
    let s := (run exec (mmioOpen (System.fresh fun _ => 0) (Answers.fine 0x40023000) 4096 0x40023800
      0x90).2 [.write32 4 0x24003010, .write16 2 0xffff, .write8 8 0xff, .read 0 0x90]).2
    (exec s (.read32 4)).1 = .ok (0, .word 0x24003010) :=
  word_read_back rfl (by decide) (by decide) (by
    intro c hc
    simp only [List.mem_cons, List.not_mem_nil, or_false] at hc
    rcases hc with rfl | rfl | rfl
    · exact ⟨by decide, Or.inr (Or.inl (by decide))⟩
    · exact ⟨by decide, Or.inr (Or.inr (by decide))⟩
    · exact ⟨by decide, Or.inl trivial⟩)

/-! ## Offsets that wrap around -/

/-- **The check lets some accesses through that are outside the mapping, and no others**: in every state
of a handle that has been opened, an access of any kind is a fault just if its end wraps around to a place
that passes the check; every other access is inside the mapping and is performed there, or is refused. -/
theorem faults_iff_slips {s₀ : System} {a : Answers} {pageSize b n : UInt32}
    (h : (mmioOpen s₀ a pageSize b n).1 = 0) {calls : List Call} (hcalls : ∀ c ∈ calls, c.len < 2 ^ 32)
    {call : Call} (hlen : call.len < 2 ^ 32) :
    let s := (run exec (mmioOpen s₀ a pageSize b n).2 calls).2
    let done := call.perform s.memory (s.mmio.alignedBase.toNat + call.first s)
    ((∃ f, (exec s call).1 = .error f) ↔ call.Slips s) ∧
      (¬call.Slips s →
        (call.Inside s ∧ exec s call = (.ok done.1, { s with memory := done.2 })) ∨
          (¬call.Inside s ∧ exec s call = (.ok (errorArg, .nothing), (refuse s).2))) := by
  intro s done
  have hbacked : Backed s :=
    @run_invariant _ _ _ exec Backed (fun c => c.len < 2 ^ 32) (fun s c hc hs => hs.exec hc) _
      (backed_opened h) calls hcalls
  refine ⟨exec_faults_iff hbacked hlen, fun hno => ?_⟩
  rcases exec_comes hbacked call hlen with hin | ⟨hslip, -⟩ | ⟨hin, -, heq⟩
  · exact Or.inl hin
  · exact absurd hslip hno
  · exact Or.inr ⟨hin, heq⟩

/-- The last four bytes before the end of the addresses. -/
theorem faults_iff_slips_last :
    let s := (run exec (mmioOpen (System.fresh fun _ => 0) (Answers.fine 0x40023000) 4096 0x40023000
      0x90).2 [.write8 0 1]).2
    let done := (Call.read32 0xfffffffc).perform s.memory
      (s.mmio.alignedBase.toNat + (Call.read32 0xfffffffc).first s)
    ((∃ f, (exec s (.read32 0xfffffffc)).1 = .error f) ↔ (Call.read32 0xfffffffc).Slips s) ∧
      (¬(Call.read32 0xfffffffc).Slips s →
        ((Call.read32 0xfffffffc).Inside s ∧
            exec s (.read32 0xfffffffc) = (.ok done.1, { s with memory := done.2 })) ∨
          (¬(Call.read32 0xfffffffc).Inside s ∧
            exec s (.read32 0xfffffffc) = (.ok (errorArg, .nothing), (refuse s).2))) :=
  faults_iff_slips rfl (by
    intro c hc
    rw [List.mem_singleton.mp hc]
    decide) (by decide)

end DiscoveryDemo.Periphery.Mmio
