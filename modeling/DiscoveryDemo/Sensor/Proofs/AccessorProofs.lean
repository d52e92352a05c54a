import DiscoveryDemo.Sensor.Accessors
import DiscoveryDemo.CLib.Proofs.BufferProofs

/-!
# Proofs: the accessors are a register file

Each accessor is described by what it does to the registers and to its output; over a sequence of
calls the registers are always the values last stored.
-/

namespace DiscoveryDemo.Sensor

open CLib

/-! ## Command bytes -/

theorem isRead_write (reg : Byte) : isRead (reg &&& 0x7F) = false := by
  unfold isRead
  rw [UInt8.toNat_and, Nat.testBit_and]
  have h : (0x7F : UInt8).toNat.testBit 7 = false := by decide
  rw [h, Bool.and_false]

theorem address_write (reg : Byte) : address (reg &&& 0x7F) = reg.toNat % 64 := by
  unfold address
  rw [UInt8.toNat_and, show 64 = 2 ^ 6 from rfl, Nat.and_mod_two_pow]
  have h : (0x7F : UInt8).toNat % 2 ^ 6 = 2 ^ 6 - 1 := by decide
  rw [h, Nat.and_two_pow_sub_one_eq_mod, Nat.mod_mod]

/-- A command that has bit 7 and no address bits added to the register number. -/
theorem read_command (reg : Byte) {flags : Byte} (h7 : flags.toNat.testBit 7 = true)
    (h0 : flags.toNat % 64 = 0) :
    isRead (reg ||| flags) = true ∧ address (reg ||| flags) = reg.toNat % 64 := by
  constructor
  · unfold isRead
    rw [UInt8.toNat_or, Nat.testBit_or, h7, Bool.or_true]
  · unfold address
    rw [UInt8.toNat_or, show 64 = 2 ^ 6 from rfl, Nat.or_mod_two_pow]
    rw [show flags.toNat % 2 ^ 6 = 0 from h0, Nat.or_zero]

theorem autoIncrement_multi (reg : Byte) : autoIncrement (reg ||| 0xC0) = true := by
  unfold autoIncrement
  rw [UInt8.toNat_or, Nat.testBit_or]
  have h : (0xC0 : UInt8).toNat.testBit 6 = true := by decide
  rw [h, Bool.or_true]

/-! ## Registers -/

theorem register_mod (n : Nat) : register (n % 64) = register n := by
  simp [register, Fin.ofNat]

/-- A read with auto-increment shifts out one register after the other. -/
theorem readBytes_increment (regs : RegFile) (a n : Nat) :
    readBytes true regs a n = (List.range' a n).map fun i => regs (register i) := by
  induction n generalizing a with
  | zero => rfl
  | succ n ih => simp [readBytes, next, ih, List.range'_succ]

theorem register_byte (n : Nat) : register (UInt8.ofNat (n % 64)).toNat = register n := by
  have h : n % 64 < 256 := (Nat.mod_lt n (by decide)).trans (by decide)
  rw [UInt8.toNat_ofNat_of_lt' h, register_mod]

/-! ## The accessors -/

section Accessors

variable (regs : RegFile) (idle : Nat → Byte)

theorem spiWriteRegister_done (reg val : Byte) :
    spiWriteRegister regs (.done idle) reg val =
      (0, Function.update regs (register reg.toNat) val) := by
  simp [spiWriteRegister, spiTransfer, exchange, isRead_write, address_write, writeBytes,
    register_mod]

theorem spiReadRegister_done (reg val : Byte) :
    spiReadRegister regs (.done idle) reg val = .ok (0, regs (register reg.toNat), regs) := by
  have h7 : (0x80 : Byte).toNat.testBit 7 = true := by decide
  obtain ⟨hread, haddr⟩ := read_command reg h7 (by decide)
  have hex : exchange regs idle [reg ||| 0x80, 0x00] =
      ([idle 0, regs (register reg.toNat)], regs) := by
    simp [exchange, hread, haddr, readBytes, register_mod]
  have hbytes : ((Buf.zeroed 2).store [idle 0, regs (register reg.toNat)]).bytes =
      [idle 0] ++ regs (register reg.toNat) :: [] := by
    rw [Buf.store_bytes _ _ (by simp)]
    rfl
  have hget := Buf.read_middle hbytes (i := 1) rfl
  simp only [spiReadRegister, spiTransfer, hex, hget, bind, Except.bind, pure, Except.pure]
  rfl

theorem spiReadRegister_failed {code : Int} (neg : code < 0) (reg val : Byte) :
    spiReadRegister regs (.failed code neg) reg val = .ok (-1, val, regs) := by
  simp only [spiReadRegister, spiTransfer, pure, Except.pure]
  exact if_pos neg

/-- The transmit buffer of `spi_read_multi`: the command and as many zeros as there are bytes to
read. -/
theorem txMulti {len : Nat} (tx : Buf (1 + len)) (cmd : Byte) :
    ∃ tx1 tx2, tx.write 0 cmd = .ok tx1 ∧
      (List.range' 1 len).foldlM (fun tx i => tx.write (i : Nat) 0x00) tx1 = .ok tx2 ∧
      tx2.bytes = cmd :: List.replicate len 0x00 := by
  have htx : tx.bytes.length = len + 1 := by rw [tx.length_eq, Nat.add_comm]
  obtain ⟨c, rest, hrest⟩ := List.exists_cons_of_length_eq_add_one htx
  have hlen : rest.length = len := by simpa [hrest] using htx
  have hfirst : tx.bytes = [] ++ c :: rest := hrest
  obtain ⟨tx1, hw, htx1⟩ := Buf.write_middle hfirst (i := 0) rfl cmd
  have hzeros : tx1.bytes = [cmd] ++ (rest ++ []) := by simp [htx1]
  obtain ⟨tx2, hloop, htx2⟩ := Buf.foldlM_write (g := fun _ => .ok 0x00) (f := fun _ => 0x00)
    (fun i _ => rfl) hzeros rfl hlen
  refine ⟨tx1, tx2, hw, hloop, ?_⟩
  rw [htx2]
  simp

/-- A read of several registers delivers them one after the other. -/
theorem spiReadMulti_done (startReg : Byte) {len : Nat} (buf : Buf len) (tx rx : Buf (1 + len)) :
    ∃ buf', spiReadMulti regs (.done idle) startReg buf tx rx = .ok (0, buf', regs) ∧
      buf'.bytes = (List.range len).map fun i => regs (register (startReg.toNat + i)) := by
  obtain ⟨tx1, tx2, hw, hloop, htx⟩ := txMulti tx (startReg ||| 0xC0)
  have h7 : (0xC0 : Byte).toNat.testBit 7 = true := by decide
  obtain ⟨hread, haddr⟩ := read_command startReg h7 (by decide)
  set data := readBytes true regs (startReg.toNat % 64) len with hdata
  have hex : exchange regs idle tx2.bytes = (idle 0 :: data, regs) := by
    simp [htx, exchange, hread, haddr, autoIncrement_multi, hdata]
  have hlen : data.length = len := by simp [hdata, readBytes_increment]
  have hrx : (rx.store (idle 0 :: data)).bytes = idle 0 :: data := by
    rw [Buf.store_bytes _ _ (by simp [hlen, Nat.add_comm]), List.drop_of_length_le]
    · simp
    · simp [rx.length_eq, hlen, Nat.add_comm]
  -- the copy loop reads one index ahead of where it writes
  have hget : ∀ i ∈ List.range' 0 len, (rx.store (idle 0 :: data)).read (i + 1 : Nat) =
      .ok (regs (register (startReg.toNat + i))) := by
    intro i hi
    have hlt : i < len := by simpa using hi
    have hreg : register (startReg.toNat % 64 + i) = register (startReg.toNat + i) := by
      rw [← register_mod, Nat.mod_add_mod, register_mod]
    apply Buf.read_natCast
    rw [hrx, List.getElem?_cons_succ, hdata, readBytes_increment, List.getElem?_map,
      List.getElem?_range' hlt]
    simp [hreg]
  have hbuf : buf.bytes = [] ++ (buf.bytes ++ []) := by simp
  obtain ⟨buf', hcopy, hbuf'⟩ := Buf.foldlM_write hget hbuf rfl buf.length_eq
  refine ⟨buf', ?_, ?_⟩
  · simp only [spiReadMulti, hw, hloop, spiTransfer, hex, bind, Except.bind, pure, Except.pure]
    simp only [bind, Except.bind] at hcopy
    rw [hcopy]
    rfl
  · rw [hbuf', List.range_eq_range']
    simp

theorem spiReadMulti_failed {code : Int} (neg : code < 0) (startReg : Byte) {len : Nat}
    (buf : Buf len) (tx rx : Buf (1 + len)) :
    spiReadMulti regs (.failed code neg) startReg buf tx rx = .ok (-1, buf, regs) := by
  obtain ⟨tx1, tx2, hw, hloop, -⟩ := txMulti tx (startReg ||| 0xC0)
  simp only [spiReadMulti, hw, hloop, spiTransfer, bind, Except.bind, pure, Except.pure]
  exact if_pos neg

end Accessors

/-! ## Sequences of calls -/

/-- **One call** answers from the registers as they are, and changes them only by a write that
succeeds. -/
theorem exec_answers (regs : RegFile) (op : Op) (t : Transfer) :
    ∃ r regs', op.exec regs t = .ok (r, regs') ∧ Answers regs op t r ∧
      ∀ a, regs' a = (stored a (op, t)).getD (regs a) := by
  cases t with
  | done idle =>
    cases op with
    | write reg val =>
      refine ⟨⟨0, []⟩, Function.update regs (register reg.toNat) val, ?_, rfl, fun a => ?_⟩
      · simp only [Op.exec, spiWriteRegister_done]
      · by_cases ha : register reg.toNat = a
        · subst ha
          simp [stored]
        · simp [stored, ha, Function.update_of_ne (Ne.symm ha)]
    | read reg val =>
      refine ⟨⟨0, [regs (register reg.toNat)]⟩, regs, ?_, rfl, fun a => rfl⟩
      simp only [Op.exec, spiReadRegister_done, bind, Except.bind, pure, Except.pure]
    | readMulti startReg len buf tx rx =>
      obtain ⟨buf', hread, hbuf'⟩ := spiReadMulti_done regs idle startReg buf tx rx
      refine ⟨⟨0, buf'.bytes⟩, regs, ?_, ?_, fun a => rfl⟩
      · simp only [Op.exec, hread, bind, Except.bind, pure, Except.pure]
      · show _ = Result.mk 0 (Op.value regs _)
        rw [hbuf', Op.value]
  | failed code neg =>
    cases op with
    | write reg val => exact ⟨⟨code, []⟩, regs, rfl, ⟨neg, rfl⟩, fun a => rfl⟩
    | read reg val =>
      refine ⟨⟨-1, [val]⟩, regs, ?_, ⟨(by decide : (-1 : Int) < 0), rfl⟩, fun a => rfl⟩
      simp only [Op.exec, spiReadRegister_failed, bind, Except.bind, pure, Except.pure]
    | readMulti startReg len buf tx rx =>
      refine ⟨⟨-1, buf.bytes⟩, regs, ?_, ⟨(by decide : (-1 : Int) < 0), rfl⟩, fun a => rfl⟩
      simp only [Op.exec, spiReadMulti_failed, bind, Except.bind, pure, Except.pure]

theorem lastStored_cons (init : RegFile) (c : Op × Transfer) (calls : List (Op × Transfer))
    (a : Fin 64) :
    lastStored init (c :: calls) a =
      (calls.filterMap (stored a)).getLast?.getD ((stored a c).getD (init a)) := by
  unfold lastStored
  cases hc : stored a c with
  | none => simp [List.filterMap_cons_none hc]
  | some v =>
    rw [List.filterMap_cons_some hc, List.getLast?_cons]
    cases (calls.filterMap (stored a)).getLast? <;> rfl

/-- The registers are always the values last stored, and every call answers from them. -/
theorem execAll_answers (init : RegFile) (calls : List (Op × Transfer)) :
    ∃ rs, execAll init calls = .ok (rs, lastStored init calls) ∧ rs.length = calls.length ∧
      ∀ before op t after, calls = before ++ (op, t) :: after →
        ∃ r, rs[before.length]? = some r ∧ Answers (lastStored init before) op t r := by
  induction calls generalizing init with
  | nil => exact ⟨[], rfl, rfl, fun before op t after h => absurd h (by simp)⟩
  | cons c calls ih =>
    obtain ⟨op, t⟩ := c
    obtain ⟨r, regs', hexec, hans, hregs'⟩ := exec_answers init op t
    obtain ⟨rs, hall, hlen, hrs⟩ := ih regs'
    have hlast : ∀ cs, lastStored regs' cs = lastStored init ((op, t) :: cs) := by
      intro cs
      funext a
      rw [lastStored_cons, ← hregs']
      rfl
    refine ⟨r :: rs, ?_, by rw [List.length_cons, List.length_cons, hlen], ?_⟩
    · rw [← hlast]
      simp only [execAll, hexec, hall, bind, Except.bind, pure, Except.pure]
    · intro before op' t' after hsplit
      cases before with
      | nil =>
        obtain ⟨h1, rfl⟩ := List.cons.inj hsplit
        cases h1
        exact ⟨r, rfl, hans⟩
      | cons d before =>
        obtain ⟨rfl, htail⟩ := List.cons.inj hsplit
        obtain ⟨r', hr', hans'⟩ := hrs before op' t' after htail
        exact ⟨r', by simpa using hr', hlast before ▸ hans'⟩

/-- **The accessors refine a register file.** Over every sequence of calls and failures no access
leaves an array, the registers are the values last stored, a successful read delivers them, each byte
of a multiple read is what a single read of that register would deliver at that moment, and a failed
call returns a negative code and leaves its output as it was. -/
theorem accessors_refine (init : RegFile) (calls : List (Op × Transfer)) :
    ∃ rs, execAll init calls = .ok (rs, lastStored init calls) ∧ rs.length = calls.length ∧
      (∀ before op t after, calls = before ++ (op, t) :: after →
        ∃ r, rs[before.length]? = some r ∧ Answers (lastStored init before) op t r) ∧
      ∀ before startReg len buf tx rx idle after,
        calls = before ++ (.readMulti startReg len buf tx rx, .done idle) :: after →
        ∃ r, rs[before.length]? = some r ∧ ∀ i < len, ∀ val, ∃ b, r.out[i]? = some b ∧
          spiReadRegister (lastStored init before) (.done idle)
            (UInt8.ofNat ((startReg.toNat + i) % 64)) val = .ok (0, b, lastStored init before) := by
  obtain ⟨rs, hall, hlen, hrs⟩ := execAll_answers init calls
  refine ⟨rs, hall, hlen, hrs, ?_⟩
  intro before startReg len buf tx rx idle after hsplit
  obtain ⟨r, hr, hans⟩ := hrs before _ _ after hsplit
  refine ⟨r, hr, fun i hi val => ?_⟩
  refine ⟨lastStored init before (register (startReg.toNat + i)), ?_, ?_⟩
  · have hout : r = ⟨0, Op.value (lastStored init before) (.readMulti startReg len buf tx rx)⟩ := hans
    rw [hout]
    simp [Op.value, hi]
  · rw [spiReadRegister_done, register_byte]

end DiscoveryDemo.Sensor
