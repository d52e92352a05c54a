import DiscoveryDemo.Sensor.Terminal

/-!
# Proofs: how the terminal is given back

`kbhit` puts back the flags it has found. `delay_or_keypress` sets them to zero, which is the same
thing only if none of them was set before.
-/

namespace DiscoveryDemo.Sensor

open CLib

/-! ## Timeouts -/

theorem timeout_micros (us : UInt32) : (timeout us).micros = us.toNat := by
  have h := Nat.div_add_mod us.toNat 1000000
  simp only [timeout, Timeval.micros]
  omega

theorem timeout_usec_lt (us : UInt32) : (timeout us).usec < 1000000 :=
  Nat.mod_lt _ (by decide)

/-- `delay_or_keypress` asks `select` once, with this timeout; what it returns is the answer, and the
world is what `select` has left. -/
theorem delayOrKeypressIn_eq {W : Type} (settable : BitVec 32) (us : UInt32)
    (select : Timeval → W → Selected × W) (t : Terminal) (w : W) :
    delayOrKeypressIn settable us select t w =
      (if (select (timeout us) w).1.retval > 0 ∧ (select (timeout us) w).1.ready then 1 else 0,
        ((t.tcsetattr (rawMode t.attrs)).setfl settable oNonblock |>.tcsetattr t.attrs).setfl settable 0,
        (select (timeout us) w).2) := rfl

variable (settable : BitVec 32)

/-! ## Flags -/

theorem flags_restore (f g : BitVec 32) :
    (((f &&& ~~~settable) ||| (g &&& settable)) &&& ~~~settable) ||| (f &&& settable) = f := by
  ext i hi
  simp only [BitVec.getElem_or, BitVec.getElem_and, BitVec.getElem_not]
  cases f[i] <;> cases settable[i] <;> simp

/-- Setting no flag clears all that can be set. -/
theorem flags_clear (f g : BitVec 32) :
    (((f &&& ~~~settable) ||| (g &&& settable)) &&& ~~~settable) ||| (0 &&& settable) =
      f &&& ~~~settable := by
  ext i hi
  simp only [BitVec.getElem_or, BitVec.getElem_and, BitVec.getElem_not]
  cases f[i] <;> cases settable[i] <;> simp

/-- Clearing flags changes nothing exactly if none of them was set. -/
theorem flags_unchanged_iff (f : BitVec 32) : f &&& ~~~settable = f ↔ f &&& settable = 0 := by
  constructor
  · intro h
    rw [← h]
    ext i hi
    simp only [BitVec.getElem_and, BitVec.getElem_not]
    cases f[i] <;> cases settable[i] <;> simp
  · intro h
    ext i hi
    have hi' := congrArg (fun x : BitVec 32 => x[i]) h
    simp only [BitVec.getElem_and] at hi'
    simp only [BitVec.getElem_and, BitVec.getElem_not]
    revert hi'
    cases f[i] <;> cases settable[i] <;> simp

/-! ## Calls -/

/-- The terminal with the flags that can be set cleared. -/
def Terminal.cleared (t : Terminal) : Terminal := { t with flags := t.flags &&& ~~~settable }

theorem exec_kbhit (t : Terminal) (ch : Option Byte) :
    (Call.kbhit ch).exec settable t = t := by
  obtain ⟨attrs, flags⟩ := t
  simp only [Call.exec, kbhit, Terminal.tcsetattr, Terminal.setfl, flags_restore]

theorem exec_delayOrKeypress (t : Terminal) (us : UInt32) (select : Timeval → Selected) :
    (Call.delayOrKeypress us select).exec settable t = t.cleared settable := by
  obtain ⟨attrs, flags⟩ := t
  simp only [Call.exec, delayOrKeypress, delayOrKeypressIn, Terminal.tcsetattr, Terminal.setfl, Terminal.cleared,
    flags_clear]

theorem cleared_cleared (t : Terminal) :
    (t.cleared settable).cleared settable = t.cleared settable := by
  simp [Terminal.cleared, BitVec.and_assoc]

theorem cleared_eq_iff (t : Terminal) : t.cleared settable = t ↔ t.flags &&& settable = 0 := by
  obtain ⟨attrs, flags⟩ := t
  simp only [Terminal.cleared, Terminal.mk.injEq, true_and]
  exact flags_unchanged_iff settable flags

/-- **After any calls** the terminal is as it was, or the flags that can be set are cleared. -/
theorem after_eq (t : Terminal) (calls : List Call) :
    after settable t calls = if ∀ c ∈ calls, c.isKbhit then t else t.cleared settable := by
  unfold after
  induction calls generalizing t with
  | nil => simp
  | cons c calls ih =>
    rw [List.foldl_cons, ih]
    cases c with
    | kbhit ch => simp [exec_kbhit, Call.isKbhit]
    | delayOrKeypress us select =>
      simp [exec_delayOrKeypress, Call.isKbhit, cleared_cleared]

/-- **The terminal is given back as it was** after every call exactly if none of the flags that can
be set was set at first, or `delay_or_keypress` is never called. The attributes always are. -/
theorem terminal_restored_iff (t : Terminal) (calls : List Call) :
    ((∀ before later, calls = before ++ later → after settable t before = t) ↔
      t.flags &&& settable = 0 ∨ ∀ c ∈ calls, c.isKbhit) ∧
    ∀ before later, calls = before ++ later → (after settable t before).attrs = t.attrs := by
  refine ⟨⟨fun h => ?_, fun h before later hsplit => ?_⟩, fun before later _ => ?_⟩
  · have hall := h calls [] (List.append_nil calls).symm
    rw [after_eq] at hall
    split at hall
    · exact Or.inr ‹_›
    · exact Or.inl ((cleared_eq_iff settable t).mp hall)
  · rw [after_eq]
    rcases h with h | h
    · rw [(cleared_eq_iff settable t).mpr h, ite_self]
    · exact if_pos fun c hc => h c (hsplit ▸ List.mem_append_left _ hc)
  · rw [after_eq]
    split
    · rfl
    · rfl

/-- A terminal in line mode whose reads do not block; its access mode is read and write. -/
def nonblocking : Terminal := ⟨⟨0, 0, 0, icanon ||| echo, []⟩, 0x2 ||| oNonblock⟩

/-- After one delay its reads block. -/
theorem terminal_not_restored :
    after oNonblock nonblocking [.delayOrKeypress 1000 fun _ => ⟨0, false⟩] =
        { nonblocking with flags := 0x2 } ∧
      after oNonblock nonblocking [.delayOrKeypress 1000 fun _ => ⟨0, false⟩] ≠ nonblocking := by
  decide

end DiscoveryDemo.Sensor
