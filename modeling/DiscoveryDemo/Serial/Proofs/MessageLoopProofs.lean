import DiscoveryDemo.Serial.MessageLoop
import DiscoveryDemo.CLib.Proofs.BufferProofs

/-!
# Proofs: one round of the message loop

A round is described by the chunk that `fgets` takes: the message is what the string functions see
of it, without the newline. Runs are put together from rounds.
-/

namespace DiscoveryDemo.Serial

open CLib

/-- The message that a chunk becomes. -/
def message (chunk : List Byte) : List Byte := (chunk.takeWhile (· ≠ NUL)).takeWhile (· ≠ NL)

variable {port : Port} {ret : Int → Int}

/-! ## One round -/

theorem iteration_endOfFile {s : LoopState} (h : s.stdin = []) :
    iteration port ret s = .ok (.exited .endOfFile s) := by
  unfold iteration
  rw [h]
  rfl

variable (port ret) in
/-- **One round** with the chunk `c`: the loop ends at an empty message, otherwise the message is
offered to the port. No access leaves the message buffer. -/
theorem iteration_chunk {s : LoopState} {c rest : List Byte}
    (h : takeLine NL maxMsgLen s.stdin = (c, rest)) (hne : s.stdin ≠ []) :
    ∃ b, iteration port ret s =
      .ok (if message c = [] then .exited .emptyInput { s with message := b, stdin := rest }
        else
          let accepted := port.write s.calls (message c)
          let s' := { message := b, stdin := rest, calls := s.calls + 1,
                      sent := s.sent ++ (message c).take accepted.toNat }
          if ret accepted < 0 then .exited .writeError s' else .running s') := by
  obtain ⟨b1, hget, hholds, -⟩ := Buf.fgets_holds (b := s.message) (by decide) hne
  rw [show maxMsgLen + 1 - 1 = maxMsgLen from rfl, h] at hget hholds
  obtain ⟨e, b2, hcspn, hwrite, hmsg⟩ := hholds.cut_at NL
  have hmsg' : b2.Holds (message c) := hmsg
  refine ⟨b2, ?_⟩
  unfold iteration
  rw [hget]
  simp only [bind, Except.bind, hcspn, hwrite, Buf.strlen_eq hmsg'.str, List.length_eq_zero_iff,
    hmsg'.take, pure, Except.pure]
  split
  · rfl
  · split <;> rfl

/-! ## Runs -/

theorem run_succ_running {i : Nat} {s s' : LoopState} (h : iteration port ret s = .ok (.running s')) :
    run port ret (i + 1) s = run port ret i s' := by
  simp only [run, h]

theorem run_succ_exited {i : Nat} {s s' : LoopState} {e : Exit}
    (h : iteration port ret s = .ok (.exited e s')) :
    run port ret (i + 1) s = .ok (.exited e s') := by
  simp only [run, h]

/-- After `i` rounds the run goes on from where they led. -/
theorem run_add {i j : Nat} {s s' : LoopState} (h : run port ret i s = .ok (.running s')) :
    run port ret (i + j) s = run port ret j s' := by
  induction i generalizing s with
  | zero =>
    cases h
    rw [Nat.zero_add]
  | succ i ih =>
    rw [Nat.succ_add]
    cases hstep : iteration port ret s with
    | error f => simp [run, hstep] at h
    | ok p =>
      cases p with
      | running s1 =>
        rw [run_succ_running hstep] at h ⊢
        exact ih h
      | exited e s1 => simp [run, hstep] at h

/-- Once the program has ended, more rounds do not change anything. -/
theorem run_exited_add {i : Nat} {s s' : LoopState} {e : Exit}
    (h : run port ret i s = .ok (.exited e s')) (j : Nat) :
    run port ret (i + j) s = .ok (.exited e s') := by
  induction i generalizing s with
  | zero => cases h
  | succ i ih =>
    rw [Nat.succ_add]
    cases hstep : iteration port ret s with
    | error f => simp [run, hstep] at h
    | ok p =>
      cases p with
      | running s1 =>
        rw [run_succ_running hstep] at h ⊢
        exact ih h
      | exited e1 s1 =>
        rw [run_succ_exited hstep] at h ⊢
        exact h

theorem run_exited_unique {i j : Nat} {s s' t' : LoopState} {e f : Exit}
    (hi : run port ret i s = .ok (.exited e s')) (hj : run port ret j s = .ok (.exited f t')) :
    e = f ∧ s' = t' := by
  have h1 := run_exited_add hi j
  have h2 := run_exited_add hj i
  rw [Nat.add_comm, h1] at h2
  cases h2
  exact ⟨rfl, rfl⟩

end DiscoveryDemo.Serial

namespace DiscoveryDemo.Ioexample7

theorem serialWrite_neg (n : Int) : serialWrite n < 0 ↔ n < 0 := by
  unfold serialWrite serialErrorIo
  split <;> omega

end DiscoveryDemo.Ioexample7
