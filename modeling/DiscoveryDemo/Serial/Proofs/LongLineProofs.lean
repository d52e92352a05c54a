import DiscoveryDemo.Serial.Proofs.MessageLoopProofs

/-!
# Proofs: which lines the message loops send whole

`fgets` cuts a line into pieces of 255 characters. The pieces are sent one by one, so that nothing of
the line is lost; but if they are all full, the newline is left for a piece of its own, which becomes
the empty message and ends the loop.
-/

namespace DiscoveryDemo.Serial

open CLib

section AcceptAll

variable {ret : Int → Int} {s : LoopState} {w t : List Byte}

/-! ## Lines -/

theorem message_piece (hnl : NL ∉ w) (hnul : NUL ∉ w) : message w = w := by
  unfold message
  rw [takeWhile_ne_of_notMem hnul, takeWhile_ne_of_notMem hnl]

theorem message_lineEnd (hnl : NL ∉ w) (hnul : NUL ∉ w) : message (w ++ [NL]) = w := by
  have h : NUL ∉ w ++ [NL] := by
    have hne : NUL ≠ NL := by decide
    simp [hnul, hne]
  unfold message
  rw [takeWhile_ne_of_notMem h, takeWhile_ne_append hnl]

/-- A message that is not empty is sent, and the loop goes on. -/
theorem iteration_send (hret : ∀ n, ret n < 0 ↔ n < 0) {c rest : List Byte}
    (h : takeLine NL maxMsgLen s.stdin = (c, rest)) (hne : s.stdin ≠ []) (hmsg : message c ≠ []) :
    ∃ s', iteration Port.acceptAll ret s = .ok (.running s') ∧ s'.stdin = rest ∧
      s'.sent = s.sent ++ message c := by
  obtain ⟨b, hiter⟩ := iteration_chunk Port.acceptAll ret h hne
  have hpos : ¬ret (Port.acceptAll.write s.calls (message c)) < 0 := by
    rw [hret]
    exact Int.not_lt.mpr (Int.natCast_nonneg _)
  rw [if_neg hmsg] at hiter
  simp only [if_neg hpos] at hiter
  refine ⟨_, hiter, rfl, ?_⟩
  simp [Port.acceptAll]

/-- Full pieces are sent one after the other. -/
theorem run_fullPieces (hret : ∀ n, ret n < 0 ↔ n < 0) (k : Nat) (hlen : w.length = maxMsgLen * k)
    (hnl : NL ∉ w) (hnul : NUL ∉ w) (hs : s.stdin = w ++ t) :
    ∃ s', run Port.acceptAll ret k s = .ok (.running s') ∧ s'.stdin = t ∧ s'.sent = s.sent ++ w := by
  induction k generalizing s w with
  | zero =>
    obtain rfl : w = [] := List.length_eq_zero_iff.mp hlen
    exact ⟨s, rfl, hs, (List.append_nil _).symm⟩
  | succ k ih =>
    have hge : maxMsgLen ≤ w.length := by
      rw [hlen]
      exact Nat.le_mul_of_pos_right _ (Nat.succ_pos k)
    have hpiece : (w.take maxMsgLen).length = maxMsgLen := List.length_take_of_le hge
    have htake : takeLine NL maxMsgLen s.stdin = (w.take maxMsgLen, w.drop maxMsgLen ++ t) := by
      rw [hs, takeLine_long t hnl hge]
    have hmsg : message (w.take maxMsgLen) = w.take maxMsgLen :=
      message_piece (fun h => hnl (List.mem_of_mem_take h)) fun h => hnul (List.mem_of_mem_take h)
    have hne : s.stdin ≠ [] := by
      intro h
      rw [h] at hs
      have := congrArg List.length hs
      simp only [List.length_nil, List.length_append] at this
      simp only [maxMsgLen] at hge
      omega
    have hmne : message (w.take maxMsgLen) ≠ [] := by
      intro h
      rw [hmsg] at h
      rw [h] at hpiece
      exact absurd hpiece (by decide)
    obtain ⟨s1, hstep, hstdin, hsent⟩ := iteration_send hret htake hne hmne
    obtain ⟨s2, hrun, hstdin2, hsent2⟩ := ih (s := s1) (w := w.drop maxMsgLen)
      (by rw [List.length_drop, hlen, Nat.mul_succ, Nat.add_sub_cancel])
      (fun h => hnl (List.mem_of_mem_drop h)) (fun h => hnul (List.mem_of_mem_drop h)) hstdin
    refine ⟨s2, by rw [run_succ_running hstep, hrun], hstdin2, ?_⟩
    rw [hsent2, hsent, hmsg, List.append_assoc, List.take_append_drop]

theorem pieces_split (w : List Byte) :
    ∃ u r k, w = u ++ r ∧ u.length = maxMsgLen * k ∧ r.length < maxMsgLen := by
  have hdiv := Nat.div_add_mod w.length maxMsgLen
  have hmod : w.length % maxMsgLen < maxMsgLen := Nat.mod_lt _ (by decide)
  refine ⟨w.take (maxMsgLen * (w.length / maxMsgLen)), w.drop (maxMsgLen * (w.length / maxMsgLen)),
    w.length / maxMsgLen, (List.take_append_drop _ _).symm, ?_, ?_⟩
  · rw [List.length_take]
    omega
  · rw [List.length_drop]
    omega

/-- A line that does not fill its pieces is sent whole, and its newline is consumed with it. -/
theorem run_line (hret : ∀ n, ret n < 0 ↔ n < 0) (hrest : ¬maxMsgLen ∣ w.length) (hnl : NL ∉ w)
    (hnul : NUL ∉ w) (hs : s.stdin = w ++ NL :: t) :
    ∃ i s', run Port.acceptAll ret i s = .ok (.running s') ∧ s'.stdin = t ∧
      s'.sent = s.sent ++ w := by
  obtain ⟨u, r, k, rfl, hu, hlt⟩ := pieces_split w
  simp only [List.mem_append, not_or] at hnl hnul
  rw [List.append_assoc] at hs
  obtain ⟨s1, hrun, hstdin, hsent⟩ := run_fullPieces hret k hu hnl.1 hnul.1 hs
  have hne : r ≠ [] := by
    rintro rfl
    rw [List.append_nil, hu] at hrest
    exact hrest (Nat.dvd_mul_right _ _)
  have htake : takeLine NL maxMsgLen s1.stdin = (r ++ [NL], t) := by
    rw [hstdin, takeLine_line t hnl.2 hlt]
  have hmsg := message_lineEnd hnl.2 hnul.2
  obtain ⟨s2, hstep, hstdin2, hsent2⟩ := iteration_send hret htake (by simp [hstdin]) (by rwa [hmsg])
  refine ⟨k + 1, s2, ?_, hstdin2, ?_⟩
  · rw [run_add hrun, run_succ_running hstep]
    rfl
  · rw [hsent2, hsent, hmsg, List.append_assoc]

/-- A last line without a newline is sent whole. -/
theorem run_lastLine (hret : ∀ n, ret n < 0 ↔ n < 0) (hnl : NL ∉ w) (hnul : NUL ∉ w)
    (hs : s.stdin = w) :
    ∃ i s', run Port.acceptAll ret i s = .ok (.running s') ∧ s'.stdin = [] ∧
      s'.sent = s.sent ++ w := by
  obtain ⟨u, r, k, rfl, hu, hlt⟩ := pieces_split w
  simp only [List.mem_append, not_or] at hnl hnul
  obtain ⟨s1, hrun, hstdin, hsent⟩ := run_fullPieces hret k hu hnl.1 hnul.1 hs
  by_cases hne : r = []
  · exact ⟨k, s1, hrun, by rw [hstdin, hne], by rw [hsent, hne, List.append_nil]⟩
  · have htake : takeLine NL maxMsgLen s1.stdin = (r, []) := by
      rw [hstdin, takeLine_last hnl.2 hlt.le]
    have hmsg := message_piece hnl.2 hnul.2
    obtain ⟨s2, hstep, hstdin2, hsent2⟩ :=
      iteration_send hret htake (by rwa [hstdin]) (by rwa [hmsg])
    refine ⟨k + 1, s2, ?_, hstdin2, ?_⟩
    · rw [run_add hrun, run_succ_running hstep]
      rfl
    · rw [hsent2, hsent, hmsg, List.append_assoc]

/-! ## How a run ends -/

/-- The run from `s` sends all the lines before the first empty one, and ends there or at the end of
the input. -/
def EndsWell (ret : Int → Int) (s : LoopState) : Prop :=
  ∃ i e s', run Port.acceptAll ret i s = .ok (.exited e s') ∧
    s'.sent = s.sent ++ (linesBeforeEmpty s.stdin).flatten ∧
    (e = .emptyInput → ∃ consumed, s.stdin = consumed ++ s'.stdin ∧ [] ∈ physLines NL consumed)

/-- The run from `s` ends because of an empty message before it has read an empty line. -/
def EndsEarly (ret : Int → Int) (s : LoopState) : Prop :=
  ∃ i s' consumed, run Port.acceptAll ret i s = .ok (.exited .emptyInput s') ∧
    s.stdin = consumed ++ s'.stdin ∧ [] ∉ physLines NL consumed

theorem EndsEarly.not_endsWell (h : EndsEarly ret s) : ¬EndsWell ret s := by
  rintro ⟨j, e, t', hj, -, hempty⟩
  obtain ⟨i, s', consumed, hi, hs, hno⟩ := h
  obtain ⟨rfl, rfl⟩ := run_exited_unique hi hj
  obtain ⟨consumed', hs', hmem⟩ := hempty rfl
  have hc : consumed = consumed' := List.append_cancel_right (hs.symm.trans hs')
  exact hno (hc ▸ hmem)

theorem linesBeforeEmpty_line (hne : w ≠ []) (hnl : NL ∉ w) :
    linesBeforeEmpty (w ++ NL :: t) = w :: linesBeforeEmpty t := by
  unfold linesBeforeEmpty
  rw [physLines_line t hnl, List.takeWhile_cons_of_pos (by simpa using hne)]

theorem noFullLine_line (hne : w ≠ []) (hnl : NL ∉ w) :
    NoFullLine (w ++ NL :: t) ↔ ¬maxMsgLen ∣ w.length ∧ NoFullLine t := by
  unfold NoFullLine
  rw [terminatedLines_line t hnl, List.takeWhile_cons_of_pos (by simpa using hne),
    List.forall_mem_cons]

/-- A line that has been sent does not change how the run ends. -/
theorem endsWell_line {i : Nat} {s1 : LoopState} (hne : w ≠ []) (hnl : NL ∉ w)
    (hs : s.stdin = w ++ NL :: s1.stdin) (hrun : run Port.acceptAll ret i s = .ok (.running s1))
    (hsent : s1.sent = s.sent ++ w) (h : EndsWell ret s1) : EndsWell ret s := by
  obtain ⟨j, e, s', hj, hsent', hempty⟩ := h
  refine ⟨i + j, e, s', by rw [run_add hrun, hj], ?_, fun he => ?_⟩
  · rw [hs, linesBeforeEmpty_line hne hnl, hsent', hsent, List.flatten_cons, List.append_assoc]
  · obtain ⟨consumed, hc, hmem⟩ := hempty he
    refine ⟨w ++ NL :: consumed, by rw [hs, hc]; simp, ?_⟩
    rw [physLines_line consumed hnl]
    exact List.mem_cons_of_mem w hmem

theorem endsEarly_line {i : Nat} {s1 : LoopState} (hne : w ≠ []) (hnl : NL ∉ w)
    (hs : s.stdin = w ++ NL :: s1.stdin) (hrun : run Port.acceptAll ret i s = .ok (.running s1))
    (h : EndsEarly ret s1) : EndsEarly ret s := by
  obtain ⟨j, s', consumed, hj, hc, hno⟩ := h
  refine ⟨i + j, s', w ++ NL :: consumed, by rw [run_add hrun, hj], by rw [hs, hc]; simp, ?_⟩
  rw [physLines_line consumed hnl]
  intro hmem
  rcases List.mem_cons.mp hmem with h | h
  · exact hne h.symm
  · exact hno h

variable (ret) in
theorem iteration_newline (hs : s.stdin = NL :: t) :
    ∃ s', iteration Port.acceptAll ret s = .ok (.exited .emptyInput s') ∧ s'.stdin = t ∧
      s'.sent = s.sent := by
  have htake : takeLine NL maxMsgLen s.stdin = ([] ++ [NL], t) := by
    rw [hs]
    exact takeLine_line (w := []) t (by simp) (by decide)
  obtain ⟨b, hiter⟩ := iteration_chunk Port.acceptAll ret htake (by simp [hs])
  rw [if_pos (by decide)] at hiter
  exact ⟨_, hiter, rfl, rfl⟩

theorem endsWell_emptyLine (hs : s.stdin = NL :: t) : EndsWell ret s := by
  obtain ⟨s', hiter, hstdin, hsent⟩ := iteration_newline ret hs
  refine ⟨1, .emptyInput, s', run_succ_exited hiter, ?_, fun _ => ⟨[NL], ?_, by decide⟩⟩
  · rw [hs, hsent]
    simp [linesBeforeEmpty, physLines]
  · rw [hs, hstdin]
    rfl

/-- A line that fills its pieces ends the loop with its newline. -/
theorem endsEarly_fullLine (hret : ∀ n, ret n < 0 ↔ n < 0) (hne : w ≠ []) (hnl : NL ∉ w)
    (hnul : NUL ∉ w) (hfull : maxMsgLen ∣ w.length) (hs : s.stdin = w ++ NL :: t) :
    EndsEarly ret s := by
  obtain ⟨k, hk⟩ := hfull
  obtain ⟨s1, hrun, hstdin, -⟩ := run_fullPieces hret k hk hnl hnul hs
  obtain ⟨s2, hiter, hstdin2, -⟩ := iteration_newline ret hstdin
  refine ⟨k + 1, s2, w ++ [NL], ?_, by rw [hs, hstdin2]; simp, ?_⟩
  · rw [run_add hrun, run_succ_exited hiter]
  · rw [physLines_line [] hnl]
    simpa [physLines] using hne.symm

/-- **How a run ends** is decided by the lines before the first empty one. -/
theorem run_ends (hret : ∀ n, ret n < 0 ↔ n < 0) (stdin : List Byte) (hnul : NUL ∉ stdin)
    (s : LoopState) (hs : s.stdin = stdin) :
    (NoFullLine stdin → EndsWell ret s) ∧ (¬NoFullLine stdin → EndsEarly ret s) := by
  induction stdin using line_induction NL generalizing s with
  | nil =>
    refine ⟨fun _ => ⟨1, .endOfFile, s, run_succ_exited (iteration_endOfFile hs), ?_, by simp⟩,
      fun h => absurd ?_ h⟩
    · rw [hs]
      simp [linesBeforeEmpty, physLines]
    · simp [NoFullLine, terminatedLines]
  | last w hne hnl =>
    refine ⟨fun _ => ?_, fun h => absurd ?_ h⟩
    · obtain ⟨i, s1, hrun, hstdin, hsent⟩ := run_lastLine hret hnl hnul hs
      refine ⟨i + 1, .endOfFile, s1, ?_, ?_, by simp⟩
      · rw [run_add hrun, run_succ_exited (iteration_endOfFile hstdin)]
      · rw [hsent, hs]
        unfold linesBeforeEmpty
        rw [physLines_last hnl hne, List.takeWhile_cons_of_pos (by simpa using hne)]
        simp
    · simp [NoFullLine, terminatedLines_last hnl]
  | line w t hnl ih =>
    simp only [List.mem_append, List.mem_cons, not_or] at hnul
    by_cases hne : w = []
    · subst hne
      refine ⟨fun _ => endsWell_emptyLine hs, fun h => absurd ?_ h⟩
      simp [NoFullLine, terminatedLines]
    · rw [noFullLine_line hne hnl]
      by_cases hfull : maxMsgLen ∣ w.length
      · exact ⟨fun h => absurd hfull h.1, fun _ => endsEarly_fullLine hret hne hnl hnul.1 hfull hs⟩
      · obtain ⟨i, s1, hrun, hstdin, hsent⟩ := run_line hret hfull hnl hnul.1 hs
        obtain ⟨hwell, hearly⟩ := ih hnul.2.2 s1 hstdin
        have hs' : s.stdin = w ++ NL :: s1.stdin := by rw [hs, hstdin]
        exact ⟨fun h => endsWell_line hne hnl hs' hrun hsent (hwell h.2),
          fun h => endsEarly_line hne hnl hs' hrun (hearly fun h' => h ⟨hfull, h'⟩)⟩

theorem sendsAll_iff (hret : ∀ n, ret n < 0 ↔ n < 0) (message : MessageBuf) {stdin : List Byte}
    (hnul : NUL ∉ stdin) :
    SendsAll (fun i => run Port.acceptAll ret i (start message stdin)) stdin ↔ NoFullLine stdin := by
  obtain ⟨hwell, hearly⟩ := run_ends hret stdin hnul (start message stdin) rfl
  constructor
  · intro h
    by_contra hno
    exact (hearly hno).not_endsWell h
  · exact hwell

end AcceptAll

end DiscoveryDemo.Serial

namespace DiscoveryDemo

open CLib Serial

/-- **No message is lost and the loop does not end early**, in both programs, exactly if no line
before the first empty one that ends with a newline has a length that is a multiple of 255. -/
theorem Serial.mainLoop_sendsAll (message : MessageBuf) (stdin : List Byte) (hnul : NUL ∉ stdin) :
    (SendsAll (fun i => Ioexample7.run Port.acceptAll i (start message stdin)) stdin ↔
      NoFullLine stdin) ∧
    (SendsAll (fun i => Ioexample8.run Port.acceptAll i (start message stdin)) stdin ↔
      NoFullLine stdin) :=
  ⟨sendsAll_iff Ioexample7.serialWrite_neg message hnul, sendsAll_iff (by simp) message hnul⟩

theorem Serial.mainLoop_sendsAll_short :
    SendsAll (fun i => Ioexample7.run Port.acceptAll i (start (Buf.zeroed _) (lit "on\noff\n\n")))
        (lit "on\noff\n\n") ∧
      SendsAll (fun i => Ioexample8.run Port.acceptAll i (start (Buf.zeroed _) (lit "on\noff\n\n")))
        (lit "on\noff\n\n") := by
  have h : NoFullLine (lit "on\noff\n\n") := by
    unfold NoFullLine
    decide
  have hboth := Serial.mainLoop_sendsAll (Buf.zeroed _) (lit "on\noff\n\n") (by decide)
  exact ⟨hboth.1.mpr h, hboth.2.mpr h⟩

/-- A message of 255 characters, and another one. -/
def Serial.fullInput : List Byte := List.replicate 255 (ch 'x') ++ NL :: lit "hello\n"

/-- After a message of the documented length the loop takes the newline for an empty message and
ends; the next message is not sent. -/
theorem Serial.mainLoop_fullInput :
    NUL ∉ fullInput ∧ linesBeforeEmpty fullInput = [List.replicate 255 (ch 'x'), lit "hello"] ∧
    ¬SendsAll (fun i => Ioexample7.run Port.acceptAll i (start (Buf.zeroed _) fullInput)) fullInput ∧
    ¬SendsAll (fun i => Ioexample8.run Port.acceptAll i (start (Buf.zeroed _) fullInput)) fullInput := by
  have hnul : NUL ∉ fullInput := by decide +kernel
  have hfull : ¬NoFullLine fullInput := by
    unfold NoFullLine
    decide +kernel
  exact ⟨hnul, by decide +kernel, mt (sendsAll_iff Ioexample7.serialWrite_neg _ hnul).mp hfull,
    mt (sendsAll_iff (by simp) _ hnul).mp hfull⟩

end DiscoveryDemo
