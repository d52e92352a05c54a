import DiscoveryDemo.Serial.Proofs.MessageLoopProofs

/-!
# Proofs: what a short write loses

As long as every line fits into the buffer, a round of the loop is a line, and it makes one write
call. The loop looks only at the sign of the result: what a call has not accepted is never offered
again.
-/

namespace DiscoveryDemo.Serial

open CLib

variable {port : Port} {ret : Int → Int} {s : LoopState} {w t : List Byte}

/-- What the string functions see of a line. -/
abbrev seen (w : List Byte) : List Byte := w.takeWhile (· ≠ NUL)

theorem message_line (hnl : NL ∉ w) : message (w ++ [NL]) = seen w ∧ message w = seen w := by
  have hseen : NL ∉ seen w := fun h => hnl ((List.takeWhile_prefix _).subset h)
  constructor
  · unfold message
    rw [List.takeWhile_append]
    split
    · have hne : NL ≠ NUL := by decide
      simp only [List.takeWhile_cons, hne, decide_true, List.takeWhile_nil, ne_eq, not_false_eq_true,
        if_true]
      rename_i hlen
      have hw : seen w = w := (List.takeWhile_prefix _).eq_of_length hlen
      rw [takeWhile_ne_append hnl, hw]
    · exact takeWhile_ne_of_notMem hseen
  · exact takeWhile_ne_of_notMem hseen

/-- What one round does with the message `m`, when `rest` is what is left of the input then: the loop
ends at an empty message or after a failed call, otherwise it goes on. -/
inductive Round (port : Port) (ret : Int → Int) (s : LoopState) (m rest : List Byte) : Prop
  | empty (hm : m = []) (s' : LoopState)
      (hstep : iteration port ret s = .ok (.exited .emptyInput s')) (hsent : s'.sent = s.sent)
  | failed (hm : m ≠ []) (hwrite : port.write s.calls m < 0) (s' : LoopState)
      (hstep : iteration port ret s = .ok (.exited .writeError s'))
  | accepted (hm : m ≠ []) (hpos : 0 < port.write s.calls m)
      (hle : port.write s.calls m ≤ m.length) (s' : LoopState)
      (hstep : iteration port ret s = .ok (.running s')) (hstdin : s'.stdin = rest)
      (hcalls : s'.calls = s.calls + 1)
      (hsent : s'.sent = s.sent ++ m.take (port.write s.calls m).toNat)

theorem iteration_round (hret : ∀ n, ret n < 0 ↔ n < 0) {c m rest : List Byte}
    (h : takeLine NL maxMsgLen s.stdin = (c, rest)) (hne : s.stdin ≠ []) (hmsg : message c = m) :
    Round port ret s m rest := by
  obtain ⟨b, hiter⟩ := iteration_chunk port ret h hne
  rw [hmsg] at hiter
  by_cases hempty : m = []
  · rw [if_pos hempty] at hiter
    exact .empty hempty _ hiter rfl
  · rw [if_neg hempty] at hiter
    rcases port.accepts s.calls m hempty with hfail | ⟨hpos, hle⟩
    · simp only [if_pos ((hret _).mpr hfail)] at hiter
      exact .failed hempty hfail _ hiter
    · have hok : ¬ret (port.write s.calls m) < 0 := by
        rw [hret]
        omega
      simp only [if_neg hok] at hiter
      exact .accepted hempty hpos hle _ hiter rfl rfl rfl

/-- At every moment all that was read has been accepted, or the program has failed. -/
def AlwaysDelivered (port : Port) (ret : Int → Int) (s : LoopState) (msgs : List (List Byte)) : Prop :=
  ∀ i, ∃ p, run port ret i s = .ok p ∧ p.Delivered s.sent msgs i

/-- Nothing can be lost any more at the end of the input. -/
theorem alwaysDelivered_nil (hs : s.stdin = []) : AlwaysDelivered port ret s [] := by
  intro i
  cases i with
  | zero => exact ⟨_, rfl, by simp [Progress.Delivered]⟩
  | succ i => exact ⟨_, run_succ_exited (iteration_endOfFile hs), by simp [Progress.Delivered]⟩

/-- A message that was accepted whole belongs to what had been accepted before. -/
theorem delivered_cons {m sent : List Byte} {msgs : List (List Byte)} (hm : m ≠ []) (i : Nat)
    (p : Progress) : p.Delivered sent (m :: msgs) (i + 1) ↔ p.Delivered (sent ++ m) msgs i := by
  cases p with
  | running s => simp [Progress.Delivered]
  | exited e s => simp [Progress.Delivered, List.takeWhile_cons_of_pos, hm]

/-- **One message.** The calls from here on are free of short writes exactly if this one is and the
calls after it are. -/
theorem alwaysDelivered_cons {m rest : List Byte} {msgs : List (List Byte)}
    (h : Round port ret s m rest)
    (ih : ∀ s', s'.stdin = rest → (AlwaysDelivered port ret s' msgs ↔
      NoShortWrite port s'.calls (msgs.takeWhile (· ≠ [])))) :
    AlwaysDelivered port ret s (m :: msgs) ↔
      NoShortWrite port s.calls ((m :: msgs).takeWhile (· ≠ [])) := by
  have hzero : ∃ p, run port ret 0 s = .ok p ∧ p.Delivered s.sent (m :: msgs) 0 :=
    ⟨_, rfl, by simp [Progress.Delivered]⟩
  cases h with
  | empty hm s' hstep hsent =>
    subst hm
    refine ⟨fun _ => by simp [NoShortWrite], fun _ i => ?_⟩
    cases i with
    | zero => exact hzero
    | succ i => exact ⟨_, run_succ_exited hstep, by simp [Progress.Delivered, hsent]⟩
  | failed hm hwrite s' hstep =>
    rw [List.takeWhile_cons_of_pos (by simpa using hm)]
    refine ⟨fun _ => Or.inl hwrite, fun _ i => ?_⟩
    cases i with
    | zero => exact hzero
    | succ i => exact ⟨_, run_succ_exited hstep, Or.inl rfl⟩
  | accepted hm hpos hle s' hstep hstdin hcalls hsent =>
    rw [List.takeWhile_cons_of_pos (by simpa using hm)]
    -- the whole message was accepted if and only if the call was not short
    have hwhole : s'.sent = s.sent ++ m ↔ port.write s.calls m = m.length := by
      rw [hsent, List.append_cancel_left_eq]
      constructor
      · intro h
        have := congrArg List.length h
        rw [List.length_take] at this
        omega
      · intro h
        exact List.take_of_length_le (by omega)
    have hnot : ¬port.write s.calls m < 0 := by omega
    constructor
    · intro hall
      obtain ⟨p, hp, hdel⟩ := hall 1
      rw [run_succ_running hstep] at hp
      cases hp
      have hsent' : s'.sent = s.sent ++ m := by simpa [Progress.Delivered] using hdel
      refine Or.inr ⟨hwhole.mp hsent', ?_⟩
      rw [← hcalls]
      refine (ih s' hstdin).mp fun i => ?_
      obtain ⟨p, hp, hdel⟩ := hall (i + 1)
      rw [run_succ_running hstep] at hp
      rw [delivered_cons hm, ← hsent'] at hdel
      exact ⟨p, hp, hdel⟩
    · rintro (hneg | ⟨hlen, hrest⟩)
      · exact absurd hneg hnot
      · have hsent' := hwhole.mpr hlen
        rw [← hcalls] at hrest
        intro i
        cases i with
        | zero => exact hzero
        | succ i =>
          obtain ⟨p, hp, hdel⟩ := (ih s' hstdin).mpr hrest i
          rw [hsent', ← delivered_cons hm] at hdel
          exact ⟨p, by rw [run_succ_running hstep, hp], hdel⟩

/-- **Nothing is lost** exactly if no call up to the first failed one is short. -/
theorem alwaysDelivered_iff (hret : ∀ n, ret n < 0 ↔ n < 0) (stdin : List Byte)
    (hlen : ∀ l ∈ physLines NL stdin, l.length ≤ maxMsgLen - 1) (s : LoopState)
    (hs : s.stdin = stdin) :
    AlwaysDelivered port ret s (messages stdin) ↔
      NoShortWrite port s.calls ((messages stdin).takeWhile (· ≠ [])) := by
  have hnil : ∀ s' : LoopState, s'.stdin = [] → (AlwaysDelivered port ret s' [] ↔
      NoShortWrite port s'.calls (([] : List (List Byte)).takeWhile (· ≠ []))) :=
    fun s' hs' => ⟨fun _ => trivial, fun _ => alwaysDelivered_nil hs'⟩
  induction stdin using line_induction NL generalizing s with
  | nil => exact hnil s hs
  | last w hne hnl =>
    have hmsgs : messages w = [seen w] := by
      unfold messages
      rw [physLines_last hnl hne, List.map_singleton]
    rw [physLines_last hnl hne] at hlen
    have hfit : w.length ≤ maxMsgLen := (hlen w (by simp)).trans (by decide)
    have htake : takeLine NL maxMsgLen s.stdin = (w, []) := by
      rw [hs, takeLine_last hnl hfit]
    rw [hmsgs]
    exact alwaysDelivered_cons
      (iteration_round hret htake (by rwa [hs]) (message_line hnl).2) hnil
  | line w t hnl ih =>
    have hmsgs : messages (w ++ NL :: t) = seen w :: messages t := by
      unfold messages
      rw [physLines_line t hnl, List.map_cons]
    rw [physLines_line t hnl, List.forall_mem_cons] at hlen
    have hfit : w.length < maxMsgLen := Nat.lt_of_le_of_lt hlen.1 (by decide)
    have htake : takeLine NL maxMsgLen s.stdin = (w ++ [NL], t) := by
      rw [hs, takeLine_line t hnl hfit]
    rw [hmsgs]
    exact alwaysDelivered_cons
      (iteration_round hret htake (by simp [hs]) (message_line hnl).1) (ih hlen.2)

end DiscoveryDemo.Serial

namespace DiscoveryDemo

open CLib Serial

/-- **Short writes.** At every moment all bytes of the earlier messages have been accepted, or the
program has failed, exactly if each call up to the first failed one accepts all it is offered. -/
theorem Serial.mainLoop_delivers_iff (port : Port) (message : MessageBuf) (stdin : List Byte)
    (hlen : ∀ l ∈ physLines NL stdin, l.length ≤ maxMsgLen - 1) :
    ((∀ i, ∃ p, Ioexample7.run port i (start message stdin) = .ok p ∧
        p.Delivered [] (messages stdin) i) ↔
      NoShortWrite port 0 ((messages stdin).takeWhile (· ≠ []))) ∧
    ((∀ i, ∃ p, Ioexample8.run port i (start message stdin) = .ok p ∧
        p.Delivered [] (messages stdin) i) ↔
      NoShortWrite port 0 ((messages stdin).takeWhile (· ≠ []))) :=
  ⟨alwaysDelivered_iff Ioexample7.serialWrite_neg stdin hlen (start message stdin) rfl,
    alwaysDelivered_iff (by simp) stdin hlen (start message stdin) rfl⟩

theorem Serial.mainLoop_delivers_accepted :
    (∀ i, ∃ p, Ioexample7.run Port.acceptAll i (start (Buf.zeroed _) (lit "on\noff\n")) = .ok p ∧
      p.Delivered [] (messages (lit "on\noff\n")) i) ∧
    (∀ i, ∃ p, Ioexample8.run Port.acceptAll i (start (Buf.zeroed _) (lit "on\noff\n")) = .ok p ∧
      p.Delivered [] (messages (lit "on\noff\n")) i) := by
  have h : NoShortWrite Port.acceptAll 0 ((messages (lit "on\noff\n")).takeWhile (· ≠ [])) :=
    Or.inr ⟨rfl, Or.inr ⟨rfl, trivial⟩⟩
  have hboth := Serial.mainLoop_delivers_iff Port.acceptAll (Buf.zeroed _) (lit "on\noff\n")
    (by decide)
  exact ⟨hboth.1.mpr h, hboth.2.mpr h⟩

/-- A port that accepts one byte at a time. -/
def Serial.Port.byteByByte : Port where
  write _ _ := 1
  accepts _ bytes h := by
    have := List.length_pos_iff.mpr h
    omega

/-- With such a port the loop goes on to the next message after the first byte of `on`. -/
theorem Serial.mainLoop_shortWrite :
    (∃ s, Ioexample7.run Port.byteByByte 1 (start (Buf.zeroed _) (lit "on\noff\n")) =
      .ok (.running s) ∧ s.sent = lit "o") ∧
    (∃ s, Ioexample8.run Port.byteByByte 1 (start (Buf.zeroed _) (lit "on\noff\n")) =
      .ok (.running s) ∧ s.sent = lit "o") ∧
    ((messages (lit "on\noff\n")).take 1).flatten = lit "on" :=
  ⟨⟨_, rfl, by decide⟩, ⟨_, rfl, by decide⟩, by decide⟩

end DiscoveryDemo
