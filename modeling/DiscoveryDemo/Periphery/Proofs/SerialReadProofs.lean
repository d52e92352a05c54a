import DiscoveryDemo.Periphery.SerialRead

/-!
# Proofs: reading from a serial port

What the loop has taken from the line is in the buffer, in order, and the time that it has waited comes
off its timeout. So the calls that return hand on the line byte for byte.
-/

namespace DiscoveryDemo.Periphery.Serial

open CLib Driver

/-! ## One round -/

section Round

variable {s s' : ReadState} {after count : Nat}

/-- Waiting changes nothing but the time. -/
theorem readable_frame (h : readable s after = some s') :
    s'.buf = s.buf ∧ s'.bytesRead = s.bytesRead ∧ s'.line = s.line ∧ s'.reading = s.reading := by
  unfold readable at h
  cases ht : s.timeout with
  | none =>
    rw [ht] at h
    cases h
    exact ⟨rfl, rfl, rfl, rfl⟩
  | some t =>
    rw [ht] at h
    dsimp only at h
    split at h
    · cases h
      exact ⟨rfl, rfl, rfl, rfl⟩
    · cases h

/-- The time waited comes off the timeout. -/
theorem readable_timeout (h : readable s after = some s') {t : Nat} (ht : s.timeout = some t) :
    ∃ t', s'.timeout = some t' ∧ s'.waited + t' = s.waited + t := by
  unfold readable at h
  rw [ht] at h
  dsimp only at h
  split at h
  · rename_i hle
    cases h
    exact ⟨t - after, rfl, by show s.waited + after + (t - after) = s.waited + t; omega⟩
  · cases h

theorem received_length_le (s : ReadState) (count : Nat) :
    (received s count).length ≤ s.buf.length - s.bytesRead := by
  rw [received, List.length_take]
  omega

theorem line_eq_received (s : ReadState) (count : Nat) :
    s.line = received s count ++ s.line.drop (received s count).length := by
  have hlen : (received s count).length = min (min count (s.buf.length - s.bytesRead)) s.line.length := by
    rw [received, List.length_take]
  rw [hlen]
  rcases Nat.le_total (min count (s.buf.length - s.bytesRead)) s.line.length with h | h
  · rw [Nat.min_eq_left h]
    exact (List.take_append_drop _ _).symm
  · rw [Nat.min_eq_right h, List.drop_length, List.append_nil, received, List.take_of_length_le h]

/-- A read leaves the size of the buffer alone and does not go beyond it. -/
theorem afterRead_room (hs : s.bytesRead ≤ s.buf.length) (h : readable s after = some s')
    (count took : Nat) :
    s'.bytesRead + (received s' count).length ≤ (afterRead s' (received s' count) took).buf.length ∧
      (afterRead s' (received s' count) took).buf.length = s.buf.length := by
  obtain ⟨hbuf, hread, -, -⟩ := readable_frame h
  have hle := received_length_le s' count
  simp only [afterRead, List.length_append, List.length_take, List.length_drop]
  rw [hbuf, hread] at hle ⊢
  omega

end Round

/-- What the loop comes to from `s`, where there is room left in the buffer and `event` comes next. -/
inductive ReadStep (use : Bool) (event : Event) (events : List Event) (s : ReadState) :
    Outcome × ReadState → Prop
  | timesOut : ReadStep use event events s (timeOut s)
  /-- It fails, or never comes back from `read`; the buffer is as it was. -/
  | stops {after : Nat} {s₁ : ReadState} {o : Outcome} (ready : readable s after = some s₁)
      (no_count : ∀ n, o ≠ .returned n) (hangs : o = .blocked → ∃ after, event = .hangs after) :
      ReadStep use event events s (o, { s₁ with reading := s₁.reading + event.took })
  /-- The terminal ends the read. -/
  | ends {after : Nat} {s₁ : ReadState} (count : Nat) (ready : readable s after = some s₁)
      (term : use = true) :
      ReadStep use event events s
        (.returned (received s₁ count).length, afterRead s₁ (received s₁ count) event.took)
  /-- Nothing has been read. -/
  | empty {after : Nat} {s₁ : ReadState} {code : Int} {e : Error} (count : Nat)
      (ready : readable s after = some s₁) (term : use = false) :
      ReadStep use event events s (.failed code e, afterRead s₁ (received s₁ count) event.took)
  | goesOn {after : Nat} {s₁ : ReadState} (count : Nat) (ready : readable s after = some s₁)
      (term : use = false) :
      ReadStep use event events s (readLoop use events
        { afterRead s₁ (received s₁ count) event.took with
          bytesRead := s₁.bytesRead + (received s₁ count).length })

theorem readLoop_step (use : Bool) (event : Event) (events : List Event) {s : ReadState}
    (h : s.bytesRead < s.buf.length) : ReadStep use event events s (readLoop use (event :: events) s) := by
  unfold readLoop
  rw [if_pos h]
  cases event with
  | interrupts after e =>
    cases hr : readable s after with
    | none => simpa only [hr] using ReadStep.timesOut
    | some s₁ =>
      simp only [hr]
      exact ReadStep.stops hr (fun n hn => by cases hn) (fun hb => by cases hb)
  | breaks after took e =>
    cases hr : readable s after with
    | none => simpa only [hr] using ReadStep.timesOut
    | some s₁ =>
      simp only [hr]
      exact ReadStep.stops hr (fun n hn => by cases hn) (fun hb => by cases hb)
  | hangs after =>
    cases hr : readable s after with
    | none => simpa only [hr] using ReadStep.timesOut
    | some s₁ =>
      simp only [hr]
      exact ReadStep.stops hr (fun n hn => by cases hn) (fun _ => ⟨after, rfl⟩)
  | delivers after took count =>
    cases hr : readable s after with
    | none => simpa only [hr] using ReadStep.timesOut
    | some s₁ =>
      simp only [hr]
      cases use with
      | true => exact ReadStep.ends count hr rfl
      | false =>
        rw [if_neg Bool.false_ne_true]
        split
        · exact ReadStep.empty count hr rfl
        · exact ReadStep.goesOn count hr rfl

theorem readLoop_nil (use : Bool) {s : ReadState} (h : s.bytesRead < s.buf.length) :
    readLoop use [] s = timeOut s := if_pos h

/-- The buffer is full. -/
theorem readLoop_full (use : Bool) (events : List Event) {s : ReadState}
    (h : ¬s.bytesRead < s.buf.length) : readLoop use events s = (.returned s.bytesRead, s) := by
  cases events with
  | nil => exact if_neg h
  | cons event events => exact if_neg h

/-! ## The bytes -/

/-- What a buffer holds after `got` has been stored at index `k`. -/
def stored (buf : List Byte) (k : Nat) (got : List Byte) : List Byte :=
  buf.take k ++ got ++ buf.drop (k + got.length)

/-- Storing on where the last store ended. -/
theorem stored_stored {buf : List Byte} {k : Nat} (a b : List Byte) (hk : k ≤ buf.length) :
    stored (stored buf k a) (k + a.length) b = stored buf k (a ++ b) := by
  have hlen : (buf.take k ++ a).length = k + a.length := by
    rw [List.length_append, List.length_take, Nat.min_eq_left hk]
  unfold stored
  rw [List.take_append_of_le_length (Nat.le_of_eq hlen.symm), List.take_of_length_le (Nat.le_of_eq hlen),
    List.drop_append, hlen]
  have hpast : (buf.take k ++ a).drop (k + a.length + b.length) = [] := by
    apply List.drop_of_length_le
    rw [hlen]
    omega
  have hdrop : k + a.length + b.length - (k + a.length) = b.length := by omega
  rw [hpast, hdrop, List.nil_append, List.drop_drop, List.length_append, Nat.add_assoc]
  simp only [List.append_assoc]

/-- What a run of the loop from `s` does to the line and the buffer: it moves `got` from the one to the
other, and if it returns it returns how much the buffer holds. -/
structure Moves (s : ReadState) (r : Outcome × ReadState) (got : List Byte) : Prop where
  line : s.line = got ++ r.2.line
  buf : r.2.buf = stored s.buf s.bytesRead got
  room : s.bytesRead + got.length ≤ s.buf.length
  count : ∀ n, r.1 = .returned n → n = s.bytesRead + got.length

theorem stored_nil (buf : List Byte) (k : Nat) : stored buf k [] = buf := by
  unfold stored
  rw [List.append_nil, List.length_nil, Nat.add_zero, List.take_append_drop]

/-- The loop ends without reading. -/
theorem moves_nothing {s : ReadState} {r : Outcome × ReadState} (hs : s.bytesRead ≤ s.buf.length)
    (hline : r.2.line = s.line) (hbuf : r.2.buf = s.buf)
    (hcount : ∀ n, r.1 = .returned n → n = s.bytesRead) : Moves s r [] := by
  refine ⟨by rw [hline, List.nil_append], by rw [hbuf, stored_nil], hs, ?_⟩
  intro n hn
  exact hcount n hn

theorem moves_timeOut {s : ReadState} (hs : s.bytesRead ≤ s.buf.length) : Moves s (timeOut s) [] := by
  unfold timeOut
  cases s.timeout with
  | none => exact moves_nothing hs rfl rfl (fun n h => by cases h)
  | some t => exact moves_nothing hs rfl rfl (fun n h => by cases h; rfl)

/-- A read moves what it gets. -/
theorem moves_read {s s₁ : ReadState} {after : Nat} {o : Outcome} (hs : s.bytesRead ≤ s.buf.length)
    (ready : readable s after = some s₁) (count took : Nat)
    (hcount : ∀ n, o = .returned n → n = s.bytesRead + (received s₁ count).length) :
    Moves s (o, afterRead s₁ (received s₁ count) took) (received s₁ count) := by
  obtain ⟨hbuf, hread, hline, -⟩ := readable_frame ready
  have hle := received_length_le s₁ count
  rw [hbuf, hread] at hle
  refine ⟨?_, ?_, by omega, hcount⟩
  · rw [← hline]
    exact line_eq_received s₁ count
  · rw [← hbuf, ← hread]
    rfl

theorem stored_length {buf got : List Byte} {k : Nat} (h : k + got.length ≤ buf.length) :
    (stored buf k got).length = buf.length := by
  simp only [stored, List.length_append, List.length_take, List.length_drop]
  omega

/-- The loop goes on behind what has been moved. -/
theorem Moves.goesOn {s s' : ReadState} {o : Outcome} {r : Outcome × ReadState} {got rest : List Byte}
    (h : Moves s (o, s') got)
    (hrest : Moves { s' with bytesRead := s.bytesRead + got.length } r rest) : Moves s r (got ++ rest) := by
  have hbuf : s'.buf = stored s.buf s.bytesRead got := h.buf
  have hlen : s'.buf.length = s.buf.length := by
    rw [hbuf]
    exact stored_length h.room
  refine ⟨?_, ?_, ?_, ?_⟩
  · rw [List.append_assoc, ← hrest.line]
    exact h.line
  · rw [hrest.buf]
    dsimp only
    rw [hbuf]
    exact stored_stored got rest (Nat.le_trans (Nat.le_add_right _ _) h.room)
  · have hroom := hrest.room
    dsimp only at hroom
    rw [List.length_append]
    omega
  · intro n hn
    have hcount := hrest.count n hn
    dsimp only at hcount
    rw [List.length_append]
    omega

/-- **The loop moves the head of the line into the buffer.** -/
theorem readLoop_moves {use : Bool} {events : List Event} {s : ReadState}
    (hs : s.bytesRead ≤ s.buf.length) (huse : use = true → s.bytesRead = 0) :
    ∃ got, Moves s (readLoop use events s) got := by
  have hfull : Moves s (.returned s.bytesRead, s) [] :=
    moves_nothing hs rfl rfl (fun n h => by cases h; rfl)
  induction events generalizing s with
  | nil =>
    by_cases hlt : s.bytesRead < s.buf.length
    · rw [readLoop_nil use hlt]
      exact ⟨[], moves_timeOut hs⟩
    · rw [readLoop_full use [] hlt]
      exact ⟨[], hfull⟩
  | cons event events ih =>
    by_cases hlt : s.bytesRead < s.buf.length
    · have hstep := readLoop_step use event events hlt
      generalize readLoop use (event :: events) s = r at hstep
      cases hstep with
      | timesOut => exact ⟨[], moves_timeOut hs⟩
      | stops ready no_count _ =>
        obtain ⟨hbuf, -, hline, -⟩ := readable_frame ready
        exact ⟨[], moves_nothing hs hline hbuf (fun n hn => absurd hn (no_count n))⟩
      | ends count ready term =>
        -- the terminal ends the first read of the call
        refine ⟨_, moves_read hs ready count event.took ?_⟩
        intro n hn
        cases hn
        rw [huse term, Nat.zero_add]
      | empty count ready _ =>
        refine ⟨_, moves_read hs ready count event.took ?_⟩
        intro n hn
        cases hn
      | @goesOn after s₁ count ready term =>
        obtain ⟨-, hread, -, -⟩ := readable_frame ready
        obtain ⟨hroom, -⟩ := afterRead_room hs ready count event.took
        have hfirst := @moves_read s s₁ after .blocked hs ready count event.took
          (fun n hn => by cases hn)
        rw [hread] at hroom ⊢
        obtain ⟨rest, hrest⟩ := ih
          (s := { afterRead s₁ (received s₁ count) event.took with
            bytesRead := s.bytesRead + (received s₁ count).length })
          hroom (fun htrue => by rw [term] at htrue; cases htrue)
          (moves_nothing hroom rfl rfl (fun n h => by cases h; rfl))
        exact ⟨received s₁ count ++ rest, hfirst.goesOn hrest⟩
    · rw [readLoop_full use _ hlt]
      exact ⟨[], hfull⟩

/-! ## The time -/

/-- What a run of the loop from `s` makes of a timeout `t`: it waits for ever only in `read`, never waits
longer than the timeout in `select`, and if it comes back with less than was asked for, the time is up. -/
structure Times (useTermiosTimeout : Bool) (events : List Event) (s : ReadState) (t : Nat)
    (r : Outcome × ReadState) : Prop where
  ends : r.1 = .blocked → ∃ after, .hangs after ∈ events
  within : r.2.waited ≤ s.waited + t
  spent : ∀ n, r.1 = .returned n → useTermiosTimeout = false → n < s.buf.length →
    r.2.waited = s.waited + t

section Times

variable {s : ReadState} {t : Nat} {use : Bool} {events : List Event} {r : Outcome × ReadState}

theorem times_failed {code : Int} {e : Error} (hr : r.1 = .failed code e)
    (hw : r.2.waited ≤ s.waited + t) : Times use events s t r := by
  refine ⟨?_, hw, ?_⟩
  · rw [hr]
    intro h
    cases h
  · intro n hn
    rw [hr] at hn
    cases hn

theorem times_returned {n : Nat} (hr : r.1 = .returned n) (hw : r.2.waited ≤ s.waited + t)
    (hn : use = true ∨ s.buf.length ≤ n) : Times use events s t r := by
  refine ⟨?_, hw, ?_⟩
  · rw [hr]
    intro h
    cases h
  · intro m hm hf hlt
    rw [hr] at hm
    cases hm
    rcases hn with hn | hn
    · rw [hn] at hf
      cases hf
    · omega

theorem times_timeOut (ht : s.timeout = some t) (use : Bool) (events : List Event) :
    Times use events s t (timeOut s) := by
  unfold timeOut
  rw [ht]
  refine ⟨?_, Nat.le_refl _, fun n _ _ _ => rfl⟩
  intro h
  cases h

end Times

theorem readLoop_times {use : Bool} {events : List Event} {s : ReadState} {t : Nat}
    (ht : s.timeout = some t) (hs : s.bytesRead ≤ s.buf.length) :
    Times use events s t (readLoop use events s) := by
  induction events generalizing s t with
  | nil =>
    by_cases hlt : s.bytesRead < s.buf.length
    · rw [readLoop_nil use hlt]
      exact times_timeOut ht use _
    · rw [readLoop_full use [] hlt]
      exact times_returned rfl (Nat.le_add_right _ _) (Or.inr (Nat.le_of_not_lt hlt))
  | cons event events ih =>
    by_cases hlt : s.bytesRead < s.buf.length
    · have hstep := readLoop_step use event events hlt
      generalize readLoop use (event :: events) s = r at hstep
      cases hstep with
      | timesOut => exact times_timeOut ht use _
      | @stops after s₁ o ready no_count hangs =>
        obtain ⟨t₁, -, htime⟩ := readable_timeout ready ht
        refine ⟨?_, show s₁.waited ≤ s.waited + t by omega, fun n hn => absurd hn (no_count n)⟩
        intro hblocked
        obtain ⟨after, rfl⟩ := hangs hblocked
        exact ⟨after, List.mem_cons_self⟩
      | @ends after s₁ count ready term =>
        obtain ⟨t₁, -, htime⟩ := readable_timeout ready ht
        exact times_returned rfl (show s₁.waited ≤ s.waited + t by omega) (Or.inl term)
      | @empty after s₁ code e count ready term =>
        obtain ⟨t₁, -, htime⟩ := readable_timeout ready ht
        exact times_failed rfl (show s₁.waited ≤ s.waited + t by omega)
      | @goesOn after s₁ count ready term =>
        obtain ⟨t₁, ht₁, htime⟩ := readable_timeout ready ht
        obtain ⟨hroom, hlen⟩ := afterRead_room hs ready count event.took
        have hrest := ih
          (s := { afterRead s₁ (received s₁ count) event.took with
            bytesRead := s₁.bytesRead + (received s₁ count).length })
          (t := t₁) ht₁ hroom
        have hstart : (afterRead s₁ (received s₁ count) event.took).waited + t₁ = s.waited + t := htime
        refine ⟨?_, ?_, ?_⟩
        · intro hblocked
          obtain ⟨after, hafter⟩ := hrest.ends hblocked
          exact ⟨after, List.mem_cons_of_mem _ hafter⟩
        · have hwithin := hrest.within
          dsimp only at hwithin ⊢
          omega
        · intro n hn hf hshort
          have hspent := hrest.spent n hn hf
          dsimp only at hspent
          rw [hlen] at hspent
          rw [hspent hshort]
          exact hstart
    · rw [readLoop_full use _ hlt]
      exact times_returned rfl (Nat.le_add_right _ _) (Or.inr (Nat.le_of_not_lt hlt))

theorem timeOut_reading (s : ReadState) : (timeOut s).2.reading = s.reading := by
  unfold timeOut
  cases s.timeout with
  | none => rfl
  | some t => rfl

/-- The loop spends no time in `read` unless the terminal ends it, and then it reads once. -/
theorem readLoop_reading {use : Bool} {events : List Event} {s : ReadState}
    (hready : use = false → ∀ e ∈ events, e.took = 0) :
    (readLoop use events s).2.reading = s.reading ∨
      use = true ∧ ∃ e ∈ events, (readLoop use events s).2.reading = s.reading + e.took := by
  induction events generalizing s with
  | nil =>
    by_cases hlt : s.bytesRead < s.buf.length
    · rw [readLoop_nil use hlt]
      exact Or.inl (timeOut_reading s)
    · rw [readLoop_full use [] hlt]
      exact Or.inl rfl
  | cons event events ih =>
    by_cases hlt : s.bytesRead < s.buf.length
    · have hstep := readLoop_step use event events hlt
      generalize readLoop use (event :: events) s = r at hstep
      have hone : ∀ {after : Nat} {s₁ : ReadState}, readable s after = some s₁ →
          s₁.reading + event.took = s.reading ∨
            use = true ∧ ∃ e ∈ event :: events, s₁.reading + event.took = s.reading + e.took := by
        intro after s₁ ready
        obtain ⟨-, -, -, hreading⟩ := readable_frame ready
        rw [hreading]
        cases use with
        | true => exact Or.inr ⟨rfl, event, List.mem_cons_self, rfl⟩
        | false =>
          left
          rw [hready rfl event List.mem_cons_self, Nat.add_zero]
      cases hstep with
      | timesOut => exact Or.inl (timeOut_reading s)
      | stops ready _ _ => exact hone ready
      | ends count ready _ => exact hone ready
      | empty count ready _ => exact hone ready
      | @goesOn after s₁ count ready term =>
        have hnever : ∀ {p : Prop}, ¬(use = true ∧ p) := by
          rintro p ⟨htrue, -⟩
          rw [term] at htrue
          cases htrue
        have hrest := (@ih { afterRead s₁ (received s₁ count) event.took with
            bytesRead := s₁.bytesRead + (received s₁ count).length }
          (fun h e he => hready h e (List.mem_cons_of_mem _ he))).resolve_right hnever
        exact Or.inl (hrest.trans ((hone ready).resolve_right hnever))
    · rw [readLoop_full use _ hlt]
      exact Or.inl rfl

theorem tvTimeout_eq {ms : Int} (h : 0 ≤ ms) : tvTimeout ms = ms * 1000 := by
  unfold tvTimeout
  rw [Int.tdiv_eq_ediv_of_nonneg h, Int.tmod_eq_emod_of_nonneg h]
  have := Int.mul_ediv_add_emod ms 1000
  omega

/-- **`serial_read` keeps its timeout over the whole call**, however many pieces the bytes come in: its
calls of `select` together wait no longer than the timeout, and it ends unless a `read` does not. If without
`VMIN` a port that is readable is read at once, then the call takes longer only by the one `read` that it
makes with `VMIN`; and if it returns fewer bytes than the buffer has room for, without the terminal ending
reads, then it has taken just as long as the timeout. -/
theorem serialRead_timeout {use : Bool} {buf : List Byte} {timeoutMs : Int} {events : List Event}
    {line : List Byte} (h : 0 ≤ timeoutMs) :
    let r := serialRead use buf timeoutMs events line
    (r.2.waited : Int) ≤ timeoutMs * 1000 ∧ (r.1 = .blocked → ∃ after, .hangs after ∈ events) ∧
      ((use = false → ∀ e ∈ events, e.took = 0) →
        (r.2.reading = 0 ∨ use = true ∧ ∃ e ∈ events, r.2.reading = e.took) ∧
          ∀ n, r.1 = .returned n → use = false → n < buf.length →
            ((r.2.waited + r.2.reading : Nat) : Int) = timeoutMs * 1000) := by
  intro r
  have htime := tvTimeout_eq h
  have hneg : ¬timeoutMs < 0 := Int.not_lt.mpr h
  have hr : Times use events ⟨some (tvTimeout timeoutMs).toNat, buf, 0, line, 0, 0⟩
      (tvTimeout timeoutMs).toNat r := by
    have hloop := @readLoop_times use events ⟨some (tvTimeout timeoutMs).toNat, buf, 0, line, 0, 0⟩ _
      rfl (Nat.zero_le _)
    simpa only [r, serialRead, if_neg hneg] using hloop
  refine ⟨?_, hr.ends, ?_⟩
  · have hwithin := hr.within
    dsimp only at hwithin
    omega
  · intro hready
    have hreading : r.2.reading = 0 ∨ use = true ∧ ∃ e ∈ events, r.2.reading = e.took := by
      have hloop :=
        @readLoop_reading use events ⟨some (tvTimeout timeoutMs).toNat, buf, 0, line, 0, 0⟩ hready
      simpa only [r, serialRead, if_neg hneg, Nat.zero_add] using hloop
    refine ⟨hreading, ?_⟩
    intro n hn hf hlt
    have hspent := hr.spent n hn hf hlt
    have hnone : r.2.reading = 0 := by
      rcases hreading with hnone | ⟨htrue, -⟩
      · exact hnone
      · rw [hf] at htrue
        cases htrue
    dsimp only at hspent
    omega

/-- Three bytes in two pieces, and then silence until the second is up. -/
theorem serialRead_timeout_pieces :
    let r := serialRead false (List.replicate 4 0) 1000 [.delivers 10 0 1, .delivers 20 0 2] [1, 2, 3]
    (r.2.waited : Int) ≤ 1000 * 1000 ∧ ((r.2.waited + r.2.reading : Nat) : Int) = 1000 * 1000 := by
  obtain ⟨hwithin, -, htimes⟩ := @serialRead_timeout false (List.replicate 4 0) 1000
    [.delivers 10 0 1, .delivers 20 0 2] [1, 2, 3] (by decide)
  obtain ⟨-, hspent⟩ := htimes (by decide)
  exact ⟨hwithin, hspent 3 rfl rfl (by decide)⟩

/-! ## One call after the other -/

/-- What a call takes from the line. -/
theorem readOnce_moves (line : List Byte) (c : ReadCall) :
    ∃ got, line = got ++ (readOnce line c).2 ∧ got.length ≤ c.buf.length ∧
      (readOnce line c).1.2 = got ++ c.buf.drop got.length ∧
      ((readOnce line c).1.1.isReturned = true → handed (readOnce line c).1 = got) := by
  unfold readOnce serialRead
  generalize hs : ReadState.mk (if c.timeoutMs < 0 then none else some (tvTimeout c.timeoutMs).toNat) c.buf
    0 line 0 0 = s
  have hread : s.bytesRead = 0 := by rw [← hs]
  have hbuf : s.buf = c.buf := by rw [← hs]
  have hline : s.line = line := by rw [← hs]
  obtain ⟨got, hmoves⟩ := @readLoop_moves c.useTermiosTimeout c.events s
    (by rw [hread]; exact Nat.zero_le _) (fun _ => hread)
  generalize readLoop c.useTermiosTimeout c.events s = r at hmoves
  have hroom : got.length ≤ c.buf.length := by
    have h := hmoves.room
    rw [hread, hbuf] at h
    omega
  have hend : r.2.buf = got ++ c.buf.drop got.length := by
    rw [hmoves.buf, hread, hbuf]
    simp [stored]
  refine ⟨got, by rw [← hmoves.line, hline], hroom, hend, ?_⟩
  intro hret
  cases ho : r.1 with
  | failed code e => rw [ho] at hret; cases hret
  | blocked => rw [ho] at hret; cases hret
  | returned n =>
    have hn := hmoves.count n ho
    simp only [handed, ho]
    rw [hend, hn, hread, Nat.zero_add, List.take_left]

/-- What the calls take from the line, call by call. -/
theorem reads_move (line : List Byte) (calls : List ReadCall) :
    ∃ pieces : List (List Byte), line = pieces.flatten ++ (run readOnce line calls).2 ∧
      List.Forall₂ (fun piece r => r.1.isReturned = true → handed r = piece) pieces
        (run readOnce line calls).1 := by
  induction calls generalizing line with
  | nil => exact ⟨[], rfl, List.Forall₂.nil⟩
  | cons c calls ih =>
    obtain ⟨got, hline, -, -, hhanded⟩ := readOnce_moves line c
    obtain ⟨pieces, hrest, hpieces⟩ := ih (readOnce line c).2
    refine ⟨got :: pieces, ?_, List.Forall₂.cons hhanded hpieces⟩
    rw [List.flatten_cons, List.append_assoc, run_cons, ← hrest]
    exact hline

/-- Calls that all return hand on all the pieces. -/
theorem handed_pieces {pieces : List (List Byte)} {rs : List (Outcome × List Byte)}
    (h : List.Forall₂ (fun piece r => r.1.isReturned = true → handed r = piece) pieces rs)
    (hret : ∀ r ∈ rs, r.1.isReturned = true) : rs.map handed = pieces := by
  induction h with
  | nil => rfl
  | cons hhead _ ih =>
    rw [List.map_cons, hhead (hret _ List.mem_cons_self),
      ih fun r hr => hret r (List.mem_cons_of_mem _ hr)]

/-- **Reads hand on the line byte for byte**: when calls of `serial_read`, one after the other, all
return, then the bytes that they hand to their callers, together with what is left, are the bytes of the
line. -/
theorem reads_hand_on (line : List Byte) (calls : List ReadCall)
    (h : ∀ r ∈ (run readOnce line calls).1, r.1.isReturned = true) :
    ((run readOnce line calls).1.map handed).flatten ++ (run readOnce line calls).2 = line := by
  obtain ⟨pieces, hline, hpieces⟩ := reads_move line calls
  rw [handed_pieces hpieces h]
  exact hline.symm

/-- Two reads of a line, the first of which has a timeout. -/
theorem reads_hand_on_two :
    let calls := [⟨false, [0, 0, 0], 100, [.delivers 1 0 2]⟩, ⟨false, [0], -1, [.delivers 7 0 5]⟩]
    ((run readOnce [1, 2, 3, 4] calls).1.map handed).flatten ++ (run readOnce [1, 2, 3, 4] calls).2 =
      [1, 2, 3, 4] :=
  reads_hand_on [1, 2, 3, 4] _ (by decide)

end DiscoveryDemo.Periphery.Serial
