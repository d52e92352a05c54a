import DiscoveryDemo.CLib.Buffer
import DiscoveryDemo.CLib.Proofs.StreamProofs

/-!
# Proofs: string functions on buffers

What the string functions give on an array whose contents are known around the place they look at:
a prefix that ends where the pointer points, a string, its terminator, and whatever follows.
-/

namespace CLib

theorem cString_append {s : List Byte} (hs : NUL ∉ s) (rest : List Byte) :
    cString (s ++ NUL :: rest) = .ok s := by
  induction s with
  | nil => simp [cString]
  | cons c s ih =>
    obtain ⟨hc, hs⟩ := not_or.mp (mt List.mem_cons.mpr hs)
    simp [cString, Ne.symm hc, ih hs, Except.map]

/-- The string at the head of a terminated list is the part before the first NUL. -/
theorem cString_terminated (l rest : List Byte) :
    cString (l ++ NUL :: rest) = .ok (l.takeWhile (· ≠ NUL)) := by
  induction l with
  | nil => simp [cString]
  | cons c l ih =>
    by_cases hc : c = NUL
    · simp [cString, hc]
    · simp [cString, hc, ih, Except.map]

theorem cString_noNul {l s : List Byte} (h : cString l = .ok s) : NUL ∉ s := by
  induction l generalizing s with
  | nil => cases h
  | cons c l ih =>
    by_cases hc : c = NUL
    · simp only [cString, hc, if_true] at h
      cases h
      simp
    · simp only [cString, hc, if_false] at h
      cases ht : cString l with
      | error f => rw [ht] at h; cases h
      | ok t =>
        rw [ht] at h
        cases h
        have := ih ht
        simp [Ne.symm hc, this]

/-- A terminated list has a byte that is not `c`, so the loop stops. -/
theorem countWhile_terminated {c : Byte} (hc : c ≠ NUL) (l rest : List Byte) :
    countWhile c (l ++ NUL :: rest) = .ok (l.takeWhile (· = c)).length := by
  induction l with
  | nil => simp [countWhile, Ne.symm hc]
  | cons x l ih =>
    by_cases hx : x = c
    · simp [countWhile, hx, ih, Except.map]
    · simp [countWhile, hx]

theorem notMem_replicate {x c : Byte} (h : x ≠ c) (m : Nat) : x ∉ List.replicate m c := by
  intro hm
  exact h (List.eq_of_mem_replicate hm)

theorem notMem_takeWhile (x : Byte) (l : List Byte) : x ∉ l.takeWhile (· ≠ x) := by
  intro h
  simpa using List.mem_takeWhile_imp h

theorem takeWhile_ne_of_notMem {x : Byte} {l : List Byte} (h : x ∉ l) :
    l.takeWhile (· ≠ x) = l := by
  rw [List.takeWhile_eq_self_iff]
  intro y hy
  have hne : y ≠ x := fun e => h (e ▸ hy)
  simpa using hne

theorem takeWhile_ne_append {x : Byte} {l : List Byte} (h : x ∉ l) (rest : List Byte) :
    (l ++ x :: rest).takeWhile (· ≠ x) = l := by
  rw [List.takeWhile_append, takeWhile_ne_of_notMem h]
  simp

theorem drop_string {α : Type} {l : List α} {k : Nat} (hk : k = l.length) (x : α) (rest : List α) :
    (l ++ x :: rest).drop (k + 1) = rest := by
  subst hk
  rw [List.append_cons]
  exact List.drop_left' (by simp)

namespace Buf

variable {n : Nat}

/-! ## Reading and writing in the middle of a known array -/

section Middle

variable {b : Buf n} {pre rest : List Byte} {c : Byte}

theorem read_middle (h : b.bytes = pre ++ c :: rest) {i : Int} (hi : i = pre.length) :
    b.read i = .ok c := by
  subst hi
  simp [read, h]

theorem write_middle (h : b.bytes = pre ++ c :: rest) {i : Int} (hi : i = pre.length) (x : Byte) :
    ∃ b', b.write i x = .ok b' ∧ b'.bytes = pre ++ x :: rest := by
  have hlen := b.length_eq
  rw [h] at hlen
  simp at hlen
  subst hi
  refine ⟨⟨b.bytes.set pre.length x, by simp [b.length_eq]⟩, ?_, ?_⟩
  · unfold write
    rw [if_pos ⟨by omega, by omega⟩]
    simp
  · simp [h]

theorem read_natCast {i : Nat} (h : b.bytes[i]? = some c) : b.read (i : Nat) = .ok c := by
  simp [read, h]

theorem read_neg {i : Int} (hi : i < 0) : b.read i = .error (.outOfBounds i) := by
  unfold read
  rw [if_neg (by omega)]

end Middle

/-! ## Strings -/

section Strings

variable {b : Buf n} {pre s rest : List Byte}

theorem str_middle (h : b.bytes = pre ++ (s ++ NUL :: rest)) {p : Nat} (hp : p = pre.length)
    (hs : NUL ∉ s) : b.str p = .ok s := by
  subst hp
  simp [str, h, cString_append hs]

/-- A string that ends before or at a terminator does not depend on what follows it. -/
theorem str_congr {m : Nat} {b' : Buf m} {l rest' : List Byte} (h : b.bytes = l ++ NUL :: rest)
    (h' : b'.bytes = l ++ NUL :: rest') {p : Nat} (hp : p ≤ l.length) : b'.str p = b.str p := by
  simp only [str, h, h', List.drop_append_of_le_length hp, cString_terminated]

theorem strlen_eq {p : Nat} (h : b.str p = .ok s) : b.strlen p = .ok s.length := by
  simp [strlen, h, Except.map]

theorem strchr_eq {p : Nat} (h : b.str p = .ok s) (c : Byte) :
    b.strchr p c = .ok (if c ∈ s then some (p + s.idxOf c) else none) := by
  simp [strchr, h, Except.map]

theorem strcspn_eq {p : Nat} (h : b.str p = .ok s) (c : Byte) :
    b.strcspn p c = .ok (s.takeWhile (· ≠ c)).length := by
  simp [strcspn, h, Except.map]

theorem streq_eq {p : Nat} (h : b.str p = .ok s) (t : CStr) :
    b.streq p t = .ok (decide (s = t.chars)) := by
  simp [streq, h, Except.map]

theorem Holds.str (h : b.Holds s) : b.str 0 = .ok s := by
  obtain ⟨hs, rest, hb⟩ := h
  have hb' : b.bytes = [] ++ (s ++ NUL :: rest) := hb
  exact str_middle hb' rfl hs

theorem Holds.take (h : b.Holds s) : b.bytes.take s.length = s := by
  obtain ⟨-, rest, hb⟩ := h
  rw [hb, List.take_left]

/-- `b[strcspn(b, "c")] = 0` cuts the string before the first `c`. -/
theorem Holds.cut_at (h : b.Holds s) (c : Byte) :
    ∃ e b', b.strcspn 0 c = .ok e ∧ b.write (e : Nat) NUL = .ok b' ∧
      b'.Holds (s.takeWhile (· ≠ c)) := by
  obtain ⟨hs, rest, hb⟩ := id h
  have hsplit := List.takeWhile_append_dropWhile (p := fun x => decide (x ≠ c)) (l := s)
  -- the byte that is overwritten is the first `c` or the terminator
  obtain ⟨x, rest', hx⟩ : ∃ x rest', s.dropWhile (· ≠ c) ++ NUL :: rest = x :: rest' := by
    cases s.dropWhile (· ≠ c) with
    | nil => exact ⟨NUL, rest, rfl⟩
    | cons x l => exact ⟨x, l ++ NUL :: rest, rfl⟩
  have hmid : b.bytes = s.takeWhile (· ≠ c) ++ x :: rest' := by
    rw [hb, ← hx, ← List.append_assoc, hsplit]
  obtain ⟨b', hw, hb'⟩ := write_middle hmid rfl NUL
  exact ⟨_, b', strcspn_eq h.str c, hw, fun hm => hs ((List.takeWhile_prefix _).subset hm), rest', hb'⟩

theorem holds_zeroed (hn : 0 < n) : (zeroed n).Holds [] := by
  refine ⟨by simp, List.replicate (n - 1) NUL, ?_⟩
  rw [List.nil_append, ← List.replicate_succ]
  simp [zeroed, Nat.sub_add_cancel hn]

/-- `strncpy(b, s, sizeof b - 1)` followed by `b[sizeof b - 1] = 0` leaves what fits of `s`. -/
theorem strncpy_terminate {k : Nat} (b : Buf (k + 1)) {s : List Byte} (hs : NUL ∉ s) :
    ∃ b1 b2, b.strncpy s k = .ok b1 ∧ b1.write (k : Nat) NUL = .ok b2 ∧ b2.Holds (s.take k) := by
  have hlen : (s.take k ++ List.replicate (k - s.length) NUL).length = k := by
    simp
    omega
  have hdrop : ∃ x, b.bytes.drop k = [x] := by
    apply List.length_eq_one_iff.mp
    simp [b.length_eq]
  obtain ⟨x, hx⟩ := hdrop
  refine ⟨b.store (s.take k ++ List.replicate (k - s.length) NUL), ?_⟩
  have hb : (b.store (s.take k ++ List.replicate (k - s.length) NUL)).bytes =
      (s.take k ++ List.replicate (k - s.length) NUL) ++ x :: [] := by
    rw [store_bytes _ _ (by omega), hlen, hx]
  obtain ⟨b2, hw, hb2⟩ := write_middle hb (by rw [hlen] : ((k : Nat) : Int) = _) NUL
  refine ⟨b2, by simp [strncpy], hw, fun h => hs (List.mem_of_mem_take h), ?_⟩
  rw [hb2]
  cases hk : k - s.length with
  | zero => exact ⟨[], by simp⟩
  | succ m => exact ⟨List.replicate m NUL ++ [NUL], by simp [List.replicate_succ]⟩

theorem snprintf_holds (b : Buf n) (hn : 0 < n) {s : List Byte} (hs : NUL ∉ s) :
    (b.snprintf s).Holds (s.take (n - 1)) := by
  refine ⟨fun h => hs (List.mem_of_mem_take h), ?_⟩
  unfold snprintf
  rw [store_bytes _ _ (by simp; omega), List.append_assoc]
  exact ⟨_, rfl⟩

end Strings

/-! ## What is left alone -/

theorem AgreeFrom.trans {k : Nat} {b b1 b2 : Buf n} (h : AgreeFrom k b b1) (h' : AgreeFrom k b1 b2) :
    AgreeFrom k b b2 := Eq.trans h' h

theorem AgreeFrom.mono {k m : Nat} {b b' : Buf n} (h : AgreeFrom k b b') (hk : k ≤ m) :
    AgreeFrom m b b' := by
  have hdrop := congrArg (List.drop (m - k)) h
  simp only [List.drop_drop, Nat.add_sub_cancel' hk] at hdrop
  exact hdrop

theorem AgreeFrom.str {p : Nat} {b b' : Buf n} (h : AgreeFrom p b b') : b'.str p = b.str p :=
  congrArg cString h

/-- Strings of one length leave the same behind their terminators. -/
theorem agreeFrom_string {b b' : Buf n} {s s' rest : List Byte} (h : b.bytes = s ++ NUL :: rest)
    (h' : b'.bytes = s' ++ NUL :: rest) (hlen : s.length = s'.length) :
    AgreeFrom (s.length + 1) b b' := by
  show b'.bytes.drop (s.length + 1) = b.bytes.drop (s.length + 1)
  rw [h, h', drop_string hlen, drop_string rfl]

/-- After a successful `fgets` the array holds the chunk, up to its first NUL if it has one; what
stands behind the chunk and its terminator is still there. -/
theorem fgets_holds {b : Buf n} {s : List Byte} (hn : 2 ≤ n) (hs : s ≠ []) :
    ∃ b', fgets b s = some (b', (takeLine NL (n - 1) s).2) ∧
      b'.Holds ((takeLine NL (n - 1) s).1.takeWhile (· ≠ NUL)) ∧
      AgreeFrom ((takeLine NL (n - 1) s).1.length + 1) b b' := by
  obtain ⟨b', hf, hb⟩ := fgets_eq (b := b) hn hs
  refine ⟨b', hf, ⟨notMem_takeWhile _ _, ?_⟩, ?_⟩
  · rw [hb]
    generalize (takeLine NL (n - 1) s).1 = l
    by_cases hmem : NUL ∈ l
    · obtain ⟨u, v, rfl, hu⟩ := List.eq_append_cons_of_mem hmem
      rw [takeWhile_ne_append hu]
      exact ⟨v ++ NUL :: b.bytes.drop ((u ++ NUL :: v).length + 1), by simp⟩
    · rw [takeWhile_ne_of_notMem hmem]
      exact ⟨_, rfl⟩
  · show b'.bytes.drop _ = b.bytes.drop _
    rw [hb, drop_string rfl]

/-! ## Loops -/

/-- `for (i = k; i < k + m; i++) b[i] = g(i);` replaces `m` bytes from index `k` on. -/
theorem foldlM_write {g : Nat → Except Fault Byte} {f : Nat → Byte} {k m : Nat} {b : Buf n}
    {pre mid post : List Byte} (hg : ∀ i ∈ List.range' k m, g i = .ok (f i))
    (h : b.bytes = pre ++ (mid ++ post)) (hpre : pre.length = k) (hmid : mid.length = m) :
    ∃ b', (List.range' k m).foldlM (fun b i => do b.write (i : Nat) (← g i)) b = .ok b' ∧
      b'.bytes = pre ++ ((List.range' k m).map f ++ post) := by
  induction m generalizing k b pre mid with
  | zero =>
    obtain rfl := List.length_eq_zero_iff.mp hmid
    exact ⟨b, rfl, h⟩
  | succ m ih =>
    obtain ⟨c, mid, rfl⟩ := List.exists_cons_of_length_eq_add_one hmid
    have hmiddle : b.bytes = pre ++ c :: (mid ++ post) := h
    obtain ⟨b1, hw, hb1⟩ := write_middle hmiddle (i := (k : Nat)) (by rw [hpre]) (f k)
    rw [List.range'_succ, List.foldlM_cons]
    have hk : g k = .ok (f k) := hg k (by simp)
    have hrest : b1.bytes = (pre ++ [f k]) ++ (mid ++ post) := by
      rw [hb1]
      simp
    have hg' : ∀ i ∈ List.range' (k + 1) m, g i = .ok (f i) := fun i hi =>
      hg i (by rw [List.range'_succ]; exact List.mem_cons_of_mem k hi)
    obtain ⟨b2, hrun, hb2⟩ := ih hg' hrest (by simp [hpre]) (by simpa using hmid)
    refine ⟨b2, ?_, by rw [hb2]; simp⟩
    simp only [hk, hw, bind, Except.bind]
    exact hrun

end Buf

end CLib
