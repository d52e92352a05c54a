import DiscoveryDemo.CLib.Stream

/-!
# Proofs: chunks and physical lines

One call takes a prefix of the stream, the successive calls cut the stream into chunks, and the
chunks start afresh at every line start. `line_induction` is induction over the physical lines.
-/

namespace CLib

section Split

variable {α : Type} [DecidableEq α] {nl : α}

/-! ## One call -/

theorem takeLine_append (room : Nat) (s : List α) :
    (takeLine nl room s).1 ++ (takeLine nl room s).2 = s := by
  induction room generalizing s with
  | zero => simp [takeLine]
  | succ room ih =>
    cases s with
    | nil => simp [takeLine]
    | cons c s =>
      by_cases hc : c = nl
      · simp [takeLine, hc]
      · simp [takeLine, hc, ih s]

theorem takeLine_length_le (room : Nat) (s : List α) : (takeLine nl room s).1.length ≤ room := by
  induction room generalizing s with
  | zero => simp [takeLine]
  | succ room ih =>
    cases s with
    | nil => simp [takeLine]
    | cons c s =>
      by_cases hc : c = nl
      · simp [takeLine, hc]
      · simpa [takeLine, hc] using ih s

/-- A call with room for a character takes nothing only at the end of the stream. -/
theorem takeLine_ne_nil {room : Nat} {s : List α} (hr : 0 < room) (hs : s ≠ []) :
    (takeLine nl room s).1 ≠ [] := by
  obtain ⟨c, t, rfl⟩ := List.exists_cons_of_ne_nil hs
  obtain ⟨r, rfl⟩ := Nat.exists_eq_succ_of_ne_zero hr.ne'
  by_cases hc : c = nl <;> simp [takeLine, hc]

theorem takeLine_rest_length_lt {room : Nat} {s : List α} (hr : 0 < room) (hs : s ≠ []) :
    (takeLine nl room s).2.length < s.length := by
  have hne : (takeLine nl room s).1 ≠ [] := takeLine_ne_nil hr hs
  have hpos := List.length_pos_iff.mpr hne
  have hlen := takeLine_length nl room s
  omega

/-- A line that fits, with its newline, is taken whole. -/
theorem takeLine_line {room : Nat} {w : List α} (t : List α) (hw : nl ∉ w) (hr : w.length < room) :
    takeLine nl room (w ++ nl :: t) = (w ++ [nl], t) := by
  induction w generalizing room with
  | nil =>
    obtain ⟨r, rfl⟩ := Nat.exists_eq_succ_of_ne_zero (by omega : room ≠ 0)
    simp [takeLine]
  | cons c w ih =>
    obtain ⟨r, rfl⟩ := Nat.exists_eq_succ_of_ne_zero (by omega : room ≠ 0)
    obtain ⟨hc, hw⟩ := not_or.mp (mt List.mem_cons.mpr hw)
    simp [takeLine, Ne.symm hc, ih hw (by simpa using hr)]

/-- A line with no room for its newline is cut. -/
theorem takeLine_long {room : Nat} {w : List α} (t : List α) (hw : nl ∉ w) (hr : room ≤ w.length) :
    takeLine nl room (w ++ t) = (w.take room, w.drop room ++ t) := by
  induction room generalizing w with
  | zero => simp [takeLine]
  | succ room ih =>
    cases w with
    | nil => simp at hr
    | cons c w =>
      obtain ⟨hc, hw⟩ := not_or.mp (mt List.mem_cons.mpr hw)
      simp [takeLine, Ne.symm hc, ih hw (by simpa using hr)]

theorem takeLine_last {room : Nat} {w : List α} (hw : nl ∉ w) (hr : w.length ≤ room) :
    takeLine nl room w = (w, []) := by
  induction room generalizing w with
  | zero => simp [takeLine, List.length_eq_zero_iff.mp (Nat.le_zero.mp hr)]
  | succ room ih =>
    cases w with
    | nil => simp [takeLine]
    | cons c w =>
      obtain ⟨hc, hw⟩ := not_or.mp (mt List.mem_cons.mpr hw)
      simp [takeLine, Ne.symm hc, ih hw (by simpa using hr)]

/-! ## The chunks of a stream -/

omit [DecidableEq α] in
theorem consHead_ne_nil (c : α) (ls : List (List α)) : consHead c ls ≠ [] := by
  cases ls <;> simp [consHead]

omit [DecidableEq α] in
theorem consHead_append {c : α} {ls : List (List α)} (h : ls ≠ []) (ms : List (List α)) :
    consHead c (ls ++ ms) = consHead c ls ++ ms := by
  obtain ⟨l, ls, rfl⟩ := List.exists_cons_of_ne_nil h
  simp [consHead]

theorem chunksFrom_ne_nil {cap room : Nat} {s : List α} (hs : s ≠ []) :
    chunksFrom nl cap room s ≠ [] := by
  obtain ⟨c, t, rfl⟩ := List.exists_cons_of_ne_nil hs
  unfold chunksFrom
  split
  · simp
  · exact consHead_ne_nil _ _

@[simp] theorem chunks_nil (cap : Nat) : chunks nl cap ([] : List α) = [] := rfl

/-- The first chunk is what one call takes, the others are the chunks of the rest. -/
theorem chunksFrom_eq_takeLine {cap room : Nat} {s : List α} (hr : 0 < room) (hs : s ≠ []) :
    chunksFrom nl cap room s = (takeLine nl room s).1 :: chunks nl cap (takeLine nl room s).2 := by
  induction s generalizing room with
  | nil => exact absurd rfl hs
  | cons c s ih =>
    obtain ⟨r, rfl⟩ := Nat.exists_eq_succ_of_ne_zero hr.ne'
    by_cases hc : c = nl
    · simp [chunksFrom, takeLine, hc, chunks]
    · cases r with
      | zero => simp [chunksFrom, takeLine, chunks, hc]
      | succ r =>
        cases s with
        | nil => simp [chunksFrom, takeLine, consHead, hc]
        | cons d s =>
          have hrest := ih (Nat.succ_pos r) (List.cons_ne_nil d s)
          rw [chunksFrom, if_neg (by simp [hc]), takeLine, if_neg hc]
          simp only [Nat.succ_eq_add_one, Nat.add_sub_cancel, hrest, consHead]

theorem chunks_eq_takeLine {cap : Nat} {s : List α} (hcap : 0 < cap) (hs : s ≠ []) :
    chunks nl cap s = (takeLine nl cap s).1 :: chunks nl cap (takeLine nl cap s).2 :=
  chunksFrom_eq_takeLine hcap hs

theorem chunks_line {cap : Nat} {w : List α} (t : List α) (hw : nl ∉ w) (hlen : w.length < cap) :
    chunks nl cap (w ++ nl :: t) = (w ++ [nl]) :: chunks nl cap t := by
  rw [chunks_eq_takeLine (by omega) (by simp), takeLine_line t hw hlen]

theorem chunks_last {cap : Nat} {w : List α} (hw : nl ∉ w) (hne : w ≠ []) (hlen : w.length ≤ cap) :
    chunks nl cap w = [w] := by
  have := List.length_pos_iff.mpr hne
  rw [chunks_eq_takeLine (by omega) hne, takeLine_last hw hlen, chunks_nil]

/-- A line that does not fit is cut after `cap` characters, and goes on in the next chunk. -/
theorem chunks_long {cap : Nat} {w : List α} (t : List α) (hcap : 0 < cap) (hw : nl ∉ w)
    (hlen : cap ≤ w.length) :
    chunks nl cap (w ++ t) = w.take cap :: chunks nl cap (w.drop cap ++ t) := by
  have hne : w ++ t ≠ [] := by
    intro h
    rw [(List.append_eq_nil_iff.mp h).1] at hlen
    simp at hlen
    omega
  rw [chunks_eq_takeLine hcap hne, takeLine_long t hw hlen]

omit [DecidableEq α] in
theorem AtLineStart.of_cons {c : α} {p : List α} (h : AtLineStart nl (c :: p)) (hp : p ≠ []) :
    p.getLast? = some nl := by
  rcases h with h | h
  · exact absurd h (by simp)
  · rwa [List.getLast?_cons_of_ne_nil hp] at h

theorem chunksFrom_append {cap room : Nat} {p : List α} (s : List α) (hp : p.getLast? = some nl) :
    chunksFrom nl cap room (p ++ s) = chunksFrom nl cap room p ++ chunks nl cap s := by
  induction p generalizing room with
  | nil => simp at hp
  | cons c p ih =>
    by_cases hpn : p = []
    · subst hpn
      have hc : c = nl := by simpa using hp
      simp [chunksFrom, hc, chunks]
    · have hlast := AtLineStart.of_cons (Or.inr hp) hpn
      simp only [List.cons_append, chunksFrom, ih hlast]
      split
      · simp
      · exact consHead_append (chunksFrom_ne_nil hpn) _

/-- The chunks start afresh at the beginning of a line. -/
theorem chunks_append {cap : Nat} {p : List α} (s : List α) (hp : AtLineStart nl p) :
    chunks nl cap (p ++ s) = chunks nl cap p ++ chunks nl cap s := by
  rcases hp with rfl | hp
  · simp
  · exact chunksFrom_append s hp

/-- The chunks are the stream. -/
theorem chunks_flatten {cap : Nat} (hcap : 0 < cap) (s : List α) : (chunks nl cap s).flatten = s := by
  induction h : s.length using Nat.strong_induction_on generalizing s with
  | _ n ih =>
    by_cases hs : s = []
    · simp [hs]
    · rw [chunks_eq_takeLine hcap hs, List.flatten_cons,
        ih _ (h ▸ takeLine_rest_length_lt hcap hs) _ rfl, takeLine_append]

/-! ## Physical lines -/

theorem physLines_line {w : List α} (t : List α) (hw : nl ∉ w) :
    physLines nl (w ++ nl :: t) = w :: physLines nl t := by
  induction w with
  | nil => simp [physLines]
  | cons c w ih =>
    obtain ⟨hc, hw⟩ := not_or.mp (mt List.mem_cons.mpr hw)
    simp [physLines, Ne.symm hc, ih hw, consHead]

theorem physLines_last {w : List α} (hw : nl ∉ w) (hne : w ≠ []) : physLines nl w = [w] := by
  induction w with
  | nil => exact absurd rfl hne
  | cons c w ih =>
    obtain ⟨hc, hw⟩ := not_or.mp (mt List.mem_cons.mpr hw)
    by_cases hwn : w = []
    · simp [physLines, Ne.symm hc, hwn, consHead]
    · simp [physLines, Ne.symm hc, ih hw hwn, consHead]

theorem terminatedLines_line {w : List α} (t : List α) (hw : nl ∉ w) :
    terminatedLines nl (w ++ nl :: t) = w :: terminatedLines nl t := by
  induction w with
  | nil => simp [terminatedLines]
  | cons c w ih =>
    obtain ⟨hc, hw⟩ := not_or.mp (mt List.mem_cons.mpr hw)
    simp [terminatedLines, Ne.symm hc, ih hw]

theorem terminatedLines_last {w : List α} (hw : nl ∉ w) : terminatedLines nl w = [] := by
  induction w with
  | nil => rfl
  | cons c w ih =>
    obtain ⟨hc, hw⟩ := not_or.mp (mt List.mem_cons.mpr hw)
    simp [terminatedLines, Ne.symm hc, ih hw]

/-- Induction over the physical lines of a stream. -/
@[elab_as_elim]
theorem line_induction {P : List α → Prop} (nl : α) (nil : P [])
    (last : ∀ w, w ≠ [] → nl ∉ w → P w) (line : ∀ w t, nl ∉ w → P t → P (w ++ nl :: t))
    (s : List α) : P s := by
  induction h : s.length using Nat.strong_induction_on generalizing s with
  | _ n ih =>
    by_cases hmem : nl ∈ s
    · obtain ⟨w, t, rfl, hw⟩ := List.eq_append_cons_of_mem hmem
      exact line w t hw (ih t.length (by rw [← h]; simp; omega) t rfl)
    · by_cases hs : s = []
      · exact hs ▸ nil
      · exact last s hs hmem

/-! ## Where in a line the chunks begin -/

section Heads

variable {cap : Nat} {w tail : List α} {c : α}

/-- The end of a line: nothing, or the newline. -/
def LineEnd (nl : α) (tail : List α) : Prop := tail = [] ∨ tail = [nl]

omit [DecidableEq α] in
theorem head?_append_lineEnd (ht : LineEnd nl tail) (hc : c ≠ nl) :
    (w ++ tail).head? = some c ↔ w.head? = some c := by
  cases w with
  | cons x w => rfl
  | nil =>
    rcases ht with rfl | rfl
    · rfl
    · simp [Ne.symm hc]

/-- A line is a first chunk and the ones that begin after a multiple of `cap` characters. -/
theorem chunks_line_cons (hcap : 0 < cap) (hw : nl ∉ w) (ht : LineEnd nl tail)
    (hne : w ++ tail ≠ []) :
    ∃ first late, chunks nl cap (w ++ tail) = first :: late ∧ first.head? = (w ++ tail).head? ∧
      (late = [] ∧ w.length ≤ cap ∨
        cap ≤ w.length ∧ late = chunks nl cap (w.drop cap ++ tail)) := by
  by_cases hlen : w.length < cap
  · refine ⟨w ++ tail, [], ?_, rfl, Or.inl ⟨rfl, hlen.le⟩⟩
    rcases ht with rfl | rfl
    · rw [List.append_nil] at hne ⊢
      exact chunks_last hw hne hlen.le
    · rw [chunks_line [] hw hlen, chunks_nil]
  · have hge : cap ≤ w.length := Nat.le_of_not_lt hlen
    refine ⟨w.take cap, chunks nl cap (w.drop cap ++ tail), chunks_long tail hcap hw hge, ?_,
      Or.inr ⟨hge, rfl⟩⟩
    cases w with
    | nil => simp at hge; omega
    | cons x w =>
      obtain ⟨m, rfl⟩ := Nat.exists_eq_succ_of_ne_zero hcap.ne'
      rfl

/-- The first characters of the chunks after the first one, from those of the rest of the line. -/
theorem late_head_of_rest {late : List (List α)}
    (hlate : late = [] ∧ w.length ≤ cap ∨
      cap ≤ w.length ∧ late = chunks nl cap (w.drop cap ++ tail))
    (hrest : (∃ x ∈ chunks nl cap (w.drop cap ++ tail), x.head? = some c) ↔
      ∃ k, (w.drop cap)[cap * k]? = some c) :
    (∃ x ∈ late, x.head? = some c) ↔ ∃ k, w[cap * (k + 1)]? = some c := by
  have hshift : ∀ k, (w.drop cap)[cap * k]? = w[cap * (k + 1)]? := by
    intro k
    rw [List.getElem?_drop, Nat.mul_succ, Nat.add_comm]
  rcases hlate with ⟨rfl, hlen⟩ | ⟨-, rfl⟩
  · have hnone : ∀ k, w[cap * (k + 1)]? = none := by
      intro k
      have hle : cap ≤ cap * (k + 1) := Nat.le_mul_of_pos_right _ (Nat.succ_pos k)
      exact List.getElem?_eq_none (by omega)
    simp [hnone]
  · rw [hrest]
    exact exists_congr fun k => by rw [hshift]

theorem exists_chunk_head_line (hcap : 0 < cap) (hw : nl ∉ w) (ht : LineEnd nl tail) (hc : c ≠ nl) :
    (∃ x ∈ chunks nl cap (w ++ tail), x.head? = some c) ↔ ∃ k, w[cap * k]? = some c := by
  induction h : w.length using Nat.strong_induction_on generalizing w with
  | _ n ih =>
    by_cases hwn : w = []
    · subst hwn
      rcases ht with rfl | rfl
      · simp
      · have hone : chunks nl cap ([] ++ [nl]) = [[] ++ [nl]] := chunks_line [] (by simp) hcap
        rw [hone]
        simp [Ne.symm hc]
    · have hne : w ++ tail ≠ [] := by simp [hwn]
      obtain ⟨first, late, hchunks, hfirst, hlate⟩ := chunks_line_cons hcap hw ht hne
      have hhead : first.head? = some c ↔ w[0]? = some c := by
        rw [hfirst, head?_append_lineEnd ht hc, List.head?_eq_getElem?]
      have hlt : (w.drop cap).length < n := by
        have := List.length_pos_iff.mpr hwn
        rw [List.length_drop]
        omega
      have hrest := late_head_of_rest hlate (ih _ hlt (fun hm => hw (List.mem_of_mem_drop hm)) rfl)
      rw [hchunks]
      constructor
      · rintro ⟨x, hx, hxc⟩
        rcases List.mem_cons.mp hx with rfl | hx
        · exact ⟨0, hhead.mp hxc⟩
        · obtain ⟨k, hk⟩ := hrest.mp ⟨x, hx, hxc⟩
          exact ⟨k + 1, hk⟩
      · rintro ⟨k, hk⟩
        cases k with
        | zero => exact ⟨first, List.mem_cons_self, hhead.mpr hk⟩
        | succ k =>
          obtain ⟨x, hx, hxc⟩ := hrest.mpr ⟨k, hk⟩
          exact ⟨x, List.mem_cons_of_mem first hx, hxc⟩

/-- The first characters of the chunks of a line after the first one. -/
theorem exists_late_head (hcap : 0 < cap) (hw : nl ∉ w) (ht : LineEnd nl tail) (hc : c ≠ nl)
    {late : List (List α)}
    (hlate : late = [] ∧ w.length ≤ cap ∨
      cap ≤ w.length ∧ late = chunks nl cap (w.drop cap ++ tail)) :
    (∃ x ∈ late, x.head? = some c) ↔ ∃ k, 0 < k ∧ w[cap * k]? = some c := by
  rw [late_head_of_rest hlate
    (exists_chunk_head_line hcap (fun hm => hw (List.mem_of_mem_drop hm)) ht hc)]
  constructor
  · rintro ⟨k, hk⟩
    exact ⟨k + 1, Nat.succ_pos k, hk⟩
  · rintro ⟨k, hk, hkc⟩
    obtain ⟨m, rfl⟩ := Nat.exists_eq_succ_of_ne_zero hk.ne'
    exact ⟨m, hkc⟩

/-- **The first characters of the chunks** of a stream are those of its lines at the multiples of
`cap`, and newlines. -/
theorem exists_chunk_head_iff (hcap : 0 < cap) (hc : c ≠ nl) (s : List α) :
    (∃ x ∈ chunks nl cap s, x.head? = some c) ↔
      ∃ l ∈ physLines nl s, ∃ k, l[cap * k]? = some c := by
  induction s using line_induction nl with
  | nil => simp [physLines]
  | last w hne hw =>
    have h := exists_chunk_head_line hcap hw (Or.inl rfl) hc
    rw [List.append_nil] at h
    simp [h, physLines_last hw hne]
  | line w t hw ih =>
    have hstart : AtLineStart nl (w ++ [nl]) := Or.inr (by simp)
    rw [List.append_cons, chunks_append t hstart, ← List.append_cons, physLines_line t hw]
    simp only [List.mem_append, List.mem_cons, or_and_right, exists_or, exists_eq_left]
    rw [exists_chunk_head_line hcap hw (Or.inr rfl) hc, ih]

/-- The beginning of a line is a line with the same first character. -/
theorem physLines_prefix {p : List α} (hw : nl ∉ w) (ht : LineEnd nl tail) (hne : p ≠ [])
    (hp : p <+: w ++ tail) : ∃ u, physLines nl p = [u] ∧ u.head? = w.head? := by
  by_cases hle : p.length ≤ w.length
  · have hpw : p <+: w := List.prefix_of_prefix_length_le hp (List.prefix_append w tail) hle
    have hnl : nl ∉ p := fun hm => hw (hpw.subset hm)
    refine ⟨p, physLines_last hnl hne, ?_⟩
    obtain ⟨u, rfl⟩ := hpw
    rw [List.head?_append_of_ne_nil _ hne]
  · have hlen := hp.length_le
    rcases ht with rfl | rfl
    · rw [List.append_nil] at hlen
      omega
    · rw [List.length_append, List.length_singleton] at hlen
      obtain rfl : p = w ++ [nl] := hp.eq_of_length (by simp; omega)
      exact ⟨w, physLines_line [] hw, rfl⟩

end Heads

end Split

/-! ## `fgets` -/

variable {n : Nat}

@[simp] theorem fgets_nil (b : Buf n) : fgets b [] = none := by
  cases h : n - 1 <;> simp [fgets, takeLine, h]

theorem Buf.store_bytes (b : Buf n) (s : List Byte) (h : s.length ≤ n) :
    (b.store s).bytes = s ++ b.bytes.drop s.length := by
  simp only [Buf.store]
  rw [List.take_of_length_le]
  simp [b.length_eq]
  omega

/-- A successful `fgets` takes a line, or as much of it as fits, and terminates it. -/
theorem fgets_eq {b : Buf n} {s : List Byte} (hn : 2 ≤ n) (hs : s ≠ []) :
    ∃ b', fgets b s = some (b', (takeLine NL (n - 1) s).2) ∧
      b'.bytes = (takeLine NL (n - 1) s).1 ++ NUL :: b.bytes.drop ((takeLine NL (n - 1) s).1.length + 1) := by
  have hne : (takeLine NL (n - 1) s).1 ≠ [] := takeLine_ne_nil (by omega) hs
  have hlen : (takeLine NL (n - 1) s).1.length ≤ n - 1 := takeLine_length_le _ _
  obtain ⟨c, l, hcl⟩ := List.exists_cons_of_ne_nil hne
  refine ⟨b.store ((takeLine NL (n - 1) s).1 ++ [NUL]), ?_, ?_⟩
  · unfold fgets
    rw [hcl]
    split <;> simp_all
  · rw [Buf.store_bytes _ _ (by simp; omega)]
    simp

end CLib
