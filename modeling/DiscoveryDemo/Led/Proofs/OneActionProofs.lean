import DiscoveryDemo.Led.Proofs.CommandLoopProofs

/-!
# Proofs: one action per line

The first chunk of a line does what the line asks for. The others should do nothing, but each of them
is taken for a line of its own: the character at position 15, 30, ... of a long line decides what it
does.
-/

namespace DiscoveryDemo.Ioexample1

open CLib

variable {w tail : List Byte} {first : List Byte} {late following : List (List Byte)}

/-- After `i` rounds the chunks have done what the lines ask for. -/
def Matches (i : Nat) (cs : List (List Byte)) : Prop :=
  chunkActions (readChunks i cs) = lineActions (readChunks i cs).flatten

/-! ## Within a line -/

/-- The newline at its end does not change what a line asks for. -/
theorem action_lineEnd (ht : LineEnd NL tail) : action (w ++ tail).head? = action w.head? := by
  cases w with
  | cons x w => rfl
  | nil =>
    rcases ht with rfl | rfl
    · rfl
    · rfl

/-- The beginning of a line asks for what the line asks for. -/
theorem lineActions_prefix {p : List Byte} (hw : NL ∉ w) (ht : LineEnd NL tail) (hne : p ≠ [])
    (hp : p <+: w ++ tail) : lineActions p = (action w.head?).toList := by
  obtain ⟨u, hu, hhead⟩ := physLines_prefix hw ht hne hp
  unfold lineActions
  rw [hu, ← hhead]
  cases h : action u.head? <;> simp [h]

theorem readChunks_prefix (i : Nat) (cs : List (List Byte)) : readChunks i cs <+: cs.take i := by
  induction cs generalizing i with
  | nil => simp
  | cons c cs ih =>
    cases i with
    | zero => simp [readChunks]
    | succ i =>
      rw [readChunks, List.take_succ_cons]
      split
      · simp
      · exact List.prefix_cons_inj c |>.mpr (ih i)

theorem readChunks_within (following : List (List Byte)) {i : Nat} (hi : i ≤ late.length) :
    readChunks i (late ++ following) <+: late := by
  have hread := readChunks_prefix i (late ++ following)
  rw [List.take_append_of_le_length hi] at hread
  exact hread.trans (List.take_prefix i late)

/-- Chunks that have done nothing had nothing to do. -/
theorem chunkActions_eq_nil {as : List (List Byte)} (bs : List (List Byte))
    (h : chunkActions (readChunks as.length (as ++ bs)) = []) :
    ∀ c ∈ as, action c.head? = none := by
  induction as with
  | nil => simp
  | cons c as ih =>
    rw [List.length_cons, List.cons_append, readChunks] at h
    by_cases hquit : action c.head? = some .quit
    · rw [if_pos hquit, chunkActions_cons, hquit] at h
      cases h
    · rw [if_neg hquit, chunkActions_cons, List.append_eq_nil_iff, Option.toList_eq_nil_iff] at h
      exact List.forall_mem_cons.mpr ⟨h.1, ih h.2⟩

theorem chunkActions_of_none {cs : List (List Byte)} (h : ∀ c ∈ cs, action c.head? = none) :
    chunkActions cs = [] := List.filterMap_eq_nil_iff.mpr h

/-! ## From line to line -/

/-- The chunks of a line: the pieces of `w ++ tail`, of which the first has its first character. -/
structure Pieces (w tail first : List Byte) (late : List (List Byte)) : Prop where
  noNewline : NL ∉ w
  lineEnd : LineEnd NL tail
  nonempty : first ≠ []
  head : action first.head? = action w.head?
  flatten : (first :: late).flatten = w ++ tail

/-- The first chunks of a line are the beginning of a line. -/
theorem Pieces.lineActions_take (h : Pieces w tail first late) {cs : List (List Byte)}
    (hcs : cs <+: late) : lineActions (first :: cs).flatten = (action w.head?).toList := by
  apply lineActions_prefix h.noNewline h.lineEnd
  · rw [List.flatten_cons]
    intro hnil
    exact h.nonempty (List.append_eq_nil_iff.mp hnil).1
  · obtain ⟨ds, rfl⟩ := hcs
    exact ⟨ds.flatten, by rw [← h.flatten]; simp⟩

/-- A line that quits is the last one that matters. -/
theorem matches_quit (h : Pieces w tail first late) (hquit : action w.head? = some .quit) (i : Nat) :
    Matches i (first :: late ++ following) := by
  unfold Matches
  cases i with
  | zero => rfl
  | succ i =>
    have hline := h.lineActions_take (List.nil_prefix (l := late))
    rw [List.cons_append, readChunks, if_pos (h.head.trans hquit), chunkActions_cons, h.head, hline]
    simp

section Line

variable (h : Pieces w tail first late) (hquit : action w.head? ≠ some .quit)

include h hquit

theorem readChunks_line (i : Nat) :
    readChunks (i + 1) (first :: late ++ following) = first :: readChunks i (late ++ following) := by
  have hfirst : action first.head? ≠ some .quit := h.head ▸ hquit
  rw [List.cons_append, readChunks, if_neg hfirst]

/-- As long as chunks of the line are read, those after the first one must do nothing. -/
theorem matches_within_line {i : Nat} (hi : i ≤ late.length) :
    Matches (i + 1) (first :: late ++ following) ↔
      chunkActions (readChunks i (late ++ following)) = [] := by
  rw [Matches, readChunks_line h hquit, h.lineActions_take (readChunks_within following hi),
    chunkActions_cons, h.head]
  exact List.append_right_eq_self

/-- Once the line has been read the rest is read like a stream of its own. -/
theorem matches_past_line (hlate : ∀ c ∈ late, action c.head? = none)
    (hnext : ∀ i, lineActions (w ++ tail ++ (readChunks i following).flatten) =
      (action w.head?).toList ++ lineActions (readChunks i following).flatten) (i : Nat) :
    Matches (late.length + i + 1) (first :: late ++ following) ↔ Matches i following := by
  have hnoquit : ∀ c ∈ late, action c.head? ≠ some .quit := by
    intro c hc
    rw [hlate c hc]
    simp
  have hflat : (first :: (late ++ readChunks i following)).flatten =
      w ++ tail ++ (readChunks i following).flatten := by
    rw [← h.flatten]
    simp
  unfold Matches
  rw [readChunks_line h hquit, readChunks_append _ _ hnoquit,
    List.take_of_length_le (Nat.le_add_right _ _), Nat.add_sub_cancel_left, hflat, hnext,
    chunkActions_cons, h.head]
  rw [chunkActions, List.filterMap_append, ← chunkActions, chunkActions_of_none hlate,
    List.nil_append, ← chunkActions, List.append_cancel_left_eq]

/-- **A line that does not quit**: what follows its first chunk must do nothing. -/
theorem matches_line_iff
    (hnext : ∀ i, lineActions (w ++ tail ++ (readChunks i following).flatten) =
      (action w.head?).toList ++ lineActions (readChunks i following).flatten) :
    (∀ i, Matches i (first :: late ++ following)) ↔
      (∀ c ∈ late, action c.head? = none) ∧ ∀ i, Matches i following := by
  constructor
  · intro hall
    have hlate : ∀ c ∈ late, action c.head? = none :=
      chunkActions_eq_nil following
        ((matches_within_line h hquit le_rfl).mp (hall (late.length + 1)))
    exact ⟨hlate, fun i => (matches_past_line h hquit hlate hnext i).mp (hall _)⟩
  · rintro ⟨hlate, hfollowing⟩ i
    cases i with
    | zero => rfl
    | succ i =>
      by_cases hi : i ≤ late.length
      · have hnone : ∀ c ∈ readChunks i (late ++ following), action c.head? = none :=
          fun c hc => hlate c ((readChunks_within following hi).subset hc)
        exact (matches_within_line h hquit hi).mpr (chunkActions_of_none hnone)
      · obtain ⟨j, rfl⟩ : ∃ j, i = late.length + j := ⟨i - late.length, by omega⟩
        exact (matches_past_line h hquit hlate hnext j).mpr (hfollowing j)

end Line

/-! ## The whole input -/

theorem exists_pieces (hw : NL ∉ w) (ht : LineEnd NL tail) (hne : w ++ tail ≠ []) :
    ∃ first late, chunks NL inputLength (w ++ tail) = first :: late ∧ Pieces w tail first late ∧
      ((∀ c ∈ late, action c.head? = none) ↔ ∀ k, 0 < k → action w[inputLength * k]? = none) := by
  have hcap : 0 < inputLength := by decide
  obtain ⟨first, late, hchunks, hfirst, hlate⟩ := chunks_line_cons hcap hw ht hne
  have hflat : (first :: late).flatten = w ++ tail := by
    rw [← hchunks, chunks_flatten hcap]
  have hhead : first ≠ [] := by
    rintro rfl
    rw [List.head?_nil, eq_comm, List.head?_eq_none_iff] at hfirst
    exact hne hfirst
  refine ⟨first, late, hchunks, ⟨hw, ht, hhead, ?_, hflat⟩, ?_⟩
  · rw [hfirst, action_lineEnd ht]
  · exact forall_action_none_iff fun x hx => exists_late_head hcap hw ht hx hlate

theorem noLateCommand_cons {stdin rest : List Byte}
    (hlines : physLines NL stdin = w :: physLines NL rest) :
    NoLateCommand stdin ↔ (action w.head? = some .quit ∨
      (∀ k, 0 < k → action w[inputLength * k]? = none) ∧ NoLateCommand rest) := by
  unfold NoLateCommand
  rw [hlines]
  by_cases hquit : action w.head? = some .quit
  · simp [hquit]
  · rw [List.takeWhile_cons_of_pos (by simpa using hquit), List.forall_mem_cons]
    simp [hquit]

/-- The chunks of the input do what its lines ask for exactly if no late chunk acts. -/
theorem matches_iff (stdin : List Byte) :
    (∀ i, Matches i (chunks NL inputLength stdin)) ↔ NoLateCommand stdin := by
  induction stdin using line_induction NL with
  | nil =>
    refine iff_of_true (fun i => ?_) ?_
    · unfold Matches
      rw [chunks_nil, readChunks_nil]
      rfl
    · simp [NoLateCommand, physLines]
  | last w hne hw =>
    have ht : LineEnd NL [] := Or.inl rfl
    obtain ⟨first, late, hchunks, hpieces, hlate⟩ := exists_pieces hw ht (by simpa using hne)
    have hlines : physLines NL w = w :: physLines NL [] := physLines_last hw hne
    rw [List.append_nil] at hchunks
    rw [hchunks, noLateCommand_cons hlines, ← hlate, ← List.append_nil (first :: late)]
    by_cases hquit : action w.head? = some .quit
    · exact iff_of_true (matches_quit hpieces hquit) (Or.inl hquit)
    · rw [matches_line_iff hpieces hquit]
      · have hnil : (∀ i, Matches i []) ↔ NoLateCommand [] := by
          refine iff_of_true (fun i => ?_) (by simp [NoLateCommand, physLines])
          unfold Matches
          rw [readChunks_nil]
          rfl
        rw [hnil, or_iff_right hquit]
      · intro i
        rw [readChunks_nil, List.flatten_nil, List.append_nil,
          lineActions_prefix hw ht (by simpa using hne) List.prefix_rfl]
        exact (List.append_nil _).symm
  | line w t hw ih =>
    have ht : LineEnd NL [NL] := Or.inr rfl
    obtain ⟨first, late, hchunks, hpieces, hlate⟩ := exists_pieces hw ht (by simp)
    have hstart : AtLineStart NL (w ++ [NL]) := Or.inr (by simp)
    rw [noLateCommand_cons (physLines_line t hw), List.append_cons, chunks_append t hstart, hchunks,
      ← hlate, ← ih]
    by_cases hquit : action w.head? = some .quit
    · exact iff_of_true (matches_quit hpieces hquit) (Or.inl hquit)
    · rw [matches_line_iff hpieces hquit, or_iff_right hquit]
      intro i
      unfold lineActions
      rw [← List.append_cons, physLines_line _ hw]
      cases h : action w.head? <;> simp [h]

/-- After `i` rounds the loop has done what the lines ask for exactly if its chunks match them; all
of the input is read in the end. -/
theorem oneActionPerLine_iff {results : Nat → Int} {s : LoopState} (hs : s.actions = []) :
    OneActionPerLine results s ↔ ∀ i, Matches i (chunks NL inputLength s.stdin) := by
  constructor
  · rintro ⟨hall, -⟩ i
    obtain ⟨pr, p, hrun, hp, hactions, -⟩ := hall i
    obtain ⟨input, rest, hrest, hrun'⟩ := run_reads results i s
    rw [hrun'] at hrun
    cases hrun
    rw [progress_state] at hp hactions
    have hcut : p = (readChunks i (chunks NL inputLength s.stdin)).flatten :=
      List.append_cancel_right (hp.symm.trans hrest)
    unfold Matches
    rw [← hcut, ← hactions]
    simp [LoopState.after, hs]
  · intro hall
    refine ⟨fun i => ?_, ?_⟩
    · obtain ⟨input, rest, hrest, hrun⟩ := run_reads results i s
      have hm := hall i
      unfold Matches at hm
      refine ⟨_, (readChunks i (chunks NL inputLength s.stdin)).flatten, hrun, ?_, ?_, ?_⟩
      · rw [progress_state]
        exact hrest
      · rw [progress_state, ← hm]
        simp [LoopState.after, hs]
      · rw [progress_state, ← hm]
        rfl
    · set cs := chunks NL inputLength s.stdin with hcs
      obtain ⟨input, rest, hrest, hrun⟩ := run_reads results cs.length s
      rw [← hcs] at hrest hrun
      refine ⟨_, _, hrun, ?_⟩
      by_cases hquit : .quit ∈ chunkActions cs
      · refine Or.inl ?_
        rw [progress_state, progress, if_pos ((quit_mem_readChunks cs).mpr hquit)]
      · refine Or.inr ?_
        have hno : ∀ c ∈ cs, action c.head? ≠ some .quit :=
          fun c hc ha => hquit (mem_chunkActions.mpr ⟨c, hc, ha⟩)
        have hread : readChunks cs.length cs = cs := by
          have := readChunks_append cs.length [] hno
          simpa using this
        rw [hread, hcs, chunks_flatten (by decide)] at hrest
        rw [progress_state]
        exact List.append_right_eq_self.mp hrest.symm

/-- **One action per line**, whatever the results of the write calls, exactly if in no line before
the first one that quits a command character stands at position 15, 30, ... -/
theorem loop_oneActionPerLine (results : Nat → Int) (input : InputBuf) (on : Bool)
    (stdin : List Byte) :
    OneActionPerLine results (start input on stdin) ↔ NoLateCommand stdin := by
  rw [oneActionPerLine_iff rfl]
  exact matches_iff stdin

/-- A line of 16 characters. -/
def longLine : List Byte := lit "1 means LED on!0\n"

/-- The last character of the line is taken for a command, and switches the LED off again. -/
theorem loop_longLine :
    NUL ∉ longLine ∧ lineActions longLine = [.write true] ∧
    (∃ s, run (fun _ => 0) 2 (start (Buf.zeroed _) false longLine) = .ok (.running s) ∧
      s.actions = [.write true, .write false] ∧ s.device.on = false) ∧
    ¬OneActionPerLine (fun _ => 0) (start (Buf.zeroed _) false longLine) := by
  refine ⟨by decide, by decide, ?_, ?_⟩
  · have hread : readChunks 2 (chunks NL inputLength longLine) =
      [lit "1 means LED on!", lit "0\n"] := by decide
    obtain ⟨input, rest, -, hrun⟩ := run_reads (fun _ => 0) 2 (start (Buf.zeroed _) false longLine)
    rw [show (start (Buf.zeroed _) false longLine).stdin = longLine from rfl, hread] at hrun
    exact ⟨_, hrun, rfl, rfl⟩
  · rw [oneActionPerLine_iff rfl]
    intro h
    have hlate := (matches_iff longLine).mp h (lit "1 means LED on!0") (by decide) 1 (by decide)
    exact absurd hlate (by decide)

end DiscoveryDemo.Ioexample1
