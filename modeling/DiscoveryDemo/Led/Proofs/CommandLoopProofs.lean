import DiscoveryDemo.Led.CommandLoop
import DiscoveryDemo.CLib.Proofs.BufferProofs

/-!
# Proofs: the command loop by chunks

A round of the loop is described by the chunk that `fgets` takes, and only by its first character. So
a run is described by the chunks that it reads, up to the first one that makes it quit.
-/

namespace DiscoveryDemo.Ioexample1

open CLib

variable {results : Nat → Int}

/-- The state after the actions `as`, with `stdin` still to be read. -/
def LoopState.after (results : Nat → Int) (s : LoopState) (input : InputBuf) (stdin : List Byte)
    (as : List Action) : LoopState :=
  { input := input, stdin := stdin, device := as.foldl (Device.perform results) s.device,
    actions := s.actions ++ as }

/-- The loop has ended if it has quit. -/
def progress (as : List Action) (s : LoopState) : Progress :=
  if .quit ∈ as then .exited s else .running s

@[simp] theorem progress_state (as : List Action) (s : LoopState) : (progress as s).state = s := by
  unfold progress
  split <;> rfl

/-- The actions that the chunks ask for. -/
def chunkActions (cs : List (List Byte)) : List Action := cs.filterMap fun c => action c.head?

/-- The chunks that `i` rounds read. -/
def readChunks : Nat → List (List Byte) → List (List Byte)
  | 0, _ => []
  | _ + 1, [] => []
  | i + 1, c :: cs => if action c.head? = some .quit then [c] else c :: readChunks i cs

@[simp] theorem chunkActions_cons (c : List Byte) (cs : List (List Byte)) :
    chunkActions (c :: cs) = (action c.head?).toList ++ chunkActions cs := by
  unfold chunkActions
  cases h : action c.head? <;> simp [h]

@[simp] theorem chunkActions_nil : chunkActions [] = [] := rfl

theorem quit_mem_toList (c : List Byte) :
    Action.quit ∈ (action c.head?).toList ↔ action c.head? = some .quit := by
  rw [Option.mem_toList]

@[simp] theorem readChunks_nil (i : Nat) : readChunks i [] = [] := by
  cases i <;> rfl

/-! ## One round -/

theorem iteration_endOfFile {s : LoopState} (h : s.stdin = []) :
    iteration results s = .ok (.running s) := by
  unfold iteration
  rw [h]
  rfl

variable (results) in
/-- **One round** with the chunk `c`. -/
theorem iteration_chunk {s : LoopState} {c rest : List Byte}
    (h : takeLine NL inputLength s.stdin = (c, rest)) (hne : s.stdin ≠ []) :
    ∃ input, iteration results s =
      .ok (progress (chunkActions [c]) (s.after results input rest (chunkActions [c]))) := by
  obtain ⟨input, hget, hbytes⟩ := fgets_eq (b := s.input) (by decide) hne
  rw [show 16 - 1 = inputLength from rfl, h] at hget hbytes
  have hcne : c ≠ [] := by
    have hpos : (takeLine NL inputLength s.stdin).1 ≠ [] := takeLine_ne_nil (by decide) hne
    rwa [h] at hpos
  obtain ⟨x, t, rfl⟩ := List.exists_cons_of_ne_nil hcne
  have hread : input.read 0 = .ok x :=
    Buf.read_middle (by simpa using hbytes : input.bytes = [] ++ x :: _) rfl
  refine ⟨input, ?_⟩
  unfold iteration
  rw [hget]
  simp only [hread, bind, Except.bind, pure, Except.pure]
  rw [chunkActions_cons, chunkActions_nil, List.append_nil, List.head?_cons]
  by_cases h1 : x = ch '1'
  · have ha : action (some x) = some (.write true) := by rw [action, if_pos h1]
    rw [if_pos h1, ha]
    rfl
  · rw [if_neg h1]
    by_cases h0 : x = ch '0'
    · have ha : action (some x) = some (.write false) := by rw [action, if_neg h1, if_pos h0]
      rw [if_pos h0, ha]
      rfl
    · rw [if_neg h0]
      by_cases hq : x = ch 'q' ∨ x = ch 'Q'
      · have ha : action (some x) = some .quit := by
          rw [action, if_neg h1, if_neg h0, if_pos hq]
        rw [if_pos hq, ha]
        rfl
      · have ha : action (some x) = none := by rw [action, if_neg h1, if_neg h0, if_neg hq]
        rw [if_neg hq, ha]
        simp [progress, LoopState.after]

/-! ## Runs -/

theorem run_succ_running {i : Nat} {s s' : LoopState} (h : iteration results s = .ok (.running s')) :
    run results (i + 1) s = run results i s' := by
  simp only [run, h]

theorem run_succ_exited {i : Nat} {s s' : LoopState} (h : iteration results s = .ok (.exited s')) :
    run results (i + 1) s = .ok (.exited s') := by
  simp only [run, h]

variable (results) in
/-- **A run** does what the chunks that it reads ask for. -/
theorem run_reads (i : Nat) (s : LoopState) :
    ∃ input rest, s.stdin = (readChunks i (chunks NL inputLength s.stdin)).flatten ++ rest ∧
      run results i s =
        .ok (progress (chunkActions (readChunks i (chunks NL inputLength s.stdin)))
          (s.after results input rest
            (chunkActions (readChunks i (chunks NL inputLength s.stdin))))) := by
  induction i generalizing s with
  | zero =>
    refine ⟨s.input, s.stdin, rfl, ?_⟩
    simp [run, readChunks, progress, LoopState.after]
  | succ i ih =>
    by_cases hne : s.stdin = []
    · obtain ⟨input, rest, hrest, hrun⟩ := ih s
      rw [hne, chunks_nil, readChunks_nil] at hrest hrun
      refine ⟨input, rest, ?_, ?_⟩
      · rw [hne, chunks_nil, readChunks_nil]
        exact hrest
      · rw [run_succ_running (iteration_endOfFile hne), hrun, hne, chunks_nil, readChunks_nil]
    · obtain ⟨c, t, htake⟩ : ∃ c t, takeLine NL inputLength s.stdin = (c, t) := ⟨_, _, rfl⟩
      obtain ⟨input, hiter⟩ := iteration_chunk results htake hne
      have hsplit : (takeLine NL inputLength s.stdin).1 ++ (takeLine NL inputLength s.stdin).2 =
        s.stdin := takeLine_append _ _
      rw [htake] at hsplit
      have hchunks : chunks NL inputLength s.stdin = c :: chunks NL inputLength t := by
        rw [chunks_eq_takeLine (by decide) hne, htake]
      rw [chunkActions_cons, chunkActions_nil, List.append_nil, progress] at hiter
      rw [hchunks, readChunks]
      by_cases hquit : action c.head? = some .quit
      · rw [if_pos ((quit_mem_toList c).mpr hquit)] at hiter
        refine ⟨input, t, ?_, ?_⟩
        · simp [hquit, hsplit]
        · rw [run_succ_exited hiter, if_pos hquit, chunkActions_cons, chunkActions_nil,
            List.append_nil, progress, if_pos ((quit_mem_toList c).mpr hquit)]
      · rw [if_neg (mt (quit_mem_toList c).mp hquit)] at hiter
        obtain ⟨input', rest, hrest, hrun⟩ :=
          ih (s.after results input t (action c.head?).toList)
        have hstdin : (s.after results input t (action c.head?).toList).stdin = t := rfl
        rw [hstdin] at hrest hrun
        refine ⟨input', rest, ?_, ?_⟩
        · rw [if_neg hquit, List.flatten_cons, List.append_assoc, ← hrest, hsplit]
        · rw [run_succ_running hiter, hrun, if_neg hquit, chunkActions_cons]
          have hmem : Action.quit ∉ (action c.head?).toList := mt (quit_mem_toList c).mp hquit
          simp only [progress, List.mem_append, hmem, false_or, LoopState.after,
            List.foldl_append, List.append_assoc]

/-! ## When the loop ends -/

/-- Chunks that do not quit are read one after the other. -/
theorem readChunks_append (i : Nat) {as : List (List Byte)} (bs : List (List Byte))
    (h : ∀ c ∈ as, action c.head? ≠ some .quit) :
    readChunks i (as ++ bs) = as.take i ++ readChunks (i - as.length) bs := by
  induction as generalizing i with
  | nil => simp
  | cons c as ih =>
    cases i with
    | zero => simp [readChunks]
    | succ i =>
      rw [List.cons_append, readChunks, if_neg (h c List.mem_cons_self),
        ih i fun d hd => h d (List.mem_cons_of_mem c hd)]
      simp

theorem readChunks_subset (i : Nat) (cs : List (List Byte)) : readChunks i cs ⊆ cs := by
  induction cs generalizing i with
  | nil => simp
  | cons c cs ih =>
    cases i with
    | zero => simp [readChunks]
    | succ i =>
      rw [readChunks]
      split
      · simp
      · exact List.cons_subset_cons c (ih i)

theorem mem_chunkActions {a : Action} {cs : List (List Byte)} :
    a ∈ chunkActions cs ↔ ∃ c ∈ cs, action c.head? = some a := List.mem_filterMap

/-- The loop quits in the end if there is a chunk that asks for it. -/
theorem quit_mem_readChunks (cs : List (List Byte)) :
    .quit ∈ chunkActions (readChunks cs.length cs) ↔ .quit ∈ chunkActions cs := by
  constructor
  · intro h
    obtain ⟨c, hc, ha⟩ := mem_chunkActions.mp h
    exact mem_chunkActions.mpr ⟨c, readChunks_subset _ _ hc, ha⟩
  · intro h
    induction cs with
    | nil => exact h
    | cons c cs ih =>
      rw [List.length_cons, readChunks]
      by_cases hquit : action c.head? = some .quit
      · rw [if_pos hquit]
        exact mem_chunkActions.mpr ⟨c, List.mem_cons_self, hquit⟩
      · rw [if_neg hquit, chunkActions_cons]
        rw [chunkActions_cons, List.mem_append, quit_mem_toList] at h
        exact List.mem_append_right _ (ih (h.resolve_left hquit))

/-- The loop ends exactly if some chunk makes it quit. -/
theorem run_exited_iff (s : LoopState) :
    (∃ i s', run results i s = .ok (.exited s')) ↔
      ∃ c ∈ chunks NL inputLength s.stdin, action c.head? = some .quit := by
  rw [← mem_chunkActions]
  constructor
  · rintro ⟨i, s', hexit⟩
    obtain ⟨input, rest, -, hrun⟩ := run_reads results i s
    rw [hrun, progress] at hexit
    split at hexit
    · rename_i hquit
      obtain ⟨c, hc, ha⟩ := mem_chunkActions.mp hquit
      exact mem_chunkActions.mpr ⟨c, readChunks_subset _ _ hc, ha⟩
    · cases hexit
  · intro h
    obtain ⟨input, rest, -, hrun⟩ := run_reads results (chunks NL inputLength s.stdin).length s
    rw [progress, if_pos ((quit_mem_readChunks _).mpr h)] at hrun
    exact ⟨_, _, hrun⟩

theorem action_newline (c : Byte) {a : Action} (h : action (some c) = some a) : c ≠ NL := by
  rintro rfl
  cases h

theorem action_eq_some_iff {o : Option Byte} {a : Action} :
    action o = some a ↔ ∃ x, (x ≠ NL ∧ action (some x) = some a) ∧ o = some x := by
  constructor
  · intro h
    cases o with
    | none => cases h
    | some x => exact ⟨x, ⟨action_newline x h, h⟩, rfl⟩
  · rintro ⟨x, ⟨-, ha⟩, rfl⟩
    exact ha

section Heads

variable {ι : Type} {P : ι → Prop} {f : ι → Option Byte} {cs : List (List Byte)}

/-- Chunks whose first characters are known, but for newlines, ask for known actions. -/
theorem exists_action_iff
    (h : ∀ x, x ≠ NL → ((∃ c ∈ cs, c.head? = some x) ↔ ∃ i, P i ∧ f i = some x)) (a : Action) :
    (∃ c ∈ cs, action c.head? = some a) ↔ ∃ i, P i ∧ action (f i) = some a := by
  constructor
  · rintro ⟨c, hc, ha⟩
    obtain ⟨x, ⟨hx, hxa⟩, hcx⟩ := action_eq_some_iff.mp ha
    obtain ⟨i, hi, hix⟩ := (h x hx).mp ⟨c, hc, hcx⟩
    exact ⟨i, hi, by rw [hix, hxa]⟩
  · rintro ⟨i, hi, ha⟩
    obtain ⟨x, ⟨hx, hxa⟩, hix⟩ := action_eq_some_iff.mp ha
    obtain ⟨c, hc, hcx⟩ := (h x hx).mpr ⟨i, hi, hix⟩
    exact ⟨c, hc, by rw [hcx, hxa]⟩

theorem forall_action_none_iff
    (h : ∀ x, x ≠ NL → ((∃ c ∈ cs, c.head? = some x) ↔ ∃ i, P i ∧ f i = some x)) :
    (∀ c ∈ cs, action c.head? = none) ↔ ∀ i, P i → action (f i) = none := by
  simp only [Option.eq_none_iff_forall_ne_some]
  constructor
  · intro hall i hi a ha
    obtain ⟨c, hc, hca⟩ := (exists_action_iff h a).mpr ⟨i, hi, ha⟩
    exact hall c hc a hca
  · intro hall c hc a ha
    obtain ⟨i, hi, hia⟩ := (exists_action_iff h a).mp ⟨c, hc, ha⟩
    exact hall i hi a hia

end Heads

/-- **The loop ends** exactly on the inputs in which a `q` or `Q` stands in a line at a position that
is a multiple of 15. -/
theorem run_ends_iff (results : Nat → Int) (input : InputBuf) (on : Bool) (stdin : List Byte) :
    (∃ i s, run results i (start input on stdin) = .ok (.exited s)) ↔ HasQuit stdin := by
  have hheads : ∀ x, x ≠ NL → ((∃ c ∈ chunks NL inputLength stdin, c.head? = some x) ↔
      ∃ p : List Byte × Nat, p.1 ∈ physLines NL stdin ∧ p.1[inputLength * p.2]? = some x) := by
    intro x hx
    rw [exists_chunk_head_iff (by decide) hx stdin]
    constructor
    · rintro ⟨l, hl, k, hk⟩
      exact ⟨(l, k), hl, hk⟩
    · rintro ⟨⟨l, k⟩, hl, hk⟩
      exact ⟨l, hl, k, hk⟩
  rw [run_exited_iff, HasQuit]
  show (∃ c ∈ chunks NL inputLength stdin, action c.head? = some .quit) ↔ _
  rw [exists_action_iff hheads .quit]
  constructor
  · rintro ⟨⟨l, k⟩, hl, hk⟩
    exact ⟨l, hl, k, hk⟩
  · rintro ⟨l, hl, k, hk⟩
    exact ⟨(l, k), hl, hk⟩

/-- Without a line that quits the loop goes on at the end of the input. -/
theorem run_never_ends :
    ¬∃ i s, run (fun _ => 0) i (start (Buf.zeroed _) false (lit "1\n0\n")) = .ok (.exited s) := by
  rw [run_exited_iff]
  decide

end DiscoveryDemo.Ioexample1
