import DiscoveryDemo.Ini.Spacing
import DiscoveryDemo.Ini.Proofs.InertProofs

/-!
# Proofs: which spaces a lookup notices

The spaces around the key and in front of the value are trimmed, those after the value are not. So
two spacings of one file are told apart exactly by a lookup that finds an entry with a value and with
different numbers of spaces after it.
-/

namespace DiscoveryDemo.Ini

open CLib

variable {s k κ v t : List Byte}

/-! ## Trimming -/

theorem dropWhile_spaces (m : Nat) (t : List Byte) :
    (spaces m ++ t).dropWhile (· = SP) = t.dropWhile (· = SP) := by
  rw [List.dropWhile_append_of_pos]
  intro c hc
  simpa using List.eq_of_mem_replicate hc

theorem dropWhile_of_head (h : t.head? ≠ some SP) : t.dropWhile (· = SP) = t := by
  cases t with
  | nil => rfl
  | cons c t =>
    have hc : c ≠ SP := by simpa using h
    simp [hc]

theorem lineText_spaces (m : Nat) : LineText (spaces m) :=
  lineText_replicate (by decide) (by decide) m

theorem equals_notMem_spaces (m : Nat) : ch '=' ∉ spaces m := notMem_replicate (by decide) m

/-- The spaces around a trimmed text are what trimming removes. -/
theorem trimSpaces_spaced (hκ : Trimmed κ) (hne : κ ≠ []) (m n : Nat) :
    trimSpaces (spaces m ++ κ ++ spaces n) = κ := by
  have hhead : (κ ++ spaces n).head? ≠ some SP := by
    rw [List.head?_append_of_ne_nil _ hne]
    exact hκ.1
  have hlast : κ.reverse.head? ≠ some SP := by
    rw [List.head?_reverse]
    exact hκ.2
  have hrev : (κ ++ spaces n).reverse = spaces n ++ κ.reverse := by
    rw [List.reverse_append, spaces, List.reverse_replicate]
  unfold trimSpaces
  rw [List.append_assoc, dropWhile_spaces, dropWhile_of_head hhead, List.rdropWhile, hrev,
    dropWhile_spaces, dropWhile_of_head hlast, List.reverse_reverse]

/-- What is read of a value: its trailing spaces belong to it, unless there is nothing else. -/
def readValue (m : Spaces) (v : List Byte) : List Byte :=
  if v = [] then [] else v ++ spaces m.afterValue

/-- The spaces in front of a value are skipped; all of them, if there is no value. -/
theorem value_spaced (hv : Trimmed v) (ht : LineText v) (m : Spaces) :
    ((spaces m.afterEquals ++ v ++ spaces m.afterValue).dropWhile (· = SP)).takeWhile (· ≠ NL) =
      readValue m v := by
  unfold readValue
  rw [List.append_assoc, dropWhile_spaces]
  by_cases hne : v = []
  · subst hne
    have hnil : (spaces m.afterValue ++ []).dropWhile (· = SP) = [] := dropWhile_spaces _ []
    rw [List.append_nil] at hnil
    rw [if_pos rfl, List.nil_append, hnil]
    rfl
  · have hhead : (v ++ spaces m.afterValue).head? ≠ some SP := by
      rw [List.head?_append_of_ne_nil _ hne]
      exact hv.1
    have hline := lineText_append ht (lineText_spaces m.afterValue)
    rw [if_neg hne, dropWhile_of_head hhead, takeWhile_ne_of_notMem hline.noNewline]

/-- **An entry line is read without its spaces**, but for those after the value. -/
theorem classify_render (h : (Line.entry κ v).WellFormed) (m : Spaces) :
    classify ((Line.entry κ v).render m) = .entry κ (readValue m v) := by
  obtain ⟨hkey, hκ, htrim, hv, hvtrim⟩ := h
  set κ' := spaces m.beforeKey ++ κ ++ spaces m.beforeEquals with hκ'
  have hline : LineText κ' :=
    lineText_append (lineText_append (lineText_spaces _) hκ) (lineText_spaces _)
  have hkey' : KeyText κ' := by
    refine ⟨?_, ?_, ?_⟩
    · rw [hκ', List.mem_append, List.mem_append]
      rintro ((h | h) | h)
      · exact equals_notMem_spaces _ h
      · exact hkey.noEquals h
      · exact equals_notMem_spaces _ h
    · intro h
      rw [hκ', List.append_eq_nil_iff, List.append_eq_nil_iff] at h
      exact hkey.nonempty h.1.2
    · obtain ⟨c, u, rfl⟩ := List.exists_cons_of_ne_nil hkey.nonempty
      rw [hκ']
      cases m.beforeKey with
      | zero => exact hkey.start
      | succ n =>
        have hhead : (spaces (n + 1) ++ c :: u ++ spaces m.beforeEquals).head? = some SP := rfl
        rw [hhead]
        exact ⟨by decide, by decide⟩
  have hvalue : valueText (κ' ++ ch '=' :: (spaces m.afterEquals ++ v ++ spaces m.afterValue)) =
      readValue m v := by
    have hk : keyText (κ' ++ ch '=' :: (spaces m.afterEquals ++ v ++ spaces m.afterValue)) = κ' :=
      takeWhile_ne_append hkey'.noEquals _
    unfold valueText
    rw [hk, drop_string rfl, value_spaced hvtrim hv]
  show classify (κ' ++ ch '=' :: _) = _
  rw [classify_entryLine hkey' hline, hvalue, trimSpaces_spaced htrim hkey.nonempty]

/-! ## The lines of a file -/

theorem lineText_render {l : Line} (h : l.WellFormed) (m : Spaces) : LineText (l.render m) := by
  cases l with
  | entry κ v =>
    obtain ⟨-, hκ, -, hv, -⟩ := h
    have hkey : LineText (spaces m.beforeKey ++ κ ++ spaces m.beforeEquals) :=
      lineText_append (lineText_append (lineText_spaces _) hκ) (lineText_spaces _)
    have hvalue : LineText (spaces m.afterEquals ++ v ++ spaces m.afterValue) :=
      lineText_append (lineText_append (lineText_spaces _) hv) (lineText_spaces _)
    exact lineText_append hkey (lineText_cons (by decide) hvalue)
  | other t => exact h.1

/-- A scan of a file of lines that fit is a scan of the lines. -/
theorem scan_fileOf (final : Bool) (ls : List (List Byte)) (current : List Byte)
    (htext : ∀ l ∈ ls, LineText l) (hfit : ∀ l ∈ ls, l.length ≤ lineBufferLength - 2) :
    scan s k current (items (fileOf final ls)) = scan s k current (ls.map classify) := by
  induction ls generalizing current with
  | nil => rfl
  | cons l ls ih =>
    have hl := htext l List.mem_cons_self
    have hlen := hfit l List.mem_cons_self
    cases ls with
    | nil =>
      cases final with
      | true =>
        show scan s k current (items (l ++ NL :: [])) = _
        rw [items_line [] hl.noNul hl.noNewline hlen]
        rfl
      | false =>
        show scan s k current (items l) = _
        by_cases hne : l = []
        · subst hne
          rfl
        · rw [items_last hl.noNul hl.noNewline hne (by simp only [lineBufferLength] at hlen ⊢; omega)]
          rfl
    | cons m ls =>
      show scan s k current (items (l ++ NL :: fileOf final (m :: ls))) = _
      rw [items_line _ hl.noNul hl.noNewline hlen]
      have hrest := ih (classify l |>.enter current) (fun x hx => htext x (List.mem_cons_of_mem l hx))
        fun x hx => hfit x (List.mem_cons_of_mem l hx)
      exact scan_append_congr (l := [classify l]) hrest

/-! ## Two spacings -/

theorem classify_line {l : Line} (h : l.WellFormed) (m : Spaces) :
    (∃ t, l = .other t ∧ classify (l.render m) = classify t ∧ classify t ≠ .keyless) ∨
    (∃ κ v, l = .entry κ v ∧ classify (l.render m) = .entry κ (readValue m v)) := by
  cases l with
  | entry κ v => exact Or.inr ⟨κ, v, rfl, classify_render h m⟩
  | other t => exact Or.inl ⟨t, rfl, rfl, not_keyless h.2⟩

/-- The condition `SameTrailing` below a section that is in force. -/
def SameTrailingIn (s k current : List Byte) (lines : List SpacedLine) : Prop :=
  ∀ A v left right B, lines = A ++ ⟨.entry k v, left, right⟩ :: B → s ≠ [] →
    ((leftLines A).map classify).foldl Item.enter current = s →
    scan s k current ((leftLines A).map classify) = .ok none →
    v = [] ∨ left.afterValue = right.afterValue

/-- A line that the scan passes over. -/
theorem sameTrailingIn_pass {l : SpacedLine} {lines : List SpacedLine} {current : List Byte}
    (next : List Byte) (hnext : (classify (l.line.render l.left)).enter current = next)
    (hpass : ∀ is, scan s k current (classify (l.line.render l.left) :: is) = scan s k next is)
    (hself : ∀ v, l.line = .entry k v → s ≠ [] → current ≠ s) :
    SameTrailingIn s k current (l :: lines) ↔ SameTrailingIn s k next lines := by
  constructor
  · intro h A v left right B hlines hs hsec hscan
    refine h (l :: A) v left right B (by rw [hlines]; rfl) hs ?_ ?_
    · rw [leftLines, List.map_cons, List.map_cons, List.foldl_cons, hnext]
      exact hsec
    · rw [leftLines, List.map_cons, List.map_cons, hpass]
      exact hscan
  · intro h A v left right B hlines hs hsec hscan
    cases A with
    | nil =>
      obtain ⟨rfl, -⟩ := List.cons.inj hlines
      exact absurd hsec (hself v rfl hs)
    | cons x A =>
      obtain ⟨rfl, hrest⟩ := List.cons.inj hlines
      rw [leftLines, List.map_cons, List.map_cons] at hsec hscan
      rw [List.foldl_cons, hnext] at hsec
      rw [hpass] at hscan
      exact h A v left right B hrest hs hsec hscan

/-- A line at which the scan stops. -/
theorem sameTrailingIn_stop {l : SpacedLine} {lines : List SpacedLine} {current w : List Byte}
    (hstop : ∀ is, scan s k current (classify (l.line.render l.left) :: is) = .ok (some w)) :
    SameTrailingIn s k current (l :: lines) ↔
      ∀ v, l.line = .entry k v → s ≠ [] → current = s →
        v = [] ∨ l.left.afterValue = l.right.afterValue := by
  obtain ⟨line, left, right⟩ := l
  constructor
  · rintro h v rfl hs hsec
    exact h [] v left right lines rfl hs hsec rfl
  · intro h A v left' right' B hlines hs hsec hscan
    cases A with
    | nil =>
      cases hlines
      exact h v rfl hs hsec
    | cons x A =>
      obtain ⟨rfl, -⟩ := List.cons.inj hlines
      rw [leftLines, List.map_cons, List.map_cons, hstop] at hscan
      cases hscan

/-- Two spacings of a value are read alike exactly if the spaces after it are as many. -/
theorem readValue_inj (m n : Spaces) (v : List Byte) :
    readValue m v = readValue n v ↔ v = [] ∨ m.afterValue = n.afterValue := by
  unfold readValue
  by_cases hne : v = []
  · simp [hne]
  · rw [if_neg hne, if_neg hne, List.append_cancel_left_eq]
    constructor
    · intro h
      have hlen := congrArg List.length h
      simp only [spaces, List.length_replicate] at hlen
      exact Or.inr hlen
    · rintro (h | h)
      · exact absurd h hne
      · rw [h]

section Step

variable {l : SpacedLine} {lines : List SpacedLine}
  (htail : ∀ current, scan s k current ((leftLines lines).map classify) =
    scan s k current ((rightLines lines).map classify) ↔ SameTrailingIn s k current lines)

include htail

/-- A line that is the same in both files. -/
theorem scan_spaced_other (hline : l.line = .other t) (hkeyless : classify t ≠ .keyless)
    (current : List Byte) :
    scan s k current (classify t :: (leftLines lines).map classify) =
      scan s k current (classify t :: (rightLines lines).map classify) ↔
        SameTrailingIn s k current (l :: lines) := by
  have hleft : classify (l.line.render l.left) = classify t := by rw [hline]; rfl
  have hself : ∀ v, l.line = .entry k v → s ≠ [] → current ≠ s := by
    intro v hv
    rw [hline] at hv
    cases hv
  cases hitem : classify t with
  | inert =>
    rw [sameTrailingIn_pass current (by rw [hleft, hitem]; rfl)
      (fun is => by rw [hleft, hitem]; rfl) hself]
    exact htail current
  | header name =>
    rw [sameTrailingIn_pass name (by rw [hleft, hitem]; rfl)
      (fun is => by rw [hleft, hitem]; rfl) hself]
    exact htail name
  | keyless => exact absurd hitem hkeyless
  | entry κ v =>
    by_cases hm : current ≠ [] ∧ current = s ∧ κ = k
    · rw [sameTrailingIn_stop (w := v) fun is => by rw [hleft, hitem, scan, if_pos hm]]
      refine iff_of_true ?_ fun v hv => ?_
      · rw [scan, if_pos hm, scan, if_pos hm]
      · rw [hline] at hv
        cases hv
    · rw [sameTrailingIn_pass current (by rw [hleft, hitem]; rfl)
        (fun is => by rw [hleft, hitem, scan, if_neg hm]) hself, scan, if_neg hm, scan, if_neg hm]
      exact htail current

/-- An entry line: if it is the one looked for, the two values decide. -/
theorem scan_spaced_entry (hline : l.line = .entry κ v)
    (hleft : classify (l.line.render l.left) = .entry κ (readValue l.left v))
    (current : List Byte) :
    scan s k current (.entry κ (readValue l.left v) :: (leftLines lines).map classify) =
      scan s k current (.entry κ (readValue l.right v) :: (rightLines lines).map classify) ↔
        SameTrailingIn s k current (l :: lines) := by
  by_cases hm : current ≠ [] ∧ current = s ∧ κ = k
  · rw [sameTrailingIn_stop (w := readValue l.left v)
      fun is => by rw [hleft, scan, if_pos hm], scan, if_pos hm, scan, if_pos hm, hline]
    constructor
    · rintro h u ⟨⟩ hs hsec
      exact (readValue_inj l.left l.right v).mp (by simpa using h)
    · intro h
      rw [(readValue_inj l.left l.right v).mpr
        (h v (by rw [hm.2.2]) (hm.2.1 ▸ hm.1) hm.2.1)]
  · have hself : ∀ u, l.line = .entry k u → s ≠ [] → current ≠ s := by
      intro u hu hs hsec
      rw [hline] at hu
      cases hu
      exact hm ⟨hsec ▸ hs, hsec, rfl⟩
    rw [sameTrailingIn_pass current (by rw [hleft]; rfl)
      (fun is => by rw [hleft, scan, if_neg hm]) hself, scan, if_neg hm, scan, if_neg hm]
    exact htail current

end Step

/-- **Two spacings of the same lines** are scanned alike exactly if the entry that is found has the
same trailing spaces in both. -/
theorem scan_spaced (lines : List SpacedLine) (hok : ∀ l ∈ lines, l.line.WellFormed)
    (current : List Byte) :
    scan s k current ((leftLines lines).map classify) =
      scan s k current ((rightLines lines).map classify) ↔ SameTrailingIn s k current lines := by
  induction lines generalizing current with
  | nil =>
    refine ⟨fun _ A v left right B h => absurd h (by simp), fun _ => rfl⟩
  | cons l lines ih =>
    have htail := ih fun x hx => hok x (List.mem_cons_of_mem l hx)
    have hl := hok l List.mem_cons_self
    simp only [leftLines, rightLines, List.map_cons]
    rcases classify_line hl l.left with ⟨t, hline, hleft, hkeyless⟩ | ⟨κ, v, hline, hleft⟩
    · have hright : classify (l.line.render l.right) = classify t := by rw [hline]; rfl
      rw [hleft, hright]
      exact scan_spaced_other htail hline hkeyless current
    · have hright : classify (l.line.render l.right) = .entry κ (readValue l.right v) := by
        rw [hline] at hl ⊢
        exact classify_render hl l.right
      rw [hleft, hright]
      exact scan_spaced_entry htail hline hleft current

/-- Well-formed lines are the chunks that the reader sees. -/
theorem map_classify_text {ls : List (List Byte)} (h : ∀ l ∈ ls, LineText l) :
    (ls.map fun c => classify (text c)) = ls.map classify := by
  apply List.map_congr_left
  intro l hl
  rw [text_eq (h l hl).noNul]

theorem lineText_leftLines {lines : List SpacedLine} (hok : ∀ l ∈ lines, l.line.WellFormed) :
    ∀ l ∈ leftLines lines, LineText l := by
  intro l hl
  obtain ⟨x, hx, rfl⟩ := List.mem_map.mp hl
  exact lineText_render (hok x hx) x.left

theorem lineText_rightLines {lines : List SpacedLine} (hok : ∀ l ∈ lines, l.line.WellFormed) :
    ∀ l ∈ rightLines lines, LineText l := by
  intro l hl
  obtain ⟨x, hx, rfl⟩ := List.mem_map.mp hl
  exact lineText_render (hok x hx) x.right

theorem harmless_leftLines {lines : List SpacedLine} (hok : ∀ l ∈ lines, l.line.WellFormed) :
    Harmless (leftLines lines) := by
  intro A c B hlines hc
  exfalso
  obtain ⟨x, hx, rfl⟩ := List.mem_map.mp (hlines ▸ (by simp) : c ∈ leftLines lines)
  have hkeyless := classify_eq_keyless_iff.mpr hc
  rcases classify_line (hok x hx) x.left with ⟨t, -, hleft, hno⟩ | ⟨κ, v, -, hleft⟩
  · exact hno (hleft ▸ hkeyless)
  · rw [hleft] at hkeyless
    cases hkeyless

theorem sameTrailingIn_iff {lines : List SpacedLine} (hok : ∀ l ∈ lines, l.line.WellFormed) :
    SameTrailingIn s k [] lines ↔ SameTrailing s k lines := by
  unfold SameTrailingIn SameTrailing
  refine forall₅_congr fun A v left right B => forall₂_congr fun hlines _ => ?_
  have hA : ∀ l ∈ A, l.line.WellFormed := fun l hl => hok l (by simp [hlines, hl])
  have hpast : scan s k [] ((leftLines A).map classify) = .ok none ↔ ¬EntryIn s k (leftLines A) := by
    rw [← map_classify_text (lineText_leftLines hA), scan_passes_iff]
    exact and_iff_right (harmless_leftLines hA)
  rw [hpast, sectionAfter, map_classify_text (lineText_leftLines hA)]

/-- **Spacing matters only after a value**: two files that differ in nothing but the numbers of
spaces around keys and values are told apart by a lookup exactly if the first entry line for its key
in its section has a value, and different numbers of spaces after it. -/
theorem getConfigValue_spacing (lines : List SpacedLine) (h : SpacedFile lines) (final : Bool)
    (s k : CStr) :
    SameResult (fileOf final (leftLines lines)) (fileOf final (rightLines lines)) s k ↔
      SameTrailing s.chars k.chars lines := by
  have hleft := lineText_leftLines h.wellFormed
  have hright := lineText_rightLines h.wellFormed
  rw [← sameTrailingIn_iff h.wellFormed, ← scan_spaced lines h.wellFormed,
    ← scan_fileOf final _ _ hleft h.fitsLeft, ← scan_fileOf final _ _ hright h.fitsRight]
  exact ⟨meaning_of_sameResult, sameResult_of_meaning⟩

/-- An entry of a section `a` with the given spaces in the two files. -/
def spacedEntry (left right : Spaces) : List SpacedLine :=
  [⟨.other (lit "[a]"), left, left⟩, ⟨.entry (lit "k") (lit "v"), left, right⟩]

theorem spacedFile_entry {left right : Spaces} (h : ((Line.entry (lit "k") (lit "v")).render left).length ≤ 9)
    (h' : ((Line.entry (lit "k") (lit "v")).render right).length ≤ 9) :
    SpacedFile (spacedEntry left right) := by
  have hkey : KeyText (lit "k") := ⟨by decide, by decide, by decide⟩
  have hk : LineText (lit "k") := ⟨by decide, by decide⟩
  have hv : LineText (lit "v") := ⟨by decide, by decide⟩
  have ha : LineText (lit "[a]") := ⟨by decide, by decide⟩
  refine ⟨?_, ?_, ?_⟩
  · intro l hl
    rcases List.mem_pair.mp hl with rfl | rfl
    · exact ⟨ha, by decide⟩
    · exact ⟨hkey, hk, ⟨by decide, by decide⟩, hv, ⟨by decide, by decide⟩⟩
  · intro l hl
    rcases List.mem_pair.mp hl with rfl | rfl
    · show (lit "[a]").length ≤ lineBufferLength - 2
      decide
    · exact h.trans (by decide)
  · intro l hl
    rcases List.mem_pair.mp hl with rfl | rfl
    · show (lit "[a]").length ≤ lineBufferLength - 2
      decide
    · exact h'.trans (by decide)

theorem getConfigValue_spacing_entry :
    SameResult (lit "[a]\nk=v\n") (lit "[a]\n k  =   v\n") ⟨lit "a", by decide⟩
      ⟨lit "k", by decide⟩ := by
  have hfile : SpacedFile (spacedEntry ⟨0, 0, 0, 0⟩ ⟨1, 2, 3, 0⟩) :=
    spacedFile_entry (by decide) (by decide)
  refine (getConfigValue_spacing _ hfile true ⟨lit "a", by decide⟩ ⟨lit "k", by decide⟩).mpr ?_
  intro A v left right B hlines _ _ _
  have hmem : (⟨.entry (lit "k") v, left, right⟩ : SpacedLine) ∈
      spacedEntry ⟨0, 0, 0, 0⟩ ⟨1, 2, 3, 0⟩ := hlines ▸ by simp
  rcases List.mem_pair.mp hmem with h | h
  · cases h
  · cases h
    exact Or.inr rfl

/-- A space after the value is part of what both programs return. -/
theorem getConfigValue_trailing_space :
    SpacedFile (spacedEntry ⟨0, 0, 0, 0⟩ ⟨0, 0, 0, 1⟩) ∧
    fileOf true (leftLines (spacedEntry ⟨0, 0, 0, 0⟩ ⟨0, 0, 0, 1⟩)) = lit "[a]\nk=v\n" ∧
    fileOf true (rightLines (spacedEntry ⟨0, 0, 0, 0⟩ ⟨0, 0, 0, 1⟩)) = lit "[a]\nk=v \n" ∧
    (∀ line, Hellomk.lookup line (some (lit "[a]\nk=v\n")) ⟨lit "a", by decide⟩
        ⟨lit "k", by decide⟩ = .ok (some (lit "v")) ∧
      Hellomk.lookup line (some (lit "[a]\nk=v \n")) ⟨lit "a", by decide⟩
        ⟨lit "k", by decide⟩ = .ok (some (lit "v "))) ∧
    (∀ st, Hellomkcpp.lookup st (some (lit "[a]\nk=v\n")) ⟨lit "a", by decide⟩
        ⟨lit "k", by decide⟩ = .ok (some (lit "v")) ∧
      Hellomkcpp.lookup st (some (lit "[a]\nk=v \n")) ⟨lit "a", by decide⟩
        ⟨lit "k", by decide⟩ = .ok (some (lit "v "))) := by
  refine ⟨spacedFile_entry (by decide) (by decide), by decide, by decide, fun line => ?_, fun st => ?_⟩
  · rw [Hellomk.lookup_eq, Hellomk.lookup_eq]
    decide
  · rw [Hellomkcpp.lookup_eq, Hellomkcpp.lookup_eq]
    decide

end DiscoveryDemo.Ini
