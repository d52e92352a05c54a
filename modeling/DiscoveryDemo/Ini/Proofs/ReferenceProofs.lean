import DiscoveryDemo.Ini.Reference
import DiscoveryDemo.Ini.Proofs.ScanProofs

/-!
# Proofs: `getConfigValue` and the reference meaning of the file

In a plain file every line is one chunk, and a line means the same with and without its newline. The
section in force is then the name in the nearest header, cut to what fits into `currentSection`, and
a scan finds the first entry below it.
-/

namespace DiscoveryDemo.Ini

open CLib

/-! ## A line and its newline -/

theorem takeWhile_append_stop {p : Byte → Bool} (x : List Byte) {y : Byte} (hy : p y = false) :
    (x ++ [y]).takeWhile p = x.takeWhile p := by
  induction x with
  | nil => simp [hy]
  | cons c x ih => by_cases hc : p c = true <;> simp [hc, ih]

theorem dropWhile_append_stop {p : Byte → Bool} (x : List Byte) {y : Byte} (hy : p y = false) :
    (x ++ [y]).dropWhile p = x.dropWhile p ++ [y] := by
  induction x with
  | nil => simp [hy]
  | cons c x ih => by_cases hc : p c = true <;> simp [hc, ih]

theorem isHeader_newline (w : List Byte) : IsHeader (w ++ [NL]) ↔ IsHeader w := by
  unfold IsHeader
  cases w with
  | nil => decide
  | cons c w =>
    have h1 : ch ']' ≠ NL := by decide
    simp [h1]

/-- What follows the `]` of a header is not part of its name. -/
theorem bracketText_header {w : List Byte} (h : IsHeader w) (r : List Byte) :
    bracketText (w ++ r) = bracketText w := by
  obtain ⟨u, hw, hn⟩ := bracketText_append h
  have hb : bracketText ((ch '[' :: bracketText w) ++ ch ']' :: (u ++ r)) = bracketText w :=
    takeWhile_ne_append hn _
  conv => lhs; rw [hw]
  simpa using hb

theorem keyText_newline {w : List Byte} (h : ch '=' ∈ w) : keyText (w ++ [NL]) = keyText w := by
  obtain ⟨hw, hk⟩ := keyText_append h
  conv => lhs; rw [hw, List.append_assoc]
  exact takeWhile_ne_append hk _

theorem valueText_newline {w : List Byte} (h : ch '=' ∈ w) :
    valueText (w ++ [NL]) = valueText w := by
  obtain ⟨hw, -⟩ := keyText_append h
  have hlen : (keyText w).length + 1 ≤ w.length := by
    have := congrArg List.length hw
    simp at this
    omega
  unfold valueText
  rw [keyText_newline h, List.drop_append_of_le_length hlen,
    dropWhile_append_stop _ (by decide), takeWhile_append_stop _ (by decide)]

/-- A line means the same with and without its newline. -/
theorem classify_newline (w : List Byte) : classify (w ++ [NL]) = classify w := by
  cases hw : w with
  | nil => decide
  | cons c t =>
    rw [← hw]
    have hhead : (w ++ [NL]).head? = w.head? := by simp [hw]
    have heq : ch '=' ∈ w ++ [NL] ↔ ch '=' ∈ w := by
      have h1 : ch '=' ≠ NL := by decide
      simp [h1]
    unfold classify
    rw [hhead]
    by_cases h1 : w.head? = some (ch '#') ∨ w.head? = some NL
    · rw [if_pos h1, if_pos h1]
    · rw [if_neg h1, if_neg h1]
      by_cases h2 : IsHeader w
      · rw [if_pos h2, if_pos ((isHeader_newline w).mpr h2), bracketText_header h2]
      · rw [if_neg h2, if_neg (mt (isHeader_newline w).mp h2)]
        by_cases h3 : ch '=' ∈ w
        · rw [if_pos h3, if_pos (heq.mpr h3), keyText_newline h3, valueText_newline h3]
        · rw [if_neg h3, if_neg (mt heq.mp h3)]

/-! ## The items of a plain file are its lines -/

theorem items_append {p : List Byte} (s : List Byte) (hp : AtLineStart NL p) :
    items (p ++ s) = items p ++ items s := by
  unfold items
  rw [chunks_append s hp, List.map_append]

theorem text_eq {c : List Byte} (h : NUL ∉ c) : text c = c := takeWhile_ne_of_notMem h

theorem items_line {w : List Byte} (t : List Byte) (hnul : NUL ∉ w) (hw : NL ∉ w)
    (hlen : w.length ≤ lineBufferLength - 2) : items (w ++ NL :: t) = classify w :: items t := by
  have hlt : w.length < lineBufferLength - 1 := by
    simp only [lineBufferLength] at hlen ⊢
    omega
  have hnul' : NUL ∉ w ++ [NL] := by
    have h1 : NUL ≠ NL := by decide
    simp [hnul, h1]
  unfold items
  rw [chunks_line t hw hlt, List.map_cons, text_eq hnul', classify_newline]

theorem items_last {w : List Byte} (hnul : NUL ∉ w) (hw : NL ∉ w) (hne : w ≠ [])
    (hlen : w.length ≤ lineBufferLength - 1) : items w = [classify w] := by
  unfold items
  rw [chunks_last hw hne hlen, List.map_cons, text_eq hnul, List.map_nil]

/-- If every line fits, the items are those of the physical lines. -/
theorem items_eq_lines {content : List Byte} (hnul : NUL ∉ content)
    (hlen : ∀ l ∈ physLines NL content, l.length ≤ lineBufferLength - 2) :
    items content = (physLines NL content).map classify := by
  induction content using line_induction NL with
  | nil => rfl
  | last w hne hw =>
    rw [physLines_last hw hne] at hlen ⊢
    have h := hlen w (by simp)
    exact items_last hnul hw hne (by simp only [lineBufferLength] at h ⊢; omega)
  | line w t hw ih =>
    rw [physLines_line t hw] at hlen ⊢
    have hwn : NUL ∉ w := fun hm => hnul (List.mem_append_left _ hm)
    have htn : NUL ∉ t := fun hm => hnul (by simp [hm])
    rw [items_line t hwn hw (hlen w (by simp)), List.map_cons,
      ih htn (fun l hl => hlen l (List.mem_cons_of_mem _ hl))]

theorem physLines_noNewline (s : List Byte) : ∀ l ∈ physLines NL s, NL ∉ l := by
  induction s using line_induction NL with
  | nil => simp [physLines]
  | last w hne hw =>
    intro l hl
    rw [physLines_last hw hne] at hl
    rw [List.mem_singleton.mp hl]
    exact hw
  | line w t hw ih =>
    intro l hl
    rw [physLines_line t hw] at hl
    rcases List.mem_cons.mp hl with rfl | hl
    · exact hw
    · exact ih l hl

/-! ## The section in force is the nearest header's -/

theorem enter_of_not_header {L : List Byte} (h : ¬IsHeader L) (current : List Byte) :
    (classify L).enter current = current := by
  cases hc : classify L with
  | header name => exact absurd (classify_eq_header_iff.mp hc).1 h
  | inert => rfl
  | keyless => rfl
  | entry k v => rfl

theorem section_eq (above : List (List Byte)) :
    (above.map classify).foldl Item.enter [] =
      ((nearestHeader above).getD []).take (maxSectionLength - 1) := by
  induction above using List.reverseRecOn with
  | nil => rfl
  | append_singleton above M ih =>
    rw [List.map_append, List.foldl_append, ih]
    by_cases h : IsHeader M
    · have hc := classify_eq_header_iff.mpr ⟨h, rfl⟩
      simp [hc, Item.enter, nearestHeader, h]
    · simp [enter_of_not_header h, nearestHeader, h]

/-- Being in force and having a name, in terms of the nearest header. -/
theorem section_eq_iff {above : List (List Byte)} {s : List Byte} :
    s ≠ [] ∧ (above.map classify).foldl Item.enter [] = s ↔ UnderCut s above := by
  rw [section_eq]
  unfold UnderCut
  cases nearestHeader above with
  | none => simp [eq_comm]
  | some name => simp

/-! ## A scan over the lines -/

theorem classify_eq_entry_iff {L k v : List Byte} (hnl : NL ∉ L) (heq : L.head? ≠ some (ch '=')) :
    classify L = .entry k v ↔ IsEntry L k ∧ lineValue L = v := by
  have hval : valueText L = lineValue L :=
    takeWhile_ne_of_notMem fun hm =>
      hnl (List.mem_of_mem_drop ((List.dropWhile_sublist _).mem hm))
  have hc := classified L
  constructor
  · intro h
    rw [h] at hc
    cases hc with
    | entry h1 h2 h3 h4 =>
      exact ⟨⟨fun h => by simp [h] at h3, fun h => h1 (Or.inl h), h2, h3, rfl⟩, hval.symm⟩
  · rintro ⟨hL, hv⟩
    rw [← hL.key, ← hv, ← hval]
    generalize classify L = it at hc
    cases hc with
    | ignored h1 =>
      rcases h1 with h | h
      · exact absurd h hL.notComment
      · exact absurd (List.mem_of_mem_head? h) hnl
    | header h2 => exact absurd h2 hL.notHeader
    | noEquals h1 h2 h3 => exact absurd hL.hasEquals h3
    | keyless h1 h2 h4 => exact absurd h4 heq
    | entry h1 h2 h3 h4 => rfl

theorem not_keyless {L : List Byte} (heq : L.head? ≠ some (ch '=')) : classify L ≠ .keyless :=
  fun h => heq (classify_eq_keyless_iff.mp h)

section Lines

variable {lines : List (List Byte)} {s k v : List Byte}
  (hnl : ∀ l ∈ lines, NL ∉ l) (heq : ∀ l ∈ lines, l.head? ≠ some (ch '='))
include hnl heq

/-- Below the lines `above`, an entry line for `k` is a hit. -/
theorem hit_line_iff {above below : List (List Byte)} {L : List Byte}
    (hlines : lines = above ++ L :: below) :
    Hit s k v ((above.map classify).foldl Item.enter [], classify L) ↔
      UnderCut s above ∧ IsEntry L k ∧ lineValue L = v := by
  have hL : L ∈ lines := by simp [hlines]
  rw [← section_eq_iff, ← classify_eq_entry_iff (hnl L hL) (heq L hL)]
  simp [Hit, and_assoc]

theorem quiet_lines_iff {above below : List (List Byte)} (hlines : lines = above ++ below) :
    Quiet s k (located [] (above.map classify)) ↔
      ∀ A M B, above = A ++ M :: B → UnderCut s A → ¬IsEntry M k := by
  constructor
  · intro hq A M B hab hu hM
    subst hab
    have hl : lines = A ++ M :: (B ++ below) := by simp [hlines]
    have hmem : ((A.map classify).foldl Item.enter [], classify M) ∈
        located [] ((A ++ M :: B).map classify) := by
      simp [located_append, located]
    exact (hq _ hmem).2 (lineValue M) ((hit_line_iff hnl heq hl).mpr ⟨hu, hM, rfl⟩)
  · intro h x hx
    obtain ⟨P, Q, hPQ⟩ := List.append_of_mem hx
    obtain ⟨pre, it, post, hpre, -, rfl, -⟩ := located_eq_append_iff.mp hPQ
    obtain ⟨A, R, rfl, rfl, hR⟩ := List.map_eq_append_iff.mp hpre
    obtain ⟨M, B, rfl, rfl, rfl⟩ := List.map_eq_cons_iff.mp hR
    have hl : lines = A ++ M :: (B ++ below) := by simp [hlines]
    refine ⟨fun hz => not_keyless (heq M (by simp [hl])) hz.2, fun w hw => ?_⟩
    obtain ⟨hu, hM, -⟩ := (hit_line_iff hnl heq hl).mp hw
    exact h A M B rfl hu hM

/-- A scan over the lines returns the value of the first entry. -/
theorem scan_lines_some_iff :
    scan s k [] (lines.map classify) = .ok (some v) ↔ FirstEntry (UnderCut s) k v lines := by
  rw [scan_eq_some_iff]
  constructor
  · rintro ⟨P, x, Q, hPQ, hx, hq⟩
    obtain ⟨pre, it, post, hpre, rfl, rfl, -⟩ := located_eq_append_iff.mp hPQ
    obtain ⟨above, R, rfl, rfl, hR⟩ := List.map_eq_append_iff.mp hpre
    obtain ⟨L, below, rfl, rfl, rfl⟩ := List.map_eq_cons_iff.mp hR
    obtain ⟨hu, hL, hv⟩ := (hit_line_iff hnl heq rfl).mp hx
    exact ⟨above, L, below, rfl, hu, hL, hv, (quiet_lines_iff hnl heq rfl).mp hq⟩
  · rintro ⟨above, L, below, rfl, hu, hL, hv, hfirst⟩
    refine ⟨_, _, _, located_eq_append_iff.mpr
      ⟨above.map classify, classify L, below.map classify, by simp, rfl, rfl, rfl⟩, ?_, ?_⟩
    · exact (hit_line_iff hnl heq rfl).mpr ⟨hu, hL, hv⟩
    · exact (quiet_lines_iff hnl heq rfl).mpr hfirst

theorem scan_lines_none_iff :
    scan s k [] (lines.map classify) = .ok none ↔ NoEntry (UnderCut s) k lines := by
  rw [scan_eq_none_iff]
  exact quiet_lines_iff hnl heq (List.append_nil lines).symm

omit hnl in
theorem scan_lines_ok (s k : List Byte) : ∃ r, scan s k [] (lines.map classify) = .ok r := by
  cases h : scan s k [] (lines.map classify) with
  | ok r => exact ⟨r, rfl⟩
  | error f =>
    obtain ⟨-, P, x, Q, hPQ, hz, -⟩ := scan_eq_error_iff.mp h
    obtain ⟨pre, it, post, hpre, -, rfl, -⟩ := located_eq_append_iff.mp hPQ
    have hmem : it ∈ lines.map classify := by simp [hpre]
    obtain ⟨L, hL, rfl⟩ := List.mem_map.mp hmem
    exact absurd hz.2 (not_keyless (heq L hL))

end Lines

theorem PlainFile.meaning_eq {content : List Byte} (h : PlainFile content) (s k : List Byte) :
    meaning (some content) s k = scan s k [] ((physLines NL content).map classify) := by
  rw [meaning, items_eq_lines h.noNul h.short]

theorem PlainFile.meaning_some_iff {content s k v : List Byte} (h : PlainFile content) :
    meaning (some content) s k = .ok (some v) ↔
      FirstEntry (UnderCut s) k v (physLines NL content) := by
  rw [h.meaning_eq]
  exact scan_lines_some_iff (physLines_noNewline content) h.keyed

theorem PlainFile.meaning_none_iff {content s k : List Byte} (h : PlainFile content) :
    meaning (some content) s k = .ok none ↔ NoEntry (UnderCut s) k (physLines NL content) := by
  rw [h.meaning_eq]
  exact scan_lines_none_iff (physLines_noNewline content) h.keyed

theorem PlainFile.meaning_ok {content : List Byte} (h : PlainFile content) (s k : List Byte) :
    ∃ r, meaning (some content) s k = .ok r := by
  rw [h.meaning_eq]
  exact scan_lines_ok h.keyed s k

theorem nearestHeader_mem {above : List (List Byte)} {name : List Byte}
    (h : nearestHeader above = some name) : ∃ l ∈ above, IsHeader l ∧ bracketText l = name := by
  obtain ⟨l, hl, rfl⟩ := Option.map_eq_some_iff.mp h
  have hmem := List.mem_filter.mp (List.mem_of_getLast? hl)
  exact ⟨l, hmem.1, by simpa using hmem.2, rfl⟩

/-- Where no name is cut, the section in force is the one the nearest header names. -/
theorem underCut_iff {above : List (List Byte)} {s : List Byte}
    (h : ∀ l ∈ above, IsHeader l → (bracketText l).length ≤ maxSectionLength - 1) :
    UnderCut s above ↔ Under s above := by
  unfold UnderCut Under
  refine and_congr_right fun _ => ?_
  constructor
  · rintro ⟨name, hn, rfl⟩
    obtain ⟨l, hl, hh, rfl⟩ := nearestHeader_mem hn
    rw [List.take_of_length_le (h l hl hh)]
    exact hn
  · intro hn
    obtain ⟨l, hl, hh, rfl⟩ := nearestHeader_mem hn
    exact ⟨_, hn, List.take_of_length_le (h l hl hh)⟩

theorem firstEntry_congr {P Q : List (List Byte) → Prop} {lines : List (List Byte)} (k v : List Byte)
    (h : ∀ above below, lines = above ++ below → (P above ↔ Q above)) :
    FirstEntry P k v lines ↔ FirstEntry Q k v lines := by
  unfold FirstEntry
  refine exists_congr fun above => exists_congr fun L => exists_congr fun below => ?_
  refine and_congr_right fun hl => ?_
  rw [h above (L :: below) hl]
  refine and_congr_right fun _ => and_congr_right fun _ => and_congr_right fun _ => ?_
  refine forall_congr' fun A => forall_congr' fun M => forall_congr' fun B => ?_
  refine imp_congr_right fun hA => ?_
  rw [h A (M :: B ++ L :: below) (by rw [hl, hA]; simp)]

theorem noEntry_congr {P Q : List (List Byte) → Prop} {lines : List (List Byte)} (k : List Byte)
    (h : ∀ above below, lines = above ++ below → (P above ↔ Q above)) :
    NoEntry P k lines ↔ NoEntry Q k lines := by
  unfold NoEntry
  refine forall_congr' fun above => forall_congr' fun L => forall_congr' fun below => ?_
  refine imp_congr_right fun hl => ?_
  rw [h above (L :: below) hl]

theorem deliveredIni_plain : PlainFile deliveredIni :=
  ⟨by decide, by decide, by decide⟩

/-- **A lookup has its reference meaning** in every plain file whose section names fit into
`currentSection`: the value of the first entry for the key below a header with the section's name,
and a null pointer if there is none or the file cannot be opened. -/
theorem getConfigValue_reference (file : Option (List Byte)) (s k : CStr) (line : LineBuf)
    (st : Hellomkcpp.Statics) (hplain : ∀ content, file = some content → PlainFile content)
    (hnames : ∀ content, file = some content → ∀ l ∈ physLines NL content, IsHeader l →
      (bracketText l).length ≤ maxSectionLength - 1) :
    ∃ r, Hellomk.lookup line file s k = .ok r ∧
      Hellomkcpp.lookup st file s k = .ok (r.map (List.take (maxValueLength - 1))) ∧
      (∀ v, r = some v ↔ ∃ content, file = some content ∧
        FirstEntry (Under s.chars) k.chars v (physLines NL content)) ∧
      (r = none ↔ file = none ∨ ∃ content, file = some content ∧
        NoEntry (Under s.chars) k.chars (physLines NL content)) := by
  rw [Hellomk.lookup_eq, Hellomkcpp.lookup_eq]
  cases file with
  | none => exact ⟨none, rfl, rfl, by simp, by simp⟩
  | some content =>
    have hp := hplain content rfl
    have hn := hnames content rfl
    have hcongr : ∀ above below, physLines NL content = above ++ below →
        (UnderCut s.chars above ↔ Under s.chars above) := by
      intro above below hl
      exact underCut_iff fun l hm => hn l (by rw [hl]; exact List.mem_append_left _ hm)
    obtain ⟨r, hr⟩ := hp.meaning_ok s.chars k.chars
    refine ⟨r, hr, by rw [hr]; rfl, fun v => ?_, ?_⟩
    · have hv := hp.meaning_some_iff (s := s.chars) (k := k.chars) (v := v)
      rw [hr, firstEntry_congr k.chars v hcongr] at hv
      simpa using hv
    · have hv := hp.meaning_none_iff (s := s.chars) (k := k.chars)
      rw [hr, noEntry_congr k.chars hcongr] at hv
      simpa using hv

theorem getConfigValue_reference_delivered :
    ∃ r, Hellomk.lookup (Buf.zeroed _) (some deliveredIni) ⟨lit "server", by decide⟩
        ⟨lit "port", by decide⟩ = .ok r ∧
      Hellomkcpp.lookup ⟨Buf.zeroed _, Buf.zeroed _⟩ (some deliveredIni) ⟨lit "server", by decide⟩
        ⟨lit "port", by decide⟩ = .ok (r.map (List.take 99)) ∧
      (∀ v, r = some v ↔ ∃ content, some deliveredIni = some content ∧
        FirstEntry (Under (lit "server")) (lit "port") v (physLines NL content)) ∧
      (r = none ↔ some deliveredIni = none ∨ ∃ content, some deliveredIni = some content ∧
        NoEntry (Under (lit "server")) (lit "port") (physLines NL content)) :=
  getConfigValue_reference (some deliveredIni) ⟨lit "server", by decide⟩ ⟨lit "port", by decide⟩ _ _
    (by rintro _ ⟨⟩; exact deliveredIni_plain) (by rintro _ ⟨⟩; decide)

theorem Under.cut {s : List Byte} {above : List (List Byte)} (h : Under s above) :
    UnderCut (s.take (maxSectionLength - 1)) above := by
  obtain ⟨hne, hn⟩ := h
  refine ⟨?_, s, hn, rfl⟩
  obtain ⟨c, t, rfl⟩ := List.exists_cons_of_ne_nil hne
  simp

/-- What the scan of a plain file returns stands below a header whose name, cut, is the one asked
for. -/
theorem PlainFile.onlyFrom {content : List Byte} (h : PlainFile content) (s k : List Byte)
    (ret : List Byte → List Byte) :
    OnlyFrom (UnderCut s) k (physLines NL content) ret
      ((meaning (some content) s k).map (Option.map ret)) := by
  intro v hv
  cases hm : meaning (some content) s k with
  | error f => simp [hm, Except.map] at hv
  | ok r =>
    cases r with
    | none => simp [hm, Except.map] at hv
    | some w =>
      obtain ⟨above, L, below, hl, hu, hL, rfl, -⟩ := h.meaning_some_iff.mp hm
      have hret : ret (lineValue L) = v := by simpa [hm, Except.map] using hv
      exact ⟨above, L, below, hl, hu, hL, hret⟩

/-- An entry below a header is found under the cut name of the header. -/
theorem PlainFile.findsIn {content : List Byte} (h : PlainFile content) (s k : List Byte)
    (ret : List Byte → List Byte) :
    FindsIn (Under s) k (physLines NL content)
      ((meaning (some content) (s.take (maxSectionLength - 1)) k).map (Option.map ret)) := by
  intro above L below hl hu hL
  obtain ⟨r, hr⟩ := h.meaning_ok (s.take (maxSectionLength - 1)) k
  cases r with
  | none => exact absurd hL (h.meaning_none_iff.mp hr above L below hl hu.cut)
  | some v => exact ⟨ret v, by rw [hr]; rfl⟩

/-- **Sections are told apart by what `currentSection` holds of their names.** A lookup returns only
entries below a header whose name, cut to 49 characters, is the section asked for; and every entry is
found under the name of its header, cut to 49 characters. -/
theorem getConfigValue_sections (content : List Byte) (hplain : PlainFile content) (s k : CStr)
    (line : LineBuf) (st : Hellomkcpp.Statics) :
    (OnlyFrom (UnderCut s.chars) k.chars (physLines NL content) id
        (Hellomk.lookup line (some content) s k) ∧
      FindsIn (Under s.chars) k.chars (physLines NL content)
        (Hellomk.lookup line (some content) (s.cut (maxSectionLength - 1)) k)) ∧
    (OnlyFrom (UnderCut s.chars) k.chars (physLines NL content) (List.take (maxValueLength - 1))
        (Hellomkcpp.lookup st (some content) s k) ∧
      FindsIn (Under s.chars) k.chars (physLines NL content)
        (Hellomkcpp.lookup st (some content) (s.cut (maxSectionLength - 1)) k)) := by
  simp only [Hellomk.lookup_eq, Hellomkcpp.lookup_eq]
  refine ⟨⟨?_, ?_⟩, hplain.onlyFrom _ _ _, hplain.findsIn _ _ _⟩
  · simpa [Except.map_id] using hplain.onlyFrom s.chars k.chars id
  · have hfinds := hplain.findsIn s.chars k.chars id
    rw [Option.map_id_fun, Except.map_id] at hfinds
    exact hfinds

theorem getConfigValue_sections_delivered :
    (OnlyFrom (UnderCut (lit "server")) (lit "port") (physLines NL deliveredIni) id
        (Hellomk.lookup (Buf.zeroed _) (some deliveredIni) ⟨lit "server", by decide⟩
          ⟨lit "port", by decide⟩) ∧
      FindsIn (Under (lit "server")) (lit "port") (physLines NL deliveredIni)
        (Hellomk.lookup (Buf.zeroed _) (some deliveredIni)
          (CStr.cut ⟨lit "server", by decide⟩ 49) ⟨lit "port", by decide⟩)) ∧
    (OnlyFrom (UnderCut (lit "server")) (lit "port") (physLines NL deliveredIni) (List.take 99)
        (Hellomkcpp.lookup ⟨Buf.zeroed _, Buf.zeroed _⟩ (some deliveredIni)
          ⟨lit "server", by decide⟩ ⟨lit "port", by decide⟩) ∧
      FindsIn (Under (lit "server")) (lit "port") (physLines NL deliveredIni)
        (Hellomkcpp.lookup ⟨Buf.zeroed _, Buf.zeroed _⟩ (some deliveredIni)
          (CStr.cut ⟨lit "server", by decide⟩ 49) ⟨lit "port", by decide⟩)) :=
  getConfigValue_sections deliveredIni deliveredIni_plain ⟨lit "server", by decide⟩
    ⟨lit "port", by decide⟩ _ _

/-- A section name of 50 characters. -/
def longName : CStr := ⟨List.replicate 50 (ch 'a'), by decide⟩

/-- A file with one entry, in the section `longName`. -/
def longSection : List Byte := ch '[' :: longName.chars ++ lit "]\nk = v\n"

/-- With the full names in place of the cut ones the statement fails: an entry in a section with a
name of 50 characters is not found under that name. -/
theorem sections_not_by_full_name :
    ¬∀ (content : List Byte), PlainFile content → ∀ (s k : CStr) (line : LineBuf)
      (st : Hellomkcpp.Statics), s.chars ≠ [] → ch ']' ∉ s.chars →
      s.chars.length ≤ lineBufferLength - 4 →
      (OnlyFrom (Under s.chars) k.chars (physLines NL content) id
          (Hellomk.lookup line (some content) s k) ∧
        FindsIn (Under s.chars) k.chars (physLines NL content)
          (Hellomk.lookup line (some content) s k)) ∧
      (OnlyFrom (Under s.chars) k.chars (physLines NL content) (List.take (maxValueLength - 1))
          (Hellomkcpp.lookup st (some content) s k) ∧
        FindsIn (Under s.chars) k.chars (physLines NL content)
          (Hellomkcpp.lookup st (some content) s k)) := by
  intro h
  have hplain : PlainFile longSection := ⟨by decide, by decide, by decide⟩
  obtain ⟨⟨-, hfinds⟩, -⟩ := h longSection hplain longName ⟨lit "k", by decide⟩ (Buf.zeroed _)
    ⟨Buf.zeroed _, Buf.zeroed _⟩ (by decide) (by decide) (by decide)
  obtain ⟨v, hv⟩ := hfinds [ch '[' :: longName.chars ++ [ch ']']] (lit "k = v") [] (by decide)
    ⟨by decide, by decide⟩ ⟨by decide, by decide, by decide, by decide, by decide⟩
  have hnone : meaning (some longSection) longName.chars (lit "k") = .ok none := by decide
  rw [Hellomk.lookup_eq, hnone] at hv
  cases hv

end DiscoveryDemo.Ini
