import DiscoveryDemo.Ini.Safety
import DiscoveryDemo.Ini.Proofs.ScanProofs

/-!
# Proofs: when a lookup stays inside its buffers

The only access that can leave a buffer is the one behind an empty key at the beginning of the line
buffer, and it happens exactly if a chunk that begins with `=` is reached in a named section.
-/

namespace DiscoveryDemo.Ini

open CLib

variable {sec key : List Byte} {content : List Byte}

/-! ## Chunks and items -/

theorem text_head {c : List Byte} {x : Byte} (hx : x ≠ NUL) :
    (text c).head? = some x ↔ c.head? = some x := by
  cases c with
  | nil => simp [text]
  | cons y c =>
    by_cases hy : y = NUL
    · simp [text, hy, Ne.symm hx]
    · simp [text, hy]

theorem keyless_chunk_iff {c : List Byte} :
    classify (text c) = .keyless ↔ c.head? = some (ch '=') := by
  rw [classify_eq_keyless_iff, text_head (by decide)]

/-- A place among the items of a file is a place among its chunks. -/
theorem located_items_iff {A : List (List Byte × Item)} {x : List Byte × Item}
    {cs : List (List Byte)} :
    (∃ B, located [] (cs.map fun c => classify (text c)) = A ++ x :: B) ↔
      ∃ P c Q, cs = P ++ c :: Q ∧ A = located [] (P.map fun c => classify (text c)) ∧
        x = (sectionAfter P, classify (text c)) := by
  constructor
  · rintro ⟨B, h⟩
    obtain ⟨pre, it, post, hpre, rfl, rfl, -⟩ := located_eq_append_iff.mp h
    obtain ⟨P, R, rfl, rfl, hR⟩ := List.map_eq_append_iff.mp hpre
    obtain ⟨c, Q, rfl, rfl, rfl⟩ := List.map_eq_cons_iff.mp hR
    exact ⟨P, c, Q, rfl, rfl, rfl⟩
  · rintro ⟨P, c, Q, rfl, rfl, rfl⟩
    exact ⟨_, located_eq_append_iff.mpr
      ⟨_, _, Q.map fun c => classify (text c), by simp, rfl, rfl, rfl⟩⟩

theorem mem_located_iff {x : List Byte × Item} {cs : List (List Byte)} :
    x ∈ located [] (cs.map fun c => classify (text c)) ↔
      ∃ P c Q, cs = P ++ c :: Q ∧ x = (sectionAfter P, classify (text c)) := by
  constructor
  · intro h
    obtain ⟨A, B, hAB⟩ := List.append_of_mem h
    obtain ⟨P, c, Q, hcs, -, hx⟩ := located_items_iff.mp ⟨B, hAB⟩
    exact ⟨P, c, Q, hcs, hx⟩
  · rintro ⟨P, c, Q, hcs, hx⟩
    obtain ⟨B, hB⟩ := located_items_iff.mpr ⟨P, c, Q, hcs, rfl, hx⟩
    rw [hB]
    simp

theorem entryIn_iff {P : List (List Byte)} :
    EntryIn sec key P ↔
      ∃ x ∈ located [] (P.map fun c => classify (text c)), ∃ v, Hit sec key v x := by
  constructor
  · rintro ⟨A, c, B, v, hP, hne, hsec, hc⟩
    exact ⟨_, mem_located_iff.mpr ⟨A, c, B, hP, rfl⟩, v, hne, by rw [hsec, hc]⟩
  · rintro ⟨x, hx, v, hne, rfl⟩
    obtain ⟨A, c, B, hP, he⟩ := mem_located_iff.mp hx
    obtain ⟨hsec, hc⟩ := Prod.mk.inj he
    exact ⟨A, c, B, v, hP, hne, hsec.symm, hc.symm⟩

theorem harmless_iff {P : List (List Byte)} :
    Harmless P ↔ ∀ x ∈ located [] (P.map fun c => classify (text c)), ¬Hazard x := by
  constructor
  · rintro h x hx ⟨hne, hk⟩
    obtain ⟨A, c, B, hP, rfl⟩ := mem_located_iff.mp hx
    exact hne (h A c B hP (keyless_chunk_iff.mp hk))
  · intro h A c B hP hc
    by_contra hne
    exact h _ (mem_located_iff.mpr ⟨A, c, B, hP, rfl⟩) ⟨hne, keyless_chunk_iff.mpr hc⟩

/-- The scan gets past the chunks that hold no entry for the key and do no harm. -/
theorem scan_passes_iff {P : List (List Byte)} :
    scan sec key [] (P.map fun c => classify (text c)) = .ok none ↔
      Harmless P ∧ ¬EntryIn sec key P := by
  rw [scan_eq_none_iff, harmless_iff, entryIn_iff]
  constructor
  · intro hq
    refine ⟨fun x hx => (hq x hx).1, ?_⟩
    rintro ⟨x, hx, v, hv⟩
    exact (hq x hx).2 v hv
  · rintro ⟨hharm, hno⟩ x hx
    exact ⟨hharm x hx, fun v hv => hno ⟨x, hx, v, hv⟩⟩

/-! ## Safety -/

/-- The reader leaves its buffer exactly on the files that are not safe. -/
theorem meaning_safe_iff (file : Option (List Byte)) (sec key : List Byte) :
    (∀ f, meaning file sec key ≠ .error f) ↔ SafeFor file sec key := by
  cases file with
  | none => simp [meaning, SafeFor]
  | some content =>
    constructor
    · rintro hok content' ⟨⟩ P c Q hcs hc
      by_contra hbad
      push Not at hbad
      obtain ⟨hne, hno⟩ := hbad
      -- the hazard at `c`, or an earlier one, comes before every hit
      have hz : Hazard (sectionAfter P, classify (text c)) := ⟨hne, keyless_chunk_iff.mpr hc⟩
      obtain ⟨B, hB⟩ := located_items_iff.mpr ⟨P, c, Q, hcs, rfl, rfl⟩
      by_cases hq : Quiet sec key (located [] (P.map fun c => classify (text c)))
      · exact hok _ (scan_eq_error_iff.mpr ⟨rfl, _, _, B, hB, hz, hq⟩)
      · obtain ⟨A1, x, A2, hA, hstop, hq1⟩ := exists_first_stop hq
        rcases hstop with hzx | ⟨v, hv⟩
        · refine hok _ (scan_eq_error_iff.mpr
            ⟨rfl, A1, x, A2 ++ (sectionAfter P, classify (text c)) :: B, ?_, hzx, hq1⟩)
          have hloc : located [] (items content) = _ := hB
          rw [hloc, hA]
          simp
        · exact hno (entryIn_iff.mpr ⟨x, by rw [hA]; simp, v, hv⟩)
    · intro hsafe f hf
      obtain ⟨-, A, x, B, hl, hz, hq⟩ := scan_eq_error_iff.mp hf
      obtain ⟨P, c, Q, hcs, rfl, rfl⟩ := located_items_iff.mp ⟨B, hl⟩
      rcases hsafe content rfl P c Q hcs (keyless_chunk_iff.mp hz.2) with h | h
      · exact hz.1 h
      · obtain ⟨y, hy, v, hv⟩ := entryIn_iff.mp h
        exact (hq y hy).2 v hv

theorem meaning_present_iff (file : Option (List Byte)) (sec key : List Byte) :
    (∃ v, meaning file sec key = .ok (some v)) ↔ Present file sec key := by
  cases file with
  | none => simp [meaning, Present]
  | some content =>
    constructor
    · rintro ⟨v, hv⟩
      obtain ⟨A, x, B, hl, ⟨hne, rfl⟩, hq⟩ := scan_eq_some_iff.mp hv
      obtain ⟨P, c, Q, hcs, rfl, he⟩ := located_items_iff.mp ⟨B, hl⟩
      obtain ⟨hsec, hc⟩ := Prod.mk.inj he
      exact ⟨content, P, c, Q, v, rfl, hcs, hne, hsec.symm, hc.symm,
        harmless_iff.mpr fun y hy => (hq y hy).1⟩
    · rintro ⟨content', P, c, Q, v, ⟨⟩, hcs, hne, hsec, hc, hharm⟩
      obtain ⟨B, hB⟩ := located_items_iff.mpr ⟨P, c, Q, hcs, rfl, rfl⟩
      have hhit : Hit sec key v (sectionAfter P, classify (text c)) := ⟨hne, by rw [hsec, hc]⟩
      by_cases hq : Quiet sec key (located [] (P.map fun c => classify (text c)))
      · exact ⟨v, scan_eq_some_iff.mpr ⟨_, _, B, hB, hhit, hq⟩⟩
      · obtain ⟨A1, x, A2, hA, hstop, hq1⟩ := exists_first_stop hq
        rcases hstop with hzx | ⟨w, hw⟩
        · exact absurd hzx (harmless_iff.mp hharm x (by rw [hA]; simp))
        · refine ⟨w, scan_eq_some_iff.mpr
            ⟨A1, x, A2 ++ (sectionAfter P, classify (text c)) :: B, ?_, hw, hq1⟩⟩
          have hloc : located [] (items content) = _ := hB
          rw [hloc, hA]
          simp

/-- **The reader stays inside its buffers** exactly on the files in which no chunk that begins with
`=` is reached in a named section. -/
theorem getConfigValue_safe_iff (file : Option (List Byte)) (sec key : CStr) (line : LineBuf)
    (st : Hellomkcpp.Statics) :
    ((∀ f, Hellomk.getConfigValue line file sec key ≠ .error f) ↔
      SafeFor file sec.chars key.chars) ∧
    ((∀ f, Hellomkcpp.getConfigValue st file sec key ≠ .error f) ↔
      SafeFor file sec.chars key.chars) := by
  simp only [ne_eq, Hellomk.getConfigValue_error_iff, Hellomkcpp.getConfigValue_error_iff]
  exact ⟨meaning_safe_iff _ _ _, meaning_safe_iff _ _ _⟩

/-- On an entry with nothing before its `=` the reader reads `line[-1]`. -/
theorem getConfigValue_unsafe :
    Hellomk.getConfigValue (Buf.zeroed _) (some (lit "[a]\n=x\n")) ⟨lit "a", by decide⟩
      ⟨lit "k", by decide⟩ = .error (.outOfBounds (-1)) ∧
    Hellomkcpp.getConfigValue ⟨Buf.zeroed _, Buf.zeroed _⟩ (some (lit "[a]\n=x\n"))
      ⟨lit "a", by decide⟩ ⟨lit "k", by decide⟩ = .error (.outOfBounds (-1)) := by
  rw [Hellomk.getConfigValue_error_iff, Hellomkcpp.getConfigValue_error_iff]
  decide

end DiscoveryDemo.Ini
