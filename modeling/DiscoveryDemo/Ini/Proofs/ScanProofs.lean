import DiscoveryDemo.Ini.Proofs.ReaderProofs

/-!
# Proofs: a scan finds the first item it stops at

A scan over the items is a search in the list of items with their sections. What it returns is
decided by the first item at which it stops: a hit is returned, a hazard is a fault.
-/

namespace DiscoveryDemo.Ini

open CLib

variable {sec key v current : List Byte} {l m : List Item} {x : List Byte × Item}

theorem located_append (current : List Byte) (l m : List Item) :
    located current (l ++ m) = located current l ++ located (l.foldl Item.enter current) m := by
  induction l generalizing current with
  | nil => rfl
  | cons it l ih => simp [located, ih]

/-- A place in the list of items with their sections is a place in the list of items. -/
theorem located_eq_append_iff {A B : List (List Byte × Item)} :
    located current l = A ++ x :: B ↔
      ∃ pre it post, l = pre ++ it :: post ∧ A = located current pre ∧
        x = (pre.foldl Item.enter current, it) ∧
        B = located (it.enter (pre.foldl Item.enter current)) post := by
  constructor
  · intro h
    induction A generalizing current l with
    | nil =>
      cases l with
      | nil => simp [located] at h
      | cons it l =>
        simp only [located, List.nil_append, List.cons.injEq] at h
        exact ⟨[], it, l, rfl, rfl, h.1.symm, h.2.symm⟩
    | cons a A ih =>
      cases l with
      | nil => simp [located] at h
      | cons it l =>
        simp only [located, List.cons_append, List.cons.injEq] at h
        obtain ⟨pre, it', post, rfl, rfl, hx, hB⟩ := ih h.2
        exact ⟨it :: pre, it', post, rfl, by rw [located, h.1], hx, hB⟩
  · rintro ⟨pre, it, post, rfl, rfl, rfl, rfl⟩
    simp [located_append, located]

/-- An item stops the scan exactly if it is a hazard or a hit. -/
theorem stops_iff : stops sec key x = true ↔ Hazard x ∨ ∃ v, Hit sec key v x := by
  obtain ⟨c, it⟩ := x
  cases it with
  | inert => simp [stops, Hazard, Hit]
  | header name => simp [stops, Hazard, Hit]
  | keyless => simp [stops, Hazard, Hit]
  | entry k v =>
    simp only [stops, Hazard, Hit, decide_eq_true_eq]
    constructor
    · rintro ⟨h1, rfl, rfl⟩
      exact Or.inr ⟨v, h1, rfl⟩
    · rintro (⟨-, h⟩ | ⟨w, h1, h⟩)
      · cases h
      · cases h
        exact ⟨h1, rfl, rfl⟩

/-- **The scan is a search** for the first item that stops it. -/
theorem scan_eq_find (sec key current : List Byte) (l : List Item) :
    scan sec key current l =
      match (located current l).find? (stops sec key) with
      | some (_, .entry _ v) => .ok (some v)
      | some _ => .error (.outOfBounds (-1))
      | none => .ok none := by
  induction l generalizing current with
  | nil => rfl
  | cons it l ih =>
    cases it with
    | inert => simp [scan, located, stops, Item.enter, ih]
    | header name => simp [scan, located, stops, Item.enter, ih]
    | keyless =>
      by_cases h : current = []
      · simp [scan, located, stops, Item.enter, ih, h]
      · simp [scan, located, stops, h]
    | entry k v =>
      by_cases h : current ≠ [] ∧ current = sec ∧ k = key
      · have hst : stops sec key (current, .entry k v) = true := by simpa [stops] using h
        rw [scan, if_pos h, located, List.find?_cons_of_pos hst]
      · have hst : ¬stops sec key (current, .entry k v) = true := by simpa [stops] using h
        rw [scan, if_neg h, located, List.find?_cons_of_neg hst]
        exact ih current

/-- Nothing in `A` stops the scan. -/
def Quiet (sec key : List Byte) (A : List (List Byte × Item)) : Prop :=
  ∀ x ∈ A, ¬Hazard x ∧ ∀ v, ¬Hit sec key v x

theorem quiet_iff {A : List (List Byte × Item)} :
    Quiet sec key A ↔ ∀ x ∈ A, stops sec key x = false := by
  unfold Quiet
  refine forall₂_congr fun x _ => ?_
  rw [← Bool.not_eq_true, stops_iff, not_or, not_exists]

/-- A value is returned exactly if its entry is the first item that stops the scan. -/
theorem scan_eq_some_iff :
    scan sec key current l = .ok (some v) ↔
      ∃ A x B, located current l = A ++ x :: B ∧ Hit sec key v x ∧ Quiet sec key A := by
  rw [scan_eq_find]
  constructor
  · intro h
    cases hf : (located current l).find? (stops sec key) with
    | none => simp [hf] at h
    | some x =>
      obtain ⟨hst, A, B, hl, hA⟩ := List.find?_eq_some_iff_append.mp hf
      refine ⟨A, x, B, hl, ?_, quiet_iff.mpr (by simpa using hA)⟩
      rcases stops_iff.mp hst with hz | ⟨w, hw⟩
      · obtain ⟨c, it⟩ := x
        obtain ⟨-, hit⟩ := hz
        cases hit
        simp [hf] at h
      · obtain ⟨h0, hx⟩ := id hw
        rw [hf, hx] at h
        cases h
        exact hw
  · rintro ⟨A, x, B, hl, hx, hA⟩
    have hf : (located current l).find? (stops sec key) = some x := by
      refine List.find?_eq_some_iff_append.mpr ⟨stops_iff.mpr (Or.inr ⟨v, hx⟩), A, B, hl, ?_⟩
      simpa using quiet_iff.mp hA
    rw [hf, hx.2]

theorem scan_eq_none_iff :
    scan sec key current l = .ok none ↔ Quiet sec key (located current l) := by
  rw [scan_eq_find, quiet_iff]
  constructor
  · intro h
    cases hf : (located current l).find? (stops sec key) with
    | none => simpa using List.find?_eq_none.mp hf
    | some x =>
      obtain ⟨c, it⟩ := x
      cases it <;> simp [hf] at h
  · intro h
    rw [List.find?_eq_none.mpr (by simpa using h)]

/-- The scan leaves the buffer exactly if a hazard comes before every hit. -/
theorem scan_eq_error_iff {f : Fault} :
    scan sec key current l = .error f ↔ f = .outOfBounds (-1) ∧
      ∃ A x B, located current l = A ++ x :: B ∧ Hazard x ∧ Quiet sec key A := by
  rw [scan_eq_find]
  constructor
  · intro h
    cases hf : (located current l).find? (stops sec key) with
    | none => simp [hf] at h
    | some x =>
      obtain ⟨hst, A, B, hl, hA⟩ := List.find?_eq_some_iff_append.mp hf
      rcases stops_iff.mp hst with hz | ⟨w, -, hx⟩
      · refine ⟨?_, A, x, B, hl, hz, quiet_iff.mpr (by simpa using hA)⟩
        obtain ⟨c, it⟩ := x
        obtain ⟨-, hit⟩ := hz
        cases hit
        rw [hf] at h
        cases h
        rfl
      · rw [hf, hx] at h
        cases h
  · rintro ⟨rfl, A, x, B, hl, hz, hA⟩
    have hf : (located current l).find? (stops sec key) = some x := by
      refine List.find?_eq_some_iff_append.mpr ⟨stops_iff.mpr (Or.inl hz), A, B, hl, ?_⟩
      simpa using quiet_iff.mp hA
    obtain ⟨c, it⟩ := x
    obtain ⟨-, hit⟩ := hz
    cases hit
    rw [hf]

/-- If there is anything at which the scan must stop, there is a first such item. -/
theorem exists_first_stop {A : List (List Byte × Item)} (h : ¬Quiet sec key A) :
    ∃ A1 x A2, A = A1 ++ x :: A2 ∧ (Hazard x ∨ ∃ v, Hit sec key v x) ∧ Quiet sec key A1 := by
  rw [quiet_iff] at h
  push Not at h
  obtain ⟨x, hx, hst⟩ := h
  have hsome : (A.find? (stops sec key)).isSome := by
    rw [List.find?_isSome]
    exact ⟨x, hx, by simpa using hst⟩
  obtain ⟨y, hy⟩ := Option.isSome_iff_exists.mp hsome
  obtain ⟨hst, A1, A2, hl, hA⟩ := List.find?_eq_some_iff_append.mp hy
  exact ⟨A1, y, A2, hl, stops_iff.mp hst, quiet_iff.mpr (by simpa using hA)⟩

end DiscoveryDemo.Ini
