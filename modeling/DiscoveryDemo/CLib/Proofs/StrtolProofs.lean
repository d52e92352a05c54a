import DiscoveryDemo.CLib.Strtol

/-!
# Proofs: `strtol` reads numerals

A string that begins with a numeral is converted to its value, as far as that fits a `long`; from any
other string nothing is converted. A string that is converted in full is therefore a numeral, or
empty.
-/

namespace CLib

/-! ## The characters of a numeral -/

theorem isspace_of_isdigit {c : Byte} (h : isdigit c = true) : isspace c = false := by
  simp only [isdigit, decide_eq_true_eq, UInt8.le_iff_toNat_le] at h
  have h0 : (ch '0').toNat = 48 := by decide
  have hsp : SP.toNat = 32 := by decide
  have hlast : (13 : Byte).toNat = 13 := rfl
  simp only [isspace, decide_eq_false_iff_not, UInt8.le_iff_toNat_le, not_or, not_and]
  refine ⟨?_, fun _ => ?_⟩
  · rintro rfl
    omega
  · omega

theorem ne_sign_of_isdigit {c : Byte} (h : isdigit c = true) : c ≠ ch '-' ∧ c ≠ ch '+' := by
  constructor
  · rintro rfl
    exact absurd h (by decide)
  · rintro rfl
    exact absurd h (by decide)

theorem Numeral.digits_cons (m : Numeral) : ∃ d ds, m.digits = d :: ds ∧ isdigit d = true := by
  obtain ⟨d, ds, hds⟩ := List.exists_cons_of_ne_nil m.nonempty
  exact ⟨d, ds, hds, m.isdigit_digits d (by rw [hds]; exact List.mem_cons_self)⟩

theorem noDigit_nil : NoDigit [] := by
  intro c hc
  cases hc

/-- The first character behind the space of a numeral. -/
theorem head_not_space (m : Numeral) (rest : List Byte) :
    ∀ c, (m.sign.text ++ m.digits ++ rest).head? = some c → isspace c = false := by
  obtain ⟨d, ds, hds, hd⟩ := m.digits_cons
  intro c hc
  rw [hds] at hc
  cases hs : m.sign with
  | none =>
    rw [hs] at hc
    cases hc
    exact isspace_of_isdigit hd
  | plus =>
    rw [hs] at hc
    cases hc
    decide
  | minus =>
    rw [hs] at hc
    cases hc
    decide

section Span

variable {p : Byte → Bool} {u rest : List Byte}

theorem takeWhile_span (hu : ∀ c ∈ u, p c = true) (hrest : ∀ c, rest.head? = some c → p c = false) :
    (u ++ rest).takeWhile p = u := by
  rw [List.takeWhile_append_of_pos hu]
  cases rest with
  | nil => exact List.append_nil u
  | cons c rest => rw [List.takeWhile_cons_of_neg (by simp [hrest c rfl]), List.append_nil]

theorem dropWhile_span (hu : ∀ c ∈ u, p c = true) (hrest : ∀ c, rest.head? = some c → p c = false) :
    (u ++ rest).dropWhile p = rest := by
  rw [List.dropWhile_append_of_pos hu]
  cases rest with
  | nil => rfl
  | cons c rest => rw [List.dropWhile_cons_of_neg (by simp [hrest c rfl])]

theorem head_dropWhile (p : Byte → Bool) (l : List Byte) :
    ∀ c, (l.dropWhile p).head? = some c → p c = false := by
  intro c hc
  have hnot := List.head?_dropWhile_not p l
  rw [hc] at hnot
  simpa using hnot

end Span

/-! ## Reading a numeral -/

theorem splitSign_text (m : Numeral) (rest : List Byte) :
    splitSign (m.sign.text ++ m.digits ++ rest) = (decide (m.sign = .minus), m.digits ++ rest) := by
  obtain ⟨d, ds, hds, hd⟩ := m.digits_cons
  obtain ⟨hminus, hplus⟩ := ne_sign_of_isdigit hd
  rw [hds]
  cases m.sign with
  | none =>
    show splitSign (d :: (ds ++ rest)) = _
    rw [splitSign, if_neg hminus, if_neg hplus]
    rfl
  | plus => rfl
  | minus => rfl

theorem splitSign_numeral (m : Numeral) (rest : List Byte) :
    splitSign ((m.text ++ rest).dropWhile isspace) =
      (decide (m.sign = .minus), m.digits ++ rest) := by
  rw [Numeral.text, List.append_assoc, dropWhile_span m.isspace_space (head_not_space m rest),
    splitSign_text]

/-- **A numeral is converted** to its value, or to the bound that it exceeds. -/
theorem strtol_numeral (m : Numeral) {rest : List Byte} (hrest : NoDigit rest) :
    strtol (m.text ++ rest) =
      if m.value > longMax then ⟨longMax, rest, true⟩
      else if m.value < longMin then ⟨longMin, rest, true⟩
      else ⟨m.value, rest, false⟩ := by
  have hvalue : (if decide (m.sign = .minus) = true then -(digitsValue m.digits : Int)
      else digitsValue m.digits) = m.value := by
    simp only [Numeral.value, decide_eq_true_eq]
  unfold strtol
  rw [splitSign_numeral]
  simp only [takeWhile_span m.isdigit_digits hrest, dropWhile_span m.isdigit_digits hrest,
    if_neg m.nonempty, hvalue]

/-- What stands in front of the digits is white space and an optional sign. -/
theorem splitSign_eq (t : List Byte) :
    ∃ sign : Sign, t = sign.text ++ (splitSign t).2 ∧ (splitSign t).1 = decide (sign = .minus) := by
  cases t with
  | nil => exact ⟨.none, rfl, rfl⟩
  | cons c t =>
    by_cases hminus : c = ch '-'
    · subst hminus
      exact ⟨.minus, rfl, rfl⟩
    · by_cases hplus : c = ch '+'
      · subst hplus
        exact ⟨.plus, rfl, rfl⟩
      · refine ⟨.none, ?_, ?_⟩
        · rw [splitSign, if_neg hminus, if_neg hplus]
          rfl
        · rw [splitSign, if_neg hminus, if_neg hplus]
          rfl

/-- **A string begins with a numeral**, or nothing is converted. -/
theorem numeral_or_none (s : List Byte) :
    (∃ (m : Numeral) (rest : List Byte), s = m.text ++ rest ∧ NoDigit rest) ∨
      (strtol s = ⟨0, s, false⟩ ∧ ∀ (m : Numeral) (rest : List Byte), s ≠ m.text ++ rest) := by
  obtain ⟨sign, hsign, -⟩ := splitSign_eq (s.dropWhile isspace)
  set u := (splitSign (s.dropWhile isspace)).2 with hu
  by_cases hdigits : u.takeWhile isdigit = []
  · right
    constructor
    · unfold strtol
      simp only [← hu, hdigits, if_true]
    · rintro m rest rfl
      rw [splitSign_numeral] at hu
      rw [hu] at hdigits
      obtain ⟨d, ds, hds, hd⟩ := m.digits_cons
      rw [hds, List.cons_append, List.takeWhile_cons_of_pos hd] at hdigits
      cases hdigits
  · left
    refine ⟨⟨s.takeWhile isspace, sign, u.takeWhile isdigit, fun c hc => List.mem_takeWhile_imp hc,
      fun c hc => List.mem_takeWhile_imp hc, hdigits⟩, u.dropWhile isdigit, ?_, head_dropWhile _ _⟩
    rw [Numeral.text, List.append_assoc, List.append_assoc, List.takeWhile_append_dropWhile, ← hsign,
      List.takeWhile_append_dropWhile]

/-! ## The number of a string -/

theorem Begins.unique {s : List Byte} {n n' : Int} (h : Begins s n) (h' : Begins s n') : n = n' := by
  obtain ⟨m, rest, hs, hrest, rfl⟩ := h
  obtain ⟨m', rest', hs', hrest', rfl⟩ := h'
  have hsplit : (decide (m.sign = .minus), m.digits ++ rest) =
      (decide (m'.sign = .minus), m'.digits ++ rest') := by
    rw [← splitSign_numeral, ← splitSign_numeral, ← hs, ← hs']
  obtain ⟨hsign, htail⟩ := Prod.mk.inj hsplit
  have hdigits : m.digits = m'.digits := by
    rw [← takeWhile_span m.isdigit_digits hrest, htail, takeWhile_span m'.isdigit_digits hrest']
  have hiff : m.sign = .minus ↔ m'.sign = .minus := decide_eq_decide.mp hsign
  simp only [Numeral.value, hdigits, hiff]

/-- Digits are a numeral. -/
theorem begins_digits {digits rest : List Byte} (h : digits.all isdigit = true) (hne : digits ≠ [])
    (hrest : NoDigit rest) : Begins (digits ++ rest) (digitsValue digits) :=
  ⟨⟨[], .none, digits, List.forall_mem_nil _, List.all_eq_true.mp h, hne⟩, rest, rfl, hrest, rfl⟩

theorem denotes_digits {digits : List Byte} (h : digits.all isdigit = true) (hne : digits ≠ []) :
    Denotes digits (digitsValue digits) :=
  ⟨⟨[], .none, digits, List.forall_mem_nil _, List.all_eq_true.mp h, hne⟩, rfl, rfl⟩

theorem Denotes.begins {s : List Byte} {n : Int} (h : Denotes s n) : Begins s n := by
  obtain ⟨m, rfl, hn⟩ := h
  exact ⟨m, [], (List.append_nil _).symm, noDigit_nil, hn⟩

theorem Denotes.unique {s : List Byte} {n n' : Int} (h : Denotes s n) (h' : Denotes s n') : n = n' :=
  h.begins.unique h'.begins

/-- **What is converted in full** without an error: numerals for the values of a `long`, and the
empty string. -/
theorem strtol_accepts_iff (s : List Byte) (n : Int) :
    ((strtol s).erange = false ∧ (strtol s).rest = [] ∧ (strtol s).value = n) ↔
      (s = [] ∧ n = 0) ∨ (Denotes s n ∧ longMin ≤ n ∧ n ≤ longMax) := by
  constructor
  · rintro ⟨herange, hnil, hvalue⟩
    rcases numeral_or_none s with ⟨m, rest, rfl, hrest⟩ | ⟨hnone, -⟩
    · rw [strtol_numeral m hrest] at herange hnil hvalue
      by_cases hmax : m.value > longMax
      · rw [if_pos hmax] at herange
        cases herange
      · rw [if_neg hmax] at herange hnil hvalue
        by_cases hmin : m.value < longMin
        · rw [if_pos hmin] at herange
          cases herange
        · rw [if_neg hmin] at hnil hvalue
          have hrest : rest = [] := hnil
          have hn : m.value = n := hvalue
          refine Or.inr ⟨⟨m, by rw [hrest, List.append_nil], hn⟩, ?_, ?_⟩
          · omega
          · omega
    · rw [hnone] at hnil hvalue
      exact Or.inl ⟨hnil, hvalue.symm⟩
  · rintro (⟨rfl, rfl⟩ | ⟨⟨m, rfl, rfl⟩, hmin, hmax⟩)
    · exact ⟨rfl, rfl, rfl⟩
    · have h := strtol_numeral m noDigit_nil
      rw [List.append_nil, if_neg (by omega), if_neg (by omega)] at h
      rw [h]
      exact ⟨rfl, rfl, rfl⟩

/-- **A check of what `strtol` gives**: no error, nothing left, and a value that is not `bad`. -/
theorem checked_eq_some_iff (s : List Byte) (bad : Int → Prop) [DecidablePred bad] (n : Int) :
    (if (strtol s).erange = true ∨ (strtol s).rest ≠ [] ∨ bad (strtol s).value then none
      else some (strtol s).value) = some n ↔
      ((s = [] ∧ n = 0) ∨ (Denotes s n ∧ longMin ≤ n ∧ n ≤ longMax)) ∧ ¬bad n := by
  rw [← strtol_accepts_iff]
  constructor
  · intro h
    split at h
    · cases h
    · rename_i hok
      obtain ⟨herange, hok⟩ := not_or.mp hok
      obtain ⟨hrest, hbad⟩ := not_or.mp hok
      have hvalue : (strtol s).value = n := Option.some.inj h
      rw [hvalue] at hbad
      exact ⟨⟨eq_false_of_ne_true herange, not_not.mp hrest, hvalue⟩, hbad⟩
  · rintro ⟨⟨herange, hrest, hvalue⟩, hbad⟩
    rw [if_neg, hvalue]
    rintro (herange' | hrest' | hbad')
    · rw [herange] at herange'
      cases herange'
    · exact hrest' hrest
    · rw [hvalue] at hbad'
      exact hbad hbad'

/-- A `long` that is not negative, as an `unsigned int`. -/
theorem toNat_ofInt_long {v : Int} (hpos : 0 ≤ v) (hmax : v ≤ longMax) :
    ((UInt32.ofInt v).toNat : Int) = v := by
  have hlong : longMax = 2 ^ 31 - 1 := rfl
  rw [UInt32.ofInt, UInt32.toNat_ofNat']
  omega

section Atoi

variable {other : List Byte → Int} {s : List Byte} {n : Int}

theorem atoi_begins (h : Begins s n) (hmin : longMin ≤ n) (hmax : n ≤ longMax) :
    atoi other s = n := by
  obtain ⟨m, rest, rfl, hrest, rfl⟩ := h
  have h := strtol_numeral m hrest
  rw [if_neg (by omega), if_neg (by omega)] at h
  unfold atoi
  rw [h]
  rfl

theorem atoi_overflow (h : Begins s n) (hn : n < longMin ∨ longMax < n) :
    atoi other s = other s := by
  obtain ⟨m, rest, rfl, hrest, rfl⟩ := h
  have h := strtol_numeral m hrest
  unfold atoi
  by_cases hmax : m.value > longMax
  · rw [if_pos hmax] at h
    rw [h]
    rfl
  · rw [if_neg hmax, if_pos (by omega)] at h
    rw [h]
    rfl

theorem atoi_nothing (h : ∀ n, ¬Begins s n) : atoi other s = 0 := by
  rcases numeral_or_none s with ⟨m, rest, hs, hrest⟩ | ⟨hnone, -⟩
  · exact absurd ⟨m, rest, hs, hrest, rfl⟩ (h m.value)
  · unfold atoi
    rw [hnone]
    rfl

end Atoi

end CLib
