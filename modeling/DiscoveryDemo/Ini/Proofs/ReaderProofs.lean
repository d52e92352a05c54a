import DiscoveryDemo.Ini.Reader
import DiscoveryDemo.CLib.Proofs.BufferProofs

/-!
# Proofs: the INI reader refines the scan over items

One lemma for each loop and each branch of the source, on a buffer that holds a string; then the
body of the read loop, by the item that the string is; then the loop, by induction on the file.
-/

namespace DiscoveryDemo.Ini

open CLib

variable {n : Nat}

/-- The five things a text can be, with the tests that have led there. -/
inductive Classified (t : List Byte) : Item → Prop where
  | ignored (h1 : t.head? = some (ch '#') ∨ t.head? = some NL) : Classified t .inert
  | header (h2 : IsHeader t) :
      Classified t (.header ((bracketText t).take (maxSectionLength - 1)))
  | noEquals (h1 : ¬(t.head? = some (ch '#') ∨ t.head? = some NL)) (h2 : ¬IsHeader t)
      (h3 : ch '=' ∉ t) : Classified t .inert
  | keyless (h1 : ¬(t.head? = some (ch '#') ∨ t.head? = some NL)) (h2 : ¬IsHeader t)
      (h4 : t.head? = some (ch '=')) : Classified t .keyless
  | entry (h1 : ¬(t.head? = some (ch '#') ∨ t.head? = some NL)) (h2 : ¬IsHeader t)
      (h3 : ch '=' ∈ t) (h4 : t.head? ≠ some (ch '=')) :
      Classified t (.entry (trimSpaces (keyText t)) (valueText t))

theorem classified (t : List Byte) : Classified t (classify t) := by
  unfold classify
  by_cases h1 : t.head? = some (ch '#') ∨ t.head? = some NL
  · rw [if_pos h1]
    exact .ignored h1
  · rw [if_neg h1]
    by_cases h2 : IsHeader t
    · rw [if_pos h2]
      exact .header h2
    · rw [if_neg h2]
      by_cases h3 : ch '=' ∈ t
      · rw [if_pos h3]
        by_cases h4 : t.head? = some (ch '=')
        · rw [if_pos h4]
          exact .keyless h1 h2 h4
        · rw [if_neg h4]
          exact .entry h1 h2 h3 h4
      · rw [if_neg h3]
        exact .noEquals h1 h2 h3

theorem classify_eq_header_iff {t name : List Byte} :
    classify t = .header name ↔
      IsHeader t ∧ name = (bracketText t).take (maxSectionLength - 1) := by
  constructor
  · intro h
    have hc := classified t
    rw [h] at hc
    cases hc with
    | header h2 => exact ⟨h2, rfl⟩
  · rintro ⟨h2, rfl⟩
    have h1 : ¬(t.head? = some (ch '#') ∨ t.head? = some NL) := by
      rw [h2.1]
      decide
    unfold classify
    rw [if_neg h1, if_pos h2]

theorem classify_eq_keyless_iff {t : List Byte} :
    classify t = .keyless ↔ t.head? = some (ch '=') := by
  constructor
  · intro h
    have hc := classified t
    rw [h] at hc
    cases hc with
    | keyless _ _ h4 => exact h4
  · intro h
    have h1 : ¬(t.head? = some (ch '#') ∨ t.head? = some NL) := by
      rw [h]
      decide
    have h2 : ¬IsHeader t := by
      rintro ⟨hh, -⟩
      rw [h] at hh
      exact absurd hh (by decide)
    unfold classify
    rw [if_neg h1, if_neg h2, if_pos (List.mem_of_mem_head? h), if_pos h]

/-! ## Trimming the key -/

section TrimKey

variable {line line' : Buf n} {k len : Nat}

theorem trimKeyEnd_stop {c : Byte} (hlen : line.strlen k = .ok len)
    (hr : line.read (k + len - 1) = .ok c) (hc : c ≠ SP) : trimKeyEnd line k = .ok line := by
  rw [trimKeyEnd]
  simp only [hlen]
  split
  · rename_i f hf
    rw [hr] at hf
    cases hf
  · rename_i x hx
    rw [hr] at hx
    cases hx
    rw [dif_neg hc]

theorem trimKeyEnd_step (hlen : line.strlen k = .ok len) (hr : line.read (k + len - 1) = .ok SP)
    (hw : line.write (k + len - 1) NUL = .ok line') : trimKeyEnd line k = trimKeyEnd line' k := by
  rw [trimKeyEnd]
  simp only [hlen]
  split
  · rename_i f hf
    rw [hr] at hf
    cases hf
  · rename_i x hx
    rw [hr] at hx
    cases hx
    rw [dif_pos rfl]
    split
    · rename_i f hf
      rw [hw] at hf
      cases hf
    · rename_i l hl
      rw [hw] at hl
      cases hl
      rfl

theorem trimKeyEnd_fault {f : Fault} (hlen : line.strlen k = .ok len)
    (hr : line.read (k + len - 1) = .error f) : trimKeyEnd line k = .error f := by
  rw [trimKeyEnd]
  simp only [hlen]
  split
  · rename_i g hg
    rw [hr] at hg
    cases hg
    rfl
  · rename_i x hx
    rw [hr] at hx
    cases hx

end TrimKey

/-- A key that does not begin with a space loses its trailing spaces to NULs. -/
theorem trimKeyEnd_word {line : Buf n} {pre w rest : List Byte}
    (h : line.bytes = pre ++ (w ++ NUL :: rest)) (hw : NUL ∉ w) (hne : w ≠ [])
    (hhead : w.head? ≠ some SP) :
    ∃ line', trimKeyEnd line pre.length = .ok line' ∧
      line'.bytes = pre ++ (w.rdropWhile (· = SP) ++
        (List.replicate (w.length - (w.rdropWhile (· = SP)).length) NUL ++ NUL :: rest)) := by
  induction w using List.reverseRecOn generalizing line rest with
  | nil => exact absurd rfl hne
  | append_singleton u x ih =>
    have hlen : line.strlen pre.length = .ok (u ++ [x]).length :=
      Buf.strlen_eq (Buf.str_middle h rfl hw)
    have hmid : line.bytes = (pre ++ u) ++ x :: (NUL :: rest) := by simpa using h
    have hidx : ((pre.length : Int) + (u ++ [x]).length - 1) = (pre ++ u).length := by
      simp
      omega
    have hr := Buf.read_middle hmid hidx
    by_cases hx : x = SP
    · subst hx
      have hu : u ≠ [] := by
        rintro rfl
        exact hhead rfl
      obtain ⟨b, hwr, hb⟩ := Buf.write_middle hmid hidx NUL
      have hb' : b.bytes = pre ++ (u ++ NUL :: (NUL :: rest)) := by simpa using hb
      have hhead' : u.head? ≠ some SP := by
        obtain ⟨y, t, rfl⟩ := List.exists_cons_of_ne_nil hu
        simpa using hhead
      obtain ⟨line', ht, hl⟩ := ih hb' (fun hm => hw (List.mem_append_left _ hm)) hu hhead'
      refine ⟨line', by rw [trimKeyEnd_step hlen hr hwr, ht], ?_⟩
      have hle : (u.rdropWhile (· = SP)).length ≤ u.length := (List.rdropWhile_prefix _ u).length_le
      have hdrop : (u ++ [SP]).rdropWhile (· = SP) = u.rdropWhile (· = SP) := by simp
      have hcount : (u ++ [SP]).length - (u.rdropWhile (· = SP)).length =
          (u.length - (u.rdropWhile (· = SP)).length) + 1 := by
        simp
        omega
      rw [hl, hdrop, hcount, List.replicate_succ']
      simp
    · refine ⟨line, trimKeyEnd_stop hlen hr hx, ?_⟩
      have hdrop : (u ++ [x]).rdropWhile (· = SP) = u ++ [x] := by simp [hx]
      rw [hdrop, h]
      simp

/-- A key of nothing but spaces: one of them is overwritten, and the key is empty. -/
theorem trimKeyEnd_spaces {line : Buf n} {m : Nat} {rest : List Byte}
    (h : line.bytes = List.replicate (m + 1) SP ++ NUL :: rest) :
    ∃ line', trimKeyEnd line (m + 1) = .ok line' ∧
      line'.bytes = List.replicate m SP ++ NUL :: (NUL :: rest) := by
  have hstr : ∀ (b : Buf n) (l : List Byte), b.bytes = l ++ ([] ++ NUL :: rest) → l.length = m + 1 →
      b.strlen (m + 1) = .ok 0 := by
    intro b l hb hl
    exact Buf.strlen_eq (Buf.str_middle hb hl.symm (by simp))
  have hmid : line.bytes = List.replicate m SP ++ SP :: (NUL :: rest) := by
    rw [h, List.replicate_succ']
    simp
  have hidx : (((m + 1 : Nat) : Int) + (0 : Nat) - 1) = (List.replicate m SP).length := by
    simp
  have hr := Buf.read_middle hmid hidx
  obtain ⟨b, hw, hb⟩ := Buf.write_middle hmid hidx NUL
  refine ⟨b, ?_, hb⟩
  have hl1 := hstr line (List.replicate (m + 1) SP) (by simpa using h) (by simp)
  have hl2 := hstr b (List.replicate m SP ++ [NUL]) (by simpa using hb) (by simp)
  rw [trimKeyEnd_step hl1 hr hw]
  exact trimKeyEnd_stop hl2 (Buf.read_middle hb hidx) (by decide)

/-- An empty key at the beginning of the line makes the loop read the byte before the line. -/
theorem trimKeyEnd_empty {line : Buf n} {rest : List Byte} (h : line.bytes = NUL :: rest) :
    trimKeyEnd line 0 = .error (.outOfBounds (-1)) := by
  have hb : line.bytes = [] ++ ([] ++ NUL :: rest) := h
  have hlen : line.strlen 0 = .ok 0 := Buf.strlen_eq (Buf.str_middle hb rfl (by simp))
  exact trimKeyEnd_fault hlen (Buf.read_neg (by decide))

theorem takeWhile_sp_eq_replicate (l : List Byte) :
    l.takeWhile (· = SP) = List.replicate (l.takeWhile (· = SP)).length SP := by
  rw [List.eq_replicate_iff]
  refine ⟨rfl, fun x hx => ?_⟩
  simpa using List.mem_takeWhile_imp hx

theorem dropWhile_sp_head (l : List Byte) : (l.dropWhile (· = SP)).head? ≠ some SP := by
  intro h
  have hnot := List.head?_dropWhile_not (fun y => decide (y = SP)) l
  rw [h] at hnot
  simp at hnot

/-- **Trimming the key.** On a key text that is not empty both loops stay inside the line, they leave
the trimmed key behind, and they touch nothing from the terminator of the key on. -/
theorem trimKey_spec {line : Buf n} {t rest : List Byte} (h : line.bytes = t ++ NUL :: rest)
    (ht : NUL ∉ t) (hne : t ≠ []) :
    ∃ line' p, trimKeyEnd line (t.takeWhile (· = SP)).length = .ok line' ∧
      line'.bytes = p ++ NUL :: rest ∧ p.length = t.length ∧
      line'.str (t.takeWhile (· = SP)).length = .ok (trimSpaces t) := by
  have hsplit := List.takeWhile_append_dropWhile (p := fun x => decide (x = SP)) (l := t)
  set a := t.takeWhile (· = SP) with ha
  set w := t.dropWhile (· = SP) with hwd
  have hw : NUL ∉ w := fun hm => ht ((List.dropWhile_sublist _).mem hm)
  by_cases hwn : w = []
  · -- the key text is all spaces
    rw [hwn, List.append_nil] at hsplit
    have hlen : a.length ≠ 0 := by
      rw [hsplit]
      simpa using hne
    obtain ⟨m, hm⟩ := Nat.exists_eq_succ_of_ne_zero hlen
    have ha' : a = List.replicate (m + 1) SP := by
      rw [← Nat.succ_eq_add_one, ← hm]
      exact takeWhile_sp_eq_replicate t
    obtain ⟨line', htrim, hb⟩ := trimKeyEnd_spaces (by rw [← ha', hsplit]; exact h)
    refine ⟨line', List.replicate m SP ++ [NUL], by rw [hm]; exact htrim, by simpa using hb, ?_, ?_⟩
    · rw [← hsplit, ha']
      simp
    · have hb' : line'.bytes = (List.replicate m SP ++ [NUL]) ++ ([] ++ NUL :: rest) := by
        simpa using hb
      have htr : trimSpaces t = [] := by simp [trimSpaces, ← hwd, hwn]
      rw [htr]
      exact Buf.str_middle hb' (by simp [hm]) (by simp)
  · have hb : line.bytes = a ++ (w ++ NUL :: rest) := by
      rw [h, ← hsplit]
      simp
    obtain ⟨line', htrim, hb'⟩ := trimKeyEnd_word hb hw hwn (dropWhile_sp_head t)
    have hle : (w.rdropWhile (· = SP)).length ≤ w.length := (List.rdropWhile_prefix _ w).length_le
    refine ⟨line', a ++ (w.rdropWhile (· = SP) ++
      List.replicate (w.length - (w.rdropWhile (· = SP)).length) NUL), htrim, by simpa using hb', ?_, ?_⟩
    · rw [← hsplit]
      simp
      omega
    · have hnul : NUL ∉ w.rdropWhile (· = SP) := fun hm =>
        hw ((List.rdropWhile_prefix _ w).subset hm)
      have hb2 : ∃ rest', line'.bytes = a ++ (w.rdropWhile (· = SP) ++ NUL :: rest') := by
        cases hk : w.length - (w.rdropWhile (· = SP)).length with
        | zero => exact ⟨rest, by rw [hb', hk]; simp⟩
        | succ m => exact ⟨List.replicate m NUL ++ NUL :: rest, by
            rw [hb', hk, List.replicate_succ]; simp⟩
      obtain ⟨rest', hb2⟩ := hb2
      exact Buf.str_middle hb2 rfl hnul

/-! ## Trimming the value -/

/-- **Trimming the value.** The leading spaces are skipped, a NUL goes over the newline or the
terminator, and nothing outside the value is touched. -/
theorem trimValue_spec {line : Buf n} {p v rest : List Byte}
    (h : line.bytes = p ++ NUL :: (v ++ NUL :: rest)) (hv : NUL ∉ v) {q : Nat}
    (hq : q = p.length + 1) :
    countWhile SP (line.bytes.drop q) = .ok (v.takeWhile (· = SP)).length ∧
    ∃ e line', line.strcspn (q + (v.takeWhile (· = SP)).length) NL = .ok e ∧
      line.write ((q + (v.takeWhile (· = SP)).length : Nat) + e) NUL = .ok line' ∧
      (∃ v', line'.bytes = p ++ NUL :: (v' ++ NUL :: rest) ∧ v'.length = v.length) ∧
      line'.str (q + (v.takeWhile (· = SP)).length) =
        .ok ((v.dropWhile (· = SP)).takeWhile (· ≠ NL)) := by
  have hsplit := List.takeWhile_append_dropWhile (p := fun x => decide (x = SP)) (l := v)
  have hsplit2 := List.takeWhile_append_dropWhile (p := fun x => decide (x ≠ NL))
    (l := v.dropWhile (· = SP))
  set a := v.takeWhile (· = SP) with ha
  set w := v.dropWhile (· = SP) with hw
  set x := w.takeWhile (· ≠ NL) with hx
  have hwnul : NUL ∉ w := fun hm => hv ((List.dropWhile_sublist _).mem hm)
  have hxnul : NUL ∉ x := fun hm => hwnul ((List.takeWhile_prefix _).subset hm)
  refine ⟨?_, ?_⟩
  · have hdrop : line.bytes.drop q = v ++ NUL :: rest := by
      rw [h, hq, List.drop_append, List.drop_eq_nil_of_le (by omega)]
      simp
    rw [hdrop]
    exact countWhile_terminated (by decide) v rest
  · have hb : line.bytes = (p ++ NUL :: a) ++ (w ++ NUL :: rest) := by
      rw [h, ← hsplit]
      simp
    have hpos : q + a.length = (p ++ NUL :: a).length := by
      simp [hq]
      omega
    have hstr := Buf.str_middle hb hpos hwnul
    -- the byte that is overwritten is the newline, or the terminator if there is none
    have htail : ∃ y tl v', w.dropWhile (· ≠ NL) ++ NUL :: rest = y :: tl ∧
        x ++ NUL :: tl = v' ++ NUL :: rest ∧ v'.length = w.length := by
      have hlen := congrArg List.length hsplit2
      cases hd : w.dropWhile (· ≠ NL) with
      | nil =>
        rw [hd, List.append_nil] at hlen
        exact ⟨NUL, rest, x, rfl, rfl, hlen⟩
      | cons y tl =>
        rw [hd] at hlen
        exact ⟨y, tl ++ NUL :: rest, x ++ NUL :: tl, rfl, by simp, by simpa using hlen⟩
    obtain ⟨y, tl, v', htail, hv', hlen'⟩ := htail
    have hmid : line.bytes = ((p ++ NUL :: a) ++ x) ++ y :: tl := by
      rw [hb, ← hsplit2, List.append_assoc x, htail]
      simp
    obtain ⟨line', hwr, hb'⟩ := Buf.write_middle hmid
      (by rw [List.length_append, ← hpos]; rfl :
        ((q + a.length : Nat) : Int) + x.length = ((p ++ NUL :: a) ++ x).length) NUL
    refine ⟨x.length, line', Buf.strcspn_eq hstr NL, hwr, ⟨a ++ v', ?_, ?_⟩, ?_⟩
    · rw [hb', List.append_assoc, hv']
      simp
    · rw [List.length_append, hlen', ← List.length_append, hsplit]
    · have hb'' : line'.bytes = (p ++ NUL :: a) ++ (x ++ NUL :: tl) := by
        rw [hb']
        simp
      exact Buf.str_middle hb'' hpos hxnul

/-! ## The entry branch -/

section Split

variable {line : LineBuf} {cur : SectionBuf} {t σ : List Byte} (sec key : CStr)

theorem keyText_append {t : List Byte} (h : ch '=' ∈ t) :
    t = keyText t ++ ch '=' :: t.drop ((keyText t).length + 1) ∧ ch '=' ∉ keyText t := by
  obtain ⟨u, v, rfl, hu⟩ := List.eq_append_cons_of_mem h
  have hk : keyText (u ++ ch '=' :: v) = u := takeWhile_ne_append hu v
  rw [hk]
  simp [hu]

theorem idxOf_equals {t : List Byte} (h : ch '=' ∈ t) : t.idxOf (ch '=') = (keyText t).length := by
  obtain ⟨ht, hk⟩ := keyText_append h
  conv => lhs; rw [ht]
  rw [List.idxOf_append_of_notMem hk]
  simp

theorem splitEntry_noEquals (hl : line.Holds t) (h : ch '=' ∉ t) :
    splitEntry sec key line cur = .ok (.next line cur) := by
  simp [splitEntry, Buf.strchr_eq hl.str, h, bind, Except.bind, pure, Except.pure]

/-- Outside a named section a line is not taken apart at all. -/
theorem splitEntry_noSection (hl : line.Holds t) (hs : cur.Holds []) :
    splitEntry sec key line cur = .ok (.next line cur) := by
  unfold splitEntry
  rw [Buf.strchr_eq hl.str]
  by_cases h : ch '=' ∈ t <;>
    simp [h, Buf.strlen_eq hs.str, bind, Except.bind, pure, Except.pure]

/-- In a named section a line that begins with `=` makes the reader leave its buffer. -/
theorem splitEntry_keyless (hl : line.Holds t) (hs : cur.Holds σ) (hσ : σ ≠ [])
    (h : t.head? = some (ch '=')) : splitEntry sec key line cur = .error (.outOfBounds (-1)) := by
  obtain ⟨v, rfl⟩ : ∃ v, t = ch '=' :: v := by
    cases t with
    | nil => simp at h
    | cons c v => exact ⟨v, by simpa using h⟩
  have hchr : line.strchr 0 (ch '=') = .ok (some 0) := by
    rw [Buf.strchr_eq hl.str]
    simp
  obtain ⟨-, rest, hb⟩ := hl
  have hlen : 0 < σ.length := List.length_pos_iff.mpr hσ
  have hmid : line.bytes = [] ++ ch '=' :: (v ++ NUL :: rest) := by simpa using hb
  obtain ⟨line', hw, hb'⟩ := Buf.write_middle hmid rfl NUL
  have hcount : countWhile SP line'.bytes = .ok 0 := by
    rw [hb']
    exact countWhile_terminated (by decide) [] _
  have htrim := trimKeyEnd_empty (by simpa using hb' : line'.bytes = NUL :: (v ++ NUL :: rest))
  have hw' : line.write ((0 : Nat) : Int) NUL = .ok line' := hw
  simp only [splitEntry, hchr, Buf.strlen_eq hs.str, hlen, hw', hcount, htrim, bind, Except.bind,
    if_true]

/-- An entry in a named section is found exactly if the section and the trimmed key are the ones
looked for; the pointer that is returned is to its value. Nothing beyond the line is touched. -/
theorem splitEntry_entry (hl : line.Holds t) (hs : cur.Holds σ) (hσ : σ ≠ []) (h : ch '=' ∈ t)
    (hk : keyText t ≠ []) :
    ∃ line' p, line'.str p = .ok (valueText t) ∧
      Buf.AgreeFrom (t.length + 1) line line' ∧
      splitEntry sec key line cur =
        if σ = sec.chars ∧ trimSpaces (keyText t) = key.chars then .ok (.found line' p)
        else .ok (.next line' cur) := by
  obtain ⟨ht, hnk⟩ := keyText_append h
  set κ := keyText t with hκ
  set v := t.drop (κ.length + 1) with hv
  have hnul := hl.1
  rw [ht] at hnul
  have hκnul : NUL ∉ κ := fun hm => hnul (List.mem_append_left _ hm)
  have hvnul : NUL ∉ v := fun hm => hnul (by simp [hm])
  have hchr : line.strchr 0 (ch '=') = .ok (some κ.length) := by
    rw [Buf.strchr_eq hl.str, if_pos h, idxOf_equals h, Nat.zero_add]
  have hlen : 0 < σ.length := List.length_pos_iff.mpr hσ
  obtain ⟨-, rest, hb⟩ := hl
  have hmid : line.bytes = κ ++ ch '=' :: (v ++ NUL :: rest) := by
    rw [hb]
    conv => lhs; rw [ht]
    simp
  obtain ⟨line1, hw1, hb1⟩ := Buf.write_middle hmid rfl NUL
  have hcount : countWhile SP line1.bytes = .ok (κ.takeWhile (· = SP)).length := by
    rw [hb1]
    exact countWhile_terminated (by decide) κ _
  obtain ⟨line2, p, htrim, hb2, hp, hkey⟩ := trimKey_spec hb1 hκnul hk
  obtain ⟨hskip, e, line3, hcspn, hw3, ⟨v', hb3, hv'⟩, hval⟩ :=
    trimValue_spec hb2 hvnul (by omega : κ.length + 1 = p.length + 1)
  have hle : (κ.takeWhile (· = SP)).length ≤ p.length := by
    rw [hp]
    exact (List.takeWhile_prefix _).length_le
  have hkey3 : line3.str (κ.takeWhile (· = SP)).length = .ok (trimSpaces κ) := by
    rw [Buf.str_congr hb2 hb3 hle, hkey]
  refine ⟨line3, _, hval, ?_, ?_⟩
  · have hb3' : line3.bytes = (p ++ NUL :: v') ++ NUL :: rest := by
      rw [hb3]
      simp
    have hsame : t.length = (p ++ NUL :: v').length := by
      rw [List.length_append, List.length_cons, hp, hv', ← List.length_cons (a := ch '='),
        ← List.length_append, ← ht]
    exact Buf.agreeFrom_string hb hb3' hsame
  simp only [splitEntry, hchr, Buf.strlen_eq hs.str, hlen, hw1, hcount, htrim, hskip, hcspn, hw3,
    Buf.streq_eq hs.str, Buf.streq_eq hkey3, bind, Except.bind, pure, Except.pure, if_true,
    decide_eq_true_eq]
  by_cases h1 : σ = sec.chars <;> by_cases h2 : trimSpaces κ = key.chars <;> simp [h1, h2]

/-! ## The header branch -/

theorem bracketText_append {t : List Byte} (h : IsHeader t) :
    ∃ u, t = (ch '[' :: bracketText t) ++ ch ']' :: u ∧ ch ']' ∉ bracketText t := by
  obtain ⟨hhead, hmem⟩ := h
  cases t with
  | nil => simp at hhead
  | cons c t =>
    have hc : c = ch '[' := by simpa using hhead
    subst hc
    have hmem' : ch ']' ∈ t := by
      rcases List.mem_cons.mp hmem with h | h
      · exact absurd h (by decide)
      · exact h
    obtain ⟨name, u, rfl, hname⟩ := List.eq_append_cons_of_mem hmem'
    have hb : bracketText (ch '[' :: (name ++ ch ']' :: u)) = name := takeWhile_ne_append hname u
    exact ⟨u, by rw [hb]; simp, by rw [hb]; exact hname⟩

theorem idxOf_bracket {t : List Byte} (h : IsHeader t) :
    t.idxOf (ch ']') = (ch '[' :: bracketText t).length := by
  obtain ⟨u, ht, hn⟩ := bracketText_append h
  have hnm : ch ']' ∉ ch '[' :: bracketText t := by
    intro hm
    rcases List.mem_cons.mp hm with h | h
    · exact absurd h (by decide)
    · exact hn h
  conv => lhs; rw [ht]
  rw [List.idxOf_append_of_notMem hnm]
  simp

/-- A header puts its name, as far as it fits, in force. -/
theorem enterSection_spec (cur : SectionBuf) (hl : line.Holds t) (h : IsHeader t) :
    ∃ line' cur', enterSection (ch '[' :: bracketText t).length line cur = .ok (.next line' cur') ∧
      cur'.Holds ((bracketText t).take (maxSectionLength - 1)) ∧
      Buf.AgreeFrom (t.length + 1) line line' := by
  obtain ⟨u, ht, -⟩ := bracketText_append h
  set name := bracketText t with hname
  obtain ⟨hnul, rest, hb⟩ := hl
  have hnn : NUL ∉ name := by
    intro hm
    rw [ht] at hnul
    exact hnul (by simp [hm])
  have hmid : line.bytes = (ch '[' :: name) ++ ch ']' :: (u ++ NUL :: rest) := by
    rw [hb]
    conv => lhs; rw [ht]
    simp
  obtain ⟨line', hw, hb'⟩ := Buf.write_middle hmid rfl NUL
  have hstr : line'.str 1 = .ok name :=
    Buf.str_middle (by simpa using hb' : line'.bytes = [ch '['] ++ (name ++ NUL :: _)) rfl hnn
  obtain ⟨b1, b2, hcpy, hterm, hholds⟩ := Buf.strncpy_terminate cur hnn
  refine ⟨line', b2, ?_, hholds, ?_⟩
  · have hcpy' : cur.strncpy name (maxSectionLength - 1) = .ok b1 := hcpy
    have hterm' : b1.write ((maxSectionLength - 1 : Nat) : Int) NUL = .ok b2 := hterm
    simp only [enterSection, hw, hstr, hcpy', hterm', bind, Except.bind, pure, Except.pure]
  · have hb2 : line'.bytes = ((ch '[' :: name) ++ NUL :: u) ++ NUL :: rest := by
      rw [hb']
      simp
    have hsame : t.length = ((ch '[' :: name) ++ NUL :: u).length := by
      conv => lhs; rw [ht]
      simp
    exact Buf.agreeFrom_string hb hb2 hsame

/-! ## The body of the read loop -/

theorem read_zero (hl : line.Holds t) : line.read 0 = .ok (t.headD NUL) := by
  obtain ⟨-, rest, hb⟩ := hl
  cases t with
  | nil => exact Buf.read_middle (by simpa using hb : line.bytes = [] ++ NUL :: rest) rfl
  | cons c t => exact Buf.read_middle (by simpa using hb : line.bytes = [] ++ c :: _) rfl

theorem headD_eq_iff {c : Byte} (hc : c ≠ NUL) : t.headD NUL = c ↔ t.head? = some c := by
  cases t with
  | nil => simp [Ne.symm hc]
  | cons x t => simp

/-- Everything but a comment, an empty line and a header goes to the entry branch. -/
theorem processLine_split (hl : line.Holds t) (h1 : ¬(t.head? = some (ch '#') ∨ t.head? = some NL))
    (h2 : ¬IsHeader t) : processLine sec key line cur = splitEntry sec key line cur := by
  rw [← headD_eq_iff (by decide), ← headD_eq_iff (by decide)] at h1
  simp only [processLine, read_zero hl, bind, Except.bind, if_neg h1]
  by_cases hb : t.headD NUL = ch '['
  · have hno : ch ']' ∉ t := fun hm => h2 ⟨(headD_eq_iff (by decide)).mp hb, hm⟩
    simp only [hb, if_true, Buf.strchr_eq hl.str, if_neg hno]
  · simp only [hb, if_false]

theorem processLine_inert (hl : line.Holds t) (h : classify t = .inert) :
    processLine sec key line cur = .ok (.next line cur) := by
  have hc := classified t
  rw [h] at hc
  cases hc with
  | ignored h1 =>
    rw [← headD_eq_iff (by decide), ← headD_eq_iff (by decide)] at h1
    simp only [processLine, read_zero hl, bind, Except.bind, if_pos h1, pure, Except.pure]
  | noEquals h1 h2 h3 => rw [processLine_split sec key hl h1 h2, splitEntry_noEquals sec key hl h3]

theorem processLine_header {name : List Byte} (hl : line.Holds t) (h : classify t = .header name) :
    ∃ line' cur', processLine sec key line cur = .ok (.next line' cur') ∧ cur'.Holds name ∧
      Buf.AgreeFrom (t.length + 1) line line' := by
  obtain ⟨h2, rfl⟩ := classify_eq_header_iff.mp h
  obtain ⟨line', cur', he, hcur, hframe⟩ := enterSection_spec cur hl h2
  refine ⟨line', cur', ?_, hcur, hframe⟩
  have hb : t.headD NUL = ch '[' := (headD_eq_iff (by decide)).mpr h2.1
  have hc : ¬(ch '[' = ch '#' ∨ ch '[' = NL) := by decide
  simp only [processLine, read_zero hl, bind, Except.bind, hb, if_neg hc, if_true,
    Buf.strchr_eq hl.str, if_pos h2.2, idxOf_bracket h2, Nat.zero_add, he]

theorem processLine_keyless (hl : line.Holds t) (hs : cur.Holds σ) (h : classify t = .keyless) :
    processLine sec key line cur =
      if σ = [] then .ok (.next line cur) else .error (.outOfBounds (-1)) := by
  have hc := classified t
  rw [h] at hc
  cases hc with
  | keyless h1 h2 h4 =>
    rw [processLine_split sec key hl h1 h2]
    split
    · rename_i hσ
      subst hσ
      exact splitEntry_noSection sec key hl hs
    · rename_i hσ
      exact splitEntry_keyless sec key hl hs hσ h4

theorem keyText_ne_nil {t : List Byte} (hne : t.head? ≠ some (ch '=')) (h : ch '=' ∈ t) :
    keyText t ≠ [] := by
  cases t with
  | nil => simp at h
  | cons c t =>
    have hc : c ≠ ch '=' := by simpa using hne
    simp [keyText, hc]

theorem processLine_entry {k v : List Byte} (hl : line.Holds t) (hs : cur.Holds σ)
    (h : classify t = .entry k v) :
    if σ ≠ [] ∧ σ = sec.chars ∧ k = key.chars then
      ∃ line' p, processLine sec key line cur = .ok (.found line' p) ∧ line'.str p = .ok v ∧
        Buf.AgreeFrom (t.length + 1) line line'
    else ∃ line', processLine sec key line cur = .ok (.next line' cur) ∧
        Buf.AgreeFrom (t.length + 1) line line' := by
  have hc := classified t
  rw [h] at hc
  cases hc with
  | entry h1 h2 h3 h4 =>
    rw [processLine_split sec key hl h1 h2]
    by_cases hσ : σ = []
    · subst hσ
      rw [if_neg (fun hc => hc.1 rfl)]
      exact ⟨line, splitEntry_noSection sec key hl hs, rfl⟩
    · obtain ⟨line', p, hv, hframe, he⟩ := splitEntry_entry sec key hl hs hσ h3 (keyText_ne_nil h4 h3)
      rw [he]
      by_cases hm : σ = sec.chars ∧ trimSpaces (keyText t) = key.chars
      · rw [if_pos ⟨hσ, hm⟩, if_pos hm]
        exact ⟨line', p, rfl, hv, hframe⟩
      · rw [if_neg (fun hc => hm hc.2), if_neg hm]
        exact ⟨line', rfl, hframe⟩

/-! ## The read loop -/

theorem items_eq {file : List Byte} (hne : file ≠ []) :
    items file = classify (text (takeLine NL (lineBufferLength - 1) file).1) ::
      items (takeLine NL (lineBufferLength - 1) file).2 := by
  unfold items
  rw [chunks_eq_takeLine (by decide) hne, List.map_cons]

/-- **One round of the read loop**, by what the chunk does to the scan: a fault, the value looked for,
or the next round. What stands behind the chunk is left alone. -/
theorem readLoop_step {file chunk rest : List Byte} (line : LineBuf) (cur : SectionBuf)
    (hs : cur.Holds σ) (hne : file ≠ []) (htake : takeLine NL (lineBufferLength - 1) file = (chunk, rest)) :
    (∃ f, readLoop sec key file line cur = .error f ∧
      ∀ l, scan sec.chars key.chars σ (classify (text chunk) :: l) = .error f) ∨
    (∃ line' p v, readLoop sec key file line cur = .ok (some p, line') ∧ line'.str p = .ok v ∧
      Buf.AgreeFrom (chunk.length + 1) line line' ∧
      ∀ l, scan sec.chars key.chars σ (classify (text chunk) :: l) = .ok (some v)) ∨
    (∃ line' cur' σ', readLoop sec key file line cur = readLoop sec key rest line' cur' ∧
      cur'.Holds σ' ∧ Buf.AgreeFrom (chunk.length + 1) line line' ∧
      ∀ l, scan sec.chars key.chars σ (classify (text chunk) :: l) = scan sec.chars key.chars σ' l) := by
  have hb : 2 ≤ lineBufferLength := by decide
  obtain ⟨line1, hf, hl, hfar⟩ := Buf.fgets_holds (b := line) hb hne
  rw [htake] at hf hl hfar
  have hle : (text chunk).length + 1 ≤ chunk.length + 1 :=
    Nat.succ_le_succ (List.takeWhile_prefix _).length_le
  rw [readLoop]
  split
  · rename_i heq
    rw [hf] at heq
    cases heq
  · rename_i line2 rest2 heq
    rw [hf] at heq
    cases heq
    cases hitem : classify (text chunk) with
    | inert =>
      rw [processLine_inert sec key hl hitem]
      exact Or.inr (Or.inr ⟨line1, cur, σ, rfl, hs, hfar, fun l => rfl⟩)
    | header name =>
      obtain ⟨line', cur', hp, hs', hframe⟩ := processLine_header sec key hl hitem
      rw [hp]
      exact Or.inr (Or.inr
        ⟨line', cur', name, rfl, hs', hfar.trans (hframe.mono hle), fun l => rfl⟩)
    | keyless =>
      rw [processLine_keyless sec key hl hs hitem]
      by_cases hσ : σ = []
      · rw [if_pos hσ]
        exact Or.inr (Or.inr ⟨line1, cur, σ, rfl, hs, hfar, fun l => by rw [scan, if_pos hσ]⟩)
      · rw [if_neg hσ]
        exact Or.inl ⟨_, rfl, fun l => by rw [scan, if_neg hσ]⟩
    | entry k v =>
      have hp := processLine_entry sec key hl hs hitem
      by_cases hm : σ ≠ [] ∧ σ = sec.chars ∧ k = key.chars
      · rw [if_pos hm] at hp
        obtain ⟨line', p, hp, hv, hframe⟩ := hp
        rw [hp]
        exact Or.inr (Or.inl ⟨line', p, v, rfl, hv, hfar.trans (hframe.mono hle),
          fun l => by rw [scan, if_pos hm]⟩)
      · rw [if_neg hm] at hp
        obtain ⟨line', hp, hframe⟩ := hp
        rw [hp]
        exact Or.inr (Or.inr ⟨line', cur, σ, rfl, hs, hfar.trans (hframe.mono hle),
          fun l => by rw [scan, if_neg hm]⟩)

theorem readLoop_nil (line : LineBuf) (cur : SectionBuf) :
    readLoop sec key [] line cur = .ok (none, line) := by
  rw [readLoop]
  split
  · rfl
  · rename_i heq
    simp at heq

/-- **The read loop is the scan over the items of what is left of the file.** -/
theorem readLoop_reads (file : List Byte) (line : LineBuf) (cur : SectionBuf) {σ : List Byte}
    (hs : cur.Holds σ) :
    Reads (readLoop sec key file line cur) (scan sec.chars key.chars σ (items file)) := by
  induction hlen : file.length using Nat.strong_induction_on generalizing file line cur σ with
  | _ m ih =>
    by_cases hne : file = []
    · subst hne
      rw [readLoop_nil]
      exact Reads.missing _
    · have hlt : (takeLine NL (lineBufferLength - 1) file).2.length < file.length :=
        takeLine_rest_length_lt (by decide) hne
      rw [items_eq hne]
      rcases readLoop_step sec key line cur hs hne rfl with
        ⟨f, hloop, hscan⟩ | ⟨line', p, v, hloop, hv, -, hscan⟩ | ⟨line', cur', σ', hloop, hs', -, hscan⟩
      · rw [hloop, hscan]
        exact Reads.fault f
      · rw [hloop, hscan]
        exact Reads.value hv
      · rw [hloop, hscan]
        exact ih _ (hlen ▸ hlt) _ line' cur' hs' rfl

/-! ## `getConfigValue` -/

/-- **The whole call** stands for what the file means to the reader. -/
theorem scanFile_reads (line : LineBuf) (file : Option (List Byte)) :
    Reads (scanFile line file sec key) (meaning file sec.chars key.chars) := by
  cases file with
  | none => exact Reads.missing line
  | some content => exact readLoop_reads sec key content line _ (Buf.holds_zeroed (by decide))

end Split

end DiscoveryDemo.Ini

namespace DiscoveryDemo

open CLib Ini

variable (file : Option (List Byte)) (sec key : CStr)

/-- hellomk's `getConfigValue` leaves its buffer exactly when the scan does. -/
theorem Hellomk.getConfigValue_error_iff (line : LineBuf) (f : Fault) :
    Hellomk.getConfigValue line file sec key = .error f ↔
      meaning file sec.chars key.chars = .error f := by
  unfold Hellomk.getConfigValue
  have h := scanFile_reads sec key line file
  generalize scanFile line file sec key = r at h ⊢
  generalize meaning file sec.chars key.chars = m at h ⊢
  cases h with
  | fault g => simp
  | missing line' => simp
  | value h => simp

/-- What the caller of hellomk's `getConfigValue` reads. -/
theorem Hellomk.lookup_eq (line : LineBuf) :
    Hellomk.lookup line file sec key = meaning file sec.chars key.chars := by
  unfold Hellomk.lookup Hellomk.getConfigValue
  have h := scanFile_reads sec key line file
  generalize scanFile line file sec key = r at h ⊢
  generalize meaning file sec.chars key.chars = m at h ⊢
  cases h with
  | fault f => rfl
  | missing line' => rfl
  | value h => simp [h, bind, Except.bind, pure, Except.pure]

/-- hellomkcpp's `getConfigValue`: a fault, a null pointer with `returnValue` as it was, or
`returnValue` with what fits of the value. -/
theorem Hellomkcpp.getConfigValue_cases (st : Hellomkcpp.Statics) :
    (∃ f, Hellomkcpp.getConfigValue st file sec key = .error f ∧
      meaning file sec.chars key.chars = .error f) ∨
    (∃ line, Hellomkcpp.getConfigValue st file sec key = .ok (false, { st with line := line }) ∧
      meaning file sec.chars key.chars = .ok none) ∨
    (∃ st' v, Hellomkcpp.getConfigValue st file sec key = .ok (true, st') ∧
      meaning file sec.chars key.chars = .ok (some v) ∧
      st'.returnValue.Holds (v.take (maxValueLength - 1))) := by
  unfold Hellomkcpp.getConfigValue
  have h := scanFile_reads sec key st.line file
  generalize scanFile st.line file sec key = r at h ⊢
  generalize meaning file sec.chars key.chars = m at h ⊢
  cases h with
  | fault f => exact Or.inl ⟨f, rfl, rfl⟩
  | missing line => exact Or.inr (Or.inl ⟨line, rfl, rfl⟩)
  | @value line p v h =>
    obtain ⟨b1, b2, hcpy, hterm, hholds⟩ := Buf.strncpy_terminate st.returnValue (cString_noNul h)
    have hcpy' : st.returnValue.strncpy v (maxValueLength - 1) = .ok b1 := hcpy
    have hterm' : b1.write ((maxValueLength - 1 : Nat) : Int) NUL = .ok b2 := hterm
    refine Or.inr (Or.inr ⟨{ line := line, returnValue := b2 }, v, ?_, rfl, hholds⟩)
    simp only [h, hcpy', hterm', bind, Except.bind, pure, Except.pure]

theorem Hellomkcpp.getConfigValue_error_iff (st : Hellomkcpp.Statics) (f : Fault) :
    Hellomkcpp.getConfigValue st file sec key = .error f ↔
      meaning file sec.chars key.chars = .error f := by
  rcases Hellomkcpp.getConfigValue_cases file sec key st with
    ⟨g, h1, h2⟩ | ⟨line, h1, h2⟩ | ⟨st', v, h1, h2, -⟩ <;> simp [h1, h2]

theorem Hellomkcpp.lookup_eq (st : Hellomkcpp.Statics) :
    Hellomkcpp.lookup st file sec key =
      (meaning file sec.chars key.chars).map (Option.map (List.take (maxValueLength - 1))) := by
  unfold Hellomkcpp.lookup
  rcases Hellomkcpp.getConfigValue_cases file sec key st with
    ⟨g, h1, h2⟩ | ⟨line, h1, h2⟩ | ⟨st', v, h1, h2, hv⟩
  · rw [h1, h2]
    rfl
  · rw [h1, h2]
    rfl
  · simp only [h1, h2, hv.str, bind, Except.bind, pure, Except.pure, Except.map, Option.map]

end DiscoveryDemo
