import DiscoveryDemo.Ini.Inert
import DiscoveryDemo.Ini.Proofs.ReferenceProofs
import DiscoveryDemo.Ini.Proofs.SafetyProofs

/-!
# Proofs: comments and values are inert as far as the reader finds nothing behind the cut

A line of at most 255 characters is one item, whatever its free text is. What is behind the first 255
characters of a longer line is read as lines of its own. A text matters exactly if there is something
else among these than comments, lines without a meaning and, for a value, entries for its own key.
-/

namespace DiscoveryDemo.Ini

open CLib

variable {sec key current w pre post : List Byte} {l m m' : List Item} {own : Option (List Byte)}

/-! ## Scans and lookups -/

/-- A scan depends on the last items only through the section in which it reaches them. -/
theorem scan_append_congr
    (h : scan sec key (l.foldl Item.enter current) m = scan sec key (l.foldl Item.enter current) m') :
    scan sec key current (l ++ m) = scan sec key current (l ++ m') := by
  induction l generalizing current with
  | nil => exact h
  | cons it l ih =>
    have hrest : scan sec key (it.enter current) (l ++ m) = scan sec key (it.enter current) (l ++ m') :=
      ih h
    cases it with
    | inert => exact hrest
    | header name => exact hrest
    | keyless => 
      by_cases hc : current = []
      · simp only [List.cons_append, scan, if_pos hc]
        exact hrest
      · simp only [List.cons_append, scan, if_neg hc]
    | entry k v =>
      by_cases hc : current ≠ [] ∧ current = sec ∧ k = key
      · simp only [List.cons_append, scan, if_pos hc]
      · simp only [List.cons_append, scan, if_neg hc]
        exact hrest

theorem sameResult_of_meaning {content content' : List Byte} {s k : CStr}
    (h : meaning (some content) s.chars k.chars = meaning (some content') s.chars k.chars) :
    SameResult content content' s k := by
  constructor
  · intro line line'
    rw [Hellomk.lookup_eq, Hellomk.lookup_eq, h]
  · intro st st'
    rw [Hellomkcpp.lookup_eq, Hellomkcpp.lookup_eq, h]

theorem meaning_of_sameResult {content content' : List Byte} {s k : CStr}
    (h : SameResult content content' s k) :
    meaning (some content) s.chars k.chars = meaning (some content') s.chars k.chars := by
  have := h.1 (Buf.zeroed _) (Buf.zeroed _)
  rwa [Hellomk.lookup_eq, Hellomk.lookup_eq] at this

theorem sameResult_iff {content content' : List Byte} {s k : CStr} :
    SameResult content content' s k ↔
      meaning (some content) s.chars k.chars = meaning (some content') s.chars k.chars :=
  ⟨meaning_of_sameResult, sameResult_of_meaning⟩

/-- A scan for another entry passes over idle items. -/
theorem scan_idle (hidle : ∀ it ∈ l, it.Idle own) (hother : ¬(sec = current ∧ own = some key)) :
    scan sec key current (l ++ m) = scan sec key current m := by
  induction l with
  | nil => rfl
  | cons it l ih =>
    have hrest := ih fun it hit => hidle it (List.mem_cons_of_mem _ hit)
    rcases hidle it List.mem_cons_self with rfl | ⟨k, v, hk, rfl⟩
    · exact hrest
    · have hno : ¬(current ≠ [] ∧ current = sec ∧ k = key) := fun h =>
        hother ⟨h.2.1.symm, by rw [hk, h.2.2]⟩
      rw [List.cons_append, scan, if_neg hno]
      exact hrest

/-- A scan that finds nothing among the first items goes on behind them. -/
theorem scan_append_of_missing (h : scan sec key current l = .ok none) :
    scan sec key current (l ++ m) = scan sec key (l.foldl Item.enter current) m := by
  induction l generalizing current with
  | nil => rfl
  | cons it l ih =>
    cases it with
    | inert => exact ih h
    | header name => exact ih h
    | keyless =>
      by_cases hc : current = []
      · rw [scan, if_pos hc] at h
        rw [List.cons_append, scan, if_pos hc]
        exact ih h
      · rw [scan, if_neg hc] at h
        cases h
    | entry k v =>
      by_cases hc : current ≠ [] ∧ current = sec ∧ k = key
      · rw [scan, if_pos hc] at h
        cases h
      · rw [scan, if_neg hc] at h
        rw [List.cons_append, scan, if_neg hc]
        exact ih h

theorem scan_missing_left (h : scan sec key current (l ++ m) = .ok none) :
    scan sec key current l = .ok none := by
  rw [scan_eq_none_iff] at h ⊢
  intro x hx
  apply h x
  rw [located_append]
  exact List.mem_append_left _ hx

/-- Without headers the section stays; with one it does not depend on where the items begin. -/
theorem foldl_enter (l : List Item) :
    (∀ name, .header name ∉ l) ∨ ∀ c c' : List Byte, l.foldl Item.enter c = l.foldl Item.enter c' := by
  induction l with
  | nil => exact Or.inl fun name => List.not_mem_nil
  | cons it l ih =>
    rcases ih with hnone | hconst
    · cases it with
      | header name => exact Or.inr fun c c' => rfl
      | inert | keyless | entry k v =>
        left
        intro name h
        rcases List.mem_cons.mp h with h | h
        · cases h
        · exact hnone name h
    · exact Or.inr fun c c' => hconst _ _

theorem foldl_enter_of_noHeader (h : ∀ name, .header name ∉ l) (c : List Byte) :
    l.foldl Item.enter c = c := by
  induction l with
  | nil => rfl
  | cons it l ih =>
    have hit : it.enter c = c := by
      cases it with
      | header name => exact absurd List.mem_cons_self (h name)
      | inert | keyless | entry k v => rfl
    rw [List.foldl_cons, hit]
    exact ih fun name hm => h name (List.mem_cons_of_mem _ hm)

/-! ## Lines -/

theorem lineText_cons {c : Byte} {t : List Byte} (hc : c ≠ NL ∧ c ≠ NUL) (ht : LineText t) :
    LineText (c :: t) := by
  constructor
  · exact fun h => (List.mem_cons.mp h).elim (fun h => hc.1 h.symm) ht.noNewline
  · exact fun h => (List.mem_cons.mp h).elim (fun h => hc.2 h.symm) ht.noNul

theorem lineText_replicate {c : Byte} (hnl : NL ≠ c) (hnul : NUL ≠ c) (m : Nat) :
    LineText (List.replicate m c) :=
  ⟨notMem_replicate hnl m, notMem_replicate hnul m⟩

theorem lineText_append {u t : List Byte} (hu : LineText u) (ht : LineText t) :
    LineText (u ++ t) := by
  constructor
  · exact fun h => (List.mem_append.mp h).elim hu.noNewline ht.noNewline
  · exact fun h => (List.mem_append.mp h).elim hu.noNul ht.noNul

theorem classify_comment (t : List Byte) : classify (ch '#' :: t) = .inert := by
  simp [classify]

/-- An entry line is an entry, whatever its value. -/
theorem classify_entryLine {κ : List Byte} (hκ : KeyText κ) (ht : LineText κ) (v : List Byte) :
    classify (κ ++ ch '=' :: v) = .entry (trimSpaces κ) (valueText (κ ++ ch '=' :: v)) := by
  have hkey : keyText (κ ++ ch '=' :: v) = κ := takeWhile_ne_append hκ.noEquals v
  have hhead : (κ ++ ch '=' :: v).head? = κ.head? := by
    obtain ⟨c, u, rfl⟩ := List.exists_cons_of_ne_nil hκ.nonempty
    rfl
  have hmem : ∀ c, κ.head? = some c → c ∈ κ := fun c => List.mem_of_mem_head?
  have h1 : ¬((κ ++ ch '=' :: v).head? = some (ch '#') ∨ (κ ++ ch '=' :: v).head? = some NL) := by
    rw [hhead]
    rintro (h | h)
    · exact hκ.start.1 h
    · exact ht.noNewline (hmem _ h)
  have h2 : ¬IsHeader (κ ++ ch '=' :: v) := fun h => hκ.start.2 (hhead ▸ h.1)
  have h4 : (κ ++ ch '=' :: v).head? ≠ some (ch '=') := by
    rw [hhead]
    exact fun h => hκ.noEquals (hmem _ h)
  unfold classify
  rw [if_neg h1, if_neg h2, if_pos (by simp), if_neg h4, hkey]

/-- A line is read in pieces of 255 characters. -/
theorem items_cut (hw : LineText w) (hlen : lineBufferLength - 1 ≤ w.length) (t : List Byte) :
    items (w ++ t) =
      classify (w.take (lineBufferLength - 1)) :: items (w.drop (lineBufferLength - 1) ++ t) := by
  have hnul : NUL ∉ w.take (lineBufferLength - 1) := fun h => hw.noNul (List.mem_of_mem_take h)
  unfold items
  rw [chunks_long t (by decide) hw.noNewline hlen, List.map_cons, text_eq hnul]

/-- The first item of a line, and what is behind the cut. -/
theorem items_cons (hw : LineText w) (hne : w ≠ []) :
    items w = classify (w.take (lineBufferLength - 1)) :: overflow w := by
  by_cases hlen : w.length ≤ lineBufferLength - 1
  · rw [overflow, List.take_of_length_le hlen, List.drop_of_length_le hlen,
      items_last hw.noNul hw.noNewline hne hlen]
    rfl
  · have hcut := items_cut hw (Nat.le_of_not_le hlen) []
    rw [List.append_nil, List.append_nil] at hcut
    exact hcut

theorem lineText_drop (hw : LineText w) (n : Nat) : LineText (w.drop n) :=
  ⟨fun h => hw.noNewline (List.mem_of_mem_drop h), fun h => hw.noNul (List.mem_of_mem_drop h)⟩

/-- The items of a line do not depend on what follows it. If the line fills its last piece, the newline
is a piece of its own. -/
theorem items_whole (hw : LineText w) (t : List Byte) :
    ∃ gap : List Item, (∀ it ∈ gap, it = .inert) ∧ items (w ++ NL :: t) = items w ++ gap ++ items t := by
  induction hn : w.length using Nat.strong_induction_on generalizing w with
  | _ n ih =>
    by_cases hne : w = []
    · subst hne
      refine ⟨[.inert], fun it hit => List.mem_singleton.mp hit, ?_⟩
      exact items_line t List.not_mem_nil List.not_mem_nil (Nat.zero_le _)
    by_cases hfit : w.length ≤ lineBufferLength - 2
    · refine ⟨[], fun it hit => absurd hit List.not_mem_nil, ?_⟩
      rw [items_line t hw.noNul hw.noNewline hfit,
        items_last hw.noNul hw.noNewline hne (hfit.trans (by decide))]
      rfl
    · have hlong : lineBufferLength - 1 ≤ w.length := by
        simp only [lineBufferLength] at hfit ⊢
        omega
      have hshort : (w.drop (lineBufferLength - 1)).length < n := by
        rw [List.length_drop]
        simp only [lineBufferLength] at hlong ⊢
        omega
      obtain ⟨gap, hgap, hitems⟩ := ih _ hshort (lineText_drop hw _) rfl
      refine ⟨gap, hgap, ?_⟩
      rw [items_cut hw hlong, hitems, items_cons hw hne]
      rfl

/-- A line that is followed by nothing, or by a newline, is scanned as a file of its own. -/
theorem scan_whole (hw : LineText w) (hpost : post = [] ∨ post.head? = some NL) :
    scan sec key current (items (w ++ post)) =
      scan sec key current (items w ++ items post.tail) := by
  cases post with
  | nil =>
    have hnil : items [] = [] := rfl
    rw [List.append_nil, List.tail_nil, hnil, List.append_nil]
  | cons c t =>
    obtain rfl : c = NL := by simpa using hpost
    obtain ⟨gap, hgap, hitems⟩ := items_whole hw t
    have hidle : ∀ it ∈ gap, it.Idle none := fun it hit => Or.inl (hgap it hit)
    rw [hitems, List.tail_cons, List.append_assoc]
    apply scan_append_congr
    exact scan_idle hidle fun h => by cases h.2

/-- A lookup in a file with the line `w` between `pre` and `post`. -/
theorem meaning_line (hline : WholeLine pre post) (hw : LineText w) (s k : List Byte) :
    meaning (some (pre ++ w ++ post)) s k = scan s k [] (items pre ++ (items w ++ items post.tail)) := by
  rw [meaning, List.append_assoc, items_append _ hline.start]
  exact scan_append_congr (scan_whole hw hline.stop)

/-! ## The enclosing section -/

theorem enter_take {c : List Byte} (h : IsHeader w → IsHeader (w.take (lineBufferLength - 1))) :
    (classify (w.take (lineBufferLength - 1))).enter c = (classify w).enter c := by
  have hsplit := List.take_append_drop (lineBufferLength - 1) w
  by_cases hw : IsHeader w
  · have hb := bracketText_header (h hw) (w.drop (lineBufferLength - 1))
    rw [hsplit] at hb
    rw [classify_eq_header_iff.mpr ⟨h hw, rfl⟩, classify_eq_header_iff.mpr ⟨hw, rfl⟩, hb]
  · have hcut : ¬IsHeader (w.take (lineBufferLength - 1)) := by
      rintro ⟨hhead, hmem⟩
      refine hw ⟨?_, List.mem_of_mem_take hmem⟩
      cases w with
      | nil => cases hhead
      | cons c w => exact hhead
    rw [enter_of_not_header hcut, enter_of_not_header hw]

/-- **The section in force** below lines with plain headers is the enclosing one. -/
theorem section_enclosing (hnul : NUL ∉ pre) (h : HeadersPlain pre) :
    (items pre).foldl Item.enter [] = enclosing pre := by
  rw [enclosing, ← section_eq]
  generalize ([] : List Byte) = c
  unfold HeadersPlain at h
  have hline : ∀ u c, LineText u → (∀ name, .header name ∉ overflow u) →
      (IsHeader u → IsHeader (u.take (lineBufferLength - 1))) →
      (items u).foldl Item.enter c = (classify u).enter c := by
    intro u c hu hover hcut
    by_cases hne : u = []
    · subst hne
      rfl
    · rw [items_cons hu hne, List.foldl_cons, foldl_enter_of_noHeader hover, enter_take hcut]
  induction pre using line_induction NL generalizing c with
  | nil => rfl
  | last w hne hw =>
    rw [physLines_last hw hne] at h ⊢
    obtain ⟨hover, hcut⟩ := h w List.mem_cons_self
    exact hline w c ⟨hw, hnul⟩ hover hcut
  | line w t hw ih =>
    rw [physLines_line t hw] at h ⊢
    have hwn : NUL ∉ w := fun hm => hnul (List.mem_append_left _ hm)
    have htn : NUL ∉ t := fun hm => hnul (List.mem_append_right _ (List.mem_cons_of_mem _ hm))
    obtain ⟨hover, hcut⟩ := h w List.mem_cons_self
    obtain ⟨gap, hgap, hitems⟩ := items_whole ⟨hw, hwn⟩ t
    have hnone : ∀ name, .header name ∉ gap := fun name hm => by cases hgap _ hm
    rw [hitems, List.foldl_append, List.foldl_append, hline w c ⟨hw, hwn⟩ hover hcut,
      foldl_enter_of_noHeader hnone]
    exact ih htn (fun l hl => h l (List.mem_cons_of_mem _ hl)) _

/-! ## Texts behind the cut that do not matter -/

theorem items_comment {t : List Byte} (ht : LineText t) :
    items (ch '#' :: t) = .inert :: overflow (ch '#' :: t) := by
  rw [items_cons (lineText_cons (by decide) ht) (List.cons_ne_nil _ _)]
  exact congrArg (· :: _) (classify_comment _)

/-- The first piece of an entry line is an entry for its key, if it holds the `=`; otherwise it has no
meaning. -/
theorem items_entry {κ v : List Byte} (hκ : KeyText κ) (htκ : LineText κ) (hv : LineText v) :
    ∃ first : Item, first.Idle (some (trimSpaces κ)) ∧
      items (κ ++ ch '=' :: v) = first :: overflow (κ ++ ch '=' :: v) := by
  have hline : LineText (κ ++ ch '=' :: v) := lineText_append htκ (lineText_cons (by decide) hv)
  refine ⟨_, ?_, items_cons hline (by simp)⟩
  by_cases hshort : κ.length < lineBufferLength - 1
  · obtain ⟨r, hr⟩ : ∃ r, lineBufferLength - 1 = κ.length + (r + 1) :=
      ⟨lineBufferLength - 1 - κ.length - 1, by omega⟩
    rw [hr, List.take_length_add_append, List.take_succ_cons, classify_entryLine hκ htκ]
    exact Or.inr ⟨_, _, rfl, rfl⟩
  · left
    rw [List.take_append_of_le_length (Nat.le_of_not_lt hshort)]
    have hne : κ.take (lineBufferLength - 1) ≠ [] := by
      intro h
      rcases List.take_eq_nil_iff.mp h with h | h
      · exact absurd h (by decide)
      · exact hκ.nonempty h
    have hhead : (κ.take (lineBufferLength - 1)).head? = κ.head? := by
      obtain ⟨c, u, rfl⟩ := List.exists_cons_of_ne_nil hκ.nonempty
      rfl
    have hno : ch '=' ∉ κ.take (lineBufferLength - 1) := fun h => hκ.noEquals (List.mem_of_mem_take h)
    unfold classify
    rw [hhead, if_neg, if_neg, if_neg hno]
    · exact fun h => hκ.start.2 (hhead ▸ h.1)
    · rintro (h | h)
      · exact hκ.start.1 h
      · exact htκ.noNewline (List.mem_of_mem_head? h)

theorem scan_comment {t : List Byte} (ht : LineText t) (h : Plain none (ch '#' :: t)) :
    scan sec key current (items (ch '#' :: t) ++ m) = scan sec key current m := by
  have hidle : ∀ it ∈ Item.inert :: overflow (ch '#' :: t), it.Idle none :=
    List.forall_mem_cons.mpr ⟨Or.inl rfl, h⟩
  rw [items_comment ht]
  exact scan_idle hidle fun h => by cases h.2

theorem scan_value {κ v : List Byte} (hκ : KeyText κ) (htκ : LineText κ) (hv : LineText v)
    (h : Plain (some (trimSpaces κ)) (κ ++ ch '=' :: v)) (hother : ¬(sec = current ∧ key = trimSpaces κ)) :
    scan sec key current (items (κ ++ ch '=' :: v) ++ m) = scan sec key current m := by
  obtain ⟨first, hfirst, hitems⟩ := items_entry hκ htκ hv
  rw [hitems]
  refine scan_idle (List.forall_mem_cons.mpr ⟨hfirst, h⟩) ?_
  rintro ⟨hsec, hkey⟩
  cases hkey
  exact hother ⟨hsec, rfl⟩

/-- What lies behind the cut of the two comments does not matter. -/
theorem comments_alike {t t' : List Byte} (hline : WholeLine pre post) (ht : LineText t)
    (ht' : LineText t') (h : Plain none (ch '#' :: t)) (h' : Plain none (ch '#' :: t')) (s k : CStr) :
    SameResult (pre ++ (ch '#' :: t) ++ post) (pre ++ (ch '#' :: t') ++ post) s k := by
  have hc : ch '#' ≠ NL ∧ ch '#' ≠ NUL := by decide
  rw [sameResult_iff, meaning_line hline (lineText_cons hc ht), meaning_line hline (lineText_cons hc ht')]
  apply scan_append_congr
  rw [scan_comment ht h, scan_comment ht' h']

theorem values_alike {κ v v' : List Byte} (hline : WholeLine pre post) (hnul : NUL ∉ pre)
    (hheaders : HeadersPlain pre) (hκ : KeyText κ) (htκ : LineText κ) (hv : LineText v)
    (hv' : LineText v') (h : Plain (some (trimSpaces κ)) (κ ++ ch '=' :: v))
    (h' : Plain (some (trimSpaces κ)) (κ ++ ch '=' :: v')) {s k : CStr}
    (hother : ¬(s.chars = enclosing pre ∧ k.chars = trimSpaces κ)) :
    SameResult (pre ++ (κ ++ ch '=' :: v) ++ post) (pre ++ (κ ++ ch '=' :: v') ++ post) s k := by
  have hc : ch '=' ≠ NL ∧ ch '=' ≠ NUL := by decide
  rw [sameResult_iff, meaning_line hline (lineText_append htκ (lineText_cons hc hv)),
    meaning_line hline (lineText_append htκ (lineText_cons hc hv'))]
  apply scan_append_congr
  rw [section_enclosing hnul hheaders, scan_value hκ htκ hv h hother, scan_value hκ htκ hv' h' hother]

theorem plain_of_fits (h : w.length ≤ lineBufferLength - 1) : Plain own w := by
  intro it hit
  rw [overflow, List.drop_of_length_le h] at hit
  exact absurd hit List.not_mem_nil

/-! ## Texts behind the cut that matter -/

theorem located_of_noHeader (h : ∀ name, .header name ∉ l) (c : List Byte) :
    located c l = l.map fun it => (c, it) := by
  induction l with
  | nil => rfl
  | cons it l ih =>
    have hit : it.enter c = c := by
      cases it with
      | header name => exact absurd List.mem_cons_self (h name)
      | inert | keyless | entry k v => rfl
    rw [located, hit, ih fun name hm => h name (List.mem_cons_of_mem _ hm)]
    rfl

theorem entry_noNul {file k v : List Byte} (h : .entry k v ∈ items file) : NUL ∉ k := by
  obtain ⟨c, -, hc⟩ := List.mem_map.mp h
  have hcl := classified (text c)
  rw [hc] at hcl
  cases hcl with
  | entry h1 h2 h3 h4 =>
    intro hm
    have hsub : trimSpaces (keyText (text c)) ⊆ text c :=
      ((List.rdropWhile_prefix _ _).sublist.trans
        ((List.dropWhile_sublist _).trans (List.takeWhile_sublist _))).subset
    simpa using List.mem_takeWhile_imp (hsub hm)

/-- The sections in which a line is put to the test. -/
def TestSection (c : List Byte) : Prop := c = lit "a" ∨ c = lit "b"

/-- Items that no lookup notices in either of two sections, neither by themselves nor in front of an
entry, are idle. -/
theorem idle_of_scans {x : CStr} (hx : own ≠ some x.chars) (hkeys : ∀ k v, .entry k v ∈ l → NUL ∉ k)
    (h : ∀ c, TestSection c → ∀ s k : CStr, ¬(s.chars = c ∧ own = some k.chars) →
      scan s.chars k.chars c l = .ok none ∧
        scan s.chars k.chars c (l ++ [.entry x.chars (lit "v")]) =
          scan s.chars k.chars c [.entry x.chars (lit "v")]) :
    ∀ it ∈ l, it.Idle own := by
  have ha : TestSection (lit "a") := Or.inl rfl
  have hb : TestSection (lit "b") := Or.inr rfl
  have hstay : ∀ c, TestSection c → ∀ hc : NUL ∉ c, l.foldl Item.enter c = c := by
    intro c htest hc
    obtain ⟨hmissing, hbelow⟩ := h c htest ⟨c, hc⟩ x fun h => hx h.2
    have hne : c ≠ [] := by
      rcases htest with rfl | rfl
      · decide
      · decide
    rw [scan_append_of_missing hmissing] at hbelow
    by_contra hmoved
    have hmiss : scan c x.chars (l.foldl Item.enter c) [.entry x.chars (lit "v")] = .ok none := by
      rw [scan, if_neg fun h => hmoved h.2.1]
      rfl
    have hhit : scan c x.chars c [.entry x.chars (lit "v")] = .ok (some (lit "v")) := by
      rw [scan, if_pos ⟨hne, rfl, rfl⟩]
    rw [hmiss, hhit] at hbelow
    cases hbelow
  have hnone : ∀ name, .header name ∉ l := by
    rcases foldl_enter l with hnone | hconst
    · exact hnone
    · have hsame := hconst (lit "a") (lit "b")
      rw [hstay _ ha (by decide), hstay _ hb (by decide)] at hsame
      exact absurd hsame (by decide)
  -- without headers every item stands in the section in which the line is put
  have hall : ∀ it ∈ l, ∀ s k : CStr, ¬(s.chars = lit "a" ∧ own = some k.chars) →
      ¬Hazard (lit "a", it) ∧ ∀ v, ¬Hit s.chars k.chars v (lit "a", it) := by
    intro it hit s k hother
    have hquiet := scan_eq_none_iff.mp (h _ ha s k hother).1
    rw [located_of_noHeader hnone] at hquiet
    exact hquiet _ (List.mem_map_of_mem hit)
  intro it hit
  cases it with
  | inert => exact Or.inl rfl
  | header name => exact absurd hit (hnone name)
  | keyless =>
    obtain ⟨hsafe, -⟩ := hall _ hit ⟨lit "b", by decide⟩ x fun h => absurd h.1 (by decide)
    exact absurd ⟨by decide, rfl⟩ hsafe
  | entry k v =>
    by_cases hown : own = some k
    · exact Or.inr ⟨k, v, hown, rfl⟩
    · obtain ⟨-, hmiss⟩ := hall _ hit ⟨lit "a", by decide⟩ ⟨k, hkeys k v hit⟩ fun h => hown h.2
      exact absurd ⟨by decide, rfl⟩ (hmiss v)

/-- If all lines fit, there is nothing behind a cut. -/
theorem headersPlain_of_fits (h : ∀ l ∈ physLines NL pre, l.length ≤ lineBufferLength - 1) :
    HeadersPlain pre := by
  intro l hl
  constructor
  · intro name hname
    rw [overflow, List.drop_of_length_le (h l hl)] at hname
    exact absurd hname List.not_mem_nil
  · rw [List.take_of_length_le (h l hl)]
    exact id

/-- The header line of a section. -/
def headerLine (c : List Byte) : List Byte := lit "[" ++ c ++ lit "]\n"

/-- Another key than `own`. -/
def testKey (own : Option (List Byte)) : CStr :=
  if own = some (lit "k") then ⟨lit "l", by decide⟩ else ⟨lit "k", by decide⟩

theorem testKey_cases (own : Option (List Byte)) :
    own ≠ some (testKey own).chars ∧
      ((testKey own).chars = lit "k" ∨ (testKey own).chars = lit "l") := by
  unfold testKey
  by_cases h : own = some (lit "k")
  · rw [if_pos h, h]
    exact ⟨by decide, Or.inr rfl⟩
  · rw [if_neg h]
    exact ⟨h, Or.inl rfl⟩

/-- An entry for the key `x` in the next line. -/
def entryBelow (x : List Byte) : List Byte := NL :: (x ++ lit "=v\n")

/-- What stands below a line that is put to the test: nothing, or an entry for `x`. -/
def TestBelow (x post : List Byte) : Prop :=
  (x = lit "k" ∨ x = lit "l") ∧ (post = [] ∨ post = entryBelow x)

section Test

variable {c x : List Byte}

theorem wholeLine_test (hc : TestSection c) (hpost : TestBelow x post) :
    WholeLine (headerLine c) post := by
  constructor
  · rcases hc with rfl | rfl
    · exact Or.inr (by decide)
    · exact Or.inr (by decide)
  · rcases hpost.2 with rfl | rfl
    · exact Or.inl rfl
    · exact Or.inr rfl

theorem meaning_test (hc : TestSection c) (hpost : TestBelow x post) (hw : LineText w)
    (s k : List Byte) :
    meaning (some (headerLine c ++ w ++ post)) s k = scan s k c (items w ++ items post.tail) := by
  rw [meaning_line (wholeLine_test hc hpost) hw]
  rcases hc with rfl | rfl
  · rfl
  · rfl

theorem enclosing_test (hc : TestSection c) : enclosing (headerLine c) = c := by
  rcases hc with rfl | rfl
  · decide
  · decide

theorem headersPlain_test (hc : TestSection c) : HeadersPlain (headerLine c) := by
  apply headersPlain_of_fits
  rcases hc with rfl | rfl
  · decide
  · decide

theorem keyedFile_test (hc : TestSection c) (hpost : TestBelow x post) (hw : LineText w)
    (hne : w ≠ []) (hhead : w.head? ≠ some (ch '=')) : KeyedFile (headerLine c ++ w ++ post) := by
  have hheader : NUL ∉ headerLine c ∧ NL ∉ lit "[" ++ c ++ lit "]" ∧
      (lit "[" ++ c ++ lit "]").head? ≠ some (ch '=') := by
    rcases hc with rfl | rfl
    · decide
    · decide
  have hlines : physLines NL (headerLine c ++ w ++ post) =
      (lit "[" ++ c ++ lit "]") :: physLines NL (w ++ post) := by
    rw [← physLines_line (w ++ post) hheader.2.1]
    simp [headerLine, lit]
    rfl
  have hbelow : NUL ∉ post ∧ ∀ l ∈ physLines NL (w ++ post), l = w ∨ l.head? ≠ some (ch '=') := by
    rcases hpost.2 with rfl | rfl
    · refine ⟨List.not_mem_nil, fun l hl => ?_⟩
      rw [List.append_nil, physLines_last hw.noNewline hne] at hl
      exact Or.inl (List.mem_singleton.mp hl)
    · have hx : NUL ∉ entryBelow x ∧
          ∀ l ∈ physLines NL (x ++ lit "=v\n"), l.head? ≠ some (ch '=') := by
        rcases hpost.1 with rfl | rfl
        · decide
        · decide
      refine ⟨hx.1, fun l hl => ?_⟩
      rw [entryBelow, physLines_line _ hw.noNewline] at hl
      rcases List.mem_cons.mp hl with rfl | hl
      · exact Or.inl rfl
      · exact Or.inr (hx.2 l hl)
  constructor
  · simp only [List.mem_append, not_or]
    exact ⟨⟨hheader.1, hw.noNul⟩, hbelow.1⟩
  · intro l hl
    rw [hlines] at hl
    rcases List.mem_cons.mp hl with rfl | hl
    · exact hheader.2.2
    · rcases hbelow.2 l hl with rfl | hl
      · exact hhead
      · exact hl

end Test

theorem items_entryBelow {x : List Byte} (hx : x = lit "k" ∨ x = lit "l") :
    items (entryBelow x).tail = [.entry x (lit "v")] := by
  rcases hx with rfl | rfl
  · rfl
  · rfl

/-- To be idle behind the cut it is enough not to be noticed between a header and one more entry. -/
theorem plain_of_tests
    (h : ∀ c post, TestSection c → TestBelow (testKey own).chars post → ∀ s k : CStr,
      ¬(s.chars = c ∧ own = some k.chars) →
      scan s.chars k.chars c (overflow w ++ items post.tail) =
        scan s.chars k.chars c (items post.tail)) : Plain own w := by
  obtain ⟨hother, hkey⟩ := testKey_cases own
  refine idle_of_scans hother (fun k v hm => entry_noNul hm) fun c hc s k hforeign => ?_
  have halone := h c [] hc ⟨hkey, Or.inl rfl⟩ s k hforeign
  have hbelow := h c _ hc ⟨hkey, Or.inr rfl⟩ s k hforeign
  have hnil : items [] = [] := rfl
  rw [List.tail_nil, hnil, List.append_nil] at halone
  rw [items_entryBelow hkey] at hbelow
  exact ⟨halone, hbelow⟩

theorem plain_of_commentInert {t : List Byte} (ht : LineText t) (h : CommentInert t) :
    Plain none (ch '#' :: t) := by
  have hhash : ch '#' ≠ NL ∧ ch '#' ≠ NUL := by decide
  have hnone : LineText [] := ⟨List.not_mem_nil, List.not_mem_nil⟩
  have hplain : Plain none [ch '#'] := plain_of_fits (by decide)
  refine plain_of_tests fun c post hc hpost s k _ => ?_
  have hkeyed := keyedFile_test hc hpost (lineText_cons hhash ht) (List.cons_ne_nil _ _) (by simp; decide)
  have hsame := h _ _ [] (wholeLine_test hc hpost) hkeyed hnone hplain s k
  rw [sameResult_iff, meaning_test hc hpost (lineText_cons hhash ht),
    meaning_test hc hpost (lineText_cons hhash hnone), scan_comment hnone hplain,
    items_comment ht] at hsame
  exact hsame

theorem plain_of_valueInert {κ v : List Byte} (hκ : KeyText κ) (htκ : LineText κ) (hv : LineText v)
    (hshort : κ.length < lineBufferLength - 1) (h : ValueInert κ v) :
    Plain (some (trimSpaces κ)) (κ ++ ch '=' :: v) := by
  have heq : ch '=' ≠ NL ∧ ch '=' ≠ NUL := by decide
  have hnone : LineText [] := ⟨List.not_mem_nil, List.not_mem_nil⟩
  have hline : LineText (κ ++ ch '=' :: v) := lineText_append htκ (lineText_cons heq hv)
  have hempty : LineText (κ ++ [ch '=']) := lineText_append htκ (lineText_cons heq hnone)
  have hplain : Plain (some (trimSpaces κ)) (κ ++ [ch '=']) := by
    apply plain_of_fits
    rw [List.length_append, List.length_singleton]
    exact hshort
  refine plain_of_tests fun c post hc hpost s k hforeign => ?_
  have hother : ¬(s.chars = c ∧ k.chars = trimSpaces κ) := fun hown => hforeign ⟨hown.1, by rw [hown.2]⟩
  have hhead : (κ ++ ch '=' :: v).head? ≠ some (ch '=') := by
    obtain ⟨d, u, rfl⟩ := List.exists_cons_of_ne_nil hκ.nonempty
    intro hd
    cases hd
    exact hκ.noEquals List.mem_cons_self
  have hkeyed := keyedFile_test hc hpost hline (by simp) hhead
  have hsame := h _ _ [] (wholeLine_test hc hpost) (headersPlain_test hc) hkeyed hnone hplain s k
    (by rw [enclosing_test hc]; exact hother)
  obtain ⟨first, hfirst, hitems⟩ := items_entry hκ htκ hv
  rw [sameResult_iff, meaning_test hc hpost hline, meaning_test hc hpost hempty,
    scan_value hκ htκ hnone hplain hother, hitems] at hsame
  rw [← hsame]
  symm
  exact scan_idle (List.forall_mem_singleton.mpr hfirst) hforeign

/-! ## One file -/

section Place

variable {line line' : List Byte}

/-- A lookup that finds nothing gets past the line. -/
theorem Place.missing (h : Place pre post line) (hline : LineText line) (k : List Byte) :
    scan [] k [] (items pre ++ (items line ++ items post.tail)) = .ok none := by
  rw [← meaning_line h.whole hline]
  have hno : ¬EntryIn [] k (fileChunks (pre ++ line ++ post)) := by
    rintro ⟨A, c, B, v, -, hne, -⟩
    exact hne rfl
  exact scan_passes_iff.mpr ⟨h.calm, hno⟩

/-- A `=` behind the cut makes the reader leave its buffer. -/
theorem Place.not_sameResult (h : Place pre post line) (hline : LineText line)
    (hline' : LineText line') {first : Item} (hfirst : first.Idle own)
    (hitems : items line' = [first, .keyless]) :
    ¬SameResult (pre ++ line ++ post) (pre ++ line' ++ post) ⟨[], List.not_mem_nil⟩
      ⟨[], List.not_mem_nil⟩ := by
  rw [sameResult_iff, meaning_line h.whole hline, meaning_line h.whole hline', h.missing hline,
    scan_append_of_missing (scan_missing_left (h.missing hline [])),
    section_enclosing h.noNul h.headers, hitems]
  have hother : ¬(([] : List Byte) = enclosing pre ∧ own = some []) := fun hown => h.named hown.1.symm
  have hpass := scan_idle (m := .keyless :: items post.tail) (List.forall_mem_singleton.mpr hfirst)
    hother
  rw [List.singleton_append] at hpass
  rw [List.cons_append, List.singleton_append, hpass, scan, if_neg h.named]
  intro hsame
  cases hsame

/-- `u` filled up so that a `=` is the first character behind the cut. -/
def cutAt (u : List Byte) : List Byte :=
  List.replicate (lineBufferLength - 1 - u.length) (ch 'x') ++ [ch '=']

theorem lineText_cutAt (u : List Byte) : LineText (cutAt u) := by
  have hx : NL ≠ ch 'x' ∧ NUL ≠ ch 'x' := by decide
  exact lineText_append (lineText_replicate hx.1 hx.2 _) ⟨by decide, by decide⟩

theorem length_cutAt {u : List Byte} (hu : u.length ≤ lineBufferLength - 1) :
    (u ++ cutAt u).length = lineBufferLength := by
  simp only [cutAt, List.length_append, List.length_replicate, List.length_singleton]
  simp only [lineBufferLength] at hu ⊢
  omega

theorem overflow_cutAt {u : List Byte} (hu : u.length ≤ lineBufferLength - 1) :
    overflow (u ++ cutAt u) = [.keyless] := by
  have hdrop : (u ++ cutAt u).drop (lineBufferLength - 1) = [ch '='] := by
    rw [cutAt, ← List.append_assoc]
    apply List.drop_left'
    rw [List.length_append, List.length_replicate]
    omega
  rw [overflow, hdrop]
  rfl

end Place

theorem commentsAlike_iff {n : Nat} (h : Place pre post [ch '#']) :
    CommentsAlike pre post n ↔ n ≤ lineBufferLength - 1 := by
  have hhash : ch '#' ≠ NL ∧ ch '#' ≠ NUL := by decide
  have hnone : LineText [] := ⟨List.not_mem_nil, List.not_mem_nil⟩
  have hu : [ch '#'].length ≤ lineBufferLength - 1 := by decide
  constructor
  · intro halike
    by_contra hlong
    have hlength := length_cutAt hu
    have hle : (ch '#' :: cutAt [ch '#']).length ≤ n := by
      rw [List.singleton_append] at hlength
      rw [hlength]
      simp only [lineBufferLength] at hlong ⊢
      omega
    have hsame := halike [] (cutAt [ch '#']) hnone (lineText_cutAt _)
      (hu.trans (Nat.le_of_lt (Nat.lt_of_not_le hlong))) hle ⟨[], List.not_mem_nil⟩
      ⟨[], List.not_mem_nil⟩
    have hitems : items (ch '#' :: cutAt [ch '#']) = [.inert, .keyless] := by
      rw [items_comment (lineText_cutAt _)]
      exact congrArg _ (overflow_cutAt hu)
    exact h.not_sameResult (lineText_cons hhash hnone) (lineText_cons hhash (lineText_cutAt _))
      (Or.inl rfl : Item.Idle none .inert) hitems hsame
  · intro hshort t t' ht ht' hlen hlen' s k
    exact comments_alike h.whole ht ht' (plain_of_fits (hlen.trans hshort))
      (plain_of_fits (hlen'.trans hshort)) s k

theorem valuesAlike_iff {κ : List Byte} {n : Nat} (hκ : KeyText κ) (htκ : LineText κ)
    (hkey : κ.length < lineBufferLength - 1) (h : Place pre post (κ ++ [ch '='])) :
    ValuesAlike pre post κ n ↔ n ≤ lineBufferLength - 1 := by
  have heq : ch '=' ≠ NL ∧ ch '=' ≠ NUL := by decide
  have hnone : LineText [] := ⟨List.not_mem_nil, List.not_mem_nil⟩
  have hempty : LineText (κ ++ [ch '=']) := lineText_append htκ (lineText_cons heq hnone)
  have hu : (κ ++ [ch '=']).length ≤ lineBufferLength - 1 := by
    rw [List.length_append, List.length_singleton]
    exact hkey
  set v := cutAt (κ ++ [ch '=']) with hv
  have hsplit : κ ++ ch '=' :: v = (κ ++ [ch '=']) ++ v := by simp
  have hline : LineText (κ ++ ch '=' :: v) :=
    lineText_append htκ (lineText_cons heq (lineText_cutAt _))
  constructor
  · intro halike
    by_contra hlong
    have hlength := length_cutAt hu
    rw [← hv, ← hsplit] at hlength
    have hle : (κ ++ ch '=' :: v).length ≤ n := by
      rw [hlength]
      simp only [lineBufferLength] at hlong ⊢
      omega
    have hother : ¬(([] : List Byte) = enclosing pre ∧ [] = trimSpaces κ) := fun hown =>
      h.named hown.1.symm
    have hsame := halike [] v hnone (lineText_cutAt _)
      (hu.trans (Nat.le_of_lt (Nat.lt_of_not_le hlong))) hle ⟨[], List.not_mem_nil⟩
      ⟨[], List.not_mem_nil⟩ hother
    obtain ⟨first, hfirst, hitems⟩ := items_entry hκ htκ (lineText_cutAt (κ ++ [ch '=']))
    rw [← hv, hsplit, hv, overflow_cutAt hu, ← hv, ← hsplit] at hitems
    exact h.not_sameResult hempty hline hfirst hitems hsame
  · intro hshort v v' hv hv' hlen hlen' s k hother
    exact values_alike h.whole h.noNul h.headers hκ htκ hv hv' (plain_of_fits (hlen.trans hshort))
      (plain_of_fits (hlen'.trans hshort)) hother

theorem commentInert_iff {t : List Byte} (ht : LineText t) :
    CommentInert t ↔ Plain none (ch '#' :: t) := by
  refine ⟨plain_of_commentInert ht, ?_⟩
  intro h pre post t' hline _ ht' h' s k
  exact comments_alike hline ht ht' h h' s k

theorem valueInert_of_plain {κ v : List Byte} (hκ : KeyText κ) (htκ : LineText κ) (hv : LineText v)
    (h : Plain (some (trimSpaces κ)) (κ ++ ch '=' :: v)) : ValueInert κ v := by
  intro pre post v' hline hheaders hfile hv' h' s k hother
  have hnul : NUL ∉ pre := fun hm =>
    hfile.noNul (List.mem_append_left _ (List.mem_append_left _ hm))
  exact values_alike hline hnul hheaders hκ htκ hv hv' h h' hother

/-- **Comments and values are inert text** exactly as far as the reader finds nothing behind the cut of
their lines. This is said of each text, over all files; and of each file, at a place below a header
with a name, over all texts: they are alike as long as no line is cut. -/
theorem inert_iff (t κ v pre post : List Byte) (n : Nat) (ht : LineText t) (hκ : KeyText κ)
    (htκ : LineText κ) (hv : LineText v) :
    (CommentInert t ↔ Plain none (ch '#' :: t)) ∧
    (Place pre post [ch '#'] → (CommentsAlike pre post n ↔ n ≤ lineBufferLength - 1)) ∧
    (Plain (some (trimSpaces κ)) (κ ++ ch '=' :: v) → ValueInert κ v) ∧
    (κ.length < lineBufferLength - 1 →
      (ValueInert κ v ↔ Plain (some (trimSpaces κ)) (κ ++ ch '=' :: v)) ∧
      (Place pre post (κ ++ [ch '=']) → (ValuesAlike pre post κ n ↔ n ≤ lineBufferLength - 1))) := by
  refine ⟨commentInert_iff ht, fun h => commentsAlike_iff h, valueInert_of_plain hκ htκ hv, ?_⟩
  intro hkey
  constructor
  · exact ⟨plain_of_valueInert hκ htκ hv hkey, valueInert_of_plain hκ htκ hv⟩
  · exact fun h => valuesAlike_iff hκ htκ hkey h

/-- In the section `a` comments of 255 characters are alike, and values of 256 characters are not. -/
theorem inert_iff_sectionA :
    CommentInert (lit "x") ∧ CommentsAlike (headerLine (lit "a")) [] 255 ∧
      ValueInert (lit "k") (lit "v") ∧ ¬ValuesAlike (headerLine (lit "a")) [] (lit "k") 256 := by
  have hplace : ∀ l, scan [] [] [] (items (headerLine (lit "a") ++ l ++ [])) = .ok none →
      Place (headerLine (lit "a")) [] l := by
    intro l hl
    have hcalm : Harmless (fileChunks (headerLine (lit "a") ++ l ++ [])) := (scan_passes_iff.mp hl).1
    exact ⟨⟨Or.inr (by decide), Or.inl rfl⟩, headersPlain_test (Or.inl rfl), by decide, by decide, hcalm⟩
  have hall := fun n => inert_iff (lit "x") (lit "k") (lit "v") (headerLine (lit "a")) [] n
    ⟨by decide, by decide⟩ ⟨by decide, by decide, by decide⟩ ⟨by decide, by decide⟩
    ⟨by decide, by decide⟩
  obtain ⟨hcomment, hcomments, hvalue, -⟩ := hall 255
  obtain ⟨-, -, -, hvalues⟩ := hall 256
  refine ⟨?_, ?_, ?_, ?_⟩
  · exact hcomment.mpr (plain_of_fits (by decide))
  · exact (hcomments (hplace _ rfl)).mpr (by decide)
  · exact hvalue (plain_of_fits (by decide))
  · intro h
    exact absurd (((hvalues (by decide)).2 (hplace _ rfl)).mp h) (by decide)

/-- The key that is looked for below the long comment. -/
def keyK : CStr := ⟨lit "k", by decide⟩

/-- The text of a comment that goes on behind the 255 characters of the first chunk with a header. -/
def longText : List Byte := List.replicate 254 (ch 'x') ++ lit "[b]"

/-- The file whose first line is the comment with the text `t`, and its second line an entry. -/
def commentedIni (t : List Byte) : List Byte := [] ++ (ch '#' :: t) ++ lit "\nk=v\n"

/-- The tail of the comment in the first line is the section in force for the second line. -/
theorem comment_acts_as_header :
    (WholeLine [] (lit "\nk=v\n") ∧ KeyedFile (commentedIni longText) ∧ LineText longText) ∧
    Hellomk.lookup (Buf.zeroed _) (some (commentedIni longText)) ⟨lit "b", by decide⟩ keyK =
      .ok (some (lit "v")) ∧
    Hellomk.lookup (Buf.zeroed _) (some (commentedIni [])) ⟨lit "b", by decide⟩ keyK = .ok none ∧
    Hellomkcpp.lookup ⟨Buf.zeroed _, Buf.zeroed _⟩ (some (commentedIni longText))
      ⟨lit "b", by decide⟩ keyK = .ok (some (lit "v")) ∧
    Hellomkcpp.lookup ⟨Buf.zeroed _, Buf.zeroed _⟩ (some (commentedIni [])) ⟨lit "b", by decide⟩ keyK =
      .ok none := by
  have hlong : meaning (some (commentedIni longText)) (lit "b") keyK.chars = .ok (some (lit "v")) := by
    decide +kernel
  have hshort : meaning (some (commentedIni [])) (lit "b") keyK.chars = .ok none := by decide
  rw [Hellomk.lookup_eq, Hellomk.lookup_eq, Hellomkcpp.lookup_eq, Hellomkcpp.lookup_eq, hlong, hshort]
  refine ⟨⟨⟨Or.inl rfl, Or.inr rfl⟩, ⟨by decide +kernel, by decide +kernel⟩,
    ⟨by decide +kernel, by decide +kernel⟩⟩, rfl, rfl, ?_, rfl⟩
  decide

end DiscoveryDemo.Ini
