import DiscoveryDemo.CLib.Proofs.BufferProofs
import DiscoveryDemo.CLib.Proofs.StrtolProofs
import DiscoveryDemo.Gpio.PinName

/-!
# Proofs: which names select a line

What the two functions do on a string of at least one character, and from it when they agree on
whether it names a pin.
-/

namespace DiscoveryDemo.Ioexample2

open CLib

/-! ## Paths -/

theorem IsCapital.index_lt {c : Byte} (h : IsCapital c) : c.toNat - (ch 'A').toNat < 26 := by
  have ha : (ch 'A').toNat = 65 := by decide
  have hz : (ch 'Z').toNat = 90 := by decide
  have hle := UInt8.le_iff_toNat_le.mp h.2
  omega

theorem chipPath_noNul {k : Nat} (hk : k < 26) : NUL ∉ chipPath k := by
  have hall : ∀ i : Fin 26, NUL ∉ chipPath i := by decide +kernel
  exact hall ⟨k, hk⟩

/-- A buffer of two bytes or more shows something of a path. -/
theorem take_chipPath_ne_nil {n : Nat} (hn : 1 < n) (k : Nat) :
    (chipPath k).take (n - 1) ≠ [] := by
  rw [Ne, List.take_eq_nil_iff, not_or]
  constructor
  · omega
  · intro h
    cases (List.append_eq_nil_iff.mp h).1

/-- The buffers of `main` hold every path. -/
theorem path_fits (p : PinName) : p.path.length < 32 := by
  have hall : ∀ i : Fin 26, (chipPath i).length < 32 := by decide +kernel
  exact hall ⟨_, p.isCapital.index_lt⟩

/-! ## The two functions -/

section Functions

variable {s : CStr} {c : Byte} {tail : List Byte}

theorem tail_noNul (h : s.chars = c :: tail) : NUL ∉ tail := by
  intro htail
  exact s.noNul (by rw [h]; exact List.mem_cons_of_mem c htail)

theorem array_bytes (h : s.chars = c :: tail) : (array s).bytes = c :: (tail ++ [NUL]) := by
  show s.chars ++ [NUL] = _
  rw [h, List.cons_append]

theorem array_read_zero (h : s.chars = c :: tail) : (array s).read 0 = .ok c := by
  have hbytes : (array s).bytes = [] ++ c :: (tail ++ [NUL]) := array_bytes h
  exact Buf.read_middle hbytes rfl

theorem array_read_one (h : s.chars = c :: tail) :
    (array s).read 1 = .ok (tail.head?.getD NUL) := by
  have hbytes := array_bytes h
  cases tail with
  | nil =>
    have hmid : (array s).bytes = [c] ++ NUL :: [] := hbytes
    exact Buf.read_middle hmid rfl
  | cons d tail =>
    have hmid : (array s).bytes = [c] ++ d :: (tail ++ [NUL]) := hbytes
    exact Buf.read_middle hmid rfl

theorem array_str_one (h : s.chars = c :: tail) : (array s).str 1 = .ok tail := by
  have hbytes : (array s).bytes = [c] ++ (tail ++ NUL :: []) := array_bytes h
  exact Buf.str_middle hbytes rfl (tail_noNul h)

/-- The empty string has no second byte. -/
theorem gpioLine_empty (h : s.chars = []) (other : List Byte → Int) :
    gpioLine other (some s) = .error (.outOfBounds 1) := by
  have hlen : (array s).bytes.length = 1 := by rw [(array s).length_eq, h]; rfl
  have hread : (array s).read 1 = .error (.outOfBounds 1) := by
    unfold Buf.read
    rw [if_pos (by decide), List.getElem?_eq_none (by rw [hlen]; decide)]
  simp only [gpioLine, hread, bind, Except.bind]

/-- `GPIO_LINE` leaves to `atoi` all that stands behind the first character. -/
theorem gpioLine_eq (h : s.chars = c :: tail) (other : List Byte → Int) :
    gpioLine other (some s) = .ok (if tail = [] then -1 else atoi other tail) := by
  have hread := array_read_one h
  have hstr := array_str_one h
  cases tail with
  | nil =>
    simp only [gpioLine, hread, List.head?_nil, Option.getD_none, if_true, bind, Except.bind]
    rfl
  | cons d tail =>
    have hd : d ≠ NUL := by
      rintro rfl
      exact tail_noNul h List.mem_cons_self
    simp only [gpioLine, hread, hstr, List.head?_cons, Option.getD_some, if_neg hd, bind,
      Except.bind, List.cons_ne_nil, if_false]
    rfl

variable {n : Nat}

theorem gpioChip_capital (hn : 0 < n) (h : s.chars = c :: tail) (hc : IsCapital c) (buf : Buf n) :
    ∃ buf', gpioChip (some s) (some buf) = .ok (some buf') ∧
      buf'.str 0 = .ok ((chipPath (c.toNat - (ch 'A').toNat)).take (n - 1)) := by
  refine ⟨_, ?_, (Buf.snprintf_holds buf hn (chipPath_noNul hc.index_lt)).str⟩
  have hrange : ¬(c < ch 'A' ∨ c > ch 'Z') := by
    rintro (hlt | hgt)
    · exact absurd hc.1 (UInt8.not_le.mpr hlt)
    · exact absurd hc.2 (UInt8.not_le.mpr hgt)
  simp only [gpioChip, if_neg (Nat.pos_iff_ne_zero.mp hn), array_read_zero h, if_neg hrange, bind,
    Except.bind]
  rfl

theorem gpioChip_other (hn : 0 < n) (h : s.chars = c :: tail) (hc : ¬IsCapital c) (buf : Buf n) :
    ∃ buf', gpioChip (some s) (some buf) = .ok (some buf') ∧ buf'.str 0 = .ok [] := by
  obtain ⟨x, rest, hbytes⟩ : ∃ x rest, buf.bytes = x :: rest := by
    refine List.exists_cons_of_ne_nil fun hnil => ?_
    have hlen := buf.length_eq
    rw [hnil] at hlen
    exact absurd hlen (Nat.ne_of_lt hn)
  have hmid : buf.bytes = [] ++ x :: rest := hbytes
  obtain ⟨buf', hw, hbuf'⟩ := Buf.write_middle hmid (i := 0) rfl NUL
  have hholds : buf'.Holds [] := ⟨List.not_mem_nil, rest, hbuf'⟩
  refine ⟨buf', ?_, hholds.str⟩
  have hrange : c < ch 'A' ∨ c > ch 'Z' := by
    rcases not_and_or.mp hc with hlt | hgt
    · exact Or.inl (UInt8.not_le.mp hlt)
    · exact Or.inr (UInt8.not_le.mp hgt)
  simp only [gpioChip, if_neg (Nat.pos_iff_ne_zero.mp hn), array_read_zero h, if_pos hrange, hw, bind,
    Except.bind]
  rfl

/-- What a pin name makes of the two functions. -/
theorem NamesPin.parts {p : PinName} (hp : NamesPin s n p) (h : s.chars = c :: tail) :
    IsCapital c ∧ tail ≠ [] ∧ Begins tail p.line ∧
      (chipPath (c.toNat - (ch 'A').toNat)).take (n - 1) = p.path := by
  obtain ⟨htext, hfits⟩ := hp
  rw [h] at htext
  obtain ⟨rfl, rfl⟩ := List.cons.inj htext
  refine ⟨p.isCapital, p.nonempty, ?_, List.take_of_length_le (Nat.le_sub_one_of_lt hfits)⟩
  exact (denotes_digits (List.all_eq_true.mpr p.isdigit_digits) p.nonempty).begins

/-- The name of a pin opens this pin. -/
theorem NamesPin.opens {p : PinName} (hp : NamesPin s n p) (h : s.chars = c :: tail)
    (other : List Byte → Int) :
    (chipPath (c.toNat - (ch 'A').toNat)).take (n - 1) = p.path ∧
      gpioLine other (some s) = .ok p.line := by
  have hmin : longMin = -2 ^ 31 := rfl
  have hmax : longMax = 2 ^ 31 - 1 := rfl
  have hline : p.line < 2 ^ 31 := p.le_intMax
  obtain ⟨-, hne, hbegins, hpath⟩ := hp.parts h
  refine ⟨hpath, ?_⟩
  rw [gpioLine_eq h, if_neg hne, atoi_begins hbegins (by omega) (by omega)]

end Functions

/-! ## Names -/

variable {s : CStr} {n : Nat}

/-- If `atoi` can be -1 whatever it makes of an overflow, the string begins with -1. -/
theorem begins_neg_one {tail : List Byte} (h : atoi (fun _ => 0) tail = -1) : Begins tail (-1) := by
  by_cases hbegins : ∃ m, Begins tail m
  · obtain ⟨m, hm⟩ := hbegins
    by_cases hrange : m < longMin ∨ longMax < m
    · rw [atoi_overflow hm hrange] at h
      cases h
    · obtain ⟨hmin, hmax⟩ := not_or.mp hrange
      rw [atoi_begins hm (Int.not_lt.mp hmin) (Int.not_lt.mp hmax)] at h
      rw [← h]
      exact hm
  · rw [atoi_nothing fun m hm => hbegins ⟨m, hm⟩] at h
    cases h

theorem harmless_of_pinOrNothing (hn : 0 < n) (h : PinOrNothing s n) : Harmless s n := by
  obtain ⟨buf', path, line, hchip, hpath, hline, -, hnone⟩ := h (fun _ => 0) (Buf.zeroed n)
  cases hs : s.chars with
  | nil =>
    rw [gpioLine_empty hs] at hline
    cases hline
  | cons c tail =>
    refine ⟨c, tail, hs, ?_⟩
    by_contra hharm
    simp only [not_or, not_not] at hharm
    obtain ⟨htail, hc, hone, hpin, hneg⟩ := hharm
    -- the path is not empty, so that the line has to be -1
    obtain ⟨buf'', hchip', hpath'⟩ := gpioChip_capital hn hs hc (Buf.zeroed n)
    rw [hchip] at hchip'
    cases hchip'
    rw [hpath] at hpath'
    rw [gpioLine_eq hs, if_neg htail] at hline
    rcases hnone fun p hp => hpin ⟨p, hp⟩ with hempty | hminus
    · rw [hempty] at hpath'
      exact take_chipPath_ne_nil (by omega) _ (Except.ok.inj hpath').symm
    · rw [hminus] at hline
      exact hneg (begins_neg_one (Except.ok.inj hline))

theorem pinOrNothing_of_harmless (hn : 0 < n) (h : Harmless s n) : PinOrNothing s n := by
  obtain ⟨c, tail, hs, hharmless⟩ := h
  intro other buf
  have hline := gpioLine_eq hs other
  by_cases hc : IsCapital c
  · obtain ⟨buf', hchip, hpath⟩ := gpioChip_capital hn hs hc buf
    refine ⟨buf', _, _, hchip, hpath, hline, fun p hp => ?_, fun hnone => ?_⟩
    · obtain ⟨hpath, hopens⟩ := hp.opens hs other
      rw [hline] at hopens
      exact ⟨hpath, Except.ok.inj hopens⟩
    · rcases hharmless with rfl | hnot | rfl | ⟨p, hp⟩ | hbegins
      · exact Or.inr rfl
      · exact absurd hc hnot
      · exact Or.inl rfl
      · exact absurd hp (hnone p)
      · right
        by_cases htail : tail = []
        · exact if_pos htail
        · rw [if_neg htail]
          exact atoi_begins hbegins (by decide) (by decide)
  · obtain ⟨buf', hchip, hpath⟩ := gpioChip_other hn hs hc buf
    refine ⟨buf', _, _, hchip, hpath, hline, fun p hp => ?_, fun _ => Or.inl rfl⟩
    exact absurd (hp.parts hs).1 hc

/-- **Which names select a line.** `GPIO_CHIP` and `GPIO_LINE` give the pin that a string names, and
nothing for a string that names none, exactly if one of their checks catches it, or it names a pin, or
its number is -1. -/
theorem pinOrNothing_iff (hn : 0 < n) : PinOrNothing s n ↔ Harmless s n :=
  ⟨harmless_of_pinOrNothing hn, pinOrNothing_of_harmless hn⟩

/-- The names that `main` uses. -/
theorem pinOrNothing_main :
    PinOrNothing ⟨lit "A0", by decide⟩ 32 ∧ PinOrNothing ⟨lit "G14", by decide⟩ 32 := by
  constructor
  · refine (pinOrNothing_iff (by decide)).mpr ⟨ch 'A', lit "0", rfl, ?_⟩
    refine Or.inr (Or.inr (Or.inr (Or.inl ⟨⟨ch 'A', lit "0", ?_, ?_, ?_, ?_⟩, rfl, path_fits _⟩)))
    · exact ⟨by decide, by decide⟩
    · exact List.all_eq_true.mp (by decide)
    · exact List.cons_ne_nil _ _
    · decide
  · refine (pinOrNothing_iff (by decide)).mpr ⟨ch 'G', lit "14", rfl, ?_⟩
    refine Or.inr (Or.inr (Or.inr (Or.inl ⟨⟨ch 'G', lit "14", ?_, ?_, ?_, ?_⟩, rfl, path_fits _⟩)))
    · exact ⟨by decide, by decide⟩
    · exact List.all_eq_true.mp (by decide)
    · exact List.cons_ne_nil _ _
    · decide

/-- A name that no check catches is harmful if it names no pin. -/
theorem not_harmless {c : Byte} {tail : List Byte} (hs : s.chars = c :: tail) (hc : IsCapital c)
    (hn : n ≠ 1) (hpin : ∀ p, ¬NamesPin s n p) {m : Int} (hm : Begins tail m) (hpos : 0 ≤ m) :
    ¬Harmless s n := by
  rintro ⟨c', tail', hs', hharmless⟩
  rw [hs] at hs'
  obtain ⟨rfl, rfl⟩ := List.cons.inj hs'
  rcases hharmless with rfl | hnot | hone | ⟨p, hp⟩ | hbegins
  · obtain ⟨num, rest, htext, -, -⟩ := hm
    obtain ⟨d, ds, hds, -⟩ := num.digits_cons
    rw [Numeral.text, hds] at htext
    simp at htext
  · exact hnot hc
  · exact hn hone
  · exact hpin p hp
  · have hneg := hm.unique hbegins
    omega

/-- The line of the empty name is read behind its terminator; `A1x` opens line 1; and in 15 bytes the
path for `L3` is that of another bank. -/
theorem harmful_names :
    gpioLine (fun _ => 0) (some ⟨[], by decide⟩) = .error (.outOfBounds 1) ∧
      ¬PinOrNothing ⟨[], by decide⟩ 32 ∧
      gpioLine (fun _ => 0) (some ⟨lit "A1x", by decide⟩) = .ok 1 ∧
      ¬PinOrNothing ⟨lit "A1x", by decide⟩ 32 ∧
      (chipPath 11).take (15 - 1) = chipPath 1 ∧
      ¬PinOrNothing ⟨lit "L3", by decide⟩ 15 := by
  refine ⟨gpioLine_empty rfl _, fun h => ?_, by decide +kernel, fun h => ?_, by decide +kernel,
    fun h => ?_⟩
  · obtain ⟨c, tail, hs, -⟩ := harmless_of_pinOrNothing (by decide) h
    cases hs
  · have hs : (⟨lit "A1x", by decide⟩ : CStr).chars = ch 'A' :: lit "1x" := rfl
    have hx : NoDigit (lit "x") := by
      intro c hc
      cases hc
      decide
    have hone : Begins (lit "1" ++ lit "x") 1 := begins_digits (by decide) (List.cons_ne_nil _ _) hx
    refine not_harmless hs ⟨by decide, by decide⟩ (by decide) ?_ hone (by decide)
      (harmless_of_pinOrNothing (by decide) h)
    rintro p ⟨htext, -⟩
    obtain ⟨-, hdigits⟩ := List.cons.inj htext
    have hdigit := p.isdigit_digits (ch 'x') (by rw [hdigits]; decide)
    exact absurd hdigit (by decide)
  · have hs : (⟨lit "L3", by decide⟩ : CStr).chars = ch 'L' :: lit "3" := rfl
    have hthree : Denotes (lit "3") 3 := denotes_digits (by decide) (List.cons_ne_nil _ _)
    refine not_harmless hs ⟨by decide, by decide⟩ (by decide) ?_ hthree.begins (by decide)
      (harmless_of_pinOrNothing (by decide) h)
    rintro p ⟨htext, hfits⟩
    obtain ⟨hletter, -⟩ := List.cons.inj htext
    rw [PinName.path, hletter] at hfits
    exact absurd hfits (by decide +kernel)

end DiscoveryDemo.Ioexample2
