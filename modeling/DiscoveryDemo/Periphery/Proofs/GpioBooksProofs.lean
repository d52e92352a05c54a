import DiscoveryDemo.Periphery.Proofs.GpioLevelProofs

/-!
# Proofs: descriptors and names

Every descriptor that is opened for a line is given back. As long as no close has failed it is given back
once; the number of one whose close has failed is closed again. A name opens the first line that has it.
-/

namespace DiscoveryDemo.Periphery.Gpio

open CLib Driver

/-! ## Descriptors -/

/-- What a handle holds has been opened and not been given back, save for what is overdrawn. -/
def Books (s : System) (extra : List Nat) : Prop := Overdrawn s.ledger s.gpio.descriptors extra

section Books

variable {s : System} {extra : List Nat}

theorem Handle.descriptors_line {g : Handle} (h : 0 ≤ g.lineFd) :
    g.descriptors = g.lineFd.toNat :: if 0 ≤ g.chipFd then [g.chipFd.toNat] else [] := by
  unfold Handle.descriptors
  rw [if_pos h]
  rfl

theorem Handle.descriptors_noLine {g : Handle} (h : g.lineFd = -1) :
    g.descriptors = if 0 ≤ g.chipFd then [g.chipFd.toNat] else [] := by
  unfold Handle.descriptors
  rw [if_neg (by omega)]
  rfl

theorem Books.withoutLine (h : Books s extra) : Books s.withoutLine extra := by
  unfold Books at h ⊢
  rw [@Handle.descriptors_noLine s.withoutLine.gpio rfl]
  unfold System.withoutLine
  dsimp only
  by_cases hfd : 0 ≤ s.gpio.lineFd
  · rw [Handle.descriptors_line hfd] at h
    rw [if_pos hfd]
    exact h.leave
  · unfold Handle.descriptors at h
    rw [if_neg hfd] at h ⊢
    exact h

theorem Books.strandedLine (h : Books s extra) :
    Books s.strandedLine (s.gpio.lineFd.toNat :: extra) := h.again _

theorem Books.withLine (h : Books s extra) (hno : s.gpio.lineFd = -1) (fd : Nat) (c : Settings) :
    Books (s.withLine fd c) extra := by
  have hfd : 0 ≤ (s.withLine fd c).gpio.lineFd := Int.natCast_nonneg fd
  unfold Books at h ⊢
  rw [Handle.descriptors_noLine hno] at h
  rw [Handle.descriptors_line hfd]
  exact h.enter fd

theorem Books.withoutChip (h : Books s extra) (hno : s.gpio.lineFd = -1) :
    Books s.withoutChip extra := by
  have hnone : s.withoutChip.gpio.descriptors = [] := by
    rw [Handle.descriptors_noLine (show s.withoutChip.gpio.lineFd = -1 from hno)]
    exact if_neg (show ¬(0 : Int) ≤ -1 by omega)
  unfold Books at h ⊢
  rw [Handle.descriptors_noLine hno] at h
  rw [hnone]
  unfold System.withoutChip
  dsimp only
  by_cases hchip : 0 ≤ s.gpio.chipFd
  · rw [if_pos hchip] at h ⊢
    exact h.leave
  · rw [if_neg hchip] at h ⊢
    exact h

theorem Books.strandedChip (h : Books s extra) :
    Books s.strandedChip (s.gpio.chipFd.toNat :: extra) := h.again _

/-- A result of a call that starts with these books: what it overdraws, which is nothing just if it has
not failed to close. -/
def Books.After (extra : List Nat) (code : Int) (s : System) : Prop :=
  ∃ more, Books s (more ++ extra) ∧ (more = [] ↔ code ≠ errorClose)

/-- Nothing is overdrawn. -/
theorem Books.after {code : Int} (h : Books s extra) (hcode : code ≠ errorClose) :
    Books.After extra code s := ⟨[], h, iff_of_true rfl hcode⟩

/-- The number of a descriptor that is gone is kept. -/
theorem Books.after_errorClose {fd : Nat} (h : Books s (fd :: extra)) : Books.After extra errorClose s :=
  ⟨[fd], h, iff_of_false (List.cons_ne_nil fd []) (fun hne => hne rfl)⟩

theorem books_reopen (h : Coherent s) (hb : Books s extra) {c : Settings} (hc : c.Checked) (a : Answers) :
    Books.After extra (gpioCdevReopen s a c).1 (gpioCdevReopen s a c).2 := by
  rcases reopen_cases h hc a with ⟨e, text, -, -, heq⟩ | ⟨e, text, -, heq⟩ | ⟨-, -, fd, -, heq⟩
  · rw [heq]
    exact Books.after_errorClose hb.strandedLine
  · rw [heq]
    exact Books.after hb.withoutLine (show errorOpen ≠ errorClose by decide)
  · rw [heq]
    exact Books.after (hb.withoutLine.withLine rfl fd c) (show (0 : Int) ≠ errorClose by decide)

theorem books_close (h : Coherent s) (hb : Books s extra) (a : Answers) :
    Books.After extra (gpioCdevClose s a).1 (gpioCdevClose s a).2 := by
  rcases close_cases h a with ⟨e, text, -, -, heq⟩ | ⟨e, text, -, -, heq⟩ | heq
  · rw [heq]
    exact Books.after_errorClose hb.strandedLine
  · rw [heq]
    exact Books.after_errorClose hb.withoutLine.strandedChip
  · rw [heq]
    exact Books.after (hb.withoutLine.withoutChip rfl) (show (0 : Int) ≠ errorClose by decide)

theorem books_read (hb : Books s extra) (a : Answers) :
    Books.After extra (exec s (.read, a)).1.1 (exec s (.read, a)).2 := by
  have hio : errorIo ≠ errorClose := by decide
  have hok : (0 : Int) ≠ errorClose := by decide
  unfold exec gpioCdevRead
  dsimp only
  split
  · exact Books.after hb hio
  · exact Books.after hb hio
  · exact Books.after hb hok

theorem books_write (hb : Books s extra) (a : Answers) (value : Bool) :
    Books.After extra (gpioCdevWrite s a value).1 (gpioCdevWrite s a value).2 := by
  have hio : errorIo ≠ errorClose := by decide
  have hinvalid : errorInvalidOperation ≠ errorClose := by decide
  have hok : (0 : Int) ≠ errorClose := by decide
  unfold gpioCdevWrite
  split
  · exact Books.after hb hinvalid
  · split
    · exact Books.after hb hio
    · exact Books.after hb hio
    · split
      · exact Books.after hb hok
      · exact Books.after hb hio

theorem books_readEvent (hb : Books s extra) (a : Answers) :
    Books.After extra (exec s (.readEvent, a)).1.1 (exec s (.readEvent, a)).2 := by
  have hio : errorIo ≠ errorClose := by decide
  have hinvalid : errorInvalidOperation ≠ errorClose := by decide
  have hok : (0 : Int) ≠ errorClose := by decide
  unfold exec gpioCdevReadEvent
  dsimp only
  split
  · exact Books.after hb hinvalid
  · split
    · exact Books.after hb hinvalid
    · split
      · exact Books.after hb hio
      · exact Books.after hb hio
      · exact Books.after hb hok

/-- **A call overdraws the ledger just if it fails to close.** -/
theorem books_step (h : Coherent s) (hb : Books s extra) (c : Call × Answers) :
    Books.After extra (exec s c).1.1 (exec s c).2 := by
  obtain ⟨call, a⟩ := c
  cases hask : call.asks s.gpio.settings with
  | some c =>
    rcases setter_cases h hask a with ⟨code, text, hcode, heq⟩ | ⟨-, heq⟩ | ⟨-, hc, heq⟩
    · rw [heq]
      refine Books.after hb ?_
      rcases hcode with rfl | rfl
      · exact (show errorArg ≠ errorClose by decide)
      · exact (show errorInvalidOperation ≠ errorClose by decide)
    · rw [heq]
      exact Books.after hb (show (0 : Int) ≠ errorClose by decide)
    · rw [heq]
      exact books_reopen h hb hc a
  | none =>
    cases call with
    | read => exact books_read hb a
    | write value => exact books_write hb a value
    | readEvent => exact books_readEvent hb a
    | close => exact books_close h hb a
    | setDirection direction => cases hask
    | setEdge edge => cases hask
    | setBias bias => cases hask
    | setDrive drive => cases hask
    | setInverted inverted => cases hask

/-- A run overdraws the ledger just if one of its calls fails to close. -/
theorem books_run (h : Coherent s) (hb : Books s extra) (calls : List (Call × Answers)) :
    ∃ more, Books (run exec s calls).2 (more ++ extra) ∧
      (more = [] ↔ ∀ r ∈ (run exec s calls).1, r.1 ≠ errorClose) := by
  induction calls generalizing s extra with
  | nil => exact ⟨[], hb, iff_of_true rfl fun r hr => absurd hr List.not_mem_nil⟩
  | cons c calls ih =>
    obtain ⟨first, hfirst, hfirst_iff⟩ := books_step h hb c
    obtain ⟨rest, hrest, hrest_iff⟩ := ih (h.exec c) hfirst
    refine ⟨rest ++ first, ?_, ?_⟩
    · rw [List.append_assoc]
      exact hrest
    · rw [run_cons, List.forall_mem_cons, List.append_eq_nil_iff, hfirst_iff, hrest_iff]
      exact And.comm

end Books

/-! ## Opening and closing -/

/-- No line is held, and every descriptor has been given back once. -/
structure Unused (s : System) : Prop where
  fresh : Fresh s
  books : Overdrawn s.ledger [] []

theorem unused_new : Unused System.new := ⟨fresh_new, overdrawn_empty⟩

theorem Unused.givenBack {s : System} (h : Unused s) : GivenBack s := h.books.all_closed_iff.mpr rfl

/-- After `gpio_open_advanced` has failed there is no line, and the chip has been given back. -/
theorem gpioOpenAdvanced_failed {s : System} (hs : Unused s) {a : Answers} {opened : Except Nat Nat}
    {line : Nat} {c : Settings} {label : Option (List Byte)}
    (h : (gpioOpenAdvanced s a opened line c label).1 ≠ 0) :
    Unused (gpioOpenAdvanced s a opened line c label).2 := by
  rcases gpioOpenAdvanced_cases s a opened line c label with
    ⟨code, n, text, -, heq⟩ | ⟨chip, -, hc, heq⟩
  · rw [heq]
    exact ⟨hs.fresh, hs.books⟩
  · rw [heq] at h ⊢
    rcases opening_cases hs.fresh hc a line chip label with ⟨e, text, -, hre⟩ | ⟨-, fd, -, hre⟩
    · rw [hre]
      exact ⟨rfl, (hs.books.enter chip).leave⟩
    · rw [hre] at h
      exact absurd rfl h

theorem books_opened {s : System} (hs : Unused s) {a : Answers} {opened : Except Nat Nat}
    {line : Nat} {c : Settings} {label : Option (List Byte)}
    (h : (gpioOpenAdvanced s a opened line c label).1 = 0) :
    Books (gpioOpenAdvanced s a opened line c label).2 [] := by
  obtain ⟨-, chip, fd, -, heq⟩ := gpioOpenAdvanced_ok hs.fresh h
  have hchip : Books (s.withChip line chip label) [] := by
    unfold Books
    rw [@Handle.descriptors_noLine (s.withChip line chip label).gpio rfl]
    exact hs.books.enter chip
  rw [heq]
  exact hchip.withoutLine.withLine rfl fd c

theorem closed_handle {s : System} (hs : Coherent s) {a : Answers} (h : (gpioCdevClose s a).1 = 0) :
    (gpioCdevClose s a).2.gpio.lineFd = -1 ∧ (gpioCdevClose s a).2.gpio.chipFd = -1 := by
  rcases close_cases hs a with ⟨e, text, -, -, heq⟩ | ⟨e, text, -, -, heq⟩ | heq
  · rw [heq] at h
    exact absurd (show errorClose = 0 from h) (by decide)
  · rw [heq] at h
    exact absurd (show errorClose = 0 from h) (by decide)
  · rw [heq]
    exact ⟨rfl, rfl⟩

/-- The books of a handle without descriptors. -/
theorem Books.closed {s : System} {extra : List Nat} (h : Books s extra) (hline : s.gpio.lineFd = -1)
    (hchip : s.gpio.chipFd = -1) : Overdrawn s.ledger [] extra := by
  have hnone : s.gpio.descriptors = [] := by
    rw [Handle.descriptors_noLine hline, hchip]
    rfl
  unfold Books at h
  rw [hnone] at h
  exact h

/-- **Every descriptor is given back, and once unless a close has failed**: when opening a line has
failed, what was opened has been closed once; when a handle has been closed after any calls then nothing
is left open, and what was opened has been closed once just if no call has failed to close. -/
theorem descriptors_given_back (a : Answers) (opened : Except Nat Nat) (line : Nat) (c : Settings)
    (label : Option (List Byte)) (calls : List (Call × Answers)) (closing : Answers) :
    let start := gpioOpenAdvanced System.new a opened line c label
    let middle := run exec start.2 calls
    let stop := exec middle.2 (.close, closing)
    (start.1 ≠ 0 → GivenBack start.2) ∧
      (start.1 = 0 → stop.1.1 = 0 →
        stop.2.gpio.lineFd = -1 ∧ stop.2.gpio.chipFd = -1 ∧
          stop.2.ledger.opened.Subperm stop.2.ledger.closed ∧
          (GivenBack stop.2 ↔ ∀ r ∈ middle.1, r.1 ≠ errorClose)) := by
  intro start middle stop
  constructor
  · intro hfail
    exact (gpioOpenAdvanced_failed unused_new hfail).givenBack
  · intro hopen hstop
    have hs : Coherent middle.2 := Reached.coherent ⟨a, opened, line, c, label, calls, hopen, rfl⟩
    obtain ⟨hline, hchip⟩ := @closed_handle _ hs closing hstop
    obtain ⟨more, hmore, hiff⟩ :=
      books_run (coherent_opened fresh_new hopen) (books_opened unused_new hopen) calls
    obtain ⟨last, hlast, hlast_iff⟩ := books_step hs hmore (.close, closing)
    have hnone : last = [] := by
      rw [hlast_iff, show (exec middle.2 (.close, closing)).1.1 = 0 from hstop]
      decide
    rw [hnone, List.nil_append, List.append_nil] at hlast
    have hend : Overdrawn stop.2.ledger [] more := hlast.closed hline hchip
    exact ⟨hline, hchip, hend.subperm, hend.all_closed_iff.trans hiff⟩

/-- The close of a line fails with `EIO` when its edge is set; its number is closed again with the
handle. -/
theorem descriptors_given_back_failed :
    let start := gpioOpenAdvanced System.new (Answers.fine 4) (.ok 3) 7
      ⟨.dirIn, .none, .default, .default, false⟩ none
    let middle := run exec start.2 [(.setEdge .both, { Answers.fine 5 with closeLine := some 5 })]
    let stop := exec middle.2 (.close, Answers.fine 0)
    stop.2.gpio.lineFd = -1 ∧ stop.2.gpio.chipFd = -1 ∧
      stop.2.ledger.opened.Subperm stop.2.ledger.closed ∧
      (GivenBack stop.2 ↔ ∀ r ∈ middle.1, r.1 ≠ errorClose) :=
  (descriptors_given_back (Answers.fine 4) (.ok 3) 7 ⟨.dirIn, .none, .default, .default, false⟩ none
    [(.setEdge .both, { Answers.fine 5 with closeLine := some 5 })] (Answers.fine 0)).2 rfl rfl

/-! ## Names -/

section Names

variable {chip : Chip} {name : CStr}

/-- What the loop of `gpio_open_name_advanced` has found out when it ends. -/
def Search.Tells (chip : Chip) (name : CStr) (remaining line : Nat) : Search → Prop
  | .found l => l < line + remaining ∧ chip.Named name l ∧ ∀ k, line ≤ k → k < l → chip.Differs name k
  | .notFound => ∀ k, line ≤ k → k < line + remaining → chip.Differs name k
  | .failed l e => l < line + remaining ∧ line ≤ l ∧ chip.lineInfo l = .error e

theorem findLine_tells (chip : Chip) (name : CStr) (remaining line : Nat) :
    (findLine chip.lineInfo name remaining line).Tells chip name remaining line := by
  induction remaining generalizing line with
  | zero =>
    intro k hlow hhigh
    omega
  | succ remaining ih =>
    unfold findLine
    cases hinfo : chip.lineInfo line with
    | error e => exact ⟨by omega, Nat.le_refl line, hinfo⟩
    | ok info =>
      dsimp only
      by_cases hname : info.chars = name.chars
      · rw [if_pos hname]
        refine ⟨by omega, ⟨info, hinfo, hname⟩, ?_⟩
        intro k hlow hhigh
        omega
      · rw [if_neg hname]
        have hline : chip.Differs name line := ⟨info, hinfo, hname⟩
        have hrest := ih (line + 1)
        revert hrest
        cases findLine chip.lineInfo name remaining (line + 1) with
        | found l =>
          rintro ⟨hlt, hnamed, hbefore⟩
          refine ⟨by omega, hnamed, fun k hlow hhigh => ?_⟩
          rcases Nat.eq_or_lt_of_le hlow with rfl | hlow
          · exact hline
          · exact hbefore k hlow hhigh
        | notFound =>
          intro hbefore k hlow hhigh
          rcases Nat.eq_or_lt_of_le hlow with rfl | hlow
          · exact hline
          · exact hbefore k hlow (by omega)
        | failed l e =>
          rintro ⟨hlt, hle, herror⟩
          exact ⟨by omega, by omega, herror⟩

/-- No line is both. -/
theorem Chip.Differs.not_named {line : Nat} (h : chip.Differs name line) : ¬chip.Named name line := by
  obtain ⟨info, hinfo, hne⟩ := h
  rintro ⟨info', hinfo', heq⟩
  rw [hinfo] at hinfo'
  cases hinfo'
  exact hne heq

theorem findLine_notFound {lines : Nat} (h : ∀ k < lines, chip.Differs name k) :
    findLine chip.lineInfo name lines 0 = .notFound := by
  have htells := findLine_tells chip name lines 0
  revert htells
  cases findLine chip.lineInfo name lines 0 with
  | notFound => exact fun _ => rfl
  | found l =>
    rintro ⟨hlt, hnamed, -⟩
    exact absurd hnamed (h l (by omega)).not_named
  | failed l e =>
    rintro ⟨hlt, -, herror⟩
    obtain ⟨info, hinfo, -⟩ := h l (by omega)
    rw [hinfo] at herror
    cases herror

/-- `gpio_open_advanced` knows nothing of names. -/
theorem gpioOpenAdvanced_ne_notFound {s : System} (hs : Fresh s) (a : Answers)
    (opened : Except Nat Nat) (line : Nat) (c : Settings) (label : Option (List Byte)) :
    (gpioOpenAdvanced s a opened line c label).1 ≠ errorNotFound := by
  rcases gpioOpenAdvanced_cases s a opened line c label with
    ⟨code, n, text, rfl | rfl, heq⟩ | ⟨chip, -, hc, heq⟩
  · rw [heq]
    exact fun h => absurd (show errorArg = errorNotFound from h) (by decide)
  · rw [heq]
    exact fun h => absurd (show errorOpen = errorNotFound from h) (by decide)
  · rw [heq]
    rcases opening_cases hs hc a line chip label with ⟨e, text, -, hre⟩ | ⟨-, fd, -, hre⟩
    · rw [hre]
      exact fun h => absurd (show errorOpen = errorNotFound from h) (by decide)
    · rw [hre]
      exact fun h => absurd (show 0 = errorNotFound from h) (by decide)

/-- The system after a chip has been opened and closed. -/
def System.looked (s : System) (fd : Nat) : System := { s with ledger := (s.ledger.enter fd).leave fd }

theorem Unused.looked {s : System} (h : Unused s) (fd : Nat) : Unused (s.looked fd) :=
  ⟨h.fresh, (h.books.enter fd).leave⟩

/-- What `gpio_open_name_advanced` does: it fails to ask the chip, or no line has the name, or it opens
the first line that has it. -/
theorem gpioOpenNameAdvanced_cases {s : System} (hs : Unused s) (a : Answers) (opened : Except Nat Nat)
    (c : Settings) (label : Option (List Byte)) :
    (∃ s' code n text, (code = errorOpen ∨ code = errorQuery ∨ code = errorClose) ∧
        Unused s' ∧ ¬chip.Unnamed name ∧
        gpioOpenNameAdvanced s chip name a opened c label = fail s' code n text) ∨
      (∃ s' text, Unused s' ∧ chip.Unnamed name ∧
        gpioOpenNameAdvanced s chip name a opened c label = fail s' errorNotFound 0 text) ∨
      ∃ fd line, chip.First name line ∧ ¬chip.Unnamed name ∧
        gpioOpenNameAdvanced s chip name a opened c label =
          gpioOpenAdvanced (s.looked fd) a opened line c label := by
  unfold gpioOpenNameAdvanced
  cases hopened : chip.opened with
  | error e =>
    refine Or.inl ⟨s, errorOpen, e, _, Or.inl rfl, hs, ?_, rfl⟩
    rintro ⟨fd, -, hfd, -⟩
    rw [hopened] at hfd
    cases hfd
  | ok fd =>
    dsimp only
    have hlooked : Unused (s.looked fd) := hs.looked fd
    cases hlines : chip.lines with
    | error e =>
      refine Or.inl ⟨s.looked fd, errorQuery, e, _, Or.inr (Or.inl rfl), hlooked, ?_, rfl⟩
      rintro ⟨-, lines, -, hlines', -⟩
      rw [hlines] at hlines'
      cases hlines'
    | ok lines =>
      dsimp only
      have hunnamed : chip.Unnamed name ↔ findLine chip.lineInfo name lines 0 = .notFound := by
        constructor
        · rintro ⟨-, lines', -, hlines', hdiffers⟩
          rw [hlines] at hlines'
          cases hlines'
          exact findLine_notFound hdiffers
        · intro hsearch
          have htells := findLine_tells chip name lines 0
          rw [hsearch] at htells
          exact ⟨fd, lines, hopened, hlines, fun k hk => htells k (Nat.zero_le k) (by omega)⟩
      have htells := findLine_tells chip name lines 0
      cases hsearch : findLine chip.lineInfo name lines 0 with
      | failed line e =>
        refine Or.inl ⟨s.looked fd, errorQuery, e, _, Or.inr (Or.inl rfl), hlooked, ?_, rfl⟩
        rw [hunnamed, hsearch]
        exact Search.noConfusion
      | notFound => exact Or.inr (Or.inl ⟨s.looked fd, _, hlooked, hunnamed.mpr hsearch, rfl⟩)
      | found line =>
        have hnamed : ¬chip.Unnamed name := by
          rw [hunnamed, hsearch]
          exact Search.noConfusion
        rw [hsearch] at htells
        obtain ⟨hlt, hname, hbefore⟩ := htells
        cases hclosed : chip.closed with
        | some e =>
          exact Or.inl ⟨s.looked fd, errorClose, e, _, Or.inr (Or.inr rfl), hlooked, hnamed, rfl⟩
        | none =>
          exact Or.inr (Or.inr ⟨fd, line, ⟨⟨lines, hlines, by omega⟩, hname,
            fun k hk => hbefore k (Nat.zero_le k) hk⟩, hnamed, rfl⟩)

end Names

/-- **A name opens the first line that has it**: if opening succeeds then the line that is held is the
first one with the name; the error is that there is none just if the chip has said so of all its lines;
and a failure leaves no descriptor open. -/
theorem name_opens_first (chip : Chip) (name : CStr) (a : Answers) (opened : Except Nat Nat)
    (c : Settings) (label : Option (List Byte)) :
    let r := gpioOpenNameAdvanced System.new chip name a opened c label
    (r.1 = 0 → ∃ line q, chip.First name line ∧ r.2.held = some q ∧ q.offset = line) ∧
      (r.1 = errorNotFound ↔ chip.Unnamed name) ∧ (r.1 ≠ 0 → GivenBack r.2) := by
  intro r
  rcases @gpioOpenNameAdvanced_cases chip name _ unused_new a opened c label with
    ⟨s', code, n, text, hcode, hunused, hnamed, heq⟩ | ⟨s', text, hunused, hnamed, heq⟩ |
    ⟨fd, line, hfirst, hnamed, heq⟩
  · have hr : r = fail s' code n text := heq
    have hne : code ≠ 0 ∧ code ≠ errorNotFound := by
      rcases hcode with rfl | rfl | rfl <;> decide
    rw [hr]
    exact ⟨fun h => absurd h hne.1, ⟨fun h => absurd h hne.2, fun h => absurd h hnamed⟩,
      fun _ => hunused.givenBack⟩
  · have hr : r = fail s' errorNotFound 0 text := heq
    rw [hr]
    exact ⟨fun h => absurd (show errorNotFound = 0 from h) (by decide), ⟨fun _ => hnamed, fun _ => rfl⟩,
      fun _ => hunused.givenBack⟩
  · have hr : r = gpioOpenAdvanced (System.new.looked fd) a opened line c label := heq
    have hlooked : Unused (System.new.looked fd) := unused_new.looked fd
    rw [hr]
    refine ⟨fun h => ?_, ⟨fun h => absurd h (gpioOpenAdvanced_ne_notFound hlooked.fresh _ _ _ _ _),
      fun h => absurd h hnamed⟩, fun hfail => (gpioOpenAdvanced_failed hlooked hfail).givenBack⟩
    obtain ⟨-, chipFd, lineFd, -, hok⟩ := gpioOpenAdvanced_ok hlooked.fresh h
    rw [hok]
    exact ⟨line, _, hfirst, held_withLine _ lineFd c, rfl⟩

/-- A chip with two lines of one name. -/
def twoButtons : Chip where
  opened := .ok 3
  lines := .ok 4
  lineInfo line :=
    if line = 0 then .ok ⟨lit "LED", by decide⟩ else .ok ⟨lit "BUTTON", by decide⟩
  closed := none

theorem name_opens_first_button :
    ∃ line q, twoButtons.First ⟨lit "BUTTON", by decide⟩ line ∧
      (gpioOpenNameAdvanced System.new twoButtons ⟨lit "BUTTON", by decide⟩ (Answers.fine 4) (.ok 3)
        ⟨.dirIn, .none, .default, .default, false⟩ none).2.held = some q ∧ q.offset = line :=
  (name_opens_first twoButtons ⟨lit "BUTTON", by decide⟩ (Answers.fine 4) (.ok 3)
    ⟨.dirIn, .none, .default, .default, false⟩ none).1 rfl

end DiscoveryDemo.Periphery.Gpio
