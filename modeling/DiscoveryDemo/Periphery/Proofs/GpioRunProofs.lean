import DiscoveryDemo.Periphery.Proofs.GpioCdevProofs

/-!
# Proofs: runs of a GPIO handle

What holds of a handle that has been opened, after any calls with any failures: its settings are those
that the kernel holds, and a line that has been lost stays lost until the handle is asked for something
new.
-/

namespace DiscoveryDemo.Periphery.Gpio

open CLib Driver

/-! ## Calls -/

section Calls

variable {s : System}

theorem Coherent.level (h : Coherent s) (level : Bool) : Coherent { s with level := level } :=
  ⟨h.checked, h.direction, h.drive_output, h.line, h.line_fd, h.chip, h.chip_fd⟩

theorem Coherent.read (h : Coherent s) (a : Answers) : Coherent (gpioCdevRead s a).2 := by
  unfold gpioCdevRead
  split
  · exact h.error _
  · exact h.error _
  · exact h

theorem Coherent.write (h : Coherent s) (a : Answers) (value : Bool) :
    Coherent (gpioCdevWrite s a value).2 := by
  unfold gpioCdevWrite
  split
  · exact h.error _
  · split
    · exact h.error _
    · exact h.error _
    · split
      · exact h.level _
      · exact h.error _

theorem Coherent.readEvent (h : Coherent s) (a : Answers) : Coherent (gpioCdevReadEvent s a).2 := by
  unfold gpioCdevReadEvent
  dsimp only
  split
  · exact h.error _
  · split
    · exact h.error _
    · split
      · exact h.error _
      · exact h.error _
      · exact h

/-- The system without its chip. -/
def System.withoutChip (s : System) : System :=
  { s with
    gpio := { s.gpio with
      chipFd := -1
      settings := { s.gpio.settings with edge := .none, direction := .dirIn } }
    ledger := if 0 ≤ s.gpio.chipFd then s.ledger.leave s.gpio.chipFd.toNat else s.ledger }

/-- The system after a close of its chip that has failed: the chip is gone, its number is not. -/
def System.strandedChip (s : System) : System :=
  { s with ledger := s.ledger.leave s.gpio.chipFd.toNat }

theorem Coherent.withoutChip (h : Coherent s) (hno : s.gpio.lineFd = -1) : Coherent s.withoutChip := by
  have hneg : ¬(0 : Int) ≤ -1 := by omega
  refine ⟨⟨rfl, rfl, h.checked.bias, h.checked.drive, fun hne => absurd rfl hne⟩, Or.inl rfl,
    fun hchip => absurd hchip hneg, ?_, h.line_fd, ?_, Int.le_refl _⟩
  · rcases h.line with hline | ⟨fd, r, hfd, -, -⟩
    · exact Or.inl hline
    · omega
  · intro hfd
    rw [show s.withoutChip.gpio.lineFd = s.gpio.lineFd from rfl, hno] at hfd
    exact absurd hfd hneg

theorem Coherent.strandedChip (h : Coherent s) : Coherent s.strandedChip :=
  ⟨h.checked, h.direction, h.drive_output, h.line, h.line_fd, h.chip, h.chip_fd⟩

/-- Without a chip there is nothing to close. -/
theorem Coherent.withoutChip_eq (h : Coherent s) (hno : ¬0 ≤ s.gpio.chipFd) :
    s.withoutChip = { s with
      gpio := { s.gpio with
        settings := { s.gpio.settings with edge := .none, direction := .dirIn } } } := by
  have hlow := h.chip_fd
  have hchip : s.gpio.chipFd = -1 := by omega
  unfold System.withoutChip
  rw [if_neg hno, ← hchip]

/-- What `gpio_cdev_close` does: it cannot close the line and leaves the chip alone, or it cannot close
the chip, or both are closed. -/
theorem close_cases (h : Coherent s) (a : Answers) :
    (∃ e text, a.closeLine = some e ∧ 0 ≤ s.gpio.lineFd ∧
        gpioCdevClose s a = fail s.strandedLine errorClose e text) ∨
      (∃ e text, a.closeChip = some e ∧ 0 ≤ s.gpio.chipFd ∧
        gpioCdevClose s a = fail s.withoutLine.strandedChip errorClose e text) ∨
      gpioCdevClose s a = (0, s.withoutLine.withoutChip) := by
  unfold gpioCdevClose
  rcases closeLine_cases h a with ⟨e, ha, hfd, hclose⟩ | hclose
  · rw [hclose]
    exact Or.inl ⟨e, _, ha, hfd, rfl⟩
  · rw [hclose]
    dsimp only
    unfold closeChip
    by_cases hchip : 0 ≤ s.withoutLine.gpio.chipFd
    · rw [if_pos hchip]
      cases hchipClose : a.closeChip with
      | some e => exact Or.inr (Or.inl ⟨e, _, rfl, hchip, rfl⟩)
      | none =>
        refine Or.inr (Or.inr ?_)
        unfold System.withoutChip
        rw [if_pos hchip]
    · rw [if_neg hchip, h.withoutLine.withoutChip_eq hchip]
      exact Or.inr (Or.inr rfl)

theorem Coherent.close (h : Coherent s) (a : Answers) : Coherent (gpioCdevClose s a).2 := by
  rcases close_cases h a with ⟨e, text, -, -, heq⟩ | ⟨e, text, -, -, heq⟩ | heq
  · rw [heq]
    exact h.strandedLine.error _
  · rw [heq]
    exact h.withoutLine.strandedChip.error _
  · rw [heq]
    exact h.withoutLine.withoutChip rfl

/-- **Every call keeps the handle and the kernel in agreement.** -/
theorem Coherent.exec (h : Coherent s) (c : Call × Answers) : Coherent (exec s c).2 := by
  obtain ⟨call, a⟩ := c
  cases hask : call.asks s.gpio.settings with
  | some c =>
    rcases setter_cases h hask a with ⟨code, text, -, heq⟩ | ⟨-, heq⟩ | ⟨-, hc, heq⟩
    · rw [heq]
      exact h.error _
    · rw [heq]
      exact h
    · rw [heq]
      exact h.reopen hc a
  | none =>
    cases call with
    | read => exact h.read a
    | write value => exact h.write a value
    | readEvent => exact h.readEvent a
    | close => exact h.close a
    | setDirection direction => cases hask
    | setEdge edge => cases hask
    | setBias bias => cases hask
    | setDrive drive => cases hask
    | setInverted inverted => cases hask

end Calls

/-! ## Opening -/

section Opening

variable {s : System} {a : Answers} {opened : Except Nat Nat} {line : Nat} {c : Settings}
  {label : Option (List Byte)}

/-- The handle after its chip has been opened. -/
def System.withChip (s : System) (line fd : Nat) (label : Option (List Byte)) : System :=
  { s with
    gpio := { gpioNew with
      line := line
      chipFd := fd
      label := (label.getD (lit "periphery")).take 31 }
    ledger := s.ledger.enter fd }

/-- No line is held. -/
def Fresh (s : System) : Prop := s.request = none

theorem fresh_new : Fresh System.new := rfl

theorem Fresh.withChip (h : Fresh s) (line fd : Nat) (label : Option (List Byte)) :
    Coherent (s.withChip line fd label) := by
  have hfd : (0 : Int) ≤ fd := Int.natCast_nonneg fd
  have hlow : (-1 : Int) ≤ fd := by omega
  exact ⟨⟨rfl, rfl, rfl, rfl, fun hne => absurd rfl hne⟩, Or.inl rfl, fun _ hne => absurd rfl hne,
    Or.inl h, Int.le_refl _, fun _ => hfd, hlow⟩

/-- `gpio_open_advanced` after `_gpio_cdev_reopen`. -/
def afterReopen (chip : Nat) (r : Int × System) : Int × System :=
  if r.1 < 0 then
    (r.1, { r.2 with gpio := { r.2.gpio with chipFd := -1 }, ledger := r.2.ledger.leave chip })
  else (0, r.2)

/-- What `gpio_open_advanced` does: it fails before anything is opened, or it opens the chip and goes on
with settings that it has checked. -/
theorem gpioOpenAdvanced_cases (s : System) (a : Answers) (opened : Except Nat Nat) (line : Nat)
    (c : Settings) (label : Option (List Byte)) :
    (∃ code n text, (code = errorArg ∨ code = errorOpen) ∧
        gpioOpenAdvanced s a opened line c label = fail s code n text) ∨
      ∃ chip, opened = .ok chip ∧ c.Checked ∧
        gpioOpenAdvanced s a opened line c label =
          afterReopen chip (gpioCdevReopen (s.withChip line chip label) a c) := by
  unfold gpioOpenAdvanced
  cases hd : isDirection c.direction with
  | false => exact Or.inl ⟨errorArg, 0, _, Or.inl rfl, rfl⟩
  | true =>
    cases he : isEdge c.edge with
    | false => exact Or.inl ⟨errorArg, 0, _, Or.inl rfl, rfl⟩
    | true =>
      by_cases hout : c.direction ≠ .dirIn ∧ c.edge ≠ .none
      · rw [if_pos hout]
        exact Or.inl ⟨errorArg, 0, _, Or.inl rfl, rfl⟩
      · rw [if_neg hout]
        cases hb : isBias c.bias with
        | false => exact Or.inl ⟨errorArg, 0, _, Or.inl rfl, rfl⟩
        | true =>
          cases hr : isDrive c.drive with
          | false => exact Or.inl ⟨errorArg, 0, _, Or.inl rfl, rfl⟩
          | true =>
            by_cases hin : c.direction = .dirIn ∧ c.drive ≠ .default
            · rw [if_pos hin]
              exact Or.inl ⟨errorArg, 0, _, Or.inl rfl, rfl⟩
            · rw [if_neg hin]
              have hc : c.Checked := by
                refine ⟨hd, he, hb, hr, fun hne => ?_⟩
                by_contra hnot
                exact hout ⟨hnot, hne⟩
              cases opened with
              | error e => exact Or.inl ⟨errorOpen, e, _, Or.inr rfl, rfl⟩
              | ok chip => exact Or.inr ⟨chip, rfl, hc, rfl⟩

/-- When the chip has been opened there is no line to be closed: the kernel refuses the line, or it gives
one with the settings that are asked for. -/
theorem opening_cases (hs : Fresh s) (hc : c.Checked) (a : Answers) (line chip : Nat)
    (label : Option (List Byte)) :
    (∃ e text, (accepted (configFlags c) = true → a.request = .error e) ∧
        gpioCdevReopen (s.withChip line chip label) a c =
          fail (s.withChip line chip label).withoutLine errorOpen e text) ∨
      ((c.direction = .dirIn → c.drive = .default) ∧ ∃ fd : Nat, a.request = .ok fd ∧
        gpioCdevReopen (s.withChip line chip label) a c =
          (0, (s.withChip line chip label).withoutLine.withLine fd c)) := by
  rcases reopen_cases (hs.withChip line chip label) hc a with
    ⟨e, text, -, hfd, -⟩ | ⟨e, text, hwhy, hre⟩ | ⟨-, hdrive, fd, hreq, hre⟩
  · exact absurd (show (0 : Int) ≤ -1 from hfd) (by decide)
  · exact Or.inl ⟨e, text, hwhy (Int.natCast_nonneg chip), hre⟩
  · exact Or.inr ⟨hdrive, fd, hreq, hre⟩

/-- All that `gpio_open_advanced` does when it succeeds. -/
theorem gpioOpenAdvanced_ok (hs : Fresh s) (h : (gpioOpenAdvanced s a opened line c label).1 = 0) :
    c.Checked ∧ ∃ chip fd : Nat, (c.direction = .dirIn → c.drive = .default) ∧
      (gpioOpenAdvanced s a opened line c label).2 =
        (s.withChip line chip label).withoutLine.withLine fd c := by
  rcases gpioOpenAdvanced_cases s a opened line c label with
    ⟨code, n, text, rfl | rfl, heq⟩ | ⟨chip, -, hc, heq⟩
  · rw [heq] at h
    exact absurd (show errorArg = 0 from h) (by decide)
  · rw [heq] at h
    exact absurd (show errorOpen = 0 from h) (by decide)
  · refine ⟨hc, chip, ?_⟩
    rw [heq] at h ⊢
    rcases opening_cases hs hc a line chip label with ⟨e, text, -, hre⟩ | ⟨hdrive, fd, -, hre⟩
    · rw [hre] at h
      exact absurd (show errorOpen = 0 from h) (by decide)
    · refine ⟨fd, hdrive, ?_⟩
      rw [hre]
      rfl

theorem coherent_opened (hs : Fresh s) (h : (gpioOpenAdvanced s a opened line c label).1 = 0) :
    Coherent (gpioOpenAdvanced s a opened line c label).2 := by
  obtain ⟨hc, chip, fd, hdrive, heq⟩ := gpioOpenAdvanced_ok hs h
  rw [heq]
  exact (hs.withChip line chip label).withoutLine.withLine (Int.natCast_nonneg chip) hc hdrive fd

end Opening

theorem Reached.coherent {s : System} (h : Reached s) : Coherent s := by
  obtain ⟨a, opened, line, c, label, calls, hopen, rfl⟩ := h
  have hreach : Reachable exec (gpioOpenAdvanced System.new a opened line c label).2
      (run exec (gpioOpenAdvanced System.new a opened line c label).2 calls).2 := ⟨calls, rfl⟩
  exact hreach.invariant (fun s c hs => hs.exec c) (coherent_opened fresh_new hopen)

theorem Reached.step {s : System} (h : Reached s) (c : Call × Answers) : Reached (exec s c).2 := by
  obtain ⟨a, opened, line, config, label, calls, hopen, rfl⟩ := h
  exact ⟨a, opened, line, config, label, calls ++ [c], hopen, by rw [run_append]; rfl⟩

/-! ## What the handle says of its line -/

/-- The kernel has a request just if the handle holds its line. -/
theorem Coherent.held_eq_none (h : Coherent s) : s.held = none ↔ s.request = none := by
  rcases h.line with hreq | ⟨fd, r, hfd, hreq, -⟩
  · simp [System.held, hreq]
  · simp [System.held, hreq, hfd]

theorem Coherent.held_flags {s : System} (h : Coherent s) {r : Request} (hr : s.held = some r) :
    0 ≤ s.gpio.chipFd ∧ r.flags = configFlags s.gpio.settings := by
  rcases h.line with hreq | ⟨fd, r', hfd, hreq, hflags⟩
  · rw [System.held, hreq] at hr
    cases hr
  · have hsame : s.held = some r' := by simp [System.held, hreq, hfd]
    rw [hsame] at hr
    cases hr
    exact ⟨h.chip (by rw [hfd]; exact Int.natCast_nonneg fd), hflags⟩

theorem Settings.remembered_eq {c : Settings} (h : c.direction = .dirIn ∨ c.direction = .dirOut) :
    c.remembered = c := by
  rcases h with hd | hd
  · exact remembered_input hd
  · rw [remembered_output (by rw [hd]; decide), ← hd]

/-- **The getters report what the kernel holds**: in every state that a handle reaches, the flags of the
request that its line is held by stand for the settings that it remembers, and a handle without a line
has left no request behind. -/
theorem settings_held {s : System} (h : Reached s) :
    (∀ r, s.held = some r → settingsOf r.flags = s.gpio.settings) ∧
      (s.held = none → s.request = none) := by
  have hs := h.coherent
  constructor
  · intro r hr
    obtain ⟨hchip, hflags⟩ := hs.held_flags hr
    have hdrive : s.gpio.settings.direction = .dirIn → s.gpio.settings.drive = .default := by
      intro hd
      by_contra hne
      rw [hs.drive_output hchip hne] at hd
      cases hd
    rw [hflags, settingsOf_configFlags hs.checked hdrive]
    exact Settings.remembered_eq hs.direction
  · exact hs.held_eq_none.mp

/-- Calls that succeed. -/
def Answers.fine (fd : Nat) : Answers := ⟨none, none, .ok fd, none, false, .error 0⟩

/-- The system after an output has been opened and made an open drain. -/
def openDrainOutput : System :=
  (exec (gpioOpenAdvanced System.new (Answers.fine 4) (.ok 3) 7 ⟨.dirOut, .none, .default, .default, true⟩
    none).2 (.setDrive .openDrain, Answers.fine 5)).2

theorem reached_openDrainOutput : Reached openDrainOutput :=
  ⟨Answers.fine 4, .ok 3, 7, ⟨.dirOut, .none, .default, .default, true⟩, none,
    [(.setDrive .openDrain, Answers.fine 5)], rfl, rfl⟩

theorem settings_held_openDrain :
    (∀ r, openDrainOutput.held = some r → settingsOf r.flags = openDrainOutput.gpio.settings) ∧
      (openDrainOutput.held = none → openDrainOutput.request = none) :=
  settings_held reached_openDrainOutput

/-! ## Setters -/

theorem held_withLine (s : System) (fd : Nat) (c : Settings) :
    (s.withLine fd c).held = some (lineRequest s.gpio c) := by
  simp [System.held, System.withLine]

/-- **A setter does what it is asked or leaves the settings alone**: if it succeeds then the kernel holds
the line with just what the handle was asked for, unless the handle has remembered that anyway and
nothing has happened; if it fails then the handle remembers what it did, and the line is as it was or
gone. -/
theorem setter_outcome {s : System} (h : Reached s) {call : Call} {c : Settings}
    (hask : call.asks s.gpio.settings = some c) (a : Answers) :
    let r := exec s (call, a)
    (r.1.1 = 0 →
      (call.Remembered s.gpio.settings ∧ r.2 = s) ∨
        (¬call.Remembered s.gpio.settings ∧ r.2.gpio.settings = c.remembered ∧
          ∃ q, r.2.held = some q ∧ settingsOf q.flags = c.remembered)) ∧
      (r.1.1 ≠ 0 →
        r.2.gpio.settings = s.gpio.settings ∧ (r.2.held = s.held ∨ r.2.held = none)) := by
  intro r
  have hs := h.coherent
  rcases setter_cases hs hask a with ⟨code, text, hcode, heq⟩ | ⟨hrem, heq⟩ | ⟨hrem, hc, heq⟩
  · have hr : r = ((code, .nothing), (fail s code 0 text).2) := heq
    rw [hr]
    refine ⟨fun h0 => ?_, fun _ => ⟨rfl, Or.inl rfl⟩⟩
    rcases hcode with rfl | rfl
    · exact absurd (show errorArg = 0 from h0) (by decide)
    · exact absurd (show errorInvalidOperation = 0 from h0) (by decide)
  · have hr : r = ((0, .nothing), s) := heq
    rw [hr]
    exact ⟨fun _ => Or.inl ⟨hrem, rfl⟩, fun hne => absurd rfl hne⟩
  · have hr : r = (((gpioCdevReopen s a c).1, .nothing), (gpioCdevReopen s a c).2) := heq
    rw [hr]
    rcases reopen_cases hs hc a with
      ⟨e, text, -, -, hre⟩ | ⟨e, text, -, hre⟩ | ⟨-, hdrive, fd, -, hre⟩
    · rw [hre]
      exact ⟨fun h0 => absurd (show errorClose = 0 from h0) (by decide), fun _ => ⟨rfl, Or.inr rfl⟩⟩
    · rw [hre]
      exact ⟨fun h0 => absurd (show errorOpen = 0 from h0) (by decide), fun _ => ⟨rfl, Or.inr rfl⟩⟩
    · rw [hre]
      refine ⟨fun _ => Or.inr ⟨hrem, rfl, _, held_withLine _ fd c, ?_⟩, fun hne => absurd rfl hne⟩
      exact settingsOf_configFlags hc hdrive

/-- The kernel refuses to make an open drain an input. -/
theorem setter_outcome_refused :
    let r := exec openDrainOutput (.setDirection .dirIn, Answers.fine 6)
    (r.1.1 = 0 →
      ((Call.setDirection .dirIn).Remembered openDrainOutput.gpio.settings ∧ r.2 = openDrainOutput) ∨
        (¬(Call.setDirection .dirIn).Remembered openDrainOutput.gpio.settings ∧
          r.2.gpio.settings = Settings.remembered ⟨.dirIn, .none, .default, .openDrain, true⟩ ∧
          ∃ q, r.2.held = some q ∧
            settingsOf q.flags = Settings.remembered ⟨.dirIn, .none, .default, .openDrain, true⟩)) ∧
      (r.1.1 ≠ 0 →
        r.2.gpio.settings = openDrainOutput.gpio.settings ∧
          (r.2.held = openDrainOutput.held ∨ r.2.held = none)) :=
  setter_outcome reached_openDrainOutput rfl (Answers.fine 6)

/-! ## A lost line -/

/-- A call that asks the handle for nothing new. -/
def Call.Idle (c : Settings) (call : Call) : Prop :=
  call.Remembered c ∨ call = .read ∨ (∃ value, call = .write value) ∨ call = .readEvent

/-- What idle calls return when there is no line and the handle remembers the settings `c`: reading and
writing fail, but a setter reports success. `gpio_set_edge` does so for an input; it is no operation for
an output. -/
def Call.Denied (c : Settings) (call : Call) (code : Int) : Prop :=
  match call with
  | .read | .write _ | .readEvent => code < 0
  | .setEdge _ => if c.direction = .dirIn then code = 0 else code = errorInvalidOperation
  | _ => code = 0

/-- The handle is open but has lost its line. -/
def Lost (s : System) : Prop := s.gpio.lineFd = -1 ∧ 0 ≤ s.gpio.chipFd

theorem Lost.held {s : System} (hs : Coherent s) (h : Lost s) : s.held = none := by
  rcases hs.line with hreq | ⟨fd, r, hfd, -, -⟩
  · exact hs.held_eq_none.mpr hreq
  · have hlow := h.1
    omega

/-- A setter for what the handle remembers stops at its last check; that of the edge of an output stops
before. -/
theorem remembered_step {s : System} (hs : Coherent s) (hchip : 0 ≤ s.gpio.chipFd) {call : Call}
    (hrem : call.Remembered s.gpio.settings) (a : Answers) :
    call.Denied s.gpio.settings (exec s (call, a)).1.1 ∧
      ∃ e, (exec s (call, a)).2 = { s with gpio := { s.gpio with error := e } } := by
  have hc := hs.checked
  cases call with
  | setDirection direction =>
    have hd : isDirection direction = true := by
      rw [← show s.gpio.settings.direction = direction from hrem]
      exact hc.direction
    have heq : exec s (.setDirection direction, a) = ((0, .nothing), s) := by
      simp [exec, gpioCdevSetDirection, hd, show s.gpio.settings.direction = direction from hrem]
    rw [heq]
    exact ⟨rfl, s.gpio.error, rfl⟩
  | setEdge edge =>
    have hedge : s.gpio.settings.edge = edge := hrem
    have he : isEdge edge = true := by
      rw [← hedge]
      exact hc.edge
    by_cases hd : s.gpio.settings.direction = .dirIn
    · have heq : exec s (.setEdge edge, a) = ((0, .nothing), s) := by
        simp [exec, gpioCdevSetEdge, he, hd, hedge]
      rw [heq]
      exact ⟨(if_pos hd).mpr rfl, s.gpio.error, rfl⟩
    · have heq : exec s (.setEdge edge, a) = ((errorInvalidOperation, .nothing), (fail s
          errorInvalidOperation 0 (lit "Invalid operation: cannot set edge on output GPIO")).2) := by
        simp [exec, gpioCdevSetEdge, he, hd, fail]
      rw [heq]
      exact ⟨(if_neg hd).mpr rfl, _, rfl⟩
  | setBias bias =>
    have hb : isBias bias = true := by
      rw [← show s.gpio.settings.bias = bias from hrem]
      exact hc.bias
    have heq : exec s (.setBias bias, a) = ((0, .nothing), s) := by
      simp [exec, gpioCdevSetBias, hb, show s.gpio.settings.bias = bias from hrem]
    rw [heq]
    exact ⟨rfl, s.gpio.error, rfl⟩
  | setDrive drive =>
    have hdrive : s.gpio.settings.drive = drive := hrem
    have hd : isDrive drive = true := by
      rw [← hdrive]
      exact hc.drive
    have hout : ¬(s.gpio.settings.direction ≠ .dirOut ∧ drive ≠ .default) := by
      rintro ⟨hin, hne⟩
      rw [← hdrive] at hne
      exact hin (hs.drive_output hchip hne)
    have heq : exec s (.setDrive drive, a) = ((0, .nothing), s) := by
      simp only [exec, gpioCdevSetDrive, hd, hout, hdrive, if_false, if_true, Bool.not_true,
        Bool.false_eq_true]
    rw [heq]
    exact ⟨rfl, s.gpio.error, rfl⟩
  | setInverted inverted =>
    have heq : exec s (.setInverted inverted, a) = ((0, .nothing), s) := by
      simp [exec, gpioCdevSetInverted, show s.gpio.settings.inverted = inverted from hrem]
    rw [heq]
    exact ⟨rfl, s.gpio.error, rfl⟩
  | read => exact absurd hrem id
  | write value => exact absurd hrem id
  | readEvent => exact absurd hrem id
  | close => exact absurd hrem id

/-- An idle call on a lost line changes nothing but the error of the handle. -/
theorem lost_step {s : System} (hs : Coherent s) (h : Lost s) {call : Call}
    (hidle : call.Idle s.gpio.settings) (a : Answers) :
    call.Denied s.gpio.settings (exec s (call, a)).1.1 ∧
      ∃ e, (exec s (call, a)).2 = { s with gpio := { s.gpio with error := e } } := by
  have hheld := h.held hs
  have hio : errorIo < 0 := by decide
  have hinvalid : errorInvalidOperation < 0 := by decide
  rcases hidle with hrem | rfl | ⟨value, rfl⟩ | rfl
  · exact remembered_step hs h.2 hrem a
  · have hread : gpioCdevRead s a =
        ((errorIo, none), (fail s errorIo ebadf (lit "Getting line value")).2) := by
      simp only [gpioCdevRead, hheld, fail]
    have heq : exec s (.read, a) = ((errorIo, .nothing), (fail s errorIo ebadf (lit "Getting line value")).2) := by
      simp only [exec, hread]
    rw [heq]
    exact ⟨hio, _, rfl⟩
  · by_cases hd : s.gpio.settings.direction ≠ .dirOut
    · have heq : exec s (.write value, a) = ((errorInvalidOperation, .nothing), (fail s errorInvalidOperation
          0 (lit "Invalid operation: cannot write to input GPIO")).2) := by
        simp only [exec, gpioCdevWrite, if_pos hd, fail]
      rw [heq]
      exact ⟨hinvalid, _, rfl⟩
    · have heq : exec s (.write value, a) =
          ((errorIo, .nothing), (fail s errorIo ebadf (lit "Setting line value")).2) := by
        simp only [exec, gpioCdevWrite, if_neg hd, hheld, fail]
      rw [heq]
      exact ⟨hio, _, rfl⟩
  · by_cases hd : s.gpio.settings.direction ≠ .dirIn
    · have heq : exec s (.readEvent, a) = ((errorInvalidOperation, .nothing), (fail s errorInvalidOperation
          0 (lit "Invalid operation: cannot read event of output GPIO")).2) := by
        simp only [exec, gpioCdevReadEvent, if_pos hd]
      rw [heq]
      exact ⟨hinvalid, _, rfl⟩
    · by_cases he : s.gpio.settings.edge = .none
      · have heq : exec s (.readEvent, a) = ((errorInvalidOperation, .nothing), (fail s errorInvalidOperation
            0 (lit "Invalid operation: GPIO edge not set")).2) := by
          simp only [exec, gpioCdevReadEvent, if_neg hd, if_pos he]
        rw [heq]
        exact ⟨hinvalid, _, rfl⟩
      · have heq : exec s (.readEvent, a) =
            ((errorIo, .nothing), (fail s errorIo ebadf (lit "Reading GPIO event")).2) := by
          simp only [exec, gpioCdevReadEvent, if_neg hd, if_neg he, hheld]
        rw [heq]
        exact ⟨hio, _, rfl⟩

/-- A line that the kernel does not give back is lost. -/
theorem lost_refused {s : System} (hs : Coherent s) (hchip : 0 ≤ s.gpio.chipFd) {call : Call} {c : Settings}
    (hask : call.asks s.gpio.settings = some c) {a : Answers}
    (hrefused : (exec s (call, a)).1.1 = errorOpen) : Lost (exec s (call, a)).2 := by
  rcases setter_cases hs hask a with ⟨code, text, rfl | rfl, heq⟩ | ⟨-, heq⟩ | ⟨-, hc, heq⟩
  · rw [heq] at hrefused
    exact absurd (show errorArg = errorOpen from hrefused) (by decide)
  · rw [heq] at hrefused
    exact absurd (show errorInvalidOperation = errorOpen from hrefused) (by decide)
  · rw [heq] at hrefused
    exact absurd (show 0 = errorOpen from hrefused) (by decide)
  · rw [heq] at hrefused ⊢
    rcases reopen_cases hs hc a with ⟨e, text, -, -, hre⟩ | ⟨e, text, -, hre⟩ | ⟨-, -, fd, -, hre⟩
    · rw [hre] at hrefused
      exact absurd (show errorClose = errorOpen from hrefused) (by decide)
    · rw [hre]
      exact ⟨rfl, hchip⟩
    · rw [hre] at hrefused
      exact absurd (show 0 = errorOpen from hrefused) (by decide)

theorem lost_run {s : System} (h : Reached s) (hlost : Lost s) {calls : List (Call × Answers)}
    (hidle : ∀ c ∈ calls, c.1.Idle s.gpio.settings) :
    List.Forall₂ (fun c r => c.1.Denied s.gpio.settings r.1) calls (run exec s calls).1 ∧
      (run exec s calls).2.gpio.settings = s.gpio.settings ∧ Lost (run exec s calls).2 := by
  induction calls generalizing s with
  | nil => exact ⟨List.Forall₂.nil, rfl, hlost⟩
  | cons c calls ih =>
    obtain ⟨hdenied, e, heq⟩ := lost_step h.coherent hlost (hidle c List.mem_cons_self) c.2
    have hnext : Reached (exec s c).2 := h.step c
    have heq' : (exec s c).2 = { s with gpio := { s.gpio with error := e } } := heq
    have hsettings : (exec s c).2.gpio.settings = s.gpio.settings := by rw [heq']
    have hlost' : Lost (exec s c).2 := by
      rw [heq']
      exact hlost
    have hrest := ih hnext hlost' fun d hd => by
      rw [hsettings]
      exact hidle d (List.mem_cons_of_mem c hd)
    rw [hsettings] at hrest
    rw [run_cons]
    exact ⟨List.Forall₂.cons hdenied hrest.1, hrest.2.1, hrest.2.2⟩

/-- **A line that is not given back stays lost**: a setter that the kernel refuses loses it, and from then
on, as long as the handle is asked for nothing but what it remembers, the setters report success, save that
of the edge for an output, every read and write fails, and the line does not come back. -/
theorem lost_stays_lost {s : System} (h : Reached s) :
    (∀ call c a, 0 ≤ s.gpio.chipFd → call.asks s.gpio.settings = some c →
        (exec s (call, a)).1.1 = errorOpen → Lost (exec s (call, a)).2) ∧
      ∀ calls : List (Call × Answers), Lost s → (∀ c ∈ calls, c.1.Idle s.gpio.settings) →
        List.Forall₂ (fun c r => c.1.Denied s.gpio.settings r.1) calls (run exec s calls).1 ∧
          (run exec s calls).2.gpio.settings = s.gpio.settings ∧ Lost (run exec s calls).2 :=
  ⟨fun _ _ _ hchip hask hrefused => lost_refused h.coherent hchip hask hrefused,
    fun _ hlost hidle => lost_run h hlost hidle⟩

/-- An open drain that could not be made an input is still called an output. -/
theorem lost_stays_lost_openDrain :
    let s := (exec openDrainOutput (.setDirection .dirIn, Answers.fine 6)).2
    let calls := [(Call.setDirection .dirOut, Answers.fine 7), (Call.write true, Answers.fine 8)]
    Lost s ∧ List.Forall₂ (fun c r => c.1.Denied s.gpio.settings r.1) calls (run exec s calls).1 ∧
      (run exec s calls).2.gpio.settings = s.gpio.settings ∧ Lost (run exec s calls).2 := by
  intro s calls
  have hlost : Lost s := (lost_stays_lost reached_openDrainOutput).1 (.setDirection .dirIn) _
    (Answers.fine 6) (by decide) rfl rfl
  refine ⟨hlost, (lost_stays_lost (reached_openDrainOutput.step _)).2 calls hlost ?_⟩
  intro c hc
  rcases List.mem_cons.mp hc with rfl | hc
  · exact Or.inl rfl
  · rw [List.mem_singleton.mp hc]
    exact Or.inr (Or.inr (Or.inl ⟨true, rfl⟩))

end DiscoveryDemo.Periphery.Gpio
