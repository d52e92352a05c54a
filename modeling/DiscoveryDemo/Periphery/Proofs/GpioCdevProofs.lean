import DiscoveryDemo.Periphery.GpioLine

/-!
# Proofs: GPIO lines of the character device

`_gpio_cdev_reopen` leaves the line as it is, takes it away or requests it with the new settings; the
setters call it or do nothing. What the handle remembers is therefore always what the kernel holds, if
it holds anything.
-/

namespace DiscoveryDemo.Periphery.Gpio

open CLib Driver

/-! ## Flags -/

theorem isEdge_cases {e : Edge} (h : isEdge e = true) :
    e = .none ∨ e = .rising ∨ e = .falling ∨ e = .both := by
  cases e with
  | other n => simp [isEdge] at h
  | _ => simp

theorem isBias_cases {b : Bias} (h : isBias b = true) :
    b = .default ∨ b = .pullUp ∨ b = .pullDown ∨ b = .disable := by
  cases b with
  | other n => simp [isBias] at h
  | _ => simp

theorem isDrive_cases {d : Drive} (h : isDrive d = true) :
    d = .default ∨ d = .openDrain ∨ d = .openSource := by
  cases d with
  | other n => simp [isDrive] at h
  | _ => simp

/-- The kernel accepts the flags of an input. -/
theorem accepted_input {c : Settings} (h : c.Checked) (hd : c.direction = .dirIn) :
    accepted (configFlags c) = decide (c.drive = .default) ∧
      (c.drive = .default → settingsOf (configFlags c) = c) := by
  obtain ⟨direction, edge, bias, drive, inverted⟩ := c
  obtain ⟨-, hedge, hbias, hdrive, -⟩ := h
  dsimp only at hd hedge hbias hdrive
  subst hd
  rcases isEdge_cases hedge with rfl | rfl | rfl | rfl <;>
    rcases isBias_cases hbias with rfl | rfl | rfl | rfl <;>
    rcases isDrive_cases hdrive with rfl | rfl | rfl <;>
    cases inverted <;> decide

/-- The kernel accepts the flags of an output. -/
theorem accepted_output {c : Settings} (h : c.Checked) (hd : c.direction ≠ .dirIn) :
    accepted (configFlags c) = true ∧ settingsOf (configFlags c) = { c with direction := .dirOut } := by
  have hnone : c.edge = .none := by
    by_contra hne
    exact hd (h.edge_input hne)
  have hflags : configFlags c = configFlags { c with direction := .dirOut } := by
    unfold configFlags
    simp only [hd, if_false, reduceCtorEq]
  rw [hflags]
  obtain ⟨direction, edge, bias, drive, inverted⟩ := c
  obtain ⟨-, -, hbias, hdrive, -⟩ := h
  dsimp only at hnone hbias hdrive ⊢
  subst hnone
  rcases isBias_cases hbias with rfl | rfl | rfl | rfl <;>
    rcases isDrive_cases hdrive with rfl | rfl | rfl <;>
    cases inverted <;> decide

/-! ## Closing and requesting -/

section Requests

variable {s : System} {a : Answers}

/-- The system without its line. -/
def System.withoutLine (s : System) : System :=
  { s with
    gpio := { s.gpio with lineFd := -1 }
    request := none
    ledger := if 0 ≤ s.gpio.lineFd then s.ledger.leave s.gpio.lineFd.toNat else s.ledger }

/-- The system after a close of its line that has failed: the line is gone, its number is not. -/
def System.strandedLine (s : System) : System :=
  { s with request := none, ledger := s.ledger.leave s.gpio.lineFd.toNat }

/-- The system with a line that is requested with the settings `c`. -/
def System.withLine (s : System) (fd : Nat) (c : Settings) : System :=
  { s with
    gpio := { s.gpio with lineFd := fd, settings := c.remembered }
    request := some (fd, lineRequest s.gpio c)
    level := if c.direction = .dirIn then s.level else decide (c.direction = .dirOutHigh)
    ledger := s.ledger.enter fd }

/-- An error changes nothing but the error of the handle. -/
theorem Coherent.error (h : Coherent s) (e : Error) :
    Coherent { s with gpio := { s.gpio with error := e } } :=
  ⟨h.checked, h.direction, h.drive_output, h.line, h.line_fd, h.chip, h.chip_fd⟩

/-- Without a line there is nothing to close. -/
theorem Coherent.withoutLine_eq (h : Coherent s) (hno : ¬0 ≤ s.gpio.lineFd) : s.withoutLine = s := by
  have hlow := h.line_fd
  have hfd : s.gpio.lineFd = -1 := by omega
  rcases h.line with hreq | ⟨fd, r, hline, -, -⟩
  · unfold System.withoutLine
    rw [if_neg hno, ← hfd, ← hreq]
  · omega

theorem Coherent.withoutLine (h : Coherent s) : Coherent s.withoutLine := by
  refine ⟨h.checked, h.direction, h.drive_output, Or.inl rfl, Int.le_refl _, fun hneg => ?_, h.chip_fd⟩
  exact absurd hneg (show ¬(0 : Int) ≤ -1 by omega)

theorem Coherent.strandedLine (h : Coherent s) : Coherent s.strandedLine :=
  ⟨h.checked, h.direction, h.drive_output, Or.inl rfl, h.line_fd, h.chip, h.chip_fd⟩

/-- Closing the line fails and leaves its number behind, or leaves the system without it. -/
theorem closeLine_cases (h : Coherent s) (a : Answers) :
    (∃ e, a.closeLine = some e ∧ 0 ≤ s.gpio.lineFd ∧ closeLine s a = (some e, s.strandedLine)) ∨
      closeLine s a = (none, s.withoutLine) := by
  unfold closeLine
  by_cases hfd : 0 ≤ s.gpio.lineFd
  · rw [if_pos hfd]
    cases ha : a.closeLine with
    | some e => exact Or.inl ⟨e, rfl, hfd, rfl⟩
    | none =>
      refine Or.inr ?_
      unfold System.withoutLine
      rw [if_pos hfd]
  · rw [if_neg hfd, h.withoutLine_eq hfd]
    exact Or.inr rfl

/-- The initial level of an output does not depend on whether it is inverted. -/
theorem initial_level {c : Settings} (h : c.Checked) (hd : c.direction ≠ .dirIn) :
    ((decide (c.direction = .dirOutHigh) ^^ c.inverted) ^^ (configFlags c).has activeLow) =
      decide (c.direction = .dirOutHigh) := by
  have hinv : (settingsOf (configFlags c)).inverted = c.inverted := by
    rw [(accepted_output h hd).2]
  have hlow : (configFlags c).has activeLow = c.inverted := hinv
  rw [hlow, Bool.xor_assoc, Bool.xor_self, Bool.xor_false]

/-- Requesting a line fails, which it does for reasons of its own if there is a chip and the flags are
accepted, or the kernel holds it with the new settings. -/
theorem getLine_cases {c : Settings} (hc : c.Checked) (a : Answers) :
    (∃ e, (0 ≤ s.gpio.chipFd → accepted (configFlags c) = true → a.request = .error e) ∧
        getLine s a (lineRequest s.gpio c) = .error e) ∨
      (0 ≤ s.gpio.chipFd ∧ (c.direction = .dirIn → c.drive = .default) ∧
        ∃ fd, a.request = .ok fd ∧
          getLine s a (lineRequest s.gpio c) = .ok (fd, { s with
            request := some (fd, lineRequest s.gpio c)
            level := if c.direction = .dirIn then s.level else decide (c.direction = .dirOutHigh)
            ledger := s.ledger.enter fd })) := by
  unfold getLine
  by_cases hchip : s.gpio.chipFd < 0
  · rw [if_pos hchip]
    exact Or.inl ⟨_, fun hopen => absurd hchip (Int.not_lt.mpr hopen), rfl⟩
  · rw [if_neg hchip]
    cases hacc : accepted (lineRequest s.gpio c).flags with
    | false =>
      refine Or.inl ⟨_, fun _ hacc' => ?_, rfl⟩
      rw [show accepted (configFlags c) = false from hacc] at hacc'
      cases hacc'
    | true =>
      cases hreq : a.request with
      | error e => exact Or.inl ⟨e, fun _ _ => rfl, rfl⟩
      | ok fd =>
        refine Or.inr ⟨Int.not_lt.mp hchip, ?_, fd, rfl, ?_⟩
        · intro hd
          have hdrive : accepted (configFlags c) = decide (c.drive = .default) :=
            (accepted_input hc hd).1
          rw [show accepted (configFlags c) = true from hacc] at hdrive
          exact of_decide_eq_true hdrive.symm
        · by_cases hd : c.direction = .dirIn
          · simp only [lineRequest, hd, if_true]
            rfl
          · have hlevel := initial_level hc hd
            simp only [lineRequest, hd, if_false, hlevel]
            rfl

/-! ## Reopening -/

theorem remembered_input {c : Settings} (hd : c.direction = .dirIn) : c.remembered = c := by
  unfold Settings.remembered
  rw [if_pos hd, ← hd]

theorem remembered_output {c : Settings} (hd : c.direction ≠ .dirIn) :
    c.remembered = { c with direction := .dirOut } := by
  unfold Settings.remembered
  rw [if_neg hd]

theorem remembered_direction (c : Settings) :
    c.remembered.direction = .dirIn ∨ c.remembered.direction = .dirOut := by
  by_cases hd : c.direction = .dirIn
  · rw [remembered_input hd]
    exact Or.inl hd
  · rw [remembered_output hd]
    exact Or.inr rfl

theorem Settings.Checked.remembered {c : Settings} (h : c.Checked) : c.remembered.Checked := by
  by_cases hd : c.direction = .dirIn
  · rw [remembered_input hd]
    exact h
  · rw [remembered_output hd]
    exact ⟨rfl, h.edge, h.bias, h.drive, fun hne => absurd (h.edge_input hne) hd⟩

/-- The flags of a request stand for what is remembered of it. -/
theorem settingsOf_configFlags {c : Settings} (h : c.Checked)
    (hdrive : c.direction = .dirIn → c.drive = .default) :
    settingsOf (configFlags c) = c.remembered := by
  by_cases hd : c.direction = .dirIn
  · rw [remembered_input hd]
    exact (accepted_input h hd).2 (hdrive hd)
  · rw [remembered_output hd]
    exact (accepted_output h hd).2

theorem configFlags_remembered (c : Settings) : configFlags c.remembered = configFlags c := by
  by_cases hd : c.direction = .dirIn
  · rw [remembered_input hd]
  · rw [remembered_output hd]
    unfold configFlags
    simp only [hd, if_false, reduceCtorEq]

theorem Coherent.withLine (h : Coherent s) (hchip : 0 ≤ s.gpio.chipFd) {c : Settings}
    (hc : c.Checked) (hdrive : c.direction = .dirIn → c.drive = .default) (fd : Nat) :
    Coherent (s.withLine fd c) := by
  have hfd : (0 : Int) ≤ fd := Int.natCast_nonneg fd
  have hlow : (-1 : Int) ≤ fd := by omega
  refine ⟨hc.remembered, remembered_direction c, fun _ hne => ?_,
    Or.inr ⟨fd, lineRequest s.gpio c, rfl, rfl, (configFlags_remembered c).symm⟩, hlow, fun _ => hchip,
    h.chip_fd⟩
  have hd : c.direction ≠ .dirIn := fun hd => hne (by
    rw [show (s.withLine fd c).gpio.settings = c.remembered from rfl, remembered_input hd]
    exact hdrive hd)
  rw [show (s.withLine fd c).gpio.settings = c.remembered from rfl, remembered_output hd]

/-- What `_gpio_cdev_reopen` does: it cannot close the line, which is gone all the same, or the kernel
refuses the request and the line is gone, or the line is there with the new settings. -/
theorem reopen_cases (h : Coherent s) {c : Settings} (hc : c.Checked) (a : Answers) :
    (∃ e text, a.closeLine = some e ∧ 0 ≤ s.gpio.lineFd ∧
        gpioCdevReopen s a c = fail s.strandedLine errorClose e text) ∨
      (∃ e text, (0 ≤ s.gpio.chipFd → accepted (configFlags c) = true → a.request = .error e) ∧
        gpioCdevReopen s a c = fail s.withoutLine errorOpen e text) ∨
      (0 ≤ s.gpio.chipFd ∧ (c.direction = .dirIn → c.drive = .default) ∧
        ∃ fd, a.request = .ok fd ∧ gpioCdevReopen s a c = (0, s.withoutLine.withLine fd c)) := by
  unfold gpioCdevReopen
  rcases closeLine_cases h a with ⟨e, ha, hfd, hclose⟩ | hclose
  · rw [hclose]
    exact Or.inl ⟨e, _, ha, hfd, rfl⟩
  · rw [hclose]
    dsimp only
    rcases getLine_cases (s := s.withoutLine) hc a with
      ⟨e, hwhy, hget⟩ | ⟨hchip, hdrive, fd, hreq, hget⟩
    · rw [hget]
      exact Or.inr (Or.inl ⟨e, _, hwhy, rfl⟩)
    · rw [hget]
      exact Or.inr (Or.inr ⟨hchip, hdrive, fd, hreq, rfl⟩)

theorem Coherent.reopen (h : Coherent s) {c : Settings} (hc : c.Checked) (a : Answers) :
    Coherent (gpioCdevReopen s a c).2 := by
  rcases reopen_cases h hc a with
    ⟨e, text, -, -, heq⟩ | ⟨e, text, -, heq⟩ | ⟨hchip, hdrive, fd, -, heq⟩
  · rw [heq]
    exact h.strandedLine.error _
  · rw [heq]
    exact h.withoutLine.error _
  · rw [heq]
    exact h.withoutLine.withLine hchip hc hdrive fd

end Requests

/-! ## Setters -/

section Setters

variable {s : System}

/-- A setter refuses its argument, or the handle remembers it and nothing happens, or the line is
reopened with the settings that it asks for. -/
theorem setter_cases (h : Coherent s) {call : Call} {c : Settings}
    (hask : call.asks s.gpio.settings = some c) (a : Answers) :
    (∃ code text, (code = errorArg ∨ code = errorInvalidOperation) ∧
        exec s (call, a) = ((code, .nothing), (fail s code 0 text).2)) ∨
      (call.Remembered s.gpio.settings ∧ exec s (call, a) = ((0, .nothing), s)) ∨
      (¬call.Remembered s.gpio.settings ∧ c.Checked ∧
        exec s (call, a) = (((gpioCdevReopen s a c).1, .nothing), (gpioCdevReopen s a c).2)) := by
  have hs := h.checked
  cases call with
  | setDirection direction =>
    cases hask
    simp only [exec, gpioCdevSetDirection, Call.Remembered]
    cases hv : isDirection direction with
    | false => exact Or.inl ⟨errorArg, directionText, Or.inl rfl, rfl⟩
    | true =>
      by_cases hr : s.gpio.settings.direction = direction
      · exact Or.inr (Or.inl ⟨hr, by simp [hr]⟩)
      · refine Or.inr (Or.inr ⟨hr, ⟨hv, rfl, hs.bias, hs.drive, fun hne => absurd rfl hne⟩, ?_⟩)
        simp [hr]
  | setEdge edge =>
    cases hask
    simp only [exec, gpioCdevSetEdge, Call.Remembered]
    cases hv : isEdge edge with
    | false => exact Or.inl ⟨errorArg, edgeText, Or.inl rfl, rfl⟩
    | true =>
      by_cases hd : s.gpio.settings.direction = .dirIn
      · by_cases hr : s.gpio.settings.edge = edge
        · exact Or.inr (Or.inl ⟨hr, by simp [hd, hr]⟩)
        · refine Or.inr (Or.inr ⟨hr, ⟨hs.direction, hv, hs.bias, hs.drive, fun _ => hd⟩, ?_⟩)
          simp [hd, hr]
      · refine Or.inl ⟨errorInvalidOperation, lit "Invalid operation: cannot set edge on output GPIO",
          Or.inr rfl, ?_⟩
        simp [hd, fail]
  | setBias bias =>
    cases hask
    simp only [exec, gpioCdevSetBias, Call.Remembered]
    cases hv : isBias bias with
    | false => exact Or.inl ⟨errorArg, biasText, Or.inl rfl, rfl⟩
    | true =>
      by_cases hr : s.gpio.settings.bias = bias
      · exact Or.inr (Or.inl ⟨hr, by simp [hr]⟩)
      · refine Or.inr (Or.inr ⟨hr, ⟨hs.direction, hs.edge, hv, hs.drive, hs.edge_input⟩, ?_⟩)
        simp [hr]
  | setDrive drive =>
    cases hask
    simp only [exec, gpioCdevSetDrive, Call.Remembered]
    cases hv : isDrive drive with
    | false => exact Or.inl ⟨errorArg, driveText, Or.inl rfl, rfl⟩
    | true =>
      by_cases hd : s.gpio.settings.direction ≠ .dirOut ∧ drive ≠ .default
      · refine Or.inl ⟨errorInvalidOperation,
          lit "Invalid operation: cannot set line drive on input GPIO", Or.inr rfl, ?_⟩
        simp [hd, fail]
      · by_cases hr : s.gpio.settings.drive = drive
        · exact Or.inr (Or.inl ⟨hr, by simp [hd, hr]⟩)
        · refine Or.inr (Or.inr ⟨hr, ⟨hs.direction, hs.edge, hs.bias, hv, hs.edge_input⟩, ?_⟩)
          simp [hd, hr]
  | setInverted inverted =>
    cases hask
    simp only [exec, gpioCdevSetInverted, Call.Remembered]
    by_cases hr : s.gpio.settings.inverted = inverted
    · exact Or.inr (Or.inl ⟨hr, by simp [hr]⟩)
    · refine Or.inr (Or.inr ⟨hr, ⟨hs.direction, hs.edge, hs.bias, hs.drive, hs.edge_input⟩, ?_⟩)
      simp [hr]
  | read => cases hask
  | write value => cases hask
  | readEvent => cases hask
  | close => cases hask

end Setters

end DiscoveryDemo.Periphery.Gpio
